/-!
Punycode: text beyond ASCII written with letters, digits and hyphens. The characters beyond ASCII are
added in the order of their code points, each as the distance from the one before, in a mixed base whose
digits adapt to the distances met.
-/

namespace Handoff.Url.Punycode

/-- The digit of a value below 36: a letter, then the ten figures. -/
def digit (n : Nat) : Char := if n < 26 then Char.ofNat (97 + n) else Char.ofNat (22 + n)

def value? (c : Char) : Option Nat :=
  if 'a' ≤ c ∧ c ≤ 'z' then some (c.toNat - 97)
  else if 'A' ≤ c ∧ c ≤ 'Z' then some (c.toNat - 65)
  else if '0' ≤ c ∧ c ≤ '9' then some (c.toNat - 22)
  else none

/-- The least value of a digit at position `k` that is followed by another digit. -/
def threshold (k bias : Nat) : Nat :=
  if k ≤ bias then 1 else if bias + 26 ≤ k then 26 else k - bias

theorem threshold_pos (k bias : Nat) : 1 ≤ threshold k bias := by
  unfold threshold; split <;> (try split) <;> omega

theorem threshold_le (k bias : Nat) : threshold k bias ≤ 26 := by
  unfold threshold; split <;> (try split) <;> omega

/-- Divides a distance until it is small, and counts the divisions in units of the base. -/
def shrink (delta k : Nat) : Nat × Nat :=
  if 455 < delta then shrink (delta / 35) (k + 36) else (delta, k)
termination_by delta
decreasing_by exact Nat.div_lt_self (by omega) (by omega)

/-- The bias for the digits after a distance, when `count` characters are there. -/
def adapt (delta count : Nat) (first : Bool) : Nat :=
  let delta := if first then delta / 700 else delta / 2
  let (delta, k) := shrink (delta + delta / count) 0
  k + 36 * delta / (delta + 38)

/-- The digits of a distance, from position `k` on. -/
def digits (bias k q : Nat) : List Char :=
  let t := threshold k bias
  if q < t then [digit q]
  else digit (t + (q - t) % (36 - t)) :: digits bias (k + 36) ((q - t) / (36 - t))
termination_by q
decreasing_by
  have h1 := threshold_pos k bias
  calc (q - threshold k bias) / (36 - threshold k bias)
      ≤ q - threshold k bias := Nat.div_le_self _ _
    _ < q := by omega

/-- A distance read from position `k` on, where a digit weighs `weight`, and the rest. -/
def distance? (bias k weight sum : Nat) : List Char → Option (Nat × List Char)
  | [] => none
  | c :: rest =>
    match value? c with
    | none => none
    | some v =>
      let t := threshold k bias
      if v < t then some (sum + v * weight, rest)
      else distance? bias (k + 36) (weight * (36 - t)) (sum + v * weight) rest

theorem distance?_length {bias k weight sum : Nat} {cs : List Char} {r : Nat × List Char}
    (h : distance? bias k weight sum cs = some r) : r.2.length < cs.length := by
  fun_induction distance? bias k weight sum cs with
  | case1 => simp at h
  | case2 => simp at h
  | case3 => simp only [Option.some.injEq] at h; subst h; simp
  | case4 _ _ _ _ _ _ _ _ _ ih => exact Nat.lt_succ_of_lt (ih h)

/-- Whether a number is the code point of a character. -/
def isScalar (n : Nat) : Bool := n < 0xD800 || (0xE000 ≤ n && n < 0x110000)

/-- Inserts the characters that distances stand for. `position` and `point` are where the last one
went and its code point. -/
def insertAll (position point bias : Nat) (out : List Char) (cs : List Char) : Option (List Char) :=
  if cs = [] then some out
  else match _h : distance? bias 36 1 0 cs with
    | none => none
    | some (delta, rest) =>
      let count := out.length + 1
      let position' := position + delta
      let point' := point + position' / count
      if isScalar point' then
        let at' := position' % count
        insertAll (at' + 1) point' (adapt delta count (position == 0))
          (out.take at' ++ Char.ofNat point' :: out.drop at') rest
      else none
termination_by cs.length
decreasing_by exact distance?_length _h

/-- The text before the last hyphen and the digits behind it. -/
def parts (cs : List Char) : List Char × List Char :=
  match cs.reverse.dropWhile (· ≠ '-') with
  | [] => ([], cs)
  | _ :: before => (before.reverse, (cs.reverse.takeWhile (· ≠ '-')).reverse)

def decode? (cs : List Char) : Option (List Char) :=
  let (basic, digits) := parts cs
  if basic.all (fun c => decide (c.toNat < 128)) then insertAll 0 128 72 basic digits else none

/-- The state of writing: the distance so far, the bias, the characters done, and the digits. -/
structure Writing where
  delta : Nat
  bias : Nat
  done : Nat
  out : List Char

/-- Passes one character of the text while those with the code point `point` are written. -/
def Writing.pass (basic point : Nat) (w : Writing) (c : Char) : Writing :=
  if c.toNat < point then { w with delta := w.delta + 1 }
  else if c.toNat = point then
    ⟨0, adapt w.delta (w.done + 1) (w.done == basic), w.done + 1, w.out ++ digits w.bias 36 w.delta⟩
  else w

/-- Writes the characters of each code point, in ascending order. -/
def writeAll (text : List Char) (basic : Nat) : List Nat → Nat → Writing → Writing
  | [], _, w => w
  | point :: points, next, w =>
    let w := text.foldl (Writing.pass basic point)
      { w with delta := w.delta + (point - next) * (w.done + 1) }
    writeAll text basic points (point + 1) { w with delta := w.delta + 1 }

def encode (text : List Char) : List Char :=
  let basic := text.filter (fun c => decide (c.toNat < 128))
  let beyond := (text.map Char.toNat).filter (fun n => decide (128 ≤ n))
  let points := (beyond.mergeSort (fun a b => decide (a ≤ b))).eraseDups
  let out := (writeAll text basic.length points 128 ⟨0, 72, basic.length, []⟩).out
  if basic = [] then out else basic ++ '-' :: out

end Handoff.Url.Punycode
