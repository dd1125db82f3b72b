import Handoff.Proofs.Text.Split
import Handoff.Url.Punycode

/-!
Punycode reads back. The characters beyond ASCII are written in passes over the text, one for each code
point in ascending order; reading puts each of them where the pass met it. So after every step of writing,
what was written reads as the part of the text that has been passed, and every text is read back from what
it is written as.
-/

namespace Handoff.Url.Punycode

/-! Distances. -/

theorem value?_digit {n : Nat} (h : n < 36) : value? (digit n) = some n := by
  revert n
  decide

/-- The value of a distance from its first digit on. -/
theorem digits_value {t q : Nat} (h : t ≤ q) :
    t + (q - t) % (36 - t) + (q - t) / (36 - t) * (36 - t) = q := by
  have hdivision := Nat.mod_add_div' (q - t) (36 - t)
  omega

/-- A distance that is written is read, whatever stands behind it. -/
theorem distance?_digits (bias k weight sum q : Nat) (rest : List Char) :
    distance? bias k weight sum (digits bias k q ++ rest) = some (sum + q * weight, rest) := by
  have hlow := threshold_pos k bias
  have hhigh := threshold_le k bias
  induction q using Nat.strongRecOn generalizing k weight sum with
  | ind q ih =>
    rw [digits]
    split
    · rename_i hlast
      rw [List.singleton_append, distance?, value?_digit (by omega)]
      exact if_pos hlast
    · rename_i hmore
      have hmod : (q - threshold k bias) % (36 - threshold k bias) < 36 - threshold k bias :=
        Nat.mod_lt _ (by omega)
      have hsmaller : (q - threshold k bias) / (36 - threshold k bias) < q :=
        Nat.lt_of_le_of_lt (Nat.div_le_self _ _) (by omega)
      have hstep := ih _ hsmaller (k + 36) (weight * (36 - threshold k bias))
        (sum + (threshold k bias + (q - threshold k bias) % (36 - threshold k bias)) * weight)
        (threshold_pos _ _) (threshold_le _ _)
      rw [List.cons_append, distance?, value?_digit (by omega)]
      dsimp only
      rw [if_neg (by omega), hstep, Nat.mul_comm weight, ← Nat.mul_assoc, Nat.add_assoc, ← Nat.add_mul,
        digits_value (Nat.le_of_not_lt hmore)]

section
variable {P : Char → Prop}

theorem forall_mem_digits (hdigit : ∀ n < 36, P (digit n)) (bias k q : Nat) : ∀ c ∈ digits bias k q, P c := by
  have hlow := threshold_pos k bias
  have hhigh := threshold_le k bias
  induction q using Nat.strongRecOn generalizing k with
  | ind q ih =>
    rw [digits]
    split
    · rename_i hlast
      exact List.forall_mem_singleton.mpr (hdigit q (by omega))
    · have hmod : (q - threshold k bias) % (36 - threshold k bias) < 36 - threshold k bias :=
        Nat.mod_lt _ (by omega)
      have hsmaller : (q - threshold k bias) / (36 - threshold k bias) < q :=
        Nat.lt_of_le_of_lt (Nat.div_le_self _ _) (by omega)
      exact List.forall_mem_cons.mpr
        ⟨hdigit _ (by omega), ih _ hsmaller (k + 36) (threshold_pos _ _) (threshold_le _ _)⟩

end

theorem digits_ne_nil (bias k q : Nat) : digits bias k q ≠ [] := by
  rw [digits]
  split
  · exact List.cons_ne_nil _ _
  · exact List.cons_ne_nil _ _

/-- A large distance takes three digits at least. -/
theorem three_le_length_digits (bias k : Nat) {q : Nat} (h : 936 ≤ q) : 3 ≤ (digits bias k q).length := by
  have hlow := threshold_pos k bias
  have hhigh := threshold_le k bias
  have hquotient : 26 ≤ (q - threshold k bias) / (36 - threshold k bias) := by
    rw [Nat.le_div_iff_mul_le (by omega)]
    omega
  have hsecond := threshold_le (k + 36) bias
  rw [digits]
  rw [if_neg (by omega), List.length_cons, digits]
  rw [if_neg (by omega), List.length_cons]
  exact Nat.add_le_add_right (Nat.add_le_add_right (List.length_pos_iff.mpr (digits_ne_nil _ _ _)) 1) 1

/-! Reading one character. -/

theorem isScalar_toNat (c : Char) : isScalar c.toNat = true := by
  have hvalid : c.toNat < 0xD800 ∨ 0xDFFF < c.toNat ∧ c.toNat < 0x110000 := c.valid
  simp only [isScalar, Bool.or_eq_true, Bool.and_eq_true, decide_eq_true_eq]
  omega

/-- Reading puts the character where its distance points. `slot` is the place and `rounds` how many code
points further it lies. -/
theorem insertAll_digits {position point bias delta rounds slot : Nat} {out : List Char} {c : Char}
    (hdistance : position + delta = rounds * (out.length + 1) + slot) (hslot : slot ≤ out.length)
    (hpoint : point + rounds = c.toNat) (more : List Char) :
    insertAll position point bias out (digits bias 36 delta ++ more) =
      insertAll (slot + 1) c.toNat (adapt delta (out.length + 1) (position == 0))
        (out.take slot ++ c :: out.drop slot) more := by
  have hquotient : (position + delta) / (out.length + 1) = rounds := by
    rw [hdistance, Nat.add_comm, Nat.add_mul_div_right _ _ (Nat.succ_pos _),
      Nat.div_eq_of_lt (Nat.lt_succ_of_le hslot), Nat.zero_add]
  have hremainder : (position + delta) % (out.length + 1) = slot := by
    rw [hdistance, Nat.add_comm, Nat.add_mul_mod_self_right, Nat.mod_eq_of_lt (Nat.lt_succ_of_le hslot)]
  have hread := distance?_digits bias 36 1 0 delta more
  rw [Nat.mul_one, Nat.zero_add] at hread
  have hne : digits bias 36 delta ++ more ≠ [] := fun h => digits_ne_nil _ _ _ (List.append_eq_nil_iff.mp h).1
  rw [insertAll, if_neg hne]
  split
  · rename_i hnone
    rw [hread] at hnone
    cases hnone
  · rename_i hsome
    rw [hread] at hsome
    obtain ⟨rfl, rfl⟩ := Prod.mk.inj (Option.some.inj hsome)
    dsimp only
    rw [hquotient, hremainder, hpoint, if_pos (isScalar_toNat c), Char.ofNat_toNat]

/-! Writing in passes. -/

/-- What has been written of a text when the pass for a code point is behind `before` and has `after` to go. -/
def shown (point : Nat) (before after : List Char) : List Char :=
  before.filter (fun c => decide (c.toNat ≤ point)) ++ after.filter (fun c => decide (c.toNat < point))

/-- What was written reads as what has been passed. The last character read went before `position` and had
the code point `last`; the distance since then leads to where the pass is. -/
structure Writing.Reads (w : Writing) (basic before after : List Char) (point position last : Nat) : Prop where
  done : w.done = (shown point before after).length
  last_le : last ≤ point
  start : position = 0 ↔ w.done = basic.length
  delta : position + w.delta =
    (point - last) * (w.done + 1) + (before.filter (fun c => decide (c.toNat ≤ point))).length
  reads : ∀ more, insertAll 0 128 72 basic (w.out ++ more) =
    insertAll position last w.bias (shown point before after) more

def Writing.IsRead (w : Writing) (basic before after : List Char) (point : Nat) : Prop :=
  ∃ position last, w.Reads basic before after point position last

section
variable {w : Writing} {basic before after : List Char} {point : Nat}

/-- A character below the code point of the pass is there already, and the place moves behind it. -/
theorem Writing.IsRead.pass_below {c : Char} (h : w.IsRead basic before (c :: after) point)
    (hbelow : c.toNat < point) :
    Writing.IsRead { w with delta := w.delta + 1 } basic (before ++ [c]) after point := by
  obtain ⟨position, last, h⟩ := h
  have hshown : shown point (before ++ [c]) after = shown point before (c :: after) := by
    simp [shown, hbelow, Nat.le_of_lt hbelow]
  refine ⟨position, last, ⟨?_, h.last_le, h.start, ?_, ?_⟩⟩
  · rw [hshown]
    exact h.done
  · have hpassed : [c].filter (fun d => decide (d.toNat ≤ point)) = [c] := by simp [Nat.le_of_lt hbelow]
    rw [List.filter_append, List.length_append, hpassed]
    exact congrArg Nat.succ h.delta
  · rw [hshown]
    exact h.reads

/-- A character of the code point of the pass is written, and reading puts it behind what has been passed. -/
theorem Writing.IsRead.pass_equal {c : Char} (h : w.IsRead basic before (c :: after) c.toNat)
    (hbasic : basic.length ≤ w.done) :
    Writing.IsRead ⟨0, adapt w.delta (w.done + 1) (w.done == basic.length), w.done + 1,
      w.out ++ digits w.bias 36 w.delta⟩ basic (before ++ [c]) after c.toNat := by
  obtain ⟨position, last, h⟩ := h
  have hdone := h.done
  have hdelta := h.delta
  have hsplit : shown c.toNat before (c :: after) =
      before.filter (fun d => decide (d.toNat ≤ c.toNat)) ++
        after.filter (fun d => decide (d.toNat < c.toNat)) := by
    simp [shown]
  have hshown : shown c.toNat (before ++ [c]) after =
      before.filter (fun d => decide (d.toNat ≤ c.toNat)) ++ c ::
        after.filter (fun d => decide (d.toNat < c.toNat)) := by
    simp [shown]
  have hslot : (before.filter (fun d => decide (d.toNat ≤ c.toNat))).length ≤
      (shown c.toNat before (c :: after)).length := by
    rw [hsplit, List.length_append]
    exact Nat.le_add_right _ _
  have hfirst : (position == 0) = (w.done == basic.length) := by
    rw [Bool.eq_iff_iff, beq_iff_eq, beq_iff_eq]
    exact h.start
  refine ⟨(before.filter (fun d => decide (d.toNat ≤ c.toNat))).length + 1, c.toNat,
    ⟨?_, Nat.le_refl _, ?_, ?_, ?_⟩⟩
  · rw [hshown, List.length_append, List.length_cons]
    rw [hsplit, List.length_append] at hdone
    dsimp only
    omega
  · dsimp only
    omega
  · simp
  · intro more
    rw [List.append_assoc, h.reads,
      insertAll_digits (hdone ▸ hdelta) hslot (Nat.add_sub_cancel' h.last_le), ← hdone,
      hfirst, hsplit, hshown, List.take_left, List.drop_left]

/-- A character above the code point of the pass is not there yet. -/
theorem Writing.IsRead.pass_above {c : Char} (h : w.IsRead basic before (c :: after) point)
    (habove : point < c.toNat) :
    w.IsRead basic (before ++ [c]) after point := by
  obtain ⟨position, last, h⟩ := h
  have hshown : shown point (before ++ [c]) after = shown point before (c :: after) := by
    simp [shown, Nat.not_lt_of_gt habove, Nat.not_le_of_gt habove]
  refine ⟨position, last, ⟨?_, h.last_le, h.start, ?_, ?_⟩⟩
  · rw [hshown]
    exact h.done
  · simpa [Nat.not_le_of_gt habove] using h.delta
  · rw [hshown]
    exact h.reads

/-- Passing a character keeps what was written readable. -/
theorem Writing.IsRead.pass {c : Char} (h : w.IsRead basic before (c :: after) point)
    (hbasic : basic.length ≤ w.done) :
    (w.pass basic.length point c).IsRead basic (before ++ [c]) after point ∧
      basic.length ≤ (w.pass basic.length point c).done := by
  unfold Writing.pass
  rcases Nat.lt_trichotomy c.toNat point with hbelow | hequal | habove
  · rw [if_pos hbelow]
    exact ⟨h.pass_below hbelow, hbasic⟩
  · subst hequal
    rw [if_neg (Nat.lt_irrefl _), if_pos rfl]
    exact ⟨h.pass_equal hbasic, Nat.le_succ_of_le hbasic⟩
  · rw [if_neg (Nat.not_lt_of_gt habove), if_neg (Nat.ne_of_gt habove)]
    exact ⟨h.pass_above habove, hbasic⟩

/-- So does a pass over the text. -/
theorem Writing.IsRead.foldl_pass (h : w.IsRead basic before after point) (hbasic : basic.length ≤ w.done) :
    (after.foldl (Writing.pass basic.length point) w).IsRead basic (before ++ after) [] point ∧
      basic.length ≤ (after.foldl (Writing.pass basic.length point) w).done := by
  induction after generalizing w before with
  | nil => rw [List.append_nil]; exact ⟨h, hbasic⟩
  | cons c after ih =>
    obtain ⟨hread, hdone⟩ := h.pass hbasic
    rw [List.foldl_cons, List.append_cons]
    exact ih hread hdone

end

section
variable {w : Writing} {basic text : List Char} {next point : Nat}

/-- Writing moves on to the next code point of the text. -/
theorem Writing.IsRead.advance (h : w.IsRead basic [] text next) (hle : next ≤ point)
    (hgap : ∀ c ∈ text, c.toNat < next ∨ point ≤ c.toNat) :
    Writing.IsRead { w with delta := w.delta + (point - next) * (w.done + 1) } basic [] text point := by
  obtain ⟨position, last, h⟩ := h
  have hshown : shown point [] text = shown next [] text := by
    refine congrArg _ (List.filter_congr fun c hc => ?_)
    rcases hgap c hc with hbelow | habove
    · rw [decide_eq_true hbelow, decide_eq_true (Nat.lt_of_lt_of_le hbelow hle)]
    · rw [decide_eq_false (Nat.not_lt_of_le habove),
        decide_eq_false (Nat.not_lt_of_le (Nat.le_trans hle habove))]
  have hdelta := h.delta
  have hlast := h.last_le
  refine ⟨position, last, ⟨?_, Nat.le_trans hlast hle, h.start, ?_, ?_⟩⟩
  · rw [hshown]
    exact h.done
  · have hgaps : point - last = (next - last) + (point - next) := by omega
    simp only [List.filter_nil, List.length_nil, Nat.add_zero] at hdelta ⊢
    rw [hgaps, Nat.add_mul, ← hdelta, Nat.add_assoc]
  · rw [hshown]
    exact h.reads

/-- At the end of a pass writing goes back to the start of the text. -/
theorem Writing.IsRead.restart (h : w.IsRead basic text [] point) :
    Writing.IsRead { w with delta := w.delta + 1 } basic [] text (point + 1) := by
  obtain ⟨position, last, h⟩ := h
  have hshown : shown (point + 1) [] text = shown point text [] := by
    rw [shown, shown, List.filter_nil, List.filter_nil, List.nil_append, List.append_nil]
    refine List.filter_congr fun c _ => ?_
    rw [decide_eq_decide]
    exact Nat.lt_succ_iff
  have hdone := h.done
  have hdelta := h.delta
  have hlast := h.last_le
  refine ⟨position, last, ⟨?_, Nat.le_succ_of_le hlast, h.start, ?_, ?_⟩⟩
  · rw [hshown]
    exact hdone
  · rw [shown, List.filter_nil, List.append_nil] at hdone
    have hrounds : point + 1 - last = (point - last) + 1 := by omega
    rw [← hdone] at hdelta
    rw [List.filter_nil, List.length_nil, Nat.add_zero, hrounds, Nat.add_mul, Nat.one_mul]
    dsimp only
    omega
  · rw [hshown]
    exact h.reads

/-- What has been written after all passes reads as the whole text. -/
theorem writeAll_read {points : List Nat} (h : w.IsRead basic [] text next) (hbasic : basic.length ≤ w.done)
    (hascending : points.Pairwise (· < ·)) (hnext : ∀ p ∈ points, next ≤ p)
    (hpoints : ∀ c ∈ text, c.toNat < next ∨ c.toNat ∈ points) :
    insertAll 0 128 72 basic (writeAll text basic.length points next w).out = some text := by
  -- Before each pass all characters below `next` are written, and a pass raises `next` behind its code point.
  induction points generalizing w next with
  | nil =>
    obtain ⟨position, last, h⟩ := h
    have hall : shown next [] text = text := by
      rw [shown, List.filter_nil, List.nil_append, List.filter_eq_self]
      intro c hc
      rcases hpoints c hc with hbelow | hmem
      · exact decide_eq_true hbelow
      · exact absurd hmem List.not_mem_nil
    have hend : insertAll position last w.bias text [] = some text := by rw [insertAll, if_pos rfl]
    have hread := h.reads []
    rwa [List.append_nil, hall, hend] at hread
  | cons point points ih =>
    obtain ⟨hfirst, hrest⟩ := List.pairwise_cons.mp hascending
    have hgap : ∀ c ∈ text, c.toNat < next ∨ point ≤ c.toNat := by
      intro c hc
      rcases hpoints c hc with hbelow | hmem
      · exact Or.inl hbelow
      · rcases List.mem_cons.mp hmem with heq | hlater
        · exact Or.inr (Nat.le_of_eq heq.symm)
        · exact Or.inr (Nat.le_of_lt (hfirst _ hlater))
    obtain ⟨hpass, hdone⟩ := (h.advance (hnext point List.mem_cons_self) hgap).foldl_pass hbasic
    have hlater : ∀ c ∈ text, c.toNat < point + 1 ∨ c.toNat ∈ points := by
      intro c hc
      rcases hpoints c hc with hbelow | hmem
      · exact Or.inl (Nat.lt_succ_of_lt (Nat.lt_of_lt_of_le hbelow (hnext point List.mem_cons_self)))
      · rcases List.mem_cons.mp hmem with heq | hmem
        · exact Or.inl (Nat.lt_succ_of_le (Nat.le_of_eq heq))
        · exact Or.inr hmem
    exact ih hpass.restart hdone hrest hfirst hlater

end

/-! Texts. -/

/-- The code points beyond ASCII of a text. -/
def beyond (text : List Char) : List Nat := (text.map Char.toNat).filter (fun n => decide (128 ≤ n))

def points (text : List Char) : List Nat := ((beyond text).mergeSort (fun a b => decide (a ≤ b))).eraseDups

def basic (text : List Char) : List Char := text.filter (fun c => decide (c.toNat < 128))

/-- The digits behind the last hyphen. -/
def code (text : List Char) : List Char :=
  (writeAll text (basic text).length (points text) 128 ⟨0, 72, (basic text).length, []⟩).out

theorem encode_eq (text : List Char) :
    encode text = if basic text = [] then code text else basic text ++ '-' :: code text := rfl

theorem pairwise_eraseDups : ∀ ns : List Nat, ns.Pairwise (· ≤ ·) → ns.eraseDups.Pairwise (· < ·)
  | [], _ => List.Pairwise.nil
  | n :: ns, h => by
    obtain ⟨hfirst, hrest⟩ := List.pairwise_cons.mp h
    rw [List.eraseDups_cons]
    refine List.pairwise_cons.mpr ⟨?_, pairwise_eraseDups _ (hrest.filter _)⟩
    intro m hm
    obtain ⟨hmem, hne⟩ := List.mem_filter.mp (List.mem_eraseDups.mp hm)
    have hdistinct : m ≠ n := by simpa using hne
    exact Nat.lt_of_le_of_ne (hfirst m hmem) hdistinct.symm
termination_by ns => ns.length
decreasing_by exact Nat.lt_succ_of_le (List.length_filter_le _ _)

theorem mem_points {text : List Char} {n : Nat} : n ∈ points text ↔ n ∈ text.map Char.toNat ∧ 128 ≤ n := by
  rw [points, List.mem_eraseDups, List.mem_mergeSort, beyond, List.mem_filter, decide_eq_true_eq]

theorem points_ascending (text : List Char) : (points text).Pairwise (· < ·) := by
  have htrans (a b c : Nat) (hab : decide (a ≤ b) = true) (hbc : decide (b ≤ c) = true) :
      decide (a ≤ c) = true :=
    decide_eq_true (Nat.le_trans (of_decide_eq_true hab) (of_decide_eq_true hbc))
  have htotal (a b : Nat) : (decide (a ≤ b) || decide (b ≤ a)) = true := by
    simpa only [Bool.or_eq_true, decide_eq_true_eq] using Nat.le_total a b
  have hsorted := @List.pairwise_mergeSort _ (fun a b => decide (a ≤ b)) htrans htotal (beyond text)
  exact pairwise_eraseDups _ (hsorted.imp of_decide_eq_true)

/-- The digits of a text, put into its basic characters, read as the text. -/
theorem insertAll_code (text : List Char) : insertAll 0 128 72 (basic text) (code text) = some text := by
  have hshown : shown 128 [] text = basic text := by rw [shown, List.filter_nil, List.nil_append, basic]
  have hstart : Writing.IsRead ⟨0, 72, (basic text).length, []⟩ (basic text) [] text 128 := by
    refine ⟨0, 128, ⟨?_, Nat.le_refl _, ⟨fun _ => rfl, fun _ => rfl⟩, ?_, ?_⟩⟩
    · rw [hshown]
    · simp
    · rw [hshown]
      exact fun _ => rfl
  refine writeAll_read hstart (Nat.le_refl _) (points_ascending text) (fun p hp => (mem_points.mp hp).2) ?_
  intro c hc
  rcases Nat.lt_or_ge c.toNat 128 with hbelow | habove
  · exact Or.inl hbelow
  · exact Or.inr (mem_points.mpr ⟨List.mem_map_of_mem hc, habove⟩)

section
variable {P : Char → Prop}

theorem forall_mem_pass {basic point : Nat} {w : Writing} {c : Char} (hdigit : ∀ n < 36, P (digit n))
    (h : ∀ d ∈ w.out, P d) : ∀ d ∈ (w.pass basic point c).out, P d := by
  unfold Writing.pass
  split
  · exact h
  · split
    · exact fun d hd => (List.mem_append.mp hd).elim (h d) (forall_mem_digits hdigit _ _ _ d)
    · exact h

theorem forall_mem_writeAll {text : List Char} {basic next : Nat} {points : List Nat} {w : Writing}
    (hdigit : ∀ n < 36, P (digit n)) (h : ∀ d ∈ w.out, P d) :
    ∀ d ∈ (writeAll text basic points next w).out, P d := by
  have hpasses (point : Nat) (cs : List Char) (v : Writing) (hv : ∀ d ∈ v.out, P d) :
      ∀ d ∈ (cs.foldl (Writing.pass basic point) v).out, P d := by
    induction cs generalizing v with
    | nil => exact hv
    | cons c cs ih => exact ih _ (forall_mem_pass hdigit hv)
  induction points generalizing w next with
  | nil => exact h
  | cons point points ih => exact ih (hpasses _ _ _ h)

/-- The digits of a text are letters and figures. -/
theorem forall_mem_code (hdigit : ∀ n < 36, P (digit n)) (text : List Char) : ∀ d ∈ code text, P d :=
  forall_mem_writeAll hdigit fun _ hd => absurd hd List.not_mem_nil

theorem forall_mem_encode {text : List Char} (hbasic : ∀ c ∈ text, c.toNat < 128 → P c) (hhyphen : P '-')
    (hdigit : ∀ n < 36, P (digit n)) : ∀ c ∈ encode text, P c := by
  have hcode := forall_mem_code hdigit text
  rw [encode_eq]
  split
  · exact hcode
  · intro c hc
    rcases List.mem_append.mp hc with hc | hc
    · obtain ⟨hmem, hlow⟩ := List.mem_filter.mp hc
      exact hbasic c hmem (of_decide_eq_true hlow)
    · rcases List.mem_cons.mp hc with rfl | hc
      · exact hhyphen
      · exact hcode c hc

end

theorem hyphen_notMem_code (text : List Char) : '-' ∉ code text := by
  have hdigit : ∀ n < 36, digit n ≠ '-' := by decide
  exact fun h => forall_mem_code (P := (· ≠ '-')) hdigit text '-' h rfl

theorem parts_encode (text : List Char) : parts (encode text) = (basic text, code text) := by
  unfold parts
  by_cases hempty : basic text = []
  · rw [encode_eq, if_pos hempty, Text.pass_reverse_of_notMem (hyphen_notMem_code text), hempty]
  · obtain ⟨htake, hdrop⟩ := Text.pass_reverse_append (hyphen_notMem_code text) (basic text)
    rw [encode_eq, if_neg hempty, htake, hdrop]
    simp only [List.reverse_reverse]

/-- Every text is read back from its Punycode. -/
theorem decode?_encode (text : List Char) : decode? (encode text) = some text := by
  have hbasic : (basic text).all (fun c => decide (c.toNat < 128)) = true :=
    List.all_eq_true.mpr fun c hc => (List.mem_filter.mp hc).2
  rw [decode?, parts_encode]
  dsimp only
  rw [if_pos hbasic, insertAll_code]

/-! Texts whose code points lie far apart take much room: each distance counts once for every character
that is there already. -/

section
variable (w : Writing) (basic point : Nat)

theorem length_pass (c : Char) :
    w.out.length ≤ (w.pass basic point c).out.length ∧ w.done ≤ (w.pass basic point c).done := by
  unfold Writing.pass
  split
  · exact ⟨Nat.le_refl _, Nat.le_refl _⟩
  · split
    · exact ⟨by rw [List.length_append]; exact Nat.le_add_right _ _, Nat.le_succ _⟩
    · exact ⟨Nat.le_refl _, Nat.le_refl _⟩

theorem length_foldl_pass (cs : List Char) :
    w.out.length ≤ (cs.foldl (Writing.pass basic point) w).out.length ∧
      w.done ≤ (cs.foldl (Writing.pass basic point) w).done := by
  induction cs generalizing w with
  | nil => exact ⟨Nat.le_refl _, Nat.le_refl _⟩
  | cons c cs ih =>
    obtain ⟨hout, hdone⟩ := length_pass w basic point c
    exact ⟨Nat.le_trans hout (ih _).1, Nat.le_trans hdone (ih _).2⟩

/-- A pass writes the first character of its code point with the distance it starts from, or a larger one. -/
theorem length_foldl_pass_of_mem {cs : List Char} (h : point ∈ cs.map Char.toNat) :
    w.done < (cs.foldl (Writing.pass basic point) w).done ∧
      (936 ≤ w.delta → w.out.length + 3 ≤ (cs.foldl (Writing.pass basic point) w).out.length) := by
  induction cs generalizing w with
  | nil => exact absurd h List.not_mem_nil
  | cons c cs ih =>
    rw [List.foldl_cons]
    rcases Nat.lt_trichotomy c.toNat point with hbelow | hequal | habove
    · have hmem := (List.mem_cons.mp h).resolve_left (Nat.ne_of_gt hbelow)
      have hpass : w.pass basic point c = { w with delta := w.delta + 1 } := if_pos hbelow
      obtain ⟨hdone, hout⟩ := ih (w.pass basic point c) hmem
      rw [hpass] at hdone hout ⊢
      exact ⟨hdone, fun hdelta => hout (Nat.le_succ_of_le hdelta)⟩
    · have hpass : w.pass basic point c =
          ⟨0, adapt w.delta (w.done + 1) (w.done == basic), w.done + 1, w.out ++ digits w.bias 36 w.delta⟩ :=
        (if_neg (Nat.not_lt_of_le (Nat.le_of_eq hequal.symm))).trans (if_pos hequal)
      obtain ⟨hout, hdone⟩ := length_foldl_pass (w.pass basic point c) basic point cs
      rw [hpass] at hdone hout ⊢
      refine ⟨hdone, fun hdelta => Nat.le_trans ?_ hout⟩
      rw [List.length_append]
      exact Nat.add_le_add_left (three_le_length_digits _ _ hdelta) _
    · have hmem := (List.mem_cons.mp h).resolve_left (Nat.ne_of_lt habove)
      have hpass : w.pass basic point c = w :=
        (if_neg (Nat.not_lt_of_gt habove)).trans (if_neg (Nat.ne_of_gt habove))
      rw [hpass]
      exact ih w hmem

/-- The state when the characters of a code point are written. -/
def Writing.round (w : Writing) (text : List Char) (basic next point : Nat) : Writing :=
  let w := text.foldl (Writing.pass basic point) { w with delta := w.delta + (point - next) * (w.done + 1) }
  { w with delta := w.delta + 1 }

theorem length_round (next : Nat) {text : List Char} (h : point ∈ text.map Char.toNat) :
    w.done < (w.round text basic next point).done ∧
      w.out.length ≤ (w.round text basic next point).out.length ∧
      (936 ≤ (point - next) * (w.done + 1) →
        w.out.length + 3 ≤ (w.round text basic next point).out.length) := by
  let v : Writing := { w with delta := w.delta + (point - next) * (w.done + 1) }
  obtain ⟨hdone, hout⟩ := length_foldl_pass_of_mem v basic point h
  exact ⟨hdone, (length_foldl_pass v basic point text).1, fun hdelta => hout (Nat.le_add_left_of_le hdelta)⟩

/-- Code points with `gap` others between them take three digits each, once `few` characters are there. -/
theorem length_writeAll (gap few next : Nat) {text : List Char} {points : List Nat}
    (hgap : 936 ≤ gap * (few + 1)) (hpoints : ∀ p ∈ points, p ∈ text.map Char.toNat)
    (hnext : ∀ p ∈ points, next + gap ≤ p) (hapart : points.Pairwise (fun a b => a + 1 + gap ≤ b)) :
    w.out.length + 3 * points.length ≤
      (writeAll text basic points next w).out.length + 3 * (few - w.done) := by
  induction points generalizing w next with
  | nil => exact Nat.le_add_right _ _
  | cons point points ih =>
    obtain ⟨hbehind, hrest⟩ := List.pairwise_cons.mp hapart
    obtain ⟨hdone, hout, hthree⟩ := length_round w basic point next
      (hpoints point List.mem_cons_self)
    have hlater := ih (w.round text basic next point) _ (fun p hp => hpoints p (List.mem_cons_of_mem _ hp))
      hbehind hrest
    have hwrite : writeAll text basic (point :: points) next w =
        writeAll text basic points (point + 1) (w.round text basic next point) := rfl
    rw [hwrite, List.length_cons]
    by_cases hfew : few ≤ w.done
    · have hfar : gap ≤ point - next := Nat.le_sub_of_add_le' (hnext point List.mem_cons_self)
      have hlarge := hthree (Nat.le_trans hgap (Nat.mul_le_mul hfar (Nat.succ_le_succ hfew)))
      omega
    · omega

end

/-- Code points in ascending order are written in this order. -/
theorem points_of_ascending {text : List Char} (hbeyond : ∀ c ∈ text, 128 ≤ c.toNat)
    (hascending : (text.map Char.toNat).Pairwise (· < ·)) : points text = text.map Char.toNat := by
  have hperm : (points text).Perm (text.map Char.toNat) := by
    rw [List.perm_ext_iff_of_nodup ((points_ascending text).imp Nat.ne_of_lt) (hascending.imp Nat.ne_of_lt)]
    intro n
    rw [mem_points, and_iff_left_iff_imp]
    intro hn
    obtain ⟨c, hc, rfl⟩ := List.mem_map.mp hn
    exact hbeyond c hc
  exact hperm.eq_of_pairwise (fun a b _ _ hab hba => absurd hba (Nat.lt_asymm hab))
    (points_ascending text) hascending

/-- A text in ascending order, with `gap` code points between any two, takes three digits for each
character once `few` are there. -/
theorem length_encode (gap few : Nat) {text : List Char} (hgap : 936 ≤ gap * (few + 1))
    (hbeyond : ∀ c ∈ text, 128 + gap ≤ c.toNat)
    (hapart : (text.map Char.toNat).Pairwise (fun a b => a + 1 + gap ≤ b)) :
    3 * text.length ≤ (encode text).length + 3 * few := by
  have hbasic : basic text = [] := List.filter_eq_nil_iff.mpr fun c hc hlow => by
    have hhigh := hbeyond c hc
    have hlow' := of_decide_eq_true hlow
    omega
  have hpoints := points_of_ascending (fun c hc => Nat.le_of_add_right_le (hbeyond c hc))
    (hapart.imp fun h => by omega)
  have hlength := length_writeAll ⟨0, 72, (basic text).length, []⟩ (basic text).length gap few 128 hgap
    (fun p hp => (mem_points.mp hp).1)
    (fun p hp => by
      obtain ⟨c, hc, rfl⟩ := List.mem_map.mp (mem_points.mp hp).1
      exact hbeyond c hc)
    (hpoints ▸ hapart)
  have hcount : (points text).length = text.length := by rw [hpoints, List.length_map]
  rw [hcount, ← code, hbasic] at hlength
  rw [encode_eq, if_pos hbasic]
  simp only [List.length_nil] at hlength
  omega

end Handoff.Url.Punycode
