import Handoff.Proofs.Text.Numeral
import Handoff.Proofs.Toml.Text
import Handoff.Toml.Reader

/-!
Numbers of a TOML document read back. A line that ends with a whole number is no date and no float.
-/

namespace Handoff.Toml

theorem digit?_of_isDigit {c : Char} (h : c.isDigit = true) : Text.digit? 10 c = some (c.toNat - 48) := by
  have hrange : 48 ≤ c.toNat ∧ c.toNat ≤ 57 := by
    simp only [Char.isDigit, Bool.and_eq_true, decide_eq_true_eq] at h
    exact h
  have hlow : '0' ≤ c := hrange.1
  have hhigh : c ≤ '9' := hrange.2
  rw [Text.digit?, Text.digitValue, if_pos ⟨hlow, hhigh⟩, Option.filter_some, if_pos (by simp; omega)]

theorem isDigit_of_isDigit {c : Char} (h : c.isDigit = true) : Text.isDigit 10 c = true := by
  rw [Text.isDigit, digit?_of_isDigit h]
  rfl

theorem isDigit_decimal {n : Nat} {c : Char} (h : c ∈ Text.decimal n) : c.isDigit = true :=
  Nat.isDigit_of_mem_toDigits (by decide) (by decide) h

theorem numeralOnto_eq {cs : List Char} (h : ∀ c ∈ cs, c.isDigit = true) (value : Nat) :
    Text.numeralOnto 10 value cs = Nat.ofDigitChars 10 cs value := by
  induction cs generalizing value with
  | nil => rfl
  | cons c cs ih =>
    have hc := digit?_of_isDigit (h c List.mem_cons_self)
    rw [Nat.ofDigitChars_cons, ← ih fun d hd => h d (List.mem_cons_of_mem c hd)]
    change Text.numeralOnto 10 (value * 10 + (Text.digit? 10 c).getD 0) cs = _
    rw [hc, Nat.mul_comm]
    rfl

theorem valueOf_decimal (n : Nat) : valueOf 10 (Text.decimal n) = n := by
  rw [valueOf, numeralOnto_eq fun _ => isDigit_decimal]
  exact Nat.ofDigitChars_ten_toDigits

theorem moreDigitsOnto_line (done : List Char) {ds : List Char} (h : ∀ c ∈ ds, c.isDigit = true)
    (rest : List Char) :
    moreDigitsOnto 10 done (ds ++ '\n' :: rest) = some (done.reverse ++ ds, '\n' :: rest) := by
  induction ds generalizing done with
  | nil =>
    rw [List.nil_append, List.append_nil]
    rfl
  | cons c ds ih =>
    have hdigit := h c List.mem_cons_self
    have hbar : c ≠ '_' := by
      rintro rfl
      exact absurd hdigit (by decide)
    rw [List.cons_append, moreDigitsOnto]
    · rw [if_pos (isDigit_of_isDigit hdigit), ih _ fun d hd => h d (List.mem_cons_of_mem c hd),
        reverse_cons_append]
    · exact fun _ _ heq => absurd heq hbar
    · exact fun heq => absurd heq hbar

theorem digits?_line {ds : List Char} (h : ∀ c ∈ ds, c.isDigit = true) (hne : ds ≠ []) (rest : List Char) :
    digits? 10 (ds ++ '\n' :: rest) = some (ds, '\n' :: rest) := by
  cases ds with
  | nil => exact absurd rfl hne
  | cons c ds =>
    rw [List.cons_append, digits?, if_pos (isDigit_of_isDigit (h c List.mem_cons_self)),
      moreDigitsOnto_line _ fun d hd => h d (List.mem_cons_of_mem c hd)]
    rfl

theorem wholeDigits?_decimal (n : Nat) (rest : List Char) :
    wholeDigits? (Text.decimal n ++ '\n' :: rest) = some (Text.decimal n, '\n' :: rest) := by
  cases n with
  | zero => rfl
  | succ n =>
    obtain ⟨c, cs, heq, hc⟩ := Text.decimal_head (Nat.succ_pos n)
    have hdigits : ∀ d ∈ c :: cs, d.isDigit = true := fun d hd => isDigit_decimal (heq ▸ hd)
    rw [heq, List.cons_append, wholeDigits?]
    · exact digits?_line hdigits (List.cons_ne_nil c cs) rest
    · exact fun _ h => absurd (List.cons.inj h).1 hc

/-! A number at the end of a line is not a date. -/

/-- A line that starts with digits, and holds nothing else. -/
def IsDigitLine (cs : List Char) : Prop :=
  ∃ ds rest, cs = ds ++ '\n' :: rest ∧ ∀ c ∈ ds, c.isDigit = true

theorem isDigit_of_numeral? {base n : Nat} {cs : List Char} (h : Text.numeral? base cs = some n) :
    ∀ c ∈ cs, Text.isDigit base c = true := by
  unfold Text.numeral? at h
  split at h
  · rename_i hall
    exact List.all_eq_true.mp hall.2
  · cases h

theorem field?_line {n low high v : Nat} {cs rest : List Char} (hline : IsDigitLine cs)
    (h : field? n low high cs = some (v, rest)) : IsDigitLine rest := by
  obtain ⟨ds, more, rfl, hds⟩ := hline
  unfold field? at h
  split at h
  · obtain ⟨_, hvalue, hrest⟩ := Option.map_eq_some_iff.mp h
    obtain ⟨_, rfl⟩ := Prod.mk.inj hrest
    have hall := isDigit_of_numeral? (Option.filter_eq_some_iff.mp hvalue).1
    -- A field does not go beyond the digits, as the line end is none.
    have hle : n ≤ ds.length := by
      rw [← Nat.not_lt]
      intro hlt
      have hmem : '\n' ∈ (ds ++ '\n' :: more).take n := by
        obtain ⟨k, hk⟩ := Nat.exists_eq_add_of_lt hlt
        rw [List.take_append, show n - ds.length = k + 1 by omega, List.take_succ_cons]
        exact List.mem_append_right _ List.mem_cons_self
      exact absurd (hall _ hmem) (by decide)
    refine ⟨ds.drop n, more, List.drop_append_of_le_length hle, fun c hc => ?_⟩
    exact hds c (List.mem_of_mem_drop hc)
  · cases h

theorem mark?_line {c : Char} {cs : List Char} (hline : IsDigitLine cs) (hdigit : c.isDigit = false)
    (hend : c ≠ '\n') : mark? c cs = none := by
  obtain ⟨ds, more, rfl, hds⟩ := hline
  cases ds with
  | nil => exact if_neg hend
  | cons d ds =>
    refine if_neg ?_
    rintro rfl
    rw [hds c List.mem_cons_self] at hdigit
    cases hdigit

theorem date?_line {cs : List Char} (hline : IsDigitLine cs) : date? cs = none := by
  unfold date?
  cases h : field? 4 0 9999 cs with
  | none => rfl
  | some found =>
    have hmark := mark?_line (field?_line hline h) (by decide : '-'.isDigit = false) (by decide)
    simp only [Option.bind_some, hmark, Option.bind_none]

theorem time?_line {cs : List Char} (hline : IsDigitLine cs) : time? cs = none := by
  unfold time?
  cases h : field? 2 0 23 cs with
  | none => rfl
  | some found =>
    have hmark := mark?_line (field?_line hline h) (by decide : ':'.isDigit = false) (by decide)
    simp only [Option.bind_some, hmark, Option.bind_none]

theorem datetime?_line {cs : List Char} (hline : IsDigitLine cs) : datetime? cs = none := by
  rw [datetime?, date?_line hline]
  exact time?_line hline

theorem isDigitLine_decimal (n : Nat) (rest : List Char) : IsDigitLine (Text.decimal n ++ '\n' :: rest) :=
  ⟨_, rest, rfl, fun _ => isDigit_decimal⟩

/-- The first character of a number, a digit, is no sign, and starts no word. -/
theorem decimal_starts (n : Nat) : ∃ c cs, Text.decimal n = c :: cs ∧ c.isDigit = true := by
  cases h : Text.decimal n with
  | nil => exact absurd h Nat.toDigits_ne_nil
  | cons c cs => exact ⟨c, cs, rfl, isDigit_decimal (h ▸ List.mem_cons_self)⟩

theorem ne_of_isDigit {c d : Char} (hc : c.isDigit = true) (hd : d.isDigit = false) : c ≠ d := by
  rintro rfl
  rw [hc] at hd
  cases hd

theorem sign_decimal (n : Nat) (rest : List Char) :
    sign (Text.decimal n ++ '\n' :: rest) = (false, Text.decimal n ++ '\n' :: rest) := by
  obtain ⟨c, cs, heq, hc⟩ := decimal_starts n
  rw [heq, List.cons_append, sign]
  · exact fun _ h => ne_of_isDigit hc (by decide) (List.cons.inj h).1
  · exact fun _ h => ne_of_isDigit hc (by decide) (List.cons.inj h).1

theorem real?_decimal (n : Nat) (rest : List Char) : real? (Text.decimal n ++ '\n' :: rest) = none := by
  unfold real?
  rw [sign_decimal]
  obtain ⟨c, cs, heq, hc⟩ := decimal_starts n
  have hwhole := wholeDigits?_decimal n rest
  simp only
  split
  · rename_i h
    rw [heq] at h
    exact absurd (List.cons.inj h).1 (ne_of_isDigit hc (by decide))
  · rename_i h
    rw [heq] at h
    exact absurd (List.cons.inj h).1 (ne_of_isDigit hc (by decide))
  · rw [hwhole]
    rfl

theorem decimal_ne_prefixed (n : Nat) (rest : List Char) {c : Char} (hc : c ≠ '\n') (more : List Char) :
    Text.decimal n ++ '\n' :: rest ≠ '0' :: c :: more := by
  intro h
  cases n with
  | zero => exact hc (List.cons.inj (List.cons.inj h).2).1.symm
  | succ n =>
    obtain ⟨d, cs, heq, hd⟩ := Text.decimal_head (Nat.succ_pos n)
    rw [heq] at h
    exact hd (List.cons.inj h).1

theorem integer64?_natural {n : Nat} (hn : n < Nat.pow 2 63) : integer64? (n : Int) = some (n : Int) := by
  unfold integer64?
  -- The bound is too large to be unfolded.
  generalize Nat.pow 2 63 = bound at hn
  have hhigh : (n : Int) < (bound : Int) := Int.ofNat_lt.mpr hn
  have hlow : -(bound : Int) ≤ (n : Int) := by omega
  exact if_pos ⟨hlow, hhigh⟩

theorem integer?_decimal {n : Nat} (hn : n < Nat.pow 2 63) (rest : List Char) :
    integer? (Text.decimal n ++ '\n' :: rest) = some ((n : Int), '\n' :: rest) := by
  have hfits := integer64?_natural hn
  unfold integer?
  -- What fits is known, and is not to be unfolded.
  generalize integer64? = fits at hfits ⊢
  dsimp only
  split
  · rename_i h
    exact absurd h (decimal_ne_prefixed n rest (by decide) _)
  · rename_i h
    exact absurd h (decimal_ne_prefixed n rest (by decide) _)
  · rename_i h
    exact absurd h (decimal_ne_prefixed n rest (by decide) _)
  · rw [sign_decimal]
    rw [wholeDigits?_decimal, Option.bind_some]
    dsimp only
    rw [if_neg Bool.false_ne_true, valueOf_decimal, hfits]
    rfl

theorem number?_decimal {n : Nat} (hn : n < Nat.pow 2 63) (rest : List Char) :
    number? (Text.decimal n ++ '\n' :: rest) = some (.integer n, '\n' :: rest) := by
  rw [number?, datetime?_line (isDigitLine_decimal n rest), real?_decimal, integer?_decimal hn]
  rfl

end Handoff.Toml
