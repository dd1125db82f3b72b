import Handoff.Text.Utf8

/-!
Cutting a text to a number of bytes without cutting a character. Positions in a text count its bytes in
UTF-8.
-/

namespace Handoff.Text

/-- Whether a character begins at a position, or the text ends there. -/
def isBoundary : List Char → Nat → Bool
  | _, 0 => true
  | [], _ + 1 => false
  | c :: cs, i + 1 => c.utf8Size ≤ i + 1 && isBoundary cs (i + 1 - c.utf8Size)

/-- Goes back from a position to a boundary, one byte at a time. Nothing if that leads below the start of the
text. -/
def backToBoundary? (cs : List Char) : Nat → Option Nat
  | 0 => if isBoundary cs 0 then some 0 else none
  | i + 1 => if isBoundary cs (i + 1) then some (i + 1) else backToBoundary? cs i

/-- What stands before a position, or the whole text if it ends there or earlier. Nothing if the position is
inside a character. -/
def cut? : List Char → Nat → Option (List Char)
  | _, 0 => some []
  | [], _ + 1 => some []
  | c :: cs, i + 1 => if c.utf8Size ≤ i + 1 then (cut? cs (i + 1 - c.utf8Size)).map (c :: ·) else none

/-- Cuts a text that is longer than `limit` bytes at the last boundary up to there. -/
def truncate? (limit : Nat) (cs : List Char) : Option (List Char) :=
  if limit < byteLength cs then (backToBoundary? cs limit).bind (cut? cs) else some cs

theorem isBoundary_zero (cs : List Char) : isBoundary cs 0 = true := by
  cases cs <;> rfl

/-- Going back ends at the last boundary, which may be the start of the text. -/
theorem backToBoundary?_spec (cs : List Char) (i : Nat) :
    ∃ stop, backToBoundary? cs i = some stop ∧ isBoundary cs stop = true ∧ stop ≤ i ∧
      ∀ j, stop < j → j ≤ i → isBoundary cs j = false := by
  induction i with
  | zero =>
    refine ⟨0, ?_, isBoundary_zero cs, Nat.le_refl 0, fun j hlow hhigh => absurd hhigh (Nat.not_le_of_lt hlow)⟩
    rw [backToBoundary?, if_pos (isBoundary_zero cs)]
  | succ i ih =>
    cases h : isBoundary cs (i + 1) with
    | true =>
      refine ⟨i + 1, ?_, h, Nat.le_refl _, fun j hlow hhigh => absurd hhigh (Nat.not_le_of_lt hlow)⟩
      rw [backToBoundary?, if_pos h]
    | false =>
      obtain ⟨stop, hstop, hboundary, hle, hnone⟩ := ih
      refine ⟨stop, ?_, hboundary, Nat.le_succ_of_le hle, ?_⟩
      · rw [backToBoundary?, h, if_neg Bool.false_ne_true, hstop]
      · intro j hlow hhigh
        rcases Nat.lt_or_eq_of_le hhigh with hlt | rfl
        · exact hnone j hlow (Nat.le_of_lt_succ hlt)
        · exact h

/-- A text can be cut at each of its boundaries. -/
theorem cut?_of_isBoundary {cs : List Char} {i : Nat} (h : isBoundary cs i = true) :
    ∃ start, cut? cs i = some start ∧ start <+: cs ∧ byteLength start = i := by
  induction cs generalizing i with
  | nil =>
    cases i with
    | zero => exact ⟨[], rfl, List.nil_prefix, rfl⟩
    | succ i => cases h
  | cons c cs ih =>
    cases i with
    | zero => exact ⟨[], rfl, List.nil_prefix, rfl⟩
    | succ i =>
      rw [isBoundary, Bool.and_eq_true, decide_eq_true_eq] at h
      obtain ⟨start, hcut, hprefix, hlength⟩ := ih h.2
      refine ⟨c :: start, ?_, List.cons_prefix_cons.mpr ⟨rfl, hprefix⟩, ?_⟩
      · rw [cut?, if_pos h.1, hcut]
        rfl
      · rw [byteLength_cons, hlength]
        omega

theorem truncate?_isSome (limit : Nat) (cs : List Char) : (truncate? limit cs).isSome = true := by
  unfold truncate?
  split
  · obtain ⟨stop, hstop, hboundary, _⟩ := backToBoundary?_spec cs limit
    obtain ⟨start, hcut, _⟩ := cut?_of_isBoundary hboundary
    rw [hstop, Option.bind_some, hcut]
    rfl
  · rfl

/-- The longest start of `cs`, in whole characters, of at most `limit` bytes in UTF-8. -/
def truncate (limit : Nat) (cs : List Char) : List Char := (truncate? limit cs).get (truncate?_isSome limit cs)

end Handoff.Text
