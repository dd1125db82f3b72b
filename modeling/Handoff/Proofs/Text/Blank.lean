import Handoff.Text.Blank
import Mathlib.Data.List.TakeWhile

/-!
What trimming leaves of a text: the part between the blanks at its ends. That part begins and ends with
characters that are not blank, and there is only one way to cut it out.
-/

namespace Handoff.Text

/-- A text of blanks only. -/
def IsBlankText (cs : List Char) : Prop := ∀ c ∈ cs, isBlank c = true

instance (cs : List Char) : Decidable (IsBlankText cs) :=
  decidable_of_iff (cs.all isBlank = true) List.all_eq_true

/-- A text that begins and ends with a character that is not blank. -/
structure IsCore (core : List Char) : Prop where
  ne_nil : core ≠ []
  head : ∀ c ∈ core.head?, isBlank c = false
  last : ∀ c ∈ core.getLast?, isBlank c = false

theorem IsCore.dropWhile_append {core : List Char} (h : IsCore core) (cs : List Char) :
    (core ++ cs).dropWhile isBlank = core ++ cs := by
  cases core with
  | nil => exact absurd rfl h.ne_nil
  | cons c core =>
    have hc : isBlank c = false := h.head c rfl
    rw [List.cons_append, List.dropWhile_cons_of_neg (by simp [hc])]

theorem IsCore.reverse {core : List Char} (h : IsCore core) : IsCore core.reverse where
  ne_nil := by simpa using h.ne_nil
  head := by simpa using h.last
  last := by simpa using h.head

/-- Blanks around a text are trimmed off, and nothing else. -/
theorem trim_around {before core after : List Char} (hbefore : IsBlankText before) (hcore : IsCore core)
    (hafter : IsBlankText after) : trim (before ++ core ++ after) = core := by
  have hreverse : ∀ c ∈ after.reverse, isBlank c = true := fun c hc => hafter c (List.mem_reverse.mp hc)
  have hback := hcore.reverse.dropWhile_append []
  rw [List.append_nil] at hback
  rw [trim, List.append_assoc, List.dropWhile_append_of_pos hbefore, hcore.dropWhile_append, dropEndWhile,
    List.reverse_append, List.dropWhile_append_of_pos hreverse, hback, List.reverse_reverse]

theorem trim_blank {cs : List Char} (h : IsBlankText cs) : trim cs = [] := by
  rw [trim, List.dropWhile_eq_nil_iff.mpr h]
  rfl

theorem head?_dropWhile {p : Char → Bool} (cs : List Char) : ∀ c ∈ (cs.dropWhile p).head?, p c = false := by
  intro c hc
  have hnot := List.head?_dropWhile_not p cs
  rw [Option.mem_def.mp hc] at hnot
  exact hnot

/-- Trimming cuts a text into blanks, what is left, and blanks. -/
theorem trim_cases (cs : List Char) :
    IsBlankText cs ∨ ∃ before after, IsBlankText before ∧ IsCore (trim cs) ∧ IsBlankText after ∧
      cs = before ++ trim cs ++ after := by
  have hblank {ds : List Char} : IsBlankText (ds.takeWhile isBlank) := fun _ hc => List.mem_takeWhile_imp hc
  rcases hfront : cs.dropWhile isBlank with _ | ⟨c, front⟩
  · exact Or.inl (List.dropWhile_eq_nil_iff.mp hfront)
  · right
    have hc : isBlank c = false := head?_dropWhile cs c (by rw [hfront]; rfl)
    have htrim : trim cs = ((c :: front).reverse.dropWhile isBlank).reverse := by
      rw [trim, hfront, dropEndWhile]
    have hcut : (c :: front) = trim cs ++ ((c :: front).reverse.takeWhile isBlank).reverse := by
      rw [htrim, ← List.reverse_append, List.takeWhile_append_dropWhile, List.reverse_reverse]
    -- The first character is not blank, so trimming from the end stops at it at the latest.
    have hne : trim cs ≠ [] := by
      intro hnil
      rw [htrim, List.reverse_eq_nil_iff, List.dropWhile_eq_nil_iff] at hnil
      have hblankFirst := hnil c (by simp)
      rw [hc] at hblankFirst
      cases hblankFirst
    refine ⟨cs.takeWhile isBlank, ((c :: front).reverse.takeWhile isBlank).reverse, hblank,
      ⟨hne, ?_, ?_⟩, ?_, ?_⟩
    · intro d hd
      obtain ⟨first, rest, hfirst⟩ := List.exists_cons_of_ne_nil hne
      rw [hfirst] at hd hcut
      obtain rfl : first = d := Option.some.inj hd
      rw [← (List.cons.inj hcut).1]
      exact hc
    · intro d hd
      rw [htrim, List.getLast?_reverse] at hd
      exact head?_dropWhile _ d hd
    · exact fun d hd => hblank d (List.mem_reverse.mp hd)
    · rw [List.append_assoc, ← hcut, ← hfront, List.takeWhile_append_dropWhile]

theorem trim_eq_nil_iff {cs : List Char} : trim cs = [] ↔ IsBlankText cs := by
  constructor
  · intro h
    rcases trim_cases cs with hblank | ⟨_, _, _, hcore, _⟩
    · exact hblank
    · exact absurd h hcore.ne_nil
  · exact trim_blank

end Handoff.Text
