import Handoff.Proofs.Text.Split
import Handoff.Proofs.Unicode.Composites
import Handoff.Proofs.Unicode.Order

/-!
The composed form. Composing a text once more changes nothing, since what is composed comes apart into the
same letters and marks; and dots stay where they are, so each stretch between dots is composed by itself.
-/

namespace Handoff.Unicode

/-- Composes a text whose marks are in order, from its start. -/
def composeAll : List Char → List Char
  | [] => []
  | c :: rest => composeFrom ⟨c, [], combiningClass c⟩ rest

theorem compose_eq (cs : List Char) : compose cs = composeAll (orderMarks [] (cs.flatMap decompose)) := by
  unfold compose
  cases orderMarks [] (cs.flatMap decompose) with
  | nil => rfl
  | cons c rest => rfl

/-- What a character is composed to with the letter before it, unless a mark between them blocks it. -/
def Pending.composed? (p : Pending) (c : Char) : Option Nat :=
  if p.behind = [] ∨ p.lastClass < combiningClass c then whole? p.letter.toNat c.toNat else none

section
variable {p : Pending} {c : Char} {n : Nat}

theorem composeFrom_composed (h : p.composed? c = some n) (rest : List Char) :
    composeFrom p (c :: rest) = composeFrom { p with letter := Char.ofNat n } rest := by
  rw [composeFrom]
  rw [Pending.composed?] at h
  simp only [h]

theorem composeFrom_letter (h : p.composed? c = none) (hc : combiningClass c = 0) (rest : List Char) :
    composeFrom p (c :: rest) = p.letter :: p.behind.reverse ++ composeFrom ⟨c, [], 0⟩ rest := by
  rw [composeFrom]
  rw [Pending.composed?] at h
  simp only [h]
  rw [if_pos hc]

theorem composeFrom_mark (h : p.composed? c = none) (hc : combiningClass c ≠ 0) (rest : List Char) :
    composeFrom p (c :: rest) = composeFrom ⟨p.letter, c :: p.behind, combiningClass c⟩ rest := by
  rw [composeFrom]
  rw [Pending.composed?] at h
  simp only [h, hc, if_false]

theorem whole?_of_composed? (h : p.composed? c = some n) : whole? p.letter.toNat c.toNat = some n := by
  unfold Pending.composed? at h
  split at h
  · exact h
  · cases h

end

/-! Composing once more. -/

/-- A letter with marks in order behind it, and the rest of a text whose marks are in order. -/
structure Pending.Fits (p : Pending) (rest : List Char) : Prop where
  simple : ∀ c ∈ p.behind ++ rest, IsSimple c
  marks : ∀ c ∈ p.behind, combiningClass c ≠ 0 ∧ combiningClass c ≤ p.lastClass
  ordered : Ordered (if p.behind = [] then 0 else p.lastClass) rest

section
variable {p : Pending} {c : Char} {rest : List Char}

theorem flatMap_decompose_simple {cs : List Char} (h : ∀ c ∈ cs, IsSimple c) : cs.flatMap decompose = cs := by
  induction cs with
  | nil => rfl
  | cons c cs ih =>
    obtain ⟨hc, hcs⟩ := List.forall_mem_cons.mp h
    rw [List.flatMap_cons, decompose_simple hc, ih hcs]
    rfl

theorem Pending.Fits.composed (h : p.Fits (c :: rest)) (n : Nat)
    (hreaches : p.behind = [] ∨ p.lastClass < combiningClass c) :
    Pending.Fits { p with letter := Char.ofNat n } rest := by
  refine ⟨fun d hd => h.simple d ?_, h.marks, ?_⟩
  · rcases List.mem_append.mp hd with hbehind | hrest
    · exact List.mem_append_left _ hbehind
    · exact List.mem_append_right _ (List.mem_cons_of_mem c hrest)
  · apply h.ordered.2.mono
    split
    · exact Nat.zero_le _
    · rename_i hne
      exact Nat.le_of_lt (hreaches.resolve_left hne)

theorem Pending.Fits.letter (h : p.Fits (c :: rest)) : Pending.Fits ⟨c, [], 0⟩ rest := by
  refine ⟨fun d hd => h.simple d (List.mem_append_right _ (List.mem_cons_of_mem c hd)), nofun, ?_⟩
  exact h.ordered.2.mono (Nat.zero_le _)

theorem Pending.Fits.mark (h : p.Fits (c :: rest)) (hc : combiningClass c ≠ 0) :
    Pending.Fits ⟨p.letter, c :: p.behind, combiningClass c⟩ rest := by
  have hle := h.ordered.1 hc
  refine ⟨fun d hd => h.simple d ?_, List.forall_mem_cons.mpr ⟨⟨hc, Nat.le_refl _⟩, ?_⟩, ?_⟩
  · simp only [List.cons_append, List.mem_cons, List.mem_append] at hd ⊢
    rcases hd with rfl | hbehind | hrest
    · exact Or.inr (Or.inl rfl)
    · exact Or.inl hbehind
    · exact Or.inr (Or.inr hrest)
  · intro d hd
    have hne : p.behind ≠ [] := List.ne_nil_of_mem hd
    rw [if_neg hne] at hle
    exact ⟨(h.marks d hd).1, Nat.le_trans (h.marks d hd).2 hle⟩
  · exact h.ordered.2

/-- What is composed comes apart into what it was composed of, but for the order of marks. -/
theorem orderMarks_composeFrom (h : p.Fits rest) (waiting : List (Nat × Char)) :
    orderMarks waiting ((composeFrom p rest).flatMap decompose) =
      orderMarks waiting (decompose p.letter ++ (p.behind.reverse ++ rest)) := by
  -- The pending letter and its marks change with every step; that they fit the rest is what a step keeps.
  induction rest generalizing p waiting with
  | nil =>
    have hbehind : ∀ c ∈ p.behind.reverse, IsSimple c :=
      fun c hc => h.simple c (List.mem_append_left _ (List.mem_reverse.mp hc))
    rw [composeFrom, List.flatMap_cons, flatMap_decompose_simple hbehind, List.append_nil]
  | cons c rest ih =>
    have hc : IsSimple c := h.simple c (List.mem_append_right _ List.mem_cons_self)
    cases hcomposed : p.composed? c with
    | some n =>
      have hreaches : p.behind = [] ∨ p.lastClass < combiningClass c := by
        unfold Pending.composed? at hcomposed
        split at hcomposed
        · assumption
        · cases hcomposed
      -- The marks between the letter and the character are of lower classes, so it may stand before them.
      have hmove (waiting : List (Nat × Char)) : orderMarks waiting (c :: p.behind.reverse ++ rest) =
          orderMarks waiting (p.behind.reverse ++ c :: rest) := by
        apply orderMarks_move
        intro d hd
        have hmem := List.mem_reverse.mp hd
        obtain ⟨hmark, hle⟩ := h.marks d hmem
        exact ⟨hmark, Nat.lt_of_le_of_lt hle (hreaches.resolve_left (List.ne_nil_of_mem hmem))⟩
      rw [composeFrom_composed hcomposed, ih (h.composed n hreaches),
        decompose_whole (whole?_of_composed? hcomposed),
        List.append_assoc]
      exact orderMarks_append_congr hmove _ _
    | none =>
      by_cases hclass : combiningClass c = 0
      · have hbehind : ∀ d ∈ p.behind.reverse, IsSimple d :=
          fun d hd => h.simple d (List.mem_append_left _ (List.mem_reverse.mp hd))
        rw [composeFrom_letter hcomposed hclass, List.flatMap_append, List.flatMap_cons,
          flatMap_decompose_simple hbehind, ← List.append_assoc]
        apply orderMarks_append_congr
        intro waiting
        rw [ih h.letter, decompose_simple hc]
        rfl
      · rw [composeFrom_mark hcomposed hclass, ih (h.mark hclass), List.reverse_cons, List.append_assoc]
        rfl

/-- Composing a text once more changes nothing. -/
theorem compose_compose (cs : List Char) : compose (compose cs) = compose cs := by
  have hsimple : ∀ c ∈ orderMarks [] (cs.flatMap decompose), IsSimple c := by
    intro c hc
    rcases mem_orderMarks hc with ⟨x, hx, _⟩ | hmem
    · exact absurd hx List.not_mem_nil
    · obtain ⟨d, _, hd⟩ := List.mem_flatMap.mp hmem
      exact simple_decompose d c hd
  have hordered : Ordered 0 (orderMarks [] (cs.flatMap decompose)) := ordered_orderMarks areMarks_nil _
  have happart : orderMarks [] ((compose cs).flatMap decompose) = orderMarks [] (cs.flatMap decompose) := by
    rw [compose_eq cs]
    cases htext : orderMarks [] (cs.flatMap decompose) with
    | nil => simp [composeAll, orderMarks_nil, sorted]
    | cons c rest =>
      rw [htext] at hsimple hordered
      have hfits : Pending.Fits ⟨c, [], combiningClass c⟩ rest :=
        ⟨fun d hd => hsimple d (List.mem_cons_of_mem c hd), nofun, hordered.2.mono (Nat.zero_le _)⟩
      rw [composeAll, orderMarks_composeFrom hfits, decompose_simple (hsimple c List.mem_cons_self)]
      exact orderMarks_of_ordered hordered
  rw [compose_eq (compose cs), happart, ← compose_eq]

end

/-! Stretches between dots. -/

/-- A character that nothing is composed with behind it. -/
def IsInert (c : Char) : Prop := ∀ b, whole? c.toNat b = none

theorem isInert_of_mark {c : Char} (h : combiningClass c ≠ 0) : IsInert c := by
  intro b
  cases hwhole : whole? c.toNat b with
  | none => rfl
  | some n => exact absurd (whole?_first hwhole) h

theorem isInert_dot : IsInert '.' := by
  intro b
  cases hwhole : whole? '.'.toNat b with
  | none => rfl
  | some n => exact absurd rfl (parts?_sound (parts?_whole hwhole)).2.1

theorem composed?_dot (p : Pending) : p.composed? '.' = none := by
  cases hcomposed : p.composed? '.' with
  | none => rfl
  | some n => exact absurd rfl (parts?_sound (parts?_whole (whole?_of_composed? hcomposed))).2.2

theorem combiningClass_dot : combiningClass '.' = 0 := rfl

/-- Behind a character that nothing is composed with, a text is composed by itself. -/
theorem composeFrom_inert {letter : Char} (h : IsInert letter) (behind : List Char) (last : Nat)
    (cs : List Char) :
    composeFrom ⟨letter, behind, last⟩ cs = letter :: behind.reverse ++ composeAll cs := by
  induction cs generalizing letter behind last with
  | nil => simp [composeFrom, composeAll]
  | cons c rest ih =>
    have hnone : Pending.composed? ⟨letter, behind, last⟩ c = none := by
      unfold Pending.composed?
      rw [h]
      split <;> rfl
    by_cases hc : combiningClass c = 0
    · rw [composeFrom_letter hnone hc, composeAll, hc]
    · rw [composeFrom_mark hnone hc, ih h, composeAll, ih (isInert_of_mark hc), List.reverse_cons]
      simp

/-- A text of characters that are not composed, start anew and compose with nothing is composed already. -/
theorem compose_of_inert {cs : List Char} (hsimple : ∀ c ∈ cs, IsSimple c)
    (hclass : ∀ c ∈ cs, combiningClass c = 0) (hinert : ∀ c ∈ cs, IsInert c) : compose cs = cs := by
  have hsorted : sorted [] = [] := by simp [sorted]
  rw [compose_eq, flatMap_decompose_simple hsimple]
  clear hsimple
  induction cs with
  | nil =>
    rw [orderMarks_nil, hsorted]
    rfl
  | cons c cs ih =>
    obtain ⟨hc, hclasses⟩ := List.forall_mem_cons.mp hclass
    obtain ⟨hletter, hletters⟩ := List.forall_mem_cons.mp hinert
    rw [orderMarks_letter hc, hsorted, List.nil_append, composeAll, composeFrom_inert hletter,
      ih hclasses hletters]
    rfl

theorem composeFrom_append_dot (p : Pending) (cs rest : List Char) :
    composeFrom p (cs ++ '.' :: rest) = composeFrom p cs ++ '.' :: composeAll rest := by
  induction cs generalizing p with
  | nil =>
    rw [List.nil_append, composeFrom_letter (composed?_dot p) combiningClass_dot,
      composeFrom_inert isInert_dot]
    rfl
  | cons c cs ih =>
    rw [List.cons_append]
    cases hcomposed : p.composed? c with
    | some n => rw [composeFrom_composed hcomposed, composeFrom_composed hcomposed, ih]
    | none =>
      by_cases hc : combiningClass c = 0
      · rw [composeFrom_letter hcomposed hc, composeFrom_letter hcomposed hc, ih, List.append_assoc]
      · rw [composeFrom_mark hcomposed hc, composeFrom_mark hcomposed hc, ih]

theorem composeAll_append_dot (cs rest : List Char) :
    composeAll (cs ++ '.' :: rest) = composeAll cs ++ '.' :: composeAll rest := by
  cases cs with
  | nil => exact composeFrom_inert isInert_dot [] _ rest
  | cons c cs => exact composeFrom_append_dot _ cs rest

/-- What stands before a dot and behind it is composed by itself. -/
theorem compose_append_dot (cs rest : List Char) :
    compose (cs ++ '.' :: rest) = compose cs ++ '.' :: compose rest := by
  have hdot : decompose '.' = ['.'] := rfl
  rw [compose_eq, compose_eq, compose_eq, List.flatMap_append, List.flatMap_cons, hdot, List.singleton_append,
    orderMarks_append_letter combiningClass_dot, composeAll_append_dot]

section
variable {P : Nat → Prop} (hparts : ∀ n a b, parts? n = some (a, b) → P n → P a ∧ P b)
  (hwhole : ∀ a b n, whole? a b = some n → P a → P b → P n)
include hwhole

theorem forall_composeFrom {p : Pending} {cs : List Char} (hletter : P p.letter.toNat)
    (hbehind : ∀ c ∈ p.behind, P c.toNat) (hcs : ∀ c ∈ cs, P c.toNat) :
    ∀ c ∈ composeFrom p cs, P c.toNat := by
  induction cs generalizing p with
  | nil =>
    rw [composeFrom]
    exact List.forall_mem_cons.mpr ⟨hletter, fun c hc => hbehind c (List.mem_reverse.mp hc)⟩
  | cons c rest ih =>
    obtain ⟨hc, hrest⟩ := List.forall_mem_cons.mp hcs
    cases hcomposed : p.composed? c with
    | some n =>
      have hcomposite := whole?_of_composed? hcomposed
      rw [composeFrom_composed hcomposed]
      refine ih ?_ hbehind hrest
      rw [toNat_ofNat (whole?_sound hcomposite).1]
      exact hwhole _ _ n hcomposite hletter hc
    | none =>
      by_cases hclass : combiningClass c = 0
      · rw [composeFrom_letter hcomposed hclass]
        intro d hd
        rcases List.mem_append.mp hd with hfirst | hlast
        · rcases List.mem_cons.mp hfirst with rfl | hmem
          · exact hletter
          · exact hbehind d (List.mem_reverse.mp hmem)
        · exact ih hc (fun _ hx => absurd hx List.not_mem_nil) hrest d hlast
      · rw [composeFrom_mark hcomposed hclass]
        exact ih hletter (List.forall_mem_cons.mpr ⟨hc, hbehind⟩) hrest

include hparts

/-- What holds of composites exactly if it holds of their parts is kept by composing. -/
theorem forall_compose {cs : List Char} (h : ∀ c ∈ cs, P c.toNat) : ∀ c ∈ compose cs, P c.toNat := by
  have hordered : ∀ c ∈ orderMarks [] (cs.flatMap decompose), P c.toNat := by
    intro c hc
    rcases mem_orderMarks hc with ⟨x, hx, _⟩ | hmem
    · exact absurd hx List.not_mem_nil
    · obtain ⟨d, hd, hin⟩ := List.mem_flatMap.mp hmem
      exact forall_decompose hparts (h d hd) c hin
  rw [compose_eq]
  cases htext : orderMarks [] (cs.flatMap decompose) with
  | nil => exact fun _ hc => absurd hc List.not_mem_nil
  | cons c rest =>
    rw [htext] at hordered
    obtain ⟨hc, hrest⟩ := List.forall_mem_cons.mp hordered
    exact forall_composeFrom hwhole hc (fun _ hx => absurd hx List.not_mem_nil) hrest

end

theorem dot_notMem_compose {cs : List Char} (h : '.' ∉ cs) : '.' ∉ compose cs := by
  have hne (c : Char) : c ≠ '.' ↔ c.toNat ≠ 0x2E := by
    rw [Ne, Ne, ← Char.toNat_inj]
    rfl
  have hall : ∀ c ∈ compose cs, c.toNat ≠ 0x2E := by
    refine forall_compose (P := (· ≠ 0x2E)) ?_ ?_ ?_
    · exact fun n a b hparts _ => (parts?_sound hparts).2
    · intro a b n hwhole _ _
      have hhigh := (whole?_sound hwhole).2
      omega
    · exact fun c hc => (hne c).mp fun hdot => h (hdot ▸ hc)
  exact fun hmem => hall '.' hmem rfl

/-- The stretches between the dots of a composed text are the stretches of the text, composed. -/
theorem splitAt_compose (cs : List Char) :
    Text.splitAt (· == '.') (compose cs) = (Text.splitAt (· == '.') cs).map compose := by
  have hcomposed {cs : List Char} (h : ∀ c ∈ cs, (c == '.') = false) :
      ∀ c ∈ compose cs, (c == '.') = false := by
    have hdot : '.' ∉ cs := fun hmem => Bool.false_ne_true (h '.' hmem).symm
    exact Text.beq_of_notMem (dot_notMem_compose hdot)
  induction hlength : cs.length using Nat.strongRecOn generalizing cs with
  | ind n ih =>
    rcases Text.separator_cases (· == '.') cs with hfree | ⟨before, c, behind, rfl, hbefore, hc⟩
    · rw [Text.splitAt_of_free hfree, Text.splitAt_of_free (hcomposed hfree)]
      rfl
    · obtain rfl := beq_iff_eq.mp hc
      have hshorter : behind.length < n := by
        rw [← hlength, List.length_append, List.length_cons]
        omega
      rw [compose_append_dot, Text.splitAt_append hbefore rfl, Text.splitAt_append (hcomposed hbefore) rfl,
        ih _ hshorter behind rfl]
      rfl

/-- The stretches between the dots of a composed text are composed. -/
theorem compose_of_mem_splitAt {cs label : List Char} (h : label ∈ Text.splitAt (· == '.') (compose cs)) :
    compose label = label := by
  rw [splitAt_compose] at h
  obtain ⟨text, _, rfl⟩ := List.mem_map.mp h
  exact compose_compose text

end Handoff.Unicode
