import Handoff.Unicode.Composition
import Mathlib.Data.List.Sort

/-!
The order of marks. Marks behind a letter are sorted by class, and those of one class keep their order, so
two marks of different classes may change places.
-/

namespace Handoff.Unicode

/-- Whether a mark may stand before another one as their classes are. -/
def inOrder (a b : Nat × Char) : Bool := decide (a.1 ≤ b.1)

/-- The marks of one class, in their order. -/
def ofClass (k : Nat) (marks : List (Nat × Char)) : List (Nat × Char) := marks.filter (fun x => x.1 == k)

theorem inOrder_trans (a b c : Nat × Char) (hab : inOrder a b = true) (hbc : inOrder b c = true) :
    inOrder a c = true := by
  simp only [inOrder, decide_eq_true_eq] at *
  omega

theorem inOrder_total (a b : Nat × Char) : (inOrder a b || inOrder b a) = true := by
  simp only [inOrder, Bool.or_eq_true, decide_eq_true_eq]
  omega

section
variable {marks others : List (Nat × Char)}

/-- Sorting keeps the marks of one class in their order. -/
theorem ofClass_mergeSort (k : Nat) (marks : List (Nat × Char)) :
    ofClass k (marks.mergeSort inOrder) = ofClass k marks := by
  have hequal : (ofClass k marks).Pairwise (fun a b => inOrder a b = true) := by
    apply List.pairwise_of_forall_mem_list
    intro a ha b hb
    have hk {x : Nat × Char} (hx : x ∈ ofClass k marks) : x.1 = k := by simpa using (List.mem_filter.mp hx).2
    rw [inOrder, hk ha, hk hb]
    exact decide_eq_true (Nat.le_refl k)
  have hsub : (ofClass k marks).Sublist (marks.mergeSort inOrder) :=
    List.sublist_mergeSort inOrder_trans inOrder_total hequal List.filter_sublist
  have hclass : ofClass k (ofClass k marks) = ofClass k marks := by
    rw [ofClass, ofClass, List.filter_filter]
    simp
  have hkept := hsub.filter (fun x => x.1 == k)
  rw [← ofClass, ← ofClass, hclass] at hkept
  have hlength : (ofClass k marks).length = (ofClass k (marks.mergeSort inOrder)).length :=
    ((List.mergeSort_perm marks inOrder).filter _).length_eq.symm
  exact (hkept.eq_of_length hlength).symm

theorem ofClass_append_congr {k : Nat} (h : ofClass k marks = ofClass k others) (behind : List (Nat × Char)) :
    ofClass k (marks ++ behind) = ofClass k (others ++ behind) := by
  simp only [ofClass, List.filter_append] at h ⊢
  rw [h]

/-- Marks in order are told by the marks of each class. -/
theorem eq_of_ofClass (hmarks : marks.Pairwise (fun a b => inOrder a b = true))
    (hothers : others.Pairwise (fun a b => inOrder a b = true)) (h : ∀ k, ofClass k marks = ofClass k others) :
    marks = others := by
  induction marks generalizing others with
  | nil =>
    cases others with
    | nil => rfl
    | cons x others =>
      have hx := h x.1
      simp [ofClass] at hx
  | cons x marks ih =>
    cases others with
    | nil =>
      have hx := h x.1
      simp [ofClass] at hx
    | cons y others =>
      obtain ⟨hx, hmarksRest⟩ := List.pairwise_cons.mp hmarks
      obtain ⟨hy, hothersRest⟩ := List.pairwise_cons.mp hothers
      -- Both begin with a mark of the lowest class.
      have hle : x.1 ≤ y.1 := by
        have hmem : y ∈ ofClass y.1 (x :: marks) := by
          rw [h]
          simp [ofClass]
        rcases List.mem_cons.mp (List.mem_filter.mp hmem).1 with rfl | hin
        · exact Nat.le_refl _
        · exact of_decide_eq_true (hx y hin)
      have hge : y.1 ≤ x.1 := by
        have hmem : x ∈ ofClass x.1 (y :: others) := by
          rw [← h]
          simp [ofClass]
        rcases List.mem_cons.mp (List.mem_filter.mp hmem).1 with rfl | hin
        · exact Nat.le_refl _
        · exact of_decide_eq_true (hy x hin)
      have hclass : x.1 = y.1 := Nat.le_antisymm hle hge
      have hhead := h x.1
      simp only [ofClass, List.filter_cons, beq_self_eq_true, if_true, hclass.symm] at hhead
      obtain ⟨rfl, _⟩ := List.cons.inj hhead
      refine congrArg (x :: ·) (ih hmarksRest hothersRest fun k => ?_)
      have hk := h k
      simp only [ofClass, List.filter_cons] at hk ⊢
      split at hk
      · exact List.tail_eq_of_cons_eq hk
      · exact hk

theorem mergeSort_eq (h : ∀ k, ofClass k marks = ofClass k others) :
    marks.mergeSort inOrder = others.mergeSort inOrder := by
  apply eq_of_ofClass
  · exact List.pairwise_mergeSort inOrder_trans inOrder_total marks
  · exact List.pairwise_mergeSort inOrder_trans inOrder_total others
  · intro k
    rw [ofClass_mergeSort, ofClass_mergeSort, h]

end

/-- The characters of marks, sorted. -/
def sorted (marks : List (Nat × Char)) : List Char := (marks.mergeSort inOrder).map (·.2)

section
variable {waiting others : List (Nat × Char)} {c d : Char}

theorem orderMarks_nil (waiting : List (Nat × Char)) : orderMarks waiting [] = sorted waiting := rfl

theorem orderMarks_letter (h : combiningClass c = 0) (waiting : List (Nat × Char)) (rest : List Char) :
    orderMarks waiting (c :: rest) = sorted waiting ++ c :: orderMarks [] rest := by
  rw [orderMarks]
  simp only [h, if_true]
  rfl

theorem orderMarks_mark (h : combiningClass c ≠ 0) (waiting : List (Nat × Char)) (rest : List Char) :
    orderMarks waiting (c :: rest) = orderMarks (waiting ++ [(combiningClass c, c)]) rest := by
  rw [orderMarks]
  simp only [h, if_false]

/-- What stands behind a letter is put in order by itself. -/
theorem orderMarks_append_letter (h : combiningClass c = 0) (waiting : List (Nat × Char))
    (cs rest : List Char) :
    orderMarks waiting (cs ++ c :: rest) = orderMarks waiting cs ++ c :: orderMarks [] rest := by
  induction cs generalizing waiting with
  | nil => rw [List.nil_append, orderMarks_letter h, orderMarks_nil]
  | cons d cs ih =>
    rw [List.cons_append]
    by_cases hd : combiningClass d = 0
    · rw [orderMarks_letter hd, orderMarks_letter hd, ih, List.append_assoc]
      rfl
    · rw [orderMarks_mark hd, orderMarks_mark hd, ih]

/-- What is waiting counts by class only. -/
theorem orderMarks_congr (h : ∀ k, ofClass k waiting = ofClass k others) (cs : List Char) :
    orderMarks waiting cs = orderMarks others cs := by
  have hsorted {waiting others : List (Nat × Char)} (h : ∀ k, ofClass k waiting = ofClass k others) :
      sorted waiting = sorted others := by rw [sorted, mergeSort_eq h, sorted]
  induction cs generalizing waiting others with
  | nil => exact hsorted h
  | cons c rest ih =>
    by_cases hc : combiningClass c = 0
    · rw [orderMarks_letter hc, orderMarks_letter hc, hsorted h]
    · rw [orderMarks_mark hc, orderMarks_mark hc]
      apply ih
      exact fun k => ofClass_append_congr (h k) _

/-- Texts that are put in order alike are so behind any text. -/
theorem orderMarks_append_congr {cs ds : List Char}
    (h : ∀ waiting, orderMarks waiting cs = orderMarks waiting ds) (before : List Char)
    (waiting : List (Nat × Char)) :
    orderMarks waiting (before ++ cs) = orderMarks waiting (before ++ ds) := by
  induction before generalizing waiting with
  | nil => exact h waiting
  | cons c before ih =>
    rw [List.cons_append, List.cons_append]
    by_cases hc : combiningClass c = 0
    · rw [orderMarks_letter hc, orderMarks_letter hc, ih]
    · rw [orderMarks_mark hc, orderMarks_mark hc, ih]

/-- Two marks of different classes may change places. -/
theorem orderMarks_swap (hc : combiningClass c ≠ 0) (hd : combiningClass d ≠ 0)
    (h : combiningClass c ≠ combiningClass d) (waiting : List (Nat × Char)) (rest : List Char) :
    orderMarks waiting (c :: d :: rest) = orderMarks waiting (d :: c :: rest) := by
  rw [orderMarks_mark hc, orderMarks_mark hd, orderMarks_mark hd, orderMarks_mark hc]
  apply orderMarks_congr
  intro k
  simp only [ofClass, List.append_assoc, List.filter_append, List.cons_append, List.nil_append,
    List.filter_cons, List.filter_nil, beq_iff_eq]
  split
  · rename_i hck
    rw [if_neg (by omega), if_neg (by omega)]
  · rfl

/-- A mark may be put before marks of lower classes. -/
theorem orderMarks_move {marks : List Char}
    (hmarks : ∀ d ∈ marks, combiningClass d ≠ 0 ∧ combiningClass d < combiningClass c)
    (waiting : List (Nat × Char)) (rest : List Char) :
    orderMarks waiting (c :: marks ++ rest) = orderMarks waiting (marks ++ c :: rest) := by
  induction marks generalizing waiting with
  | nil => rfl
  | cons d marks ih =>
    obtain ⟨⟨hd, hlt⟩, hrest⟩ := List.forall_mem_cons.mp hmarks
    rw [List.cons_append, List.cons_append, orderMarks_swap (by omega) hd (by omega), List.cons_append,
      orderMarks_mark hd, orderMarks_mark hd]
    exact ih hrest _

end

/-- Putting marks in order adds no character. -/
theorem mem_orderMarks {waiting : List (Nat × Char)} {cs : List Char} {d : Char}
    (h : d ∈ orderMarks waiting cs) : (∃ x ∈ waiting, x.2 = d) ∨ d ∈ cs := by
  have hsorted {waiting : List (Nat × Char)} (h : d ∈ sorted waiting) : ∃ x ∈ waiting, x.2 = d := by
    obtain ⟨x, hx, hd⟩ := List.mem_map.mp h
    exact ⟨x, (List.mergeSort_perm _ _).mem_iff.mp hx, hd⟩
  induction cs generalizing waiting with
  | nil => exact Or.inl (hsorted h)
  | cons c rest ih =>
    by_cases hc : combiningClass c = 0
    · rw [orderMarks_letter hc] at h
      rcases List.mem_append.mp h with hmarks | hbehind
      · exact Or.inl (hsorted hmarks)
      · rcases List.mem_cons.mp hbehind with rfl | hrest
        · exact Or.inr List.mem_cons_self
        · rcases ih hrest with ⟨x, hx, _⟩ | hmem
          · exact absurd hx List.not_mem_nil
          · exact Or.inr (List.mem_cons_of_mem c hmem)
    · rw [orderMarks_mark hc] at h
      rcases ih h with ⟨x, hx, hd⟩ | hmem
      · rcases List.mem_append.mp hx with hin | hin
        · exact Or.inl ⟨x, hin, hd⟩
        · obtain rfl := List.mem_singleton.mp hin
          exact Or.inr (hd ▸ List.mem_cons_self)
      · exact Or.inr (List.mem_cons_of_mem c hmem)

/-- A text whose marks are in order, if a mark of the class `last` stands before it. -/
def Ordered : Nat → List Char → Prop
  | _, [] => True
  | last, c :: rest => (combiningClass c ≠ 0 → last ≤ combiningClass c) ∧ Ordered (combiningClass c) rest

theorem Ordered.mono {last lower : Nat} {cs : List Char} (h : Ordered last cs) (hle : lower ≤ last) :
    Ordered lower cs := by
  cases cs with
  | nil => trivial
  | cons c rest => exact ⟨fun hc => Nat.le_trans hle (h.1 hc), h.2⟩

/-- The marks that wait, with their classes. -/
def AreMarks (waiting : List (Nat × Char)) : Prop := ∀ x ∈ waiting, x.1 = combiningClass x.2 ∧ x.1 ≠ 0

theorem areMarks_nil : AreMarks [] := fun _ hx => absurd hx List.not_mem_nil

theorem AreMarks.append_mark {waiting : List (Nat × Char)} (h : AreMarks waiting) {c : Char}
    (hc : combiningClass c ≠ 0) : AreMarks (waiting ++ [(combiningClass c, c)]) := by
  intro x hx
  rcases List.mem_append.mp hx with hwaiting | hlast
  · exact h x hwaiting
  · obtain rfl := List.mem_singleton.mp hlast
    exact ⟨rfl, hc⟩

theorem ordered_sorted_append {marks : List (Nat × Char)} (hmarks : AreMarks marks)
    (hsorted : marks.Pairwise (fun a b => inOrder a b = true)) {last : Nat} (hlast : ∀ x ∈ marks, last ≤ x.1)
    {rest : List Char} (hrest : ∀ k, Ordered k rest) : Ordered last (marks.map (·.2) ++ rest) := by
  induction marks generalizing last with
  | nil => exact hrest last
  | cons x marks ih =>
    obtain ⟨hx, hsorted⟩ := List.pairwise_cons.mp hsorted
    obtain ⟨hxMark, hmarks⟩ := List.forall_mem_cons.mp hmarks
    obtain ⟨hxLast, _⟩ := List.forall_mem_cons.mp hlast
    refine ⟨fun _ => hxMark.1 ▸ hxLast, ?_⟩
    rw [← hxMark.1]
    exact ih hmarks hsorted fun y hy => of_decide_eq_true (hx y hy)

/-- Putting marks in order leaves them in order. -/
theorem ordered_orderMarks {waiting : List (Nat × Char)} (h : AreMarks waiting) (cs : List Char) :
    Ordered 0 (orderMarks waiting cs) := by
  have hsorted {waiting : List (Nat × Char)} (h : AreMarks waiting) {rest : List Char}
      (hrest : ∀ k, Ordered k rest) : Ordered 0 (sorted waiting ++ rest) := by
    apply ordered_sorted_append
    · exact fun x hx => h x ((List.mergeSort_perm _ _).mem_iff.mp hx)
    · exact List.pairwise_mergeSort inOrder_trans inOrder_total waiting
    · exact fun _ _ => Nat.zero_le _
    · exact hrest
  induction cs generalizing waiting with
  | nil =>
    rw [orderMarks_nil, ← List.append_nil (sorted waiting)]
    exact hsorted h fun _ => trivial
  | cons c rest ih =>
    by_cases hc : combiningClass c = 0
    · rw [orderMarks_letter hc]
      apply hsorted h
      intro k
      have hrest : Ordered 0 (orderMarks [] rest) := ih areMarks_nil
      exact ⟨fun hne => absurd hc hne, hc ▸ hrest⟩
    · rw [orderMarks_mark hc]
      exact ih (h.append_mark hc)

theorem orderMarks_of_ordered_behind {waiting : List (Nat × Char)} {last : Nat} {cs : List Char}
    (hsorted : waiting.Pairwise (fun a b => inOrder a b = true)) (hwaiting : ∀ x ∈ waiting, x.1 ≤ last)
    (h : Ordered last cs) : orderMarks waiting cs = waiting.map (·.2) ++ cs := by
  have hkept {waiting : List (Nat × Char)} (hsorted : waiting.Pairwise (fun a b => inOrder a b = true)) :
      sorted waiting = waiting.map (·.2) := by rw [sorted, List.mergeSort_of_pairwise hsorted]
  -- What waits stays sorted, since no mark that comes next is of a lower class than the last one.
  induction cs generalizing waiting last with
  | nil => rw [orderMarks_nil, hkept hsorted, List.append_nil]
  | cons c rest ih =>
    obtain ⟨hlast, hrest⟩ := h
    by_cases hc : combiningClass c = 0
    · have hbehind : orderMarks [] rest = rest := ih .nil nofun hrest
      rw [orderMarks_letter hc, hkept hsorted, hbehind]
    · have hle (x : Nat × Char) (hx : x ∈ waiting) : x.1 ≤ combiningClass c :=
        Nat.le_trans (hwaiting x hx) (hlast hc)
      have hlonger : (waiting ++ [(combiningClass c, c)]).Pairwise (fun a b => inOrder a b = true) := by
        rw [List.pairwise_append]
        refine ⟨hsorted, List.pairwise_singleton _ _, ?_⟩
        intro x hx y hy
        obtain rfl := List.mem_singleton.mp hy
        exact decide_eq_true (hle x hx)
      have hupper : ∀ x ∈ waiting ++ [(combiningClass c, c)], x.1 ≤ combiningClass c := by
        intro x hx
        rcases List.mem_append.mp hx with hin | hin
        · exact hle x hin
        · obtain rfl := List.mem_singleton.mp hin
          exact Nat.le_refl _
      rw [orderMarks_mark hc, ih hlonger hupper hrest, List.map_append, List.append_assoc]
      rfl

/-- A text whose marks are in order is left as it is. -/
theorem orderMarks_of_ordered {cs : List Char} (h : Ordered 0 cs) : orderMarks [] cs = cs :=
  orderMarks_of_ordered_behind .nil nofun h

end Handoff.Unicode
