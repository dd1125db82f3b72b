import Handoff.Text.Split

/-!
The stretches that a list is cut into at its separators, and the list put together from them again.
-/

namespace Handoff.Text

section
variable {α : Type} {p : α → Bool} {x : α}

theorem splitAt_ne_nil (xs : List α) : splitAt p xs ≠ [] := by
  cases xs with
  | nil => exact nofun
  | cons x xs =>
    rw [splitAt, List.foldr_cons]
    split
    · exact nofun
    · split
      · exact nofun
      · exact nofun

theorem splitAt_cons_of_pos (h : p x = true) (xs : List α) : splitAt p (x :: xs) = [] :: splitAt p xs := by
  rw [splitAt, List.foldr_cons, if_pos h, ← splitAt]

theorem splitAt_cons_of_neg (h : p x = false) (xs : List α) :
    ∃ part parts, splitAt p xs = part :: parts ∧ splitAt p (x :: xs) = (x :: part) :: parts := by
  obtain ⟨part, parts, hsplit⟩ := List.exists_cons_of_ne_nil (splitAt_ne_nil (p := p) xs)
  refine ⟨part, parts, hsplit, ?_⟩
  rw [splitAt, List.foldr_cons, h, if_neg Bool.false_ne_true, ← splitAt, hsplit]

/-- The stretches hold no separator. -/
theorem splitAt_free {part xs : List α} (h : part ∈ splitAt p xs) : ∀ x ∈ part, p x = false := by
  induction xs generalizing part with
  | nil =>
    obtain rfl := List.mem_singleton.mp h
    exact fun x hx => absurd hx List.not_mem_nil
  | cons y xs ih =>
    by_cases hy : p y = true
    · rw [splitAt_cons_of_pos hy] at h
      rcases List.mem_cons.mp h with rfl | hrest
      · exact fun x hx => absurd hx List.not_mem_nil
      · exact ih hrest
    · have hfalse : p y = false := Bool.eq_false_iff.mpr hy
      obtain ⟨first, parts, hsplit, hcons⟩ := splitAt_cons_of_neg hfalse xs
      rw [hcons] at h
      rcases List.mem_cons.mp h with rfl | hrest
      · exact List.forall_mem_cons.mpr ⟨hfalse, ih (hsplit ▸ List.mem_cons_self)⟩
      · exact ih (hsplit ▸ List.mem_cons_of_mem first hrest)

theorem mem_of_mem_splitAt {part xs : List α} (h : part ∈ splitAt p xs) : ∀ x ∈ part, x ∈ xs := by
  induction xs generalizing part with
  | nil =>
    obtain rfl := List.mem_singleton.mp h
    exact fun x hx => absurd hx List.not_mem_nil
  | cons y xs ih =>
    have hlater {part : List α} (hmem : part ∈ splitAt p xs) : ∀ x ∈ part, x ∈ y :: xs :=
      fun x hx => List.mem_cons_of_mem y (ih hmem x hx)
    by_cases hy : p y = true
    · rw [splitAt_cons_of_pos hy] at h
      rcases List.mem_cons.mp h with rfl | hrest
      · exact fun x hx => absurd hx List.not_mem_nil
      · exact hlater hrest
    · obtain ⟨first, parts, hsplit, hcons⟩ := splitAt_cons_of_neg (Bool.eq_false_iff.mpr hy) xs
      rw [hcons] at h
      rcases List.mem_cons.mp h with rfl | hrest
      · exact List.forall_mem_cons.mpr ⟨List.mem_cons_self, hlater (hsplit ▸ List.mem_cons_self)⟩
      · exact hlater (hsplit ▸ List.mem_cons_of_mem first hrest)

theorem splitAt_of_free {xs : List α} (h : ∀ x ∈ xs, p x = false) : splitAt p xs = [xs] := by
  induction xs with
  | nil => rfl
  | cons x xs ih =>
    obtain ⟨hx, hxs⟩ := List.forall_mem_cons.mp h
    obtain ⟨part, parts, hsplit, hcons⟩ := splitAt_cons_of_neg hx xs
    obtain ⟨rfl, rfl⟩ := List.cons.inj (hsplit.symm.trans (ih hxs))
    exact hcons

theorem splitAt_append {xs : List α} (h : ∀ x ∈ xs, p x = false) (hx : p x = true) (ys : List α) :
    splitAt p (xs ++ x :: ys) = xs :: splitAt p ys := by
  induction xs with
  | nil => exact splitAt_cons_of_pos hx ys
  | cons y xs ih =>
    obtain ⟨hy, hxs⟩ := List.forall_mem_cons.mp h
    obtain ⟨part, parts, hsplit, hcons⟩ := splitAt_cons_of_neg hy (xs ++ x :: ys)
    obtain ⟨rfl, rfl⟩ := List.cons.inj (hsplit.symm.trans (ih hxs))
    exact hcons

/-- Each separator ends a stretch, whatever separators stand before it. -/
theorem splitAt_append_cons (hx : p x = true) (xs ys : List α) :
    splitAt p (xs ++ x :: ys) = splitAt p xs ++ splitAt p ys := by
  induction xs with
  | nil => exact splitAt_cons_of_pos hx ys
  | cons y xs ih =>
    by_cases hy : p y = true
    · rw [List.cons_append, splitAt_cons_of_pos hy, splitAt_cons_of_pos hy, ih, List.cons_append]
    · have hfalse : p y = false := Bool.eq_false_iff.mpr hy
      obtain ⟨part, parts, hsplit, hcons⟩ := splitAt_cons_of_neg hfalse xs
      obtain ⟨first, rest, hwhole, hconsWhole⟩ := splitAt_cons_of_neg hfalse (xs ++ x :: ys)
      have hjoined : first :: rest = part :: (parts ++ splitAt p ys) := by
        rw [← hwhole, ih, hsplit, List.cons_append]
      obtain ⟨rfl, rfl⟩ := List.cons.inj hjoined
      rw [List.cons_append, hconsWhole, hcons, List.cons_append]

theorem splitAt_map {β : Type} {q : β → Bool} (f : α → β) (h : ∀ x, q (f x) = p x) (xs : List α) :
    splitAt q (xs.map f) = (splitAt p xs).map (List.map f) := by
  induction xs with
  | nil => rfl
  | cons y xs ih =>
    by_cases hy : p y = true
    · rw [List.map_cons, splitAt_cons_of_pos ((h y).trans hy), splitAt_cons_of_pos hy, ih]
      rfl
    · have hfalse : p y = false := Bool.eq_false_iff.mpr hy
      obtain ⟨part, parts, hsplit, hcons⟩ := splitAt_cons_of_neg hfalse xs
      obtain ⟨first, rest, hwhole, hconsWhole⟩ := splitAt_cons_of_neg ((h y).trans hfalse) (xs.map f)
      have hmapped : first :: rest = part.map f :: parts.map (List.map f) := by
        rw [← hwhole, ih, hsplit, List.map_cons]
      obtain ⟨rfl, rfl⟩ := List.cons.inj hmapped
      rw [List.map_cons, hconsWhole, hcons]
      rfl

theorem forall_mem_intercalate {P : α → Prop} {parts : List (List α)} (hx : P x)
    (hparts : ∀ part ∈ parts, ∀ y ∈ part, P y) : ∀ y ∈ [x].intercalate parts, P y := by
  induction parts with
  | nil => exact fun y hy => absurd hy List.not_mem_nil
  | cons part parts ih =>
    obtain ⟨hpart, hrest⟩ := List.forall_mem_cons.mp hparts
    cases parts with
    | nil =>
      rw [List.intercalate_singleton]
      exact hpart
    | cons next parts =>
      rw [List.intercalate_cons_cons, List.append_assoc, List.forall_mem_append, List.forall_mem_append]
      exact ⟨hpart, List.forall_mem_singleton.mpr hx, ih hrest⟩

/-- A list has no separator, or a first one. -/
theorem separator_cases (p : α → Bool) (xs : List α) : (∀ x ∈ xs, p x = false) ∨
    ∃ before x behind, xs = before ++ x :: behind ∧ (∀ y ∈ before, p y = false) ∧ p x = true := by
  induction xs with
  | nil => exact Or.inl fun _ hx => absurd hx List.not_mem_nil
  | cons y xs ih =>
    cases hy : p y with
    | true => exact Or.inr ⟨[], y, xs, rfl, fun _ hx => absurd hx List.not_mem_nil, hy⟩
    | false =>
      rcases ih with hfree | ⟨before, x, behind, rfl, hbefore, hx⟩
      · exact Or.inl (List.forall_mem_cons.mpr ⟨hy, hfree⟩)
      · exact Or.inr ⟨y :: before, x, behind, rfl, List.forall_mem_cons.mpr ⟨hy, hbefore⟩, hx⟩

/-- What a list holds, it holds for the last time somewhere. -/
theorem exists_last_of_mem {xs : List α} (h : x ∈ xs) : ∃ front back, xs = front ++ x :: back ∧ x ∉ back := by
  obtain ⟨back, front, hreverse, hback⟩ := List.eq_append_cons_of_mem (List.mem_reverse.mpr h)
  refine ⟨front.reverse, back.reverse, ?_, fun hmem => hback (List.mem_reverse.mp hmem)⟩
  calc xs = xs.reverse.reverse := (List.reverse_reverse xs).symm
    _ = (back ++ x :: front).reverse := by rw [hreverse]
    _ = front.reverse ++ x :: back.reverse := by simp

/-- What is passed over ends where something is not passed. -/
theorem pass_append (xs ys : List α) (hxs : ∀ y ∈ xs, p y = true) (hys : ∀ y ∈ ys.head?, p y = false) :
    (xs ++ ys).takeWhile p = xs ∧ (xs ++ ys).dropWhile p = ys := by
  rw [List.takeWhile_append_of_pos hxs, List.dropWhile_append_of_pos hxs]
  cases ys with
  | nil => exact ⟨List.append_nil xs, rfl⟩
  | cons y ys =>
    have hstop : ¬ p y = true := Bool.eq_false_iff.mp (hys y rfl)
    rw [List.takeWhile_cons_of_neg hstop, List.dropWhile_cons_of_neg hstop]
    exact ⟨List.append_nil xs, rfl⟩

theorem cutAt_append {xs ys : List α} (hxs : ∀ y ∈ xs, p y = false) (hys : ∀ y ∈ ys.head?, p y = true) :
    cutAt p (xs ++ ys) = (xs, ys) := by
  obtain ⟨htake, hdrop⟩ := pass_append (p := fun y => !p y) xs ys
    (fun y hy => by rw [hxs y hy]; rfl) (fun y hy => by rw [hys y hy]; rfl)
  rw [cutAt, htake, hdrop]

end

section
variable {α : Type} [BEq α] [LawfulBEq α] {x : α} {xs : List α}

theorem beq_of_notMem (h : x ∉ xs) : ∀ y ∈ xs, (y == x) = false := by
  intro y hy
  rw [beq_eq_false_iff_ne]
  rintro rfl
  exact h hy

theorem splitAt_of_notMem (h : x ∉ xs) : splitAt (· == x) xs = [xs] := splitAt_of_free (beq_of_notMem h)

/-- Stretches put together with a separator are cut apart again. -/
theorem splitAt_intercalate {parts : List (List α)} (hparts : parts ≠ []) (hfree : ∀ part ∈ parts, x ∉ part) :
    splitAt (· == x) ([x].intercalate parts) = parts := by
  induction parts with
  | nil => exact absurd rfl hparts
  | cons part parts ih =>
    obtain ⟨hpart, hrest⟩ := List.forall_mem_cons.mp hfree
    cases parts with
    | nil =>
      rw [List.intercalate_singleton]
      exact splitAt_of_notMem hpart
    | cons next parts =>
      have hx : (x == x) = true := beq_self_eq_true x
      rw [List.intercalate_cons_cons, List.append_assoc, List.singleton_append,
        splitAt_append (beq_of_notMem hpart) hx, ih (List.cons_ne_nil _ _) hrest]

end

section
variable {α : Type} [DecidableEq α] {x : α} {xs : List α}

theorem splitOnce_of_notMem (h : x ∉ xs) : splitOnce x xs = (xs, none) := by
  have hpass : ∀ y ∈ xs, decide (y ≠ x) = true := fun y hy => decide_eq_true fun heq => h (heq ▸ hy)
  obtain ⟨_, hdrop⟩ := pass_append xs [] hpass nofun
  rw [List.append_nil] at hdrop
  rw [splitOnce, hdrop]

theorem splitOnce_append (h : x ∉ xs) (ys : List α) : splitOnce x (xs ++ x :: ys) = (xs, some ys) := by
  have hpass : ∀ y ∈ xs, decide (y ≠ x) = true := fun y hy => decide_eq_true fun heq => h (heq ▸ hy)
  have hstop : ∀ y ∈ (x :: ys).head?, decide (y ≠ x) = false := fun y hy => by simpa using hy.symm
  obtain ⟨htake, hdrop⟩ := pass_append xs (x :: ys) hpass hstop
  rw [splitOnce, hdrop, htake]

/-! From the end of a text, what stands behind the last mark is passed over. -/

theorem pass_reverse_of_notMem (h : x ∉ xs) : xs.reverse.dropWhile (fun y => decide (y ≠ x)) = [] := by
  have hpass : ∀ y ∈ xs.reverse, decide (y ≠ x) = true :=
    fun y hy => decide_eq_true fun heq => h (heq ▸ List.mem_reverse.mp hy)
  obtain ⟨_, hdrop⟩ := pass_append xs.reverse [] hpass nofun
  rwa [List.append_nil] at hdrop

theorem pass_reverse_append (h : x ∉ xs) (front : List α) :
    (front ++ x :: xs).reverse.takeWhile (fun y => decide (y ≠ x)) = xs.reverse ∧
      (front ++ x :: xs).reverse.dropWhile (fun y => decide (y ≠ x)) = x :: front.reverse := by
  have hpass : ∀ y ∈ xs.reverse, decide (y ≠ x) = true :=
    fun y hy => decide_eq_true fun heq => h (heq ▸ List.mem_reverse.mp hy)
  have hstop : ∀ y ∈ (x :: front.reverse).head?, decide (y ≠ x) = false := fun y hy => by simpa using hy.symm
  have hreverse : (front ++ x :: xs).reverse = xs.reverse ++ x :: front.reverse := by simp
  rw [hreverse]
  exact pass_append xs.reverse (x :: front.reverse) hpass hstop

/-- There is one way to cut a list at the last `x`. -/
theorem cut_last_inj {ys front other : List α} (hxs : x ∉ xs) (hys : x ∉ ys)
    (h : front ++ x :: xs = other ++ x :: ys) : front = other ∧ xs = ys := by
  have htail : xs.reverse = ys.reverse := by
    rw [← (pass_reverse_append hxs front).1, h, (pass_reverse_append hys other).1]
  obtain rfl := List.reverse_inj.mp htail
  exact ⟨List.append_cancel_right h, rfl⟩

end

end Handoff.Text
