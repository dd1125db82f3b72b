/-!
Functions that may give nothing, applied along a list.
-/

namespace Handoff

variable {α β : Type} {f : α → Option β}

theorem mapM_cons_eq_some {x : α} {xs : List α} {zs : List β} :
    (x :: xs).mapM f = some zs ↔ ∃ y ys, f x = some y ∧ xs.mapM f = some ys ∧ zs = y :: ys := by
  rw [List.mapM_cons]
  cases hx : f x with
  | none => simp
  | some y =>
    cases hxs : xs.mapM f with
    | none => simp
    | some ys => simp [eq_comm]

/-- All results are there if each of them is. -/
theorem mapM_eq_some_map {g : α → β} {xs : List α} (h : ∀ x ∈ xs, f x = some (g x)) :
    xs.mapM f = some (xs.map g) := by
  induction xs with
  | nil => rfl
  | cons x xs ih =>
    obtain ⟨hx, hxs⟩ := List.forall_mem_cons.mp h
    exact mapM_cons_eq_some.mpr ⟨g x, xs.map g, hx, ih hxs, rfl⟩

theorem exists_of_mem_mapM {xs : List α} {ys : List β} (h : xs.mapM f = some ys) :
    ∀ y ∈ ys, ∃ x ∈ xs, f x = some y := by
  induction xs generalizing ys with
  | nil =>
    obtain rfl := Option.some.inj h
    exact fun _ hy => absurd hy List.not_mem_nil
  | cons x xs ih =>
    obtain ⟨y, rest, hx, hxs, rfl⟩ := mapM_cons_eq_some.mp h
    rintro z hz
    rcases List.mem_cons.mp hz with rfl | hz
    · exact ⟨x, List.mem_cons_self, hx⟩
    · obtain ⟨w, hw, hfw⟩ := ih hxs z hz
      exact ⟨w, List.mem_cons_of_mem x hw, hfw⟩

/-- Nothing is there if one of the results is not. -/
theorem mapM_eq_none {x : α} {xs : List α} (hmem : x ∈ xs) (hx : f x = none) : xs.mapM f = none := by
  induction xs with
  | nil => exact absurd hmem List.not_mem_nil
  | cons y xs ih =>
    rw [Option.eq_none_iff_forall_not_mem]
    intro zs hzs
    obtain ⟨z, rest, hy, hxs, _⟩ := mapM_cons_eq_some.mp hzs
    rcases List.mem_cons.mp hmem with rfl | hmem
    · rw [hx] at hy
      cases hy
    · rw [ih hmem] at hxs
      cases hxs

end Handoff
