/-!
Cutting a list at separators.
-/

namespace Handoff.Text

/-- The stretches between the elements that satisfy `p`: one more than there are such elements. -/
def splitAt {α : Type} (p : α → Bool) (xs : List α) : List (List α) :=
  xs.foldr (fun x parts =>
    if p x then [] :: parts
    else match parts with
      | [] => [[x]]
      | part :: parts => (x :: part) :: parts) [[]]

/-- Cuts a list before the first element that satisfies `p`. -/
def cutAt {α : Type} (p : α → Bool) (xs : List α) : List α × List α :=
  (xs.takeWhile (fun x => !p x), xs.dropWhile (fun x => !p x))

/-- The elements before the first `x`, and those behind it if there is one. -/
def splitOnce {α : Type} [DecidableEq α] (x : α) (xs : List α) : List α × Option (List α) :=
  match xs.dropWhile (fun y => decide (y ≠ x)) with
  | [] => (xs, none)
  | _ :: rest => (xs.takeWhile (fun y => decide (y ≠ x)), some rest)

end Handoff.Text
