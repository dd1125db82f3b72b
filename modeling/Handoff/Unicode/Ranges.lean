/-!
Sets of characters as ranges of code points.
-/

namespace Handoff.Unicode

abbrev Ranges := List (Nat × Nat)

/-- Whether a code point lies in one of some ranges. -/
def Ranges.contains (rs : Ranges) (n : Nat) : Bool := rs.any (fun r => decide (r.1 ≤ n ∧ n ≤ r.2))

end Handoff.Unicode
