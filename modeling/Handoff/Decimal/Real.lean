import Handoff.Decimal.Shortest

/-!
Double-precision numbers with a sign, infinities among them, and what is no number.
-/

namespace Handoff.Decimal

/-- A floating-point number. -/
inductive Real
  | finite (negative : Bool) (x : Binary64)
  | infinite (negative : Bool)
  | notANumber
deriving DecidableEq, Repr

namespace Real

/-- The number nearest to `n · 10 ^ exponent`, which is infinite beyond the largest finite one. Powers of
ten far out decide the value without being computed. -/
def ofDecimal (negative : Bool) (n : Nat) (exponent : Int) : Real :=
  let top := exponent + ((toString n).length : Int)
  if n = 0 ∨ top < -400 then finite negative ⟨0, 0⟩
  else if 400 < top then infinite negative
  else
    let x := if 0 ≤ exponent then Binary64.ofRatio (n * Nat.pow 10 exponent.toNat) 1
      else Binary64.ofRatio n (Nat.pow 10 (-exponent).toNat)
    match x with
    | some x => finite negative x
    | none => infinite negative

/-- The place of a number among the kinds of numbers. -/
def rank : Real → Nat
  | infinite true => 0
  | finite _ _ => 1
  | infinite false => 2
  | notANumber => 3

/-- Compares two numbers. Zeros are equal whatever their sign, and what is no number comes last. -/
def order : Real → Real → Ordering
  | finite s x, finite t y =>
    let (a, b) := x.ratio
    let (c, d) := y.ratio
    compare (if s then -(a * d : Int) else a * d) (if t then -(c * b : Int) else c * b)
  | x, y => compare x.rank y.rank

def shown : Real → String
  | finite negative x => (if negative then "-" else "") ++ (shortest x).positional
  | infinite negative => if negative then "-inf" else "inf"
  | notANumber => "NaN"

end Real

end Handoff.Decimal
