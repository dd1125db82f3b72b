import Handoff.Decimal.Binary64

/-!
The shortest decimal that reads back as a double: the fewest digits that round to it, and of those the
decimal nearest to its value. It is written positionally.
-/

namespace Handoff.Decimal

/-- The decimal `digits · 10 ^ exponent`. -/
structure Digits where
  digits : Nat
  exponent : Int
deriving DecidableEq, Repr

/-- The reals that round to a double, in quarters of a unit of its grid: from `low` to `high`, and
whether these belong to it. -/
def roundingRange (x : Binary64) : Nat × Nat × Bool :=
  let m := x.mantissa
  let low := if m = Nat.pow 2 52 ∧ -1074 < x.exponent then 4 * m - 1 else 4 * m - 2
  (low, 4 * m + 2, m % 2 == 0)

/-- The decimal nearest to a double among its two neighbours on the grid of `10 ^ p`, of those that
round to it. -/
def onGrid? (x : Binary64) (p : Int) : Option Digits :=
  let (low, high, closed) := roundingRange x
  let (num, den) := scaled 1 (x.exponent - 2)
  let (unit, part) : Nat × Nat := if 0 ≤ p then (Nat.pow 10 p.toNat, 1) else (1, Nat.pow 10 (-p).toNat)
  let value := 4 * x.mantissa * num * part
  let step := unit * den
  let below := value / step
  let fits (k : Nat) : Bool :=
    let k := k * step
    if closed then decide (low * num * part ≤ k ∧ k ≤ high * num * part)
    else decide (low * num * part < k ∧ k < high * num * part)
  let above := below + 1
  let nearer := if 2 * (value % step) ≤ step then below else above
  let farther := if 2 * (value % step) ≤ step then above else below
  if fits nearer ∧ nearer ≠ 0 then some ⟨nearer, p⟩
  else if fits farther ∧ farther ≠ 0 then some ⟨farther, p⟩
  else none

/-- The exponent of the leading digit of `num / den`, not below `-400`. -/
def leadingExponent (num den : Nat) : Int :=
  if den ≤ num then ((toString (num / den)).length : Int) - 1
  else
    match (List.range 400).find? (fun k => decide (den ≤ num * Nat.pow 10 (k + 1))) with
    | some k => -((k : Int) + 1)
    | none => -400

/-- The shortest decimal that reads back as a double. -/
def shortest (x : Binary64) : Digits :=
  if x.mantissa = 0 then ⟨0, 0⟩
  else
    let (num, den) := x.ratio
    let top := leadingExponent num den
    match (List.range 18).findSome? (fun k : Nat => onGrid? x (top + 1 - (k : Int))) with
    | some d => d
    | none => ⟨x.mantissa, x.exponent⟩

/-- A decimal without an exponent, with no zeros at its end behind the point. -/
def Digits.positional (d : Digits) : String :=
  let text := (toString d.digits).toList
  if 0 ≤ d.exponent then String.ofList (text ++ List.replicate d.exponent.toNat '0')
  else
    let places := (-d.exponent).toNat
    let text := List.replicate (places + 1 - text.length) '0' ++ text
    let whole := text.take (text.length - places)
    let fraction := ((text.drop (text.length - places)).reverse.dropWhile (· == '0')).reverse
    if fraction = [] then String.ofList whole else String.ofList (whole ++ '.' :: fraction)

end Handoff.Decimal
