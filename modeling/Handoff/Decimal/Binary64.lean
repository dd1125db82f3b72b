/-!
Non-negative double-precision numbers as a whole number times a power of two, and the rounding of a
quotient to the nearest of them.
-/

namespace Handoff.Decimal

/-- The number `mantissa · 2 ^ exponent`, with a mantissa of at most 53 bits. -/
structure Binary64 where
  mantissa : Nat
  exponent : Int
deriving DecidableEq, Repr

/-- The whole number nearest to a quotient; a half goes to the even neighbour. -/
def roundHalfEven (num den : Nat) : Nat :=
  let q := num / den
  let r := num % den
  if 2 * r < den then q
  else if den < 2 * r then q + 1
  else if q % 2 = 0 then q else q + 1

def scaled (n : Nat) (e : Int) : Nat × Nat :=
  if 0 ≤ e then (n * Nat.pow 2 e.toNat, 1) else (n, Nat.pow 2 (-e).toNat)

namespace Binary64

/-- The exponent of the finest grid on which a quotient has at most 53 bits, but no finer than the
subnormal grid. -/
def gridExponent (num den : Nat) : Int :=
  let guess : Int := (num.log2 : Int) - den.log2
  let (a, b) := scaled num (-guess)
  let top := if a < b * den then guess - 1 else guess
  max (top - 52) (-1074)

/-- The double nearest to `num / den`, unless that is beyond the largest finite one. -/
def ofRatio (num den : Nat) : Option Binary64 :=
  let e := gridExponent num den
  let (a, b) := scaled num (-e)
  let m := roundHalfEven a (b * den)
  let r : Binary64 := if m = Nat.pow 2 53 then ⟨Nat.pow 2 52, e + 1⟩ else ⟨m, e⟩
  if 971 < r.exponent then none else some r

def ratio (x : Binary64) : Nat × Nat := scaled x.mantissa x.exponent

def add (x y : Binary64) : Option Binary64 :=
  let (a, b) := x.ratio
  let (c, d) := y.ratio
  ofRatio (a * d + c * b) (b * d)

end Binary64

end Handoff.Decimal
