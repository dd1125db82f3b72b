/-!
Arithmetic modulo a number.
-/

namespace Handoff.Tls.Residue

def power (m b e : Nat) : Nat :=
  if e = 0 then 1 % m
  else
    let half := power m (b * b % m) (e / 2)
    if e % 2 = 0 then half else b * half % m
termination_by e
decreasing_by omega

def minus (m a b : Nat) : Nat := (a + (m - b % m)) % m

/-- A quotient modulo a prime `m`: the power `m - 2` of the divisor is its inverse. -/
def quotient (m a b : Nat) : Nat := a * power m (b % m) (m - 2) % m

end Handoff.Tls.Residue
