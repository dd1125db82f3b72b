import Handoff.Tls.Digest
import Handoff.Tls.Residue

/-!
Keys on the curve `y² - x² = 1 + dx²y²` modulo `2²⁵⁵ - 19`. The secret is any 32 bytes: their digest tells
the multiple of the base point that is the public key.
-/

namespace Handoff.Tls.Key.Ed25519

open Der Residue

def prime : Nat := Nat.pow 2 255 - 19

def coefficient : Nat := quotient prime (prime - 121665) 121666

/-- A point of the curve. -/
structure Point where
  x : Nat
  y : Nat
deriving DecidableEq, Repr

def Point.zero : Point := ⟨0, 1⟩

def base : Point :=
  ⟨0x216936D3CD6E53FEC0A4E231FDD6DC5C692CC7609525A7B2C9562D608F25D51A, quotient prime 4 5⟩

def Point.add (p q : Point) : Point :=
  let t := coefficient * (p.x * q.x % prime) % prime * (p.y * q.y % prime) % prime
  ⟨quotient prime (p.x * q.y + p.y * q.x) (1 + t), quotient prime (p.y * q.y + p.x * q.x) (prime + 1 - t)⟩

def multiple (n : Nat) (p : Point) : Point :=
  if n = 0 then .zero
  else
    let double := multiple (n / 2) (p.add p)
    if n % 2 = 0 then double else p.add double
termination_by n
decreasing_by omega

/-- A point in 32 bytes, the last first: `y`, and the last bit of `x`. -/
def Point.write (p : Point) : Bytes := (toBigEndian 32 (p.y + Nat.pow 2 255 * (p.x % 2))).reverse

/-- The multiple that a secret stands for: of half its digest, with the three last bits clear and the first
bit fixed. -/
def scalar (secret : Bytes) : Nat :=
  Nat.pow 2 254 + bigEndian ((Digest.digest secret).take 32).reverse % Nat.pow 2 254 / 8 * 8

def algorithm : Bytes := Der.write objectTag [0x2B, 0x65, 0x70]

/-- The public key in a private key, which is a secret of 32 bytes. A public key that is given along with it
has to be the same. -/
def publicKey? (key : Bytes) (given : Option Bytes) : Option Bytes :=
  (filling? octetStringTag key).bind (fun secret =>
    if secret.length = 32 then
      let own := (multiple (scalar secret) base).write
      if given.all (· == own) then some own else none
    else none)

end Handoff.Tls.Key.Ed25519
