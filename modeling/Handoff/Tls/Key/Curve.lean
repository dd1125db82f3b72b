import Handoff.Tls.Der
import Handoff.Tls.Residue

/-!
Keys on the curves `y² = x³ - 3x + b` modulo a prime. A private key is a number, and its public key is that
multiple of the base point.
-/

namespace Handoff.Tls.Key

open Der Residue

/-- A point of a curve: the one at infinity, or one with coordinates. -/
inductive Point
  | infinity
  | affine (x y : Nat)
deriving DecidableEq, Repr

/-- A curve: the identifier that names it, the number of bytes of a coordinate, the prime, the base point
and the order of that. -/
structure Curve where
  id : Bytes
  size : Nat
  prime : Nat
  base : Point
  order : Nat
deriving DecidableEq, Repr

def p256 : Curve where
  id := [0x2A, 0x86, 0x48, 0xCE, 0x3D, 0x03, 0x01, 0x07]
  size := 32
  prime := Nat.pow 2 256 - Nat.pow 2 224 + Nat.pow 2 192 + Nat.pow 2 96 - 1
  base := .affine 0x6B17D1F2E12C4247F8BCE6E563A440F277037D812DEB33A0F4A13945D898C296
    0x4FE342E2FE1A7F9B8EE7EB4A7C0F9E162BCE33576B315ECECBB6406837BF51F5
  order := 0xFFFFFFFF00000000FFFFFFFFFFFFFFFFBCE6FAADA7179E84F3B9CAC2FC632551

def p384 : Curve where
  id := [0x2B, 0x81, 0x04, 0x00, 0x22]
  size := 48
  prime := Nat.pow 2 384 - Nat.pow 2 128 - Nat.pow 2 96 + Nat.pow 2 32 - 1
  base := .affine
    0xAA87CA22BE8B05378EB1C71EF320AD746E1D3B628BA79B9859F741E082542A385502F25DBF55296C3A545E3872760AB7
    0x3617DE4A96262C6F5D9E98BF9292DC29F8F41DBD289A147CE9DA3113B5F0B8C00A60B1CE1D7E819D7A431D7C90EA0E5F
  order :=
    0xFFFFFFFFFFFFFFFFFFFFFFFFFFFFFFFFFFFFFFFFFFFFFFFFC7634D81F4372DDF581A0DB248B0A77AECEC196ACCC52973

def curves : List Curve := [p256, p384]

/-- The sum of two points: the line through them, or the tangent if they are one, meets the curve in a third
point, and the sum is opposite to that. -/
def Curve.add (c : Curve) : Point → Point → Point
  | .infinity, q => q
  | p, .infinity => p
  | .affine x y, .affine u v =>
    let m := c.prime
    if x = u ∧ (y + v) % m = 0 then .infinity
    else
      let slope := if x = u then quotient m (3 * (x * x + (m - 1))) (2 * y)
        else quotient m (minus m v y) (minus m u x)
      let z := minus m (slope * slope) (x + u)
      .affine z (minus m (slope * minus m x z) y)

def Curve.multiple (c : Curve) (n : Nat) (p : Point) : Point :=
  if n = 0 then .infinity
  else
    let double := c.multiple (n / 2) (c.add p p)
    if n % 2 = 0 then double else c.add p double
termination_by n
decreasing_by omega

/-- A point in bytes: a mark, and its coordinates one after the other. -/
def Curve.write (c : Curve) : Point → Bytes
  | .infinity => [0]
  | .affine x y => 4 :: toBigEndian c.size x ++ toBigEndian c.size y

/-- The algorithm of the keys on a curve: the identifier of such keys, and that of the curve. -/
def Curve.algorithm (c : Curve) : Bytes :=
  Der.write objectTag [0x2A, 0x86, 0x48, 0xCE, 0x3D, 0x02, 0x01] ++ Der.write objectTag c.id

/-- The public key of a secret, which is between zero and the order. -/
def Curve.publicOf? (c : Curve) (secret : Bytes) : Option Bytes :=
  let n := bigEndian secret
  if secret.length = c.size ∧ 0 < n ∧ n < c.order then some (c.write (c.multiple n c.base)) else none

/-- The public key in a private key on a curve, if it is the one of the secret. The private key may name its
curve. -/
def Curve.publicKey? (c : Curve) (der : Bytes) : Option Bytes :=
  match sequence? der with
  | some (version :: secret :: more) =>
    let more := if more.head? = some ⟨partTag 0, Der.write objectTag c.id⟩ then more.drop 1 else more
    match more with
    | [e] =>
      let point := (filling? bitStringTag e.content).bind wholeBits?
      if version.natural? = some 1 ∧ secret.tag = octetStringTag ∧ e.tag = partTag 1
          ∧ point.isSome ∧ c.publicOf? secret.content = point then
        point
      else none
    | _ => none
  | _ => none

end Handoff.Tls.Key
