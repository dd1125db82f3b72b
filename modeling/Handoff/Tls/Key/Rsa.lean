import Handoff.Tls.Der

/-!
RSA keys: a modulus that is a product of two primes, and the numbers that go with it.
-/

namespace Handoff.Tls.Key

open Der

/-- The public part of an RSA key. -/
structure RsaPublic where
  modulus : Nat
  exponent : Nat
deriving DecidableEq, Repr

/-- An RSA key: its public part, the secret exponent, the two primes with the exponent for each, and the
inverse of the second modulo the first. -/
structure Rsa extends RsaPublic where
  secret : Nat
  first : Nat
  second : Nat
  firstExponent : Nat
  secondExponent : Nat
  inverse : Nat
deriving DecidableEq, Repr

def bitLength (n : Nat) : Nat := if n = 0 then 0 else n.log2 + 1

/-- Whether the public part is in use: an odd modulus of 256 to 512 bytes, and an odd exponent from 65537
on, of at most 33 bits. -/
def RsaPublic.isUsable (k : RsaPublic) : Bool :=
  decide (256 ≤ (bitLength k.modulus + 7) / 8) && decide (bitLength k.modulus ≤ 4096)
    && k.modulus % 2 == 1 && k.exponent % 2 == 1
    && decide (65537 ≤ k.exponent) && decide (bitLength k.exponent ≤ 33)

/-- Whether a number can be the exponent for a prime. -/
def isExponentFor (p n : Nat) : Bool := n % 2 == 1 && decide (n < p)

/-- Whether the numbers of a key go together. The primes have half the bits of the modulus, and a multiple
of 512. The exponents are not compared with each other. -/
def Rsa.isConsistent (k : Rsa) : Bool :=
  let half := (bitLength k.modulus + 1) / 2
  bitLength k.first == half && bitLength k.second == half && half % 512 == 0
    && k.first * k.second == k.modulus
    && decide (half < bitLength k.secret) && isExponentFor k.modulus k.secret
    && isExponentFor k.first k.firstExponent && isExponentFor k.second k.secondExponent
    && decide (k.inverse < k.first) && k.inverse * k.second % k.first == 1

/-- Reads an RSA key: a version that is zero, and its numbers. -/
def Rsa.ofDer? (der : Bytes) : Option Rsa :=
  match (sequence? der).bind (·.mapM Element.natural?) with
  | some [0, n, e, d, p, q, dp, dq, i] => some ⟨⟨n, e⟩, d, p, q, dp, dq, i⟩
  | _ => none

def RsaPublic.write (k : RsaPublic) : Bytes :=
  Der.write sequenceTag (writeNatural k.modulus ++ writeNatural k.exponent)

/-- The algorithm of RSA keys: its identifier, and no more. -/
def rsaAlgorithm : Bytes :=
  Der.write objectTag [0x2A, 0x86, 0x48, 0x86, 0xF7, 0x0D, 0x01, 0x01, 0x01] ++ Der.write nullTag []

/-- The public key in an RSA key, if that is in use. -/
def rsaPublicKey? (der : Bytes) : Option Bytes :=
  (Rsa.ofDer? der).bind (fun k =>
    if k.toRsaPublic.isUsable && k.isConsistent then some k.toRsaPublic.write else none)

end Handoff.Tls.Key
