import Handoff.Tls.Key.Curve
import Handoff.Tls.Key.Ed25519
import Handoff.Tls.Key.Rsa
import Handoff.Tls.Pem

/-!
Private keys, and the public key of each: with its algorithm in front, as certificates give it.
-/

namespace Handoff.Tls.Key

open Der

def withAlgorithm (algorithm publicKey : Bytes) : Bytes :=
  Der.write sequenceTag algorithm ++ Der.write bitStringTag (0 :: publicKey)

/-- A private key of any algorithm: the algorithm, the key, and the public key if that is given too. -/
structure Wrapped where
  algorithm : Bytes
  key : Bytes
  publicKey : Option Bytes
deriving DecidableEq, Repr

/-- The public key at the end of a private key, in one of two forms. -/
def givenKey? (e : Element) : Option Bytes :=
  if e.tag = partTag 1 then (filling? bitStringTag e.content).bind wholeBits?
  else if e.tag = 0x81 then wholeBits? e.content
  else none

/-- Reads a private key of any algorithm. The second version, and only that, gives the public key.
Attributes are passed over. -/
def Wrapped.ofDer? (der : Bytes) : Option Wrapped :=
  match sequence? der with
  | some (version :: algorithm :: key :: more) =>
    let more := if (more.head?.map (·.tag)) = some (partTag 0) then more.drop 1 else more
    if algorithm.tag = sequenceTag ∧ key.tag = octetStringTag then
      match version.natural?, more with
      | some 0, [] => some ⟨algorithm.content, key.content, none⟩
      | some 1, [e] => (givenKey? e).map (fun given => ⟨algorithm.content, key.content, some given⟩)
      | _, _ => none
    else none
  | _ => none

/-- The public key of a private key of any algorithm. -/
def Wrapped.publicKey? (w : Wrapped) : Option Bytes :=
  if w.algorithm = Ed25519.algorithm then Ed25519.publicKey? w.key w.publicKey
  else if w.publicKey.isSome then none
  else if w.algorithm = rsaAlgorithm then rsaPublicKey? w.key
  else (curves.find? (·.algorithm = w.algorithm)).bind (·.publicKey? w.key)

/-- The public key of a private key, with its algorithm. A key on a curve that comes without its algorithm
is tried on each. -/
def publicKey? (kind : Pem.Kind) (der : Bytes) : Option Bytes :=
  match kind with
  | .pkcs8Key =>
    (Wrapped.ofDer? der).bind (fun w => w.publicKey?.map (withAlgorithm w.algorithm))
  | .sec1Key => curves.findSome? (fun c => (c.publicKey? der).map (withAlgorithm c.algorithm))
  | .pkcs1Key => (rsaPublicKey? der).map (withAlgorithm rsaAlgorithm)
  | .certificate | .other => none

end Handoff.Tls.Key
