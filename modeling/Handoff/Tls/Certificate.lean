import Handoff.Tls.Der

/-!
Certificates, as far as it takes to use one: what is signed, its public key, and the extensions that can
stop it from being used. Names, dates and signatures are not looked into.
-/

namespace Handoff.Tls

open Der

/-- What is signed, and the algorithm that signs it. -/
structure Signed where
  body : Bytes
  algorithm : Bytes
deriving DecidableEq, Repr

/-- The number of bytes that something signed falls short of. -/
def Signed.limit : Nat := 0xFFFF

def Signed.ofDer? (der : Bytes) : Option Signed :=
  match filling? sequenceTag der with
  | none => none
  | some content =>
    match elements? content with
    | some [body, algorithm, signature] =>
      if content.length < limit ∧ body.tag = sequenceTag ∧ algorithm.tag = sequenceTag
          ∧ signature.tag = bitStringTag ∧ (wholeBits? signature.content).isSome then
        some ⟨body.content, algorithm.content⟩
      else none
    | _ => none

/-- An extension of a certificate. One that is critical has to be understood. -/
structure Extension where
  id : Bytes
  isCritical : Bool
  value : Bytes
deriving DecidableEq, Repr

/-- Reads an extension; unless it says so it is not critical. -/
def Extension.ofElement? (e : Element) : Option Extension :=
  if e.tag ≠ sequenceTag then none
  else
    match elements? e.content with
    | some [id, value] =>
      if id.tag = objectTag ∧ value.tag = octetStringTag then some ⟨id.content, false, value.content⟩
      else none
    | some [id, critical, value] =>
      if id.tag = objectTag ∧ value.tag = octetStringTag then
        if critical = ⟨booleanTag, [0xFF]⟩ then some ⟨id.content, true, value.content⟩
        else if critical = ⟨booleanTag, [0x00]⟩ then some ⟨id.content, false, value.content⟩
        else none
      else none
    | _ => none

def keyUsage : UInt8 := 15

/-- The numbers of the extensions that are understood: the use of the key, other names of the owner,
whether it is an authority, the names it may certify, where revocations are told, and more uses of the
key. -/
def understood : List UInt8 := [keyUsage, 17, 19, 30, 31, 37]

def Extension.number? (e : Extension) : Option UInt8 :=
  match e.id with
  | [0x55, 0x1D, n] => if n ∈ understood then some n else none
  | _ => none

/-- Whether an extension does not stand in the way: if understood it is a sequence, or tells the use of the
key; else it is not critical. -/
def Extension.isHarmless (e : Extension) : Bool :=
  match e.number? with
  | some n => n == keyUsage || (filling? sequenceTag e.value).isSome
  | none => !e.isCritical

/-- Whether extensions do not stand in the way: none does, and none that is understood comes twice. -/
def areHarmless (es : List Extension) : Bool :=
  es.all Extension.isHarmless && decide (es.filterMap Extension.number?).Nodup

/-- Reads the extensions at the end of a certificate, if there are any. -/
def extensions? : List Element → Option (List Extension)
  | [] => some []
  | [e] => if e.tag = partTag 3 then (sequence? e.content).bind (·.mapM Extension.ofElement?) else none
  | _ => none

/-- A certificate: the public key that it is for, with its algorithm. -/
structure Certificate where
  publicKey : Bytes
deriving DecidableEq, Repr

/-- The version with extensions, as a part of a certificate. -/
def version3 : Element := ⟨partTag 0, writeNatural 2⟩

/-- Reads a certificate of the version with extensions. It names its algorithm twice, the same. -/
def Certificate.ofSigned? (s : Signed) : Option Certificate :=
  match elements? s.body with
  | some (version :: serial :: algorithm :: issuer :: validity :: subject :: key :: more) =>
    if version = version3 ∧ serial.tag = integerTag ∧ algorithm = ⟨sequenceTag, s.algorithm⟩
        ∧ [issuer, validity, subject, key].all (·.tag == sequenceTag)
        ∧ (extensions? more).any areHarmless then
      some ⟨key.content⟩
    else none
  | _ => none

def Certificate.ofDer? (der : Bytes) : Option Certificate :=
  (Signed.ofDer? der).bind ofSigned?

/-- Whether the body of a certificate has the form of the first version, without extensions. -/
def isFirstVersion (body : Bytes) : Bool :=
  match elements? body with
  | some [serial, algorithm, issuer, validity, subject, key] =>
    serial.tag == integerTag
      && [algorithm, issuer, validity, subject, key].all (·.tag == sequenceTag)
  | _ => false

/-- Whether a certificate can be that of an authority, which may be of the first version. -/
def isAuthority (der : Bytes) : Bool :=
  match Signed.ofDer? der with
  | some s => (Certificate.ofSigned? s).isSome || isFirstVersion s.body
  | none => false

end Handoff.Tls
