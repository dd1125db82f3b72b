import Handoff.Config.Basic
import Handoff.FileSystem.Basic
import Handoff.Log.Entry
import Handoff.Tls.Certificate
import Handoff.Tls.Key
import Handoff.Upload.Error

/-!
The TLS material of a client: a bundle of authorities, and a certificate with its key. The key file is
read behind the certificate file, as if both were one.
-/

namespace Handoff.Tls

/-- A certificate chain with its key. -/
structure Identity where
  certificates : List Bytes
  keyKind : Pem.Kind
  key : Bytes
deriving DecidableEq, Repr

/-- The identity in a file: all its certificates and its last key. Blocks of other kinds are not allowed. -/
def Identity.ofPem? (bs : Bytes) : Option Identity :=
  match Pem.items? bs with
  | none => none
  | some items =>
    let certificates := items.filterMap (fun (kind, der) => if kind = .certificate then some der else none)
    let keys := items.filter (fun (kind, _) => kind ≠ .certificate ∧ kind ≠ .other)
    match keys.getLast? with
    | some (kind, der) =>
      if items.any (·.1 = .other) ∨ certificates = [] then none else some ⟨certificates, kind, der⟩
    | none => none

/-- Whether the key is in use and the first certificate is for it. -/
def Identity.isUsable (i : Identity) : Bool :=
  match i.certificates with
  | [] => false
  | der :: _ =>
    match Certificate.ofDer? der, Key.publicKey? i.keyKind i.key with
    | some certificate, some key => certificate.publicKey == key
    | _, _ => false

/-- Whether a file can serve as a bundle of authorities. A file without certificates can. -/
def isBundle (bs : Bytes) : Bool :=
  match Pem.items? bs with
  | none => false
  | some items => items.all (fun (kind, der) => kind != .certificate || isAuthority der)

/-- The certificate and key that a client has to show: only if both are set. -/
def identityPaths? (s : TransmitSection) : Option (Path × Path) :=
  match s.clientCertPath, s.clientKeyPath with
  | some cert, some key => some (cert, key)
  | _, _ => none

def loadedEntry (what : String) (path : Path) : Log.Entry :=
  ⟨.debug, .upload, "Loaded " ++ what, [("path", .text path.shown)]⟩

def load (fs : FileSystem) (path : Path) : Except Upload.Error Bytes :=
  match fs.read path with
  | .ok bs => .ok bs
  | .error cause => .error (.tlsMaterial path cause)

/-- The bytes of the identity that a client has to show. -/
def loadIdentity (fs : FileSystem) (paths : Path × Path) : Except Upload.Error Bytes :=
  match load fs paths.1 with
  | .error e => .error e
  | .ok cert =>
    match load fs paths.2 with
    | .error e => .error e
    | .ok key => .ok (cert ++ 0x0A :: key)

/-- Reads the bundle of authorities, if one is set. -/
def loadBundle (fs : FileSystem) (s : TransmitSection) : Except Upload.Error (Option Bytes) :=
  match s.caCertPath with
  | none => .ok none
  | some path => (load fs path).map some

/-- Sets a client up, and tells what was loaded. Every file is read before anything is made of the
certificates. -/
def setUp (fs : FileSystem) (s : TransmitSection) : Except Upload.Error Unit × List Log.Entry :=
  match loadBundle fs s with
  | .error e => (.error e, [])
  | .ok bundle =>
    let told := (s.caCertPath.map (loadedEntry "aggregator CA bundle")).toList
    let bundleUsable := match bundle with
      | some bs => isBundle bs
      | none => true
    match identityPaths? s with
    | none => (if bundleUsable then .ok () else .error .client, told)
    | some paths =>
      match loadIdentity fs paths with
      | .error e => (.error e, told)
      | .ok bs =>
        match Identity.ofPem? bs with
        | none => (.error .client, told)
        | some identity =>
          (if bundleUsable && identity.isUsable then .ok () else .error .client,
            told ++ [loadedEntry "client certificate" paths.1])

end Handoff.Tls
