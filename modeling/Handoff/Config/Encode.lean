import Handoff.Config.Basic
import Handoff.Toml.Writer

/-!
A configuration written as a TOML document. Every setting is written, but for those that are not set.
-/

namespace Handoff.Config

open Toml

/-- Why a configuration cannot be written. -/
inductive WriteError
  -- A number is beyond what a document can hold.
  | numberTooLarge
  -- A path is not UTF-8.
  | pathNotText
deriving DecidableEq, Repr

def WriteError.message : WriteError → String
  | numberTooLarge => "out-of-range value for u64 type"
  | pathNotText => "path contains invalid UTF-8 characters"

def encodeNat (name : String) (n : Nat) : Except WriteError (List (List Char × Setting)) :=
  if n < Nat.pow 2 63 then .ok [(name.toList, .integer n)] else .error .numberTooLarge

def encodeString (name : String) (s : String) : List (List Char × Setting) :=
  [(name.toList, .text s.toList)]

def encodeString? (name : String) (s : Option String) : List (List Char × Setting) :=
  match s with
  | some s => encodeString name s
  | none => []

def encodePath (name : String) (p : Path) : Except WriteError (List (List Char × Setting)) :=
  match Text.decode p.bytes with
  | .ok cs => .ok [(name.toList, .text cs)]
  | .error _ => .error .pathNotText

def encodePath? (name : String) (p : Option Path) : Except WriteError (List (List Char × Setting)) :=
  match p with
  | some p => encodePath name p
  | none => .ok []

/-- The settings of all parts, unless one of them cannot be written. -/
def encodeSection (name : String) (parts : List (Except WriteError (List (List Char × Setting)))) :
    Except WriteError (List Char × List (List Char × Setting)) :=
  (parts.mapM id).map (fun settings => (name.toList, settings.flatten))

def encode (c : Config) : Except WriteError Sections :=
  [encodeSection "waitfile" [encodePath "path" c.waitfile.path,
      encodeNat "poll_interval_ms" c.waitfile.pollIntervalMs],
    encodeSection "aggregator" [.ok (encodeString "url" c.aggregator.url),
      .ok (encodeString? "plugin" c.aggregator.plugin), .ok (encodeString? "node" c.aggregator.node),
      .ok (encodeString "method" c.aggregator.method.name)],
    encodeSection "shutdown" [encodeNat "grace_period_secs" c.shutdown.gracePeriodSecs],
    encodeSection "transmit" [encodeNat "connect_timeout_secs" c.transmit.connectTimeoutSecs,
      encodeNat "request_timeout_secs" c.transmit.requestTimeoutSecs,
      encodePath? "ca_cert_path" c.transmit.caCertPath,
      encodePath? "client_cert_path" c.transmit.clientCertPath,
      encodePath? "client_key_path" c.transmit.clientKeyPath],
    encodeSection "observability" [.ok (encodeString "log_level" c.observability.logLevel),
      .ok (encodeString "log_format" c.observability.logFormat.name),
      .ok [("metrics_enabled".toList, .boolean c.observability.metricsEnabled)],
      .ok (encodeString "metrics_address" c.observability.metricsAddress)]].mapM id

def text (c : Config) : Except WriteError String := (encode c).map (fun s => String.ofList (write s))

end Handoff.Config
