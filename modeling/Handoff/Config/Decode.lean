import Handoff.Config.Basic
import Handoff.Toml.Fault

/-!
The configuration that a TOML document stands for. A section or setting that is missing keeps its
default, and keys without a meaning are passed over. Of several faults the first in the document counts.
-/

namespace Handoff.Config

open Toml

def wrongType {α : Type} (item : Item) (expected : String) : Except Fault α :=
  .error ⟨.wrongType item.described expected, item.span?⟩

def decodeText (expected : String) (item : Item) : Except Fault (List Char) :=
  match item with
  | .scalar (.text cs) _ => .ok cs
  | _ => wrongType item expected

def decodeString (item : Item) : Except Fault String :=
  (decodeText "a string" item).map String.ofList

def decodePath (item : Item) : Except Fault Path :=
  (decodeText "path string" item).map (fun cs => ⟨Text.encode cs⟩)

def decodeNat (item : Item) : Except Fault Nat :=
  match item with
  | .scalar (.integer n) span =>
    if n < 0 then .error ⟨.wrongValue (Scalar.integer n).described "u64", some span⟩ else .ok n.toNat
  | _ => wrongType item "u64"

def decodeBool (item : Item) : Except Fault Bool :=
  match item with
  | .scalar (.boolean b) _ => .ok b
  | _ => wrongType item "a boolean"

def choose {α : Type} (first second : String × α) (name : List Char) (span : Option Span) :
    Except Fault α :=
  if name = first.1.toList then .ok first.2
  else if name = second.1.toList then .ok second.2
  else .error ⟨.unknownVariant (String.ofList name) first.1 second.1, span⟩

def checkEmpty (item : Item) : Except Fault Unit :=
  match item with
  | .table _ [] _ => .ok ()
  | .table _ _ _ => .error ⟨.fullTable, item.span?⟩
  | .array [] _ => .ok ()
  | .tables [] _ => .ok ()
  | .array _ _ => .error ⟨.fullTable, item.span?⟩
  | .tables _ _ => .error ⟨.fullArray, item.span?⟩
  | .scalar x span => .error ⟨.wrongPayload x.typeName, some span⟩

/-- Reads one of two values: its name as a text, or a table with the name as its only key. -/
def decodeChoice {α : Type} (first second : String × α) (item : Item) : Except Fault α :=
  match item with
  | .scalar (.text cs) span => choose first second cs (some span)
  | .table _ [] span => .error ⟨.noEntry, span⟩
  | .table _ [(key, payload)] span =>
    match choose first second key.name (some key.span) with
    | .error fault => .error fault
    | .ok x =>
      match checkEmpty payload with
      | .ok () => .ok x
      | .error fault => .error (fault.about span)
  | .table _ _ span => .error ⟨.manyEntries, span⟩
  | _ => .error ⟨.noChoice, item.span?⟩

def decodeMethod (item : Item) : Except Fault UploadMethod :=
  decodeChoice ("put", .put) ("post", .post) item

def decodeFormat (item : Item) : Except Fault LogFormat :=
  decodeChoice ("pretty", .pretty) ("json", .json) item

/-- Sets the named setting to what an item stands for. -/
abbrev Setter (α : Type) := List Char → Item → α → Except Fault α

/-- Sets what the entries of a table name, in their order. -/
def decodeEntries {α : Type} (set : Setter α) (start : α) (entries : Entries) : Except Fault α :=
  entries.foldlM (fun x (key, item) =>
    match set key.name item x with
    | .ok y => .ok y
    | .error fault => .error (fault.about (item.span?.or (some key.span)))) start

/-- Sets settings in the order in which a section has them. -/
def decodeItems {α : Type} (set : Setter α) (names : List String) (start : α) (items : List Item) :
    Except Fault α :=
  (names.zip items).foldlM (fun x (name, item) =>
    match set name.toList item x with
    | .ok y => .ok y
    | .error fault => .error (fault.about item.span?)) start

/-- Reads a section from a table, or from an array of its settings in order. -/
def decodeSection {α : Type} (set : Setter α) (names : List String) (expected : String) (start : α)
    (item : Item) : Except Fault α :=
  match item with
  | .table _ entries _ => decodeEntries set start entries
  | .array items _ => decodeItems set names start items
  | .tables items _ => decodeItems set names start items
  | .scalar .datetime _ => .ok start
  | _ => wrongType item expected

def setWaitfile : Setter WaitfileSection := fun name item s =>
  if name = "path".toList then (decodePath item).map ({ s with path := · })
  else if name = "poll_interval_ms".toList then (decodeNat item).map ({ s with pollIntervalMs := · })
  else .ok s

def setAggregator : Setter AggregatorSection := fun name item s =>
  if name = "url".toList then (decodeString item).map ({ s with url := · })
  else if name = "plugin".toList then (decodeString item).map ({ s with plugin := some · })
  else if name = "node".toList then (decodeString item).map ({ s with node := some · })
  else if name = "method".toList then (decodeMethod item).map ({ s with method := · })
  else .ok s

def setShutdown : Setter ShutdownSection := fun name item s =>
  if name = "grace_period_secs".toList then (decodeNat item).map ({ s with gracePeriodSecs := · })
  else .ok s

def setTransmit : Setter TransmitSection := fun name item s =>
  if name = "connect_timeout_secs".toList then (decodeNat item).map ({ s with connectTimeoutSecs := · })
  else if name = "request_timeout_secs".toList then
    (decodeNat item).map ({ s with requestTimeoutSecs := · })
  else if name = "ca_cert_path".toList then (decodePath item).map ({ s with caCertPath := some · })
  else if name = "client_cert_path".toList then (decodePath item).map ({ s with clientCertPath := some · })
  else if name = "client_key_path".toList then (decodePath item).map ({ s with clientKeyPath := some · })
  else .ok s

def setObservability : Setter ObservabilitySection := fun name item s =>
  if name = "log_level".toList then (decodeString item).map ({ s with logLevel := · })
  else if name = "log_format".toList then (decodeFormat item).map ({ s with logFormat := · })
  else if name = "metrics_enabled".toList then (decodeBool item).map ({ s with metricsEnabled := · })
  else if name = "metrics_address".toList then (decodeString item).map ({ s with metricsAddress := · })
  else .ok s

def setSection : Setter Config := fun name item c =>
  if name = "waitfile".toList then
    (decodeSection setWaitfile ["path", "poll_interval_ms"] "struct WaitfileConfig" {} item).map
      ({ c with waitfile := · })
  else if name = "aggregator".toList then
    (decodeSection setAggregator ["url", "plugin", "node", "method"] "struct AggregatorConfig" {} item).map
      ({ c with aggregator := · })
  else if name = "shutdown".toList then
    (decodeSection setShutdown ["grace_period_secs"] "struct ShutdownConfig" {} item).map
      ({ c with shutdown := · })
  else if name = "transmit".toList then
    (decodeSection setTransmit ["connect_timeout_secs", "request_timeout_secs", "ca_cert_path",
      "client_cert_path", "client_key_path"] "struct TransmitConfig" {} item).map
      ({ c with transmit := · })
  else if name = "observability".toList then
    (decodeSection setObservability ["log_level", "log_format", "metrics_enabled", "metrics_address"]
      "struct ObservabilityConfig" {} item).map ({ c with observability := · })
  else .ok c

/-- The configuration that the entries of a document stand for. -/
def decode (entries : Entries) : Except Fault Config := decodeEntries setSection {} entries

end Handoff.Config
