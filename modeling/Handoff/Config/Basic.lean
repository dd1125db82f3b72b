import Handoff.Path

/-!
The configuration of a worker, in five sections, with the values that hold where nothing is set.
-/

namespace Handoff

/-- How results are uploaded. -/
inductive UploadMethod
  | put
  | post
deriving DecidableEq, Repr

/-- How the log is written. -/
inductive LogFormat
  | pretty
  | json
deriving DecidableEq, Repr

/-- Where the plugin signals that it is done, and how often that is looked at. -/
structure WaitfileSection where
  path : Path := Path.ofString "/tmp/results/done"
  pollIntervalMs : Nat := 1000
deriving DecidableEq, Repr

/-- Where results are sent. -/
structure AggregatorSection where
  -- The base URL of the aggregator, or a complete results URL.
  url : String := "http://localhost:8080"
  plugin : Option String := none
  node : Option String := none
  method : UploadMethod := .put
deriving DecidableEq, Repr

/-- How long results are waited for after a shutdown request. -/
structure ShutdownSection where
  gracePeriodSecs : Nat := 60
deriving DecidableEq, Repr

/-- How the upload is made. -/
structure TransmitSection where
  connectTimeoutSecs : Nat := 10
  requestTimeoutSecs : Nat := 300
  caCertPath : Option Path := none
  clientCertPath : Option Path := none
  clientKeyPath : Option Path := none
deriving DecidableEq, Repr

/-- What is told about the run. -/
structure ObservabilitySection where
  logLevel : String := "info"
  logFormat : LogFormat := .pretty
  metricsEnabled : Bool := false
  metricsAddress : String := "0.0.0.0:9090"
deriving DecidableEq, Repr

/-- The configuration of a worker. -/
structure Config where
  waitfile : WaitfileSection := {}
  aggregator : AggregatorSection := {}
  shutdown : ShutdownSection := {}
  transmit : TransmitSection := {}
  observability : ObservabilitySection := {}
deriving DecidableEq, Repr

def UploadMethod.name : UploadMethod → String
  | put => "put"
  | post => "post"

def UploadMethod.verb : UploadMethod → String
  | put => "PUT"
  | post => "POST"

def UploadMethod.title : UploadMethod → String
  | put => "Put"
  | post => "Post"

def LogFormat.name : LogFormat → String
  | pretty => "pretty"
  | json => "json"

/-- Reads the name of a format in any letter case; on failure gives the name in small letters. -/
def LogFormat.ofName (s : String) : Except String LogFormat :=
  let name := String.ofList (s.toList.map Char.toLower)
  if name = "pretty" then .ok pretty
  else if name = "json" then .ok json
  else .error name

def LogFormat.unknownMessage (name : String) : String :=
  "unknown log format '" ++ name ++ "', expected 'pretty' or 'json'"

end Handoff
