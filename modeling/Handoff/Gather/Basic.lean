import Handoff.Artifact
import Handoff.FileSystem.Change
import Handoff.Log.Entry
import Handoff.Metric
import Handoff.Upload.Error
import Handoff.Waitfile

/-!
What takes part in gathering results: settings, events from outside, a transmitter, and the trace that a
run leaves.
-/

namespace Handoff

/-- How a look is counted that finds a status. -/
def WaitfileStatus.counted : WaitfileStatus → PollStatus
  | missing => .missing
  | unreadable _ => .unreadable
  | ready _ => .ready

namespace Gather

/-- What a run is told. Times are in milliseconds. -/
structure Settings where
  waitfile : Handoff.Path
  url : Url
  pollInterval : Nat
  gracePeriod : Nat
deriving DecidableEq, Repr

/-- Something that happens outside. -/
inductive Event
  -- Files change.
  | change (c : FileChange)
  -- Shutdown is requested.
  | trigger
  -- Nobody can request shutdown any more.
  | dropSender
deriving DecidableEq, Repr

/-- An event and its instant. -/
structure TimedEvent where
  instant : Nat
  event : Event
deriving DecidableEq, Repr

/-- An upload as it is handed to the transmitter, with what the file held when it was read. -/
structure Call where
  url : Url
  path : Handoff.Path
  contentType : Option ContentType
  size : Nat
  body : Except FileError Bytes

/-- What a transmitter makes of an upload. -/
structure Delivery where
  result : Except Upload.Error Unit
  entries : List Log.Entry

/-- A transmitter waits, then reads the file, and delivers it. -/
structure Transmitter where
  delay : Nat
  deliver : Call → Delivery

/-- Where a run is. -/
inductive Phase
  | waiting
  | gracePeriod
  | transmitting
  | done
  | aborted
deriving DecidableEq, Repr

def Phase.name : Phase → String
  | waiting => "waiting"
  | gracePeriod => "grace_period"
  | transmitting => "transmitting"
  | done => "done"
  | aborted => "aborted"

/-- Why a run failed. -/
inductive Failure
  -- The result file could not be opened.
  | unopened (path : Handoff.Path) (cause : FileError)
  -- The upload failed.
  | upload (cause : Upload.Error)
deriving DecidableEq, Repr

def Failure.message : Failure → String
  | unopened path cause => "failed to open result file " ++ path.shown ++ ": " ++ cause.message
  | upload cause => "failed to transmit results: " ++ cause.message

/-- A breach of what the clock can do. -/
inductive Fault
  -- Polls need an interval.
  | zeroInterval
  -- The deadline lies beyond the last instant of the clock.
  | deadlineOverflow
deriving DecidableEq, Repr

def Fault.message : Fault → String
  | zeroInterval => "`period` must be non-zero."
  | deadlineOverflow => "overflow when adding duration to instant"

/-- How a run ended, or that it has not. -/
inductive Outcome
  | transmitted (resultFile : Handoff.Path)
  | timedOut
  | failed (cause : Failure)
  | stillRunning
  | broken (fault : Fault)
deriving DecidableEq, Repr

/-- Something that a run does or lets see. -/
inductive Occurrence
  | logged (entry : Log.Entry)
  | counted (metric : Metric)
  -- A look at the waitfile found this.
  | looked (status : WaitfileStatus)
  -- The transmitter is given an opened result file.
  | handed (url : Url) (artifact : Artifact)
  -- The transmitter has read the file, and answers.
  | called (call : Call)
  -- A shutdown request reached so many receivers.
  | triggered (receivers : Nat)

abbrev Trace := List (Nat × Occurrence)

/-- A run, up to its end or to the instant at which it was left. -/
structure Run where
  outcome : Outcome
  elapsed : Nat
  trace : Trace

def atInstant (now : Nat) (occurrences : List Occurrence) : Trace := occurrences.map (fun o => (now, o))

def Run.after (before : Trace) (run : Run) : Run := { run with trace := before ++ run.trace }

def Trace.log (trace : Trace) : List (Nat × Log.Entry) :=
  trace.filterMap (fun (now, o) => match o with
    | .logged entry => some (now, entry)
    | _ => none)

def Trace.metrics (trace : Trace) : List Metric :=
  trace.filterMap (fun (_, o) => match o with
    | .counted metric => some metric
    | _ => none)

def Trace.calls (trace : Trace) : List Call :=
  trace.filterMap (fun (_, o) => match o with
    | .called call => some call
    | _ => none)

/-- How many receivers each shutdown request of a trace reached. -/
def Trace.triggers (trace : Trace) : List Nat :=
  trace.filterMap (fun (_, o) => match o with
    | .triggered n => some n
    | _ => none)

end Gather

end Handoff
