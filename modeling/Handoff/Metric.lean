/-!
What is counted during a run.
-/

namespace Handoff

/-- How a look at the waitfile ended, as it is counted. -/
inductive PollStatus
  | missing
  | unreadable
  | ready
deriving DecidableEq, Repr

/-- How a transmission ended, as it is counted. -/
inductive TransmissionOutcome
  | success
  | failure
  | openFailed
deriving DecidableEq, Repr

/-- An event that is counted. -/
inductive Metric
  -- The waitfile was looked at.
  | poll (status : PollStatus)
  -- A grace period began.
  | gracePeriodStarted
  -- A transmission ended, and its duration was measured.
  | transmission (outcome : TransmissionOutcome)
deriving DecidableEq, Repr

def PollStatus.label : PollStatus → String
  | missing => "missing"
  | unreadable => "unreadable"
  | ready => "ready"

def TransmissionOutcome.label : TransmissionOutcome → String
  | success => "success"
  | failure => "failure"
  | openFailed => "open_failed"

/-- A series of counts: a name, and a label with its value. -/
structure Series where
  name : String
  label : Option (String × String)
deriving DecidableEq, Repr

def Series.shown (s : Series) : String :=
  let label := match s.label with
    | some (label, value) => label ++ "=" ++ value
    | none => ""
  s.name ++ "\x7b" ++ label ++ "\x7d"

/-- The line that offers the count of a series to be collected. -/
def Series.line (s : Series) (count : Nat) : String :=
  let label := match s.label with
    | some (label, value) => "\x7b" ++ label ++ "=\"" ++ value ++ "\"\x7d"
    | none => ""
  s.name ++ label ++ " " ++ toString count ++ "\n"

/-- The series that an event adds one to: a counter, and for a transmission also the number of durations
measured. -/
def Metric.series : Metric → List Series
  | poll status => [⟨"worker_waitfile_polls_total", some ("status", status.label)⟩]
  | gracePeriodStarted => [⟨"worker_grace_period_started_total", none⟩]
  | transmission outcome =>
    [⟨"worker_transmissions_total", some ("outcome", outcome.label)⟩,
      ⟨"worker_transmission_duration_seconds", some ("outcome", outcome.label)⟩]

/-- The count of every series that some events add to. -/
def Metric.totals (ms : List Metric) : List (Series × Nat) :=
  let all := ms.flatMap series
  all.eraseDups.map (fun s => (s, all.count s))

end Handoff
