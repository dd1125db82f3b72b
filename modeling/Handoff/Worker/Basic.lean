import Handoff.Config.Load
import Handoff.Gather.Run
import Handoff.SocketAddress
import Handoff.Upload.Exchange

/-!
A worker's surroundings, and how its life can end.
-/

namespace Handoff.Worker

/-- A signal that asks a process to end. -/
inductive Signal
  | terminate
  | interrupt
deriving DecidableEq, Repr

def Signal.name : Signal → String
  | terminate => "SIGTERM"
  | interrupt => "SIGINT"

/-- What a worker finds around it. Files do not change while it runs. -/
structure Surroundings where
  files : FileSystem
  network : Upload.Network
  -- Whether an address can be listened on.
  canListen : SocketAddress → Bool
  clock : Gather.Clock
  -- The first signal and its instant, counted from when the worker starts to wait.
  signal : Option (Nat × Signal)

/-- Why a worker failed. -/
inductive Failure
  | config (cause : Config.Error)
  -- The address for metrics cannot be read or listened on.
  | metrics (address : String)
  -- There is no route, or the client could not be set up.
  | upload (cause : Upload.Error)
  | gather (cause : Gather.Failure)

def Failure.message : Failure → String
  | config cause => cause.message
  | metrics address => "failed to create HTTP listener: " ++ address
  | upload cause => cause.message
  | gather cause => cause.message

/-- How a worker's life ends. -/
inductive Ending
  -- Results were uploaded, or were not there when the grace period was over.
  | finished
  | failed (cause : Failure)
  -- The clock was overstrained.
  | broken (fault : Gather.Fault)
  -- It does not end.
  | waiting

def Ending.status? : Ending → Option Nat
  | finished => some 0
  | failed _ => some 1
  | broken _ => some 101
  | waiting => none

/-- A worker's life as it is seen from outside. -/
structure Report where
  ending : Ending
  -- How the log was to be told.
  observability : ObservabilitySection
  log : List Log.Entry
  -- The requests that a server received.
  requests : List Upload.Request
  -- The time spent waiting, in milliseconds.
  elapsed : Nat

end Handoff.Worker
