import Handoff.CommandLine.Setting
import Handoff.Route
import Handoff.Tls.Client
import Handoff.Worker.Basic

/-!
The life of a worker: the configuration is resolved, metrics are offered, the route and the client are
made, and then results are gathered.
-/

namespace Handoff.Worker

def version : String := "0.1.0"

def entry (level : Log.Level) (message : String) (fields : List (String × Log.Value)) : Log.Entry :=
  ⟨level, .main, message, fields⟩

def invalidEntry (cause : Config.Error) : Log.Entry :=
  entry .error "Invalid configuration" [("error", .text cause.message)]

def startingEntry : Log.Entry := entry .info "waitfile-worker starting" [("version", .text version)]

/-- The entry that tells where metrics are offered. -/
def listeningEntry (address : SocketAddress) : Log.Entry :=
  ⟨.info, .metrics, "Metrics endpoint listening", [("address", .text address.shown)]⟩

def loadedEntry (c : Config) (url : Url) : Log.Entry :=
  entry .info "Configuration loaded"
    [("waitfile", .text c.waitfile.path.shown), ("url", .text url.shown),
      ("poll_interval_ms", .natural c.waitfile.pollIntervalMs),
      ("grace_period_secs", .natural c.shutdown.gracePeriodSecs)]

def signalEntry (signal : Signal) : Log.Entry :=
  ⟨.info, .signals, "Got a signal, waiting for plugin results before shutting down",
    [("signal", .text signal.name)]⟩

/-- The entry at the end of a worker's life, if it ends in good order. -/
def closing? : Gather.Outcome → Option Log.Entry
  | .transmitted resultFile =>
    some (entry .info "Worker finished" [("result_file", .text resultFile.shown)])
  | .timedOut => some (entry .info "Worker finished without results" [])
  | .failed cause => some (entry .error "Worker failed" [("error", .text cause.message)])
  | .stillRunning => none
  | .broken _ => none

def Ending.ofOutcome : Gather.Outcome → Ending
  | .transmitted _ => .finished
  | .timedOut => .finished
  | .failed cause => .failed (.gather cause)
  | .stillRunning => .waiting
  | .broken fault => .broken fault

def settings (c : Config) (url : Url) : Gather.Settings where
  waitfile := c.waitfile.path
  url := url
  pollInterval := c.waitfile.pollIntervalMs
  gracePeriod := c.shutdown.gracePeriodSecs * 1000

def offerMetrics (s : Surroundings) (o : ObservabilitySection) : Except Failure (List Log.Entry) :=
  if o.metricsEnabled then
    match SocketAddress.ofText? o.metricsAddress.toList with
    | some address =>
      if s.canListen address then .ok [listeningEntry address] else .error (.metrics o.metricsAddress)
    | none => .error (.metrics o.metricsAddress)
  else .ok []

/-- What happens from outside while the worker waits. -/
def Surroundings.events (s : Surroundings) : List Gather.TimedEvent :=
  s.signal.toList.map (fun (instant, _) => ⟨instant, .trigger⟩)

/-- The last instant at which anything new can happen: the first look at the waitfile decides unless a
signal comes, and after a signal the end of the grace period does. -/
def Surroundings.horizon (s : Surroundings) (g : Gather.Settings) : Nat :=
  match s.signal with
  | some (instant, _) => instant + g.gracePeriod
  | none => 0

/-- The log of a trace. The signal is told where it requests shutdown. -/
def Surroundings.log (s : Surroundings) (trace : Gather.Trace) : List Log.Entry :=
  trace.flatMap (fun (_, occurrence) => match occurrence with
    | .logged entry => [entry]
    | .triggered _ => s.signal.toList.map (fun (_, signal) => signalEntry signal)
    | _ => [])

def gather (s : Surroundings) (c : Config) (url : Url) (schedule : Gather.Schedule) : Gather.Run :=
  let g := settings c url
  let transmitter := Upload.transmitter s.network c.transmit c.aggregator.method
  Gather.run g transmitter s.clock (s.horizon g) s.files s.events schedule

/-- The requests that the uploads of a trace cause. -/
def Surroundings.requests (s : Surroundings) (c : Config) (trace : Gather.Trace) : List Upload.Request :=
  trace.calls.filterMap (fun call =>
    (Upload.exchange s.network c.transmit c.aggregator.method call).received)

/-- What a worker does before it waits: its log, and the URL that results will be uploaded to. -/
def prepare (s : Surroundings) (c : Config) : Except Failure Url × List Log.Entry :=
  match offerMetrics s c.observability with
  | .error cause => (.error cause, [startingEntry])
  | .ok offered =>
    match Route.resolve c.aggregator with
    | .error cause => (.error (.upload cause), startingEntry :: offered)
    | .ok url =>
      let told := startingEntry :: offered ++ [loadedEntry c url]
      match Tls.setUp s.files c.transmit with
      | (.error cause, more) => (.error (.upload cause), told ++ more)
      | (.ok (), more) => (.ok url, told ++ more)

/-- The life of a worker from when it has a configuration. -/
def work (s : Surroundings) (c : Config) (schedule : Gather.Schedule) : Report :=
  match prepare s c with
  | (.error cause, told) => ⟨.failed cause, c.observability, told, [], 0⟩
  | (.ok url, told) =>
    let run := gather s c url schedule
    { ending := Ending.ofOutcome run.outcome
      observability := c.observability
      log := told ++ s.log run.trace ++ (closing? run.outcome).toList
      requests := s.requests c run.trace
      elapsed := run.elapsed }

/-- The life of a worker that is told some arguments. -/
def run (s : Surroundings) (a : CommandLine.Arguments) (schedule : Gather.Schedule) : Report :=
  match Config.resolve s.files a.config a.overrides with
  | .error cause => ⟨.failed (.config cause), {}, [invalidEntry cause], [], 0⟩
  | .ok c => work s c schedule

end Handoff.Worker
