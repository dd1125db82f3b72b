import Handoff.CommandLine.Program
import Handoff.FileSystem.Change
import Handoff.Log.Line
import Handoff.Upload.Wire
import Std.Async.DNS
import Std.Async.Signal
import Std.Async.TCP

/-!
The program: arguments, environment, files, clock, signals and the network are taken from the system, and
handed to the worker. A worker that waits is taken from one look at the waitfile to the next.
-/

namespace Handoff.Main

open Std.Async

def usage : String :=
  "Usage: waitfile-worker run [OPTIONS]\n" ++
  "       waitfile-worker check-config --config FILE\n"

def readEnvironment : IO CommandLine.Environment := do
  let names := "RUST_LOG" :: CommandLine.Command.run.settings.map CommandLine.Setting.variableName
  let found ← names.mapM fun name => do return (← IO.getEnv name).map fun value => (name, value)
  return found.filterMap id

/-- Puts what stands at a path now into a file system. -/
def look (files : FileSystem) (path : Path) : IO FileSystem :=
  match path.text? with
  | none => pure files
  | some name => do
    try
      let content ← IO.FS.readBinFile name
      return files.apply (.write path content.toList)
    catch
      | .inappropriateType .. => return files.apply (.makeDirectory path)
      | _ => return files

/-- The files that a waiting worker may read now: the waitfile, and the file that it names. -/
def lookAtResults (waitfile : Path) : IO FileSystem := do
  let files ← look .empty waitfile
  match Waitfile.inspect files waitfile with
  | .ready resultFile => look files resultFile
  | _ => return files

def addresses (host : Url.Host) (port : Nat) : IO (List Std.Net.SocketAddress) := do
  let port := UInt16.ofNat port
  let found ← (DNS.getAddrInfo (String.ofList host.text) (toString port)).block
  return found.toList.map fun
    | .v4 ip => .v4 ⟨ip, port⟩
    | .v6 ip => .v6 ⟨ip, port⟩

/-- Reads from a connection until its end. -/
partial def receiveAll (socket : TCP.Socket.Client) (got : ByteArray) : IO ByteArray := do
  match ← (socket.recv? 65536).block with
  | some more => receiveAll socket (got ++ more)
  | none => return got

/-- Sends a request to the host of a URL, and takes the answer. Hosts are reached by plain connections
only. -/
def ask (url : Url) (request : Upload.Request) : IO (Option Upload.Answer) := do
  match url.authority with
  | some authority =>
    if url.scheme ≠ "http".toList then return none
    try
      let socket ← TCP.Socket.Client.mk
      match ← addresses authority.host (authority.port.getD 80) with
      | [] => return none
      | address :: _ =>
        (socket.connect address).block
        (socket.send (ByteArray.mk (request.wire authority.hostText).toArray)).block
        return some (.ofWire (← receiveAll socket .empty).toList)
    catch _ => return none
  | none => return none

/-- Takes a step of a worker. If it uploads, the step is taken once more with the answer to the upload. -/
def withAnswer {α : Type} (c : Config) (calls : α → List Gather.Call)
    (step : Gather.Transmitter → α) : IO α := do
  let transmitter (answer : Option Upload.Answer) : Gather.Transmitter :=
    Upload.transmitter (fun _ => answer) c.transmit c.aggregator.method
  let silent := step (transmitter none)
  match calls silent with
  | call :: _ =>
    let asked := Upload.exchange (fun _ => some .hangUp) c.transmit c.aggregator.method call
    match asked.received with
    | some request => return step (transmitter (← ask call.url request))
    | none => return silent
  | [] => return silent

/-- The signals that end a worker, each with the task that waits for it. -/
abbrev Signals := List (Worker.Signal × AsyncTask Int)

def awaitSignals : IO Signals := do
  let terminate ← (← Signal.Waiter.mk .sigterm false).wait
  let interrupt ← (← Signal.Waiter.mk .sigint false).wait
  return [(.terminate, terminate), (.interrupt, interrupt)]

def arrived? (signals : Signals) : IO (Option Worker.Signal) := do
  let come ← signals.filterM fun (_, task) => return (← IO.getTaskState task) == .finished
  return come.head?.map (·.1)

/-- Takes a waiting worker to its end. `tell` takes its log. -/
partial def watch (c : Config) (g : Gather.Settings) (clock : Gather.Clock) (signals : Signals)
    (tell : Option Worker.Signal → Gather.Trace → IO Unit) (st : Gather.State) : IO Gather.Outcome := do
  let now := (← IO.monoMsNow) - clock.origin
  let signal ← arrived? signals
  if signal.isNone ∧ now < st.instant then
    IO.sleep (UInt32.ofNat (min 50 (st.instant - now)))
    watch c g clock signals tell st
  else
    let files ← lookAtResults g.waitfile
    let st := { st with
      world := { st.world with files := files }
      events := if signal.isSome then [⟨now, .trigger⟩] else [] }
    let calls (result : Gather.Run ⊕ (Gather.State × Gather.Trace)) : List Gather.Call :=
      match result with
      | .inl run => run.trace.calls
      | .inr (_, trace) => trace.calls
    match ← withAnswer c calls (fun t => Gather.step g t clock .inOrder st.instant st) with
    | .inl run =>
      tell signal run.trace
      return run.outcome
    | .inr (next, trace) =>
      tell signal trace
      watch c g clock (if signal.isSome then [] else signals) tell next

def gather (c : Config) (g : Gather.Settings) (tell : Option Worker.Signal → Gather.Trace → IO Unit) :
    IO Gather.Outcome := do
  let signals ← awaitSignals
  let clock : Gather.Clock := ⟨← IO.monoMsNow⟩
  let files ← lookAtResults g.waitfile
  let run ← withAnswer c (fun run => run.trace.calls) (fun t => Gather.run g t clock 0 files [])
  tell none run.trace
  match run.outcome with
  | .stillRunning => watch c g clock signals tell ⟨⟨files, 0, true⟩, .listening, g.pollInterval, []⟩
  | outcome => return outcome

/-- Answers whoever connects with the counts so far. -/
partial def serveCounts (server : TCP.Socket.Server) (counted : IO.Ref (List Metric)) : IO Unit := do
  let socket ← server.accept.block
  try
    let _ ← (socket.recv? 65536).block
    let counts := String.join ((Metric.totals (← counted.get)).map fun (series, n) => series.line n)
    let head := "HTTP/1.1 200 OK\r\ncontent-type: text/plain; version=0.0.4\r\nconnection: close\r\n\r\n"
    (socket.send (head ++ counts).toUTF8).block
    socket.shutdown.block
  catch _ => pure ()
  serveCounts server counted

/-- Offers counts at an address, if that can be listened on. -/
def offerCounts (address : SocketAddress) (counted : IO.Ref (List Metric)) : IO Bool := do
  try
    let server ← TCP.Socket.Server.mk
    server.bind (match address with
      | .v4 ip port => .v4 ⟨⟨#v[ip.a, ip.b, ip.c, ip.d]⟩, UInt16.ofNat port⟩
      | .v6 ip _ port => .v6 ⟨⟨Vector.ofFn fun i => ip.groups.getD i 0⟩, UInt16.ofNat port⟩)
    server.listen 128
    let _ ← IO.asTask (serveCounts server counted) .dedicated
    return true
  catch _ => return false

def writeLog (environment : CommandLine.Environment) (o : ObservabilitySection)
    (entries : List Log.Entry) : IO Unit := do
  let filter := Log.Filter.choose (environment.lookup "RUST_LOG") o.logLevel
  for entry in entries do
    if filter.admits entry then
      IO.println (match o.logFormat with
        | .json => entry.json
        | .pretty => entry.plain)

def runWorker (environment : CommandLine.Environment) (a : CommandLine.Arguments) : IO UInt32 := do
  let files ← a.config.toList.foldlM look .empty
  match Config.resolve files a.config a.overrides with
  | .error cause =>
    writeLog environment {} [Worker.invalidEntry cause]
    IO.eprintln ("Error: " ++ cause.message)
    return 1
  | .ok c =>
    let paths := [c.transmit.caCertPath, c.transmit.clientCertPath, c.transmit.clientKeyPath].filterMap id
    let files ← paths.foldlM look files
    let counted ← IO.mkRef []
    let offered ← match SocketAddress.ofText? c.observability.metricsAddress.toList with
      | some address => if c.observability.metricsEnabled then offerCounts address counted else pure false
      | none => pure false
    let surroundings (signal : Option Worker.Signal) : Worker.Surroundings :=
      ⟨files, fun _ => none, fun _ => offered, ⟨0⟩, signal.map (fun signal => (0, signal))⟩
    let write := writeLog environment c.observability
    let (prepared, told) := Worker.prepare (surroundings none) c
    write told
    match prepared with
    | .error cause =>
      IO.eprintln ("Error: " ++ cause.message)
      return 1
    | .ok url =>
      let outcome ← gather c (Worker.settings c url) fun signal trace => do
        counted.modify (· ++ trace.metrics)
        write ((surroundings signal).log trace)
      write (Worker.closing? outcome).toList
      return UInt32.ofNat ((Worker.Ending.ofOutcome outcome).status?.getD 1)

/-- Does what is asked for, and gives the exit status. -/
def perform (environment : CommandLine.Environment) : CommandLine.Invocation → IO UInt32
  | .help => do
    IO.print usage
    return 0
  | .version => do
    IO.print CommandLine.versionText
    return 0
  | .checkConfig path => do
    let done := CommandLine.checkConfig (← look .empty path) path
    IO.print done.text
    return UInt32.ofNat (done.status?.getD 1)
  | .run a => runWorker environment a

end Handoff.Main

def main (arguments : List String) : IO UInt32 := do
  let environment ← Handoff.Main.readEnvironment
  match Handoff.CommandLine.Invocation.read environment arguments with
  | .ok invocation => Handoff.Main.perform environment invocation
  | .error e =>
    IO.eprint ("error: " ++ e.message ++ "\n\n" ++ Handoff.Main.usage)
    return 2
