import Handoff.CommandLine.Invocation
import Handoff.Config.Encode
import Handoff.Log.Filter
import Handoff.Worker.Run

/-!
What the program does with a command line.
-/

namespace Handoff.CommandLine

/-- What a run of the program leaves. -/
structure Execution where
  -- The exit status; there is none if the program does not end.
  status? : Option Nat
  -- The text on standard output, the log apart.
  text : String := ""
  -- The entries of the log that are told, and how they are written.
  log : List Log.Entry := []
  logFormat : LogFormat := .pretty
  -- The requests that a server received.
  requests : List Upload.Request := []

def versionText : String := "waitfile-worker " ++ Worker.version ++ "\n"

/-- Checks a configuration file, and shows the results URL and the effective configuration. -/
def checkConfig (files : FileSystem) (path : Path) : Execution :=
  match Config.resolve files (some path) {} with
  | .error _ => { status? := some 1 }
  | .ok c =>
    match Route.resolve c.aggregator with
    | .error _ => { status? := some 1 }
    | .ok url =>
      let heading := "# results URL: " ++ url.shown ++ "\n"
      match Config.text c with
      | .error _ => { status? := some 1, text := heading }
      | .ok text => { status? := some 0, text := heading ++ text ++ "\n" }

def toldEntries (environment : Environment) (r : Worker.Report) : List Log.Entry :=
  let filter := Log.Filter.choose (environment.lookup "RUST_LOG") r.observability.logLevel
  r.log.filter filter.admits

def runWorker (s : Worker.Surroundings) (environment : Environment) (a : Arguments)
    (schedule : Gather.Schedule) : Execution :=
  let report := Worker.run s a schedule
  { status? := report.ending.status?
    log := toldEntries environment report
    logFormat := report.observability.logFormat
    requests := report.requests }

def Invocation.perform (s : Worker.Surroundings) (environment : Environment) (schedule : Gather.Schedule) :
    Invocation → Execution
  | help => { status? := some 0 }
  | version => { status? := some 0, text := versionText }
  | run a => runWorker s environment a schedule
  | checkConfig path => CommandLine.checkConfig s.files path

def execute (s : Worker.Surroundings) (environment : Environment) (arguments : List String)
    (schedule : Gather.Schedule := .inOrder) : Execution :=
  match Invocation.read environment arguments with
  | .error _ => { status? := some 2 }
  | .ok invocation => invocation.perform s environment schedule

end Handoff.CommandLine
