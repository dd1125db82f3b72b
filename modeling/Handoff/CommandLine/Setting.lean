import Handoff.Config.Overrides
import Handoff.Text.Numeral

/-!
What can be set on the command line and in the environment, and what a worker is told that way.
-/

namespace Handoff.CommandLine

/-- What a worker is told outside its configuration file, and where that file is. -/
structure Arguments where
  config : Option Path := none
  overrides : Overrides := {}
deriving DecidableEq, Repr

/-- A setting. -/
inductive Setting
  | config
  | waitfile
  | url
  | plugin
  | node
  | gracePeriod
  | pollInterval
  | logLevel
  | logFormat
  | metricsAddress
deriving DecidableEq, Repr

/-- Reads a whole number of 64 bits, with or without a plus sign. -/
def natural? (value : String) : Option Nat :=
  let digits := match value.toList with
    | '+' :: rest => rest
    | cs => cs
  (Text.numeral? 10 digits).filter (· < Nat.pow 2 64)

def path? (value : String) : Option Path := if value = "" then none else some (Path.ofString value)

namespace Setting

def name : Setting → String
  | config => "config"
  | waitfile => "waitfile"
  | url => "url"
  | plugin => "plugin"
  | node => "node"
  | gracePeriod => "grace-period-secs"
  | pollInterval => "poll-interval-ms"
  | logLevel => "log-level"
  | logFormat => "log-format"
  | metricsAddress => "metrics-address"

def letter? : Setting → Option Char
  | config => some 'c'
  | _ => none

/-- The environment variable of a setting: its name in capitals, with underscores. -/
def variableName (s : Setting) : String :=
  "WAITFILE_WORKER_" ++
    String.ofList (s.name.toList.map (fun c => if c = '-' then '_' else c.toUpper))

/-- Puts a value into arguments, unless the setting has no such value. -/
def assign? (s : Setting) (value : String) (a : Arguments) : Option Arguments :=
  let o := a.overrides
  match s with
  | config => (path? value).map fun p => { a with config := some p }
  | waitfile => (path? value).map fun p => { a with overrides := { o with waitfile := some p } }
  | url => some { a with overrides := { o with url := some value } }
  | plugin => some { a with overrides := { o with plugin := some value } }
  | node => some { a with overrides := { o with node := some value } }
  | gracePeriod =>
    (natural? value).map fun n => { a with overrides := { o with gracePeriodSecs := some n } }
  | pollInterval =>
    (natural? value).map fun n => { a with overrides := { o with pollIntervalMs := some n } }
  | logLevel => some { a with overrides := { o with logLevel := some value } }
  | logFormat =>
    match LogFormat.ofName value with
    | .ok f => some { a with overrides := { o with logFormat := some f } }
    | .error _ => none
  | metricsAddress => some { a with overrides := { o with metricsAddress := some value } }

end Setting

/-- A command with settings. -/
inductive Command
  | run
  | checkConfig
deriving DecidableEq, Repr

namespace Command

def name : Command → String
  | run => "run"
  | checkConfig => "check-config"

def ofName? (word : String) : Option Command := [run, checkConfig].find? (fun c => c.name = word)

def settings : Command → List Setting
  | run =>
    [.config, .waitfile, .url, .plugin, .node, .gracePeriod, .pollInterval, .logLevel, .logFormat,
      .metricsAddress]
  | checkConfig => [.config]

end Command

end Handoff.CommandLine
