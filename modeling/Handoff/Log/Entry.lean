import Handoff.Decimal.Shortest

/-!
Entries of the structured log: a level, the part of the program that speaks, a message and named fields.
-/

namespace Handoff.Log

/-- How much an entry matters, the least first. -/
inductive Level
  | trace
  | debug
  | info
  | warn
  | error
deriving DecidableEq, Repr

def Level.rank : Level → Nat
  | trace => 0
  | debug => 1
  | info => 2
  | warn => 3
  | error => 4

def Level.name : Level → String
  | trace => "TRACE"
  | debug => "DEBUG"
  | info => "INFO"
  | warn => "WARN"
  | error => "ERROR"

/-- The part of the program an entry comes from. -/
inductive Source
  | main
  | gather
  | artifact
  | upload
  | signals
  | metrics
deriving DecidableEq, Repr

/-- The name of a source, by whose start a filter selects. -/
def Source.target : Source → String
  | main => "waitfile_worker"
  | gather => "waitfile_worker::worker::gather"
  | artifact => "waitfile_worker::worker::artifact"
  | upload => "waitfile_worker::transmit::http"
  | signals => "waitfile_worker::lifecycle::signals"
  | metrics => "waitfile_worker::observability::metrics"

/-- The value of a field. -/
inductive Value
  | text (s : String)
  | natural (n : Nat)
  | real (x : Decimal.Binary64)
deriving DecidableEq, Repr

def Value.shown : Value → String
  | text s => s
  | natural n => toString n
  | real x => (Decimal.shortest x).positional

/-- An entry of the log. -/
structure Entry where
  level : Level
  source : Source
  message : String
  fields : List (String × Value)
deriving DecidableEq, Repr

end Handoff.Log
