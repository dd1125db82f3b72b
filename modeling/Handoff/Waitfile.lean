import Handoff.FileSystem.Basic
import Handoff.Text.Blank

/-!
The waitfile, in which a plugin leaves the path of its result file once it is done.
-/

namespace Handoff

/-- What one look at the waitfile finds. -/
inductive WaitfileStatus
  -- It is not there, or has only blank content.
  | missing
  -- It is there and cannot be read as a text.
  | unreadable (cause : FileError)
  -- It names this result file.
  | ready (resultFile : Path)
deriving DecidableEq, Repr

def WaitfileStatus.label : WaitfileStatus → String
  | missing => "missing"
  | unreadable _ => "unreadable"
  | ready _ => "ready"

namespace Waitfile

/-- The result file that a content names: all of it but surrounding blanks, if anything is left. -/
def reference? (content : List Char) : Option Path :=
  match Text.trim content with
  | [] => none
  | reference => some ⟨Text.encode reference⟩

/-- The status that a reading of the waitfile amounts to. -/
def status : Except FileError Bytes → WaitfileStatus
  | .ok bytes =>
    match Text.decode bytes with
    | .ok content => match reference? content with
      | some resultFile => .ready resultFile
      | none => .missing
    | .error fault => .unreadable (.malformedText fault)
  | .error .notFound => .missing
  | .error cause => .unreadable cause

def inspect (fs : FileSystem) (waitfile : Path) : WaitfileStatus := status (fs.read waitfile)

end Waitfile

end Handoff
