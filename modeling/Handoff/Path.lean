import Handoff.Text.Utf8
import Handoff.Text.Split

/-!
File paths as byte strings, their components and their extension.
-/

namespace Handoff

/-- The name of a file, in bytes that need not be UTF-8. -/
structure Path where
  bytes : Bytes
deriving DecidableEq, Repr

namespace Path

def slash : UInt8 := 0x2F

def dot : UInt8 := 0x2E

def ofString (s : String) : Path := ⟨Text.encode s.toList⟩

/-- The path as it is shown in messages, with U+FFFD where it is not UTF-8. -/
def shown (p : Path) : String := Text.decodeLossy p.bytes

def text? (p : Path) : Option String :=
  match Text.decode p.bytes with
  | .ok cs => some (String.ofList cs)
  | .error _ => none

/-- The stretches between slashes that name something: neither empty nor a lone dot. -/
def components (p : Path) : List Bytes :=
  (Text.splitAt (· == slash) p.bytes).filter (fun part => part ≠ [] ∧ part ≠ [dot])

/-- The final component, unless there is none or it is `..`. -/
def fileName? (p : Path) : Option Bytes :=
  match p.components.getLast? with
  | some name => if name = [dot, dot] then none else some name
  | none => none

/-- The bytes behind the last dot of the final component; a dot at its start does not count. -/
def extension? (p : Path) : Option Bytes :=
  match p.fileName? with
  | none => none
  | some name =>
    match name.reverse.dropWhile (· ≠ dot) with
    | [] => none
    | [_] => none
    | _ :: _ :: _ => some (name.reverse.takeWhile (· ≠ dot)).reverse

end Path

end Handoff
