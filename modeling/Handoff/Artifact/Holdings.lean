import Handoff.Artifact
import Handoff.FileSystem.Change

/-!
Opened result files, any number of them under names, while files change around them. Reading one uses it up.
-/

namespace Handoff

/-- What an opened result file tells without being read. -/
structure Artifact.Info where
  path : Path
  contentType : Option ContentType
  size : Nat
  isEmpty : Bool
deriving DecidableEq, Repr

def Artifact.info (a : Artifact) : Artifact.Info := ⟨a.path, a.contentType, a.size, a.isEmpty⟩

/-- The files, and the opened result files under their names. -/
structure Holdings where
  files : FileSystem
  held : String → Option Artifact

namespace Holdings

/-- Something that is done with opened result files, or to the files around them. -/
inductive Action
  | change (c : FileChange)
  -- Opens a file and holds it under a name, in place of what was held there.
  | openFile (name : String) (path : Path)
  | tell (name : String)
  -- Reads a file to its end and closes it.
  | read (name : String)
  | drop (name : String)
deriving DecidableEq, Repr

/-- The answer to an action. -/
inductive Reply
  | changed
  | opened (info : Artifact.Info)
  -- The file cannot be opened, and what was held under the name stays there.
  | unopened (cause : FileError)
  | told (info : Artifact.Info)
  | content (result : Except FileError Bytes)
  | dropped
  -- Nothing is held under the name.
  | absent

/-- The files, with no result file opened. -/
def ofFiles (files : FileSystem) : Holdings := ⟨files, fun _ => none⟩

def put (h : Holdings) (name : String) (a : Option Artifact) : Holdings :=
  { h with held := fun other => if other = name then a else h.held other }

def act (h : Holdings) : Action → Holdings × Reply
  | .change c => ({ h with files := h.files.apply c }, .changed)
  | .openFile name path =>
    match Artifact.openFile h.files path with
    | .ok a => (h.put name (some a), .opened a.info)
    | .error cause => (h, .unopened cause)
  | .tell name =>
    match h.held name with
    | some a => (h, .told a.info)
    | none => (h, .absent)
  | .read name =>
    match h.held name with
    | some a => (h.put name none, .content (a.readAll h.files))
    | none => (h, .absent)
  | .drop name =>
    match h.held name with
    | some _ => (h.put name none, .dropped)
    | none => (h, .absent)

/-- Carries out actions in order, and gives all answers. -/
def run (h : Holdings) : List Action → Holdings × List Reply
  | [] => (h, [])
  | action :: rest =>
    let (next, reply) := h.act action
    let (last, replies) := run next rest
    (last, reply :: replies)

end Holdings

end Handoff
