import Handoff.FileSystem.Basic
import Handoff.ContentType

/-!
A result file opened for upload. It is held by its object, so later changes of names do not touch it.
-/

namespace Handoff

/-- An opened result file. -/
structure Artifact where
  -- The path it was opened by.
  path : Path
  -- The content type its extension decides.
  contentType : Option ContentType
  -- Its size when it was opened.
  size : Nat
  -- The object that was opened.
  file : FileId
deriving DecidableEq, Repr

namespace Artifact

/-- Opens the file a path leads to. A directory opens too, and fails when it is read. -/
def openFile (fs : FileSystem) (path : Path) : Except FileError Artifact :=
  match fs.find path with
  | .ok id => .ok ⟨path, ContentType.ofPath? path, fs.size id, id⟩
  | .error cause => .error cause

def isEmpty (a : Artifact) : Bool := a.size == 0

def readAll (fs : FileSystem) (a : Artifact) : Except FileError Bytes := fs.content a.file

end Artifact

end Handoff
