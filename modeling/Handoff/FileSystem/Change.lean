import Handoff.FileSystem.Basic

/-!
Changes of a file system from outside: files are written, extended, renamed and removed.
-/

namespace Handoff

/-- A change of a file system. One that cannot be made leaves everything as it was. -/
inductive FileChange
  -- Puts the content of a file in place, and makes the directories above it.
  | write (path : Path) (content : Bytes)
  -- Puts bytes at the end of a file, which is made if it is not there.
  | append (path : Path) (content : Bytes)
  -- Makes a directory and those above it.
  | makeDirectory (path : Path)
  -- Makes a symbolic link, and the directories above it.
  | makeLink (path : Path) (target : Bytes)
  -- Takes a name away, with all that lies below it.
  | remove (path : Path)
  -- Moves an object to another name.
  | rename (source target : Path)
deriving DecidableEq, Repr

namespace FileSystem

def setNode (fs : FileSystem) (id : FileId) (node : FileNode) : FileSystem :=
  { fs with nodes := fs.nodes.setIfInBounds id node }

def withoutName (name : Bytes) (entries : List (Bytes × FileId)) : List (Bytes × FileId) :=
  entries.filter (fun entry => entry.1 ≠ name)

def unlink (fs : FileSystem) (parent : FileId) (name : Bytes) : FileSystem :=
  match fs.nodes[parent]? with
  | some (.directory up entries) => fs.setNode parent (.directory up (withoutName name entries))
  | _ => fs

/-- Gives an object a name in a directory, in place of what had that name. -/
def enter (fs : FileSystem) (parent : FileId) (name : Bytes) (id : FileId) : FileSystem :=
  match fs.nodes[parent]? with
  | some (.directory up entries) =>
    fs.setNode parent (.directory up (withoutName name entries ++ [(name, id)]))
  | _ => fs

def create (fs : FileSystem) (parent : FileId) (name : Bytes) (node : FileNode) : FileSystem :=
  { fs with nodes := fs.nodes.push node }.enter parent name fs.nodes.size

/-- Makes the directories that a path runs through and that are missing, from a directory on. -/
def makeDirectories (fs : FileSystem) (here : FileId) : List Bytes → FileSystem
  | [] => fs
  | name :: rest =>
    match fs.walk true linkLimit here [name] with
    | .ok (.directory id) => makeDirectories fs id rest
    | .ok (.named _ _ id) => makeDirectories fs id rest
    | .ok (.free parent free) =>
      makeDirectories (fs.create parent free (.directory parent [])) fs.nodes.size rest
    | .error _ => fs

def makeDirectory (fs : FileSystem) (path : Path) : FileSystem :=
  if 0 ∈ path.bytes then fs
  else fs.makeDirectories (start fs.workingDirectory path.bytes) (steps path.bytes)

/-- Makes the directories above the last name of a path. -/
def makeParents (fs : FileSystem) (path : Path) : FileSystem :=
  if 0 ∈ path.bytes then fs
  else fs.makeDirectories (start fs.workingDirectory path.bytes) (steps path.bytes).dropLast

/-- Changes the content of the file a path leads to; a missing file counts as empty and is made. -/
def updateFile (fs : FileSystem) (path : Path) (f : Bytes → Bytes) : FileSystem :=
  match fs.locate true path with
  | .ok (.named _ _ id) =>
    match fs.nodes[id]? with
    | some (.file old) => fs.setNode id (.file (f old))
    | _ => fs
  | .ok (.free parent name) => fs.create parent name (.file (f []))
  | _ => fs

/-- Whether a directory is `ancestor` or lies below it, at most `fuel` levels down. -/
def isBelow (fs : FileSystem) (ancestor : FileId) : Nat → FileId → Bool
  | 0, _ => false
  | fuel + 1, id =>
    if id = ancestor then true
    else match fs.nodes[id]? with
      | some (.directory parent _) => if parent = id then false else isBelow fs ancestor fuel parent
      | _ => false

/-- Puts an object under another name. A directory takes only the place of an empty directory, and
never one below itself; nothing else takes the place of a directory. -/
def move (fs : FileSystem) (parent : FileId) (name : Bytes) (id : FileId) (target : FilePlace) :
    FileSystem :=
  let moved (toParent : FileId) (toName : Bytes) :=
    let fs := (fs.unlink parent name).enter toParent toName id
    match fs.nodes[id]? with
    | some (.directory _ entries) => fs.setNode id (.directory toParent entries)
    | _ => fs
  match fs.nodes[id]?, target with
  | some (.directory _ _), .free toParent toName =>
    if fs.isBelow id fs.nodes.size toParent then fs else moved toParent toName
  | some (.directory _ _), .named toParent toName old =>
    if old = id ∨ fs.isBelow id fs.nodes.size toParent then fs
    else match fs.nodes[old]? with
      | some (.directory _ []) => moved toParent toName
      | _ => fs
  | some _, .free toParent toName => moved toParent toName
  | some _, .named toParent toName old =>
    if old = id then fs
    else match fs.nodes[old]? with
      | some (.directory _ _) => fs
      | _ => moved toParent toName
  | _, _ => fs

def apply (fs : FileSystem) : FileChange → FileSystem
  | .write path content => (fs.makeParents path).updateFile path (fun _ => content)
  | .append path content => fs.updateFile path (· ++ content)
  | .makeDirectory path => fs.makeDirectory path
  | .makeLink path target =>
    let fs := fs.makeParents path
    match fs.locate false path with
    | .ok (.free parent name) => fs.create parent name (.link target)
    | _ => fs
  | .remove path =>
    match fs.locate false path with
    | .ok (.named parent name _) => fs.unlink parent name
    | _ => fs
  | .rename source target =>
    match fs.locate false source, fs.locate false target with
    | .ok (.named parent name id), .ok place => fs.move parent name id place
    | _, _ => fs

def applyAll (fs : FileSystem) (changes : List FileChange) : FileSystem := changes.foldl apply fs

end FileSystem

end Handoff
