import Handoff.FileError
import Handoff.Path

/-!
A file system: a table of objects, in which directories give names to objects. A name can come to mean
another object, but an object never leaves the table, so whoever holds one keeps it.
-/

namespace Handoff

/-- The number of an object in the table of a file system. -/
abbrev FileId := Nat

/-- What an object of a file system is. -/
inductive FileNode
  | file (content : Bytes)
  | directory (parent : FileId) (entries : List (Bytes × FileId))
  | link (target : Bytes)
deriving DecidableEq, Repr

/-- The objects of a file system, and the directory that relative paths start from. -/
structure FileSystem where
  nodes : Array FileNode
  workingDirectory : FileId
deriving Repr

/-- Where a path leads: to a directory by no name of its own, to an object with a name in a directory,
or to a name that is still free. -/
inductive FilePlace
  | directory (id : FileId)
  | named (parent : FileId) (name : Bytes) (id : FileId)
  | free (parent : FileId) (name : Bytes)
deriving DecidableEq, Repr

namespace FileSystem

def root : FileId := 0

def directorySize : Nat := 4096

def linkLimit : Nat := 40

def nameLimit : Nat := 255

def pathLimit : Nat := 4096

/-- The empty file system whose working directory lies two levels below the root. -/
def empty : FileSystem where
  nodes := #[.directory 0 [(Text.encode "tmp".toList, 1)],
    .directory 0 [(Text.encode "work".toList, 2)], .directory 1 []]
  workingDirectory := 2

/-- The names a path goes through. A slash at its end asks for a directory, as a lone dot does. -/
def steps (path : Bytes) : List Bytes :=
  match (Text.splitAt (· == Path.slash) path).filter (· ≠ []) with
  | [] => []
  | names => if path.getLast? = some Path.slash then names ++ [[Path.dot]] else names

/-- The directory a path starts from when met in the directory `here`. -/
def start (here : FileId) (path : Bytes) : FileId :=
  if path.head? = some Path.slash then root else here

/-- Goes through names from a directory. A link on the way is handed to `enter` with its target and the
names that remain; one at the end only if `followLast`. -/
def stroll (fs : FileSystem) (followLast : Bool)
    (enter : FileId → Bytes → List Bytes → Except FileError FilePlace) :
    FileId → List Bytes → Except FileError FilePlace
  | here, [] => .ok (.directory here)
  | here, name :: rest =>
    match fs.nodes[here]? with
    | some (.directory parent entries) =>
      if name = [Path.dot] then stroll fs followLast enter here rest
      else if name = [Path.dot, Path.dot] then stroll fs followLast enter parent rest
      else if name.length > nameLimit then .error .nameTooLong
      else match entries.lookup name with
        | none => if rest = [] then .ok (.free here name) else .error .notFound
        | some id =>
          match fs.nodes[id]? with
          | some (.link target) =>
            if rest = [] ∧ ¬ followLast then .ok (.named here name id) else enter here target rest
          | some (.directory _ _) =>
            if rest = [] then .ok (.named here name id) else stroll fs followLast enter id rest
          | _ => if rest = [] then .ok (.named here name id) else .error .notADirectory
    | _ => .error .notADirectory

/-- Goes through names from a directory, and through at most `links` links. -/
def walk (fs : FileSystem) (followLast : Bool) :
    Nat → FileId → List Bytes → Except FileError FilePlace
  | 0 => stroll fs followLast (fun _ _ _ => .error .tooManyLinks)
  | links + 1 => stroll fs followLast (fun here target rest =>
      walk fs followLast links (start here target) (steps target ++ rest))

def locate (fs : FileSystem) (followLast : Bool) (path : Path) : Except FileError FilePlace :=
  if 0 ∈ path.bytes then .error .nulInPath
  else if path.bytes = [] then .error .notFound
  else if path.bytes.length ≥ pathLimit then .error .nameTooLong
  else walk fs followLast linkLimit (start fs.workingDirectory path.bytes) (steps path.bytes)

def find (fs : FileSystem) (path : Path) : Except FileError FileId :=
  match fs.locate true path with
  | .ok (.directory id) => .ok id
  | .ok (.named _ _ id) => .ok id
  | .ok (.free _ _) => .error .notFound
  | .error e => .error e

/-- The content of an object, if it is a regular file. -/
def content (fs : FileSystem) (id : FileId) : Except FileError Bytes :=
  match fs.nodes[id]? with
  | some (.file bytes) => .ok bytes
  | some (.directory _ _) => .error .isADirectory
  | _ => .error .notFound

def size (fs : FileSystem) (id : FileId) : Nat :=
  match fs.nodes[id]? with
  | some (.file bytes) => bytes.length
  | some (.directory _ _) => directorySize
  | _ => 0

def isDirectory (fs : FileSystem) (path : Path) : Bool :=
  match fs.find path with
  | .ok id => match fs.nodes[id]? with
    | some (.directory _ _) => true
    | _ => false
  | .error _ => false

def read (fs : FileSystem) (path : Path) : Except FileError Bytes :=
  match fs.find path with
  | .ok id => fs.content id
  | .error e => .error e

def readText (fs : FileSystem) (path : Path) : Except FileError (List Char) :=
  match fs.read path with
  | .ok bytes => match Text.decode bytes with
    | .ok cs => .ok cs
    | .error _ => .error .notText
  | .error e => .error e

end FileSystem

end Handoff
