import Handoff.Config.Decode
import Handoff.Config.Overrides
import Handoff.Config.Validation
import Handoff.FileSystem.Basic
import Handoff.Toml.Reader

/-!
The effective configuration: the defaults, then the file, then the overrides, checked as a whole.
-/

namespace Handoff.Config

/-- Why there is no effective configuration. -/
inductive Error
  -- The file cannot be read.
  | unreadable (path : Path) (cause : FileError)
  -- The file is not TOML.
  | malformed
  -- The file holds a value of the wrong type; with the text it holds.
  | mistyped (text : List Char) (fault : Toml.Fault)
  -- Checks failed.
  | invalid (issues : List Issue)

def issuesText (issues : List Issue) : String :=
  ", ".intercalate (issues.map (fun issue => issue.field ++ ": " ++ issue.message))

/-- The wording of a cause. What is wrong with a text that is not TOML is not told. -/
def Error.message : Error → String
  | unreadable path cause => "failed to read config file " ++ path.shown ++ ": " ++ cause.message
  | malformed => "parse error"
  | mistyped text fault => "parse error: " ++ fault.message text
  | invalid issues => "validation failed: " ++ issuesText issues

def parse (text : List Char) : Except Error Config :=
  match Toml.read? text with
  | none => .error .malformed
  | some entries =>
    match decode entries with
    | .ok c => .ok c
    | .error fault => .error (.mistyped text fault)

/-- The configuration of a file, or the defaults if there is none. -/
def ofFile (fs : FileSystem) (path : Option Path) : Except Error Config :=
  match path with
  | none => .ok {}
  | some path =>
    match fs.readText path with
    | .error cause => .error (.unreadable path cause)
    | .ok text => parse text

def validate (c : Config) : Except Error Config :=
  if c.issues = [] then .ok c else .error (.invalid c.issues)

def resolve (fs : FileSystem) (path : Option Path) (overrides : Overrides) : Except Error Config :=
  match ofFile fs path with
  | .error e => .error e
  | .ok c => validate (overrides.apply c)

end Handoff.Config
