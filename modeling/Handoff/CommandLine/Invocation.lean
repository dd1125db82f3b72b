import Handoff.CommandLine.Setting
import Handoff.Text.Split

/-!
What a command line asks for. Arguments are taken one after another, and the first that is wrong, or that
asks for help, decides. A setting that has no argument is taken from the environment.
-/

namespace Handoff.CommandLine

/-- What is asked for. -/
inductive Invocation
  | help
  | version
  | run (arguments : Arguments)
  | checkConfig (path : Path)
deriving DecidableEq, Repr

/-- What is wrong with a command line. -/
inductive UsageError
  | missingCommand
  | unknownCommand (word : String)
  | unexpectedArgument (word : String)
  | missingValue (s : Setting)
  | invalidValue (s : Setting) (value : String)
  | repeated (s : Setting)
  | missing (s : Setting)
deriving DecidableEq, Repr

def UsageError.message : UsageError → String
  | missingCommand => "a command is required"
  | unknownCommand word => "unrecognized command '" ++ word ++ "'"
  | unexpectedArgument word => "unexpected argument '" ++ word ++ "' found"
  | missingValue s => "a value is required for '--" ++ s.name ++ "' but none was supplied"
  | invalidValue s value => "invalid value '" ++ value ++ "' for '--" ++ s.name ++ "'"
  | repeated s => "the argument '--" ++ s.name ++ "' cannot be used multiple times"
  | missing s => "the argument '--" ++ s.name ++ "' is required"

/-- The variables of the environment with their values. -/
abbrev Environment := List (String × String)

/-- What an argument is. -/
inductive Word
  -- No settings follow.
  | separator
  | help
  -- A setting, with its value if that is in the same argument.
  | setting (s : Setting) (value : Option String)
  | other
deriving DecidableEq, Repr

/-- Tells what an argument is: `--name`, `--name=value`, `-l`, `-lvalue` or `-l=value`. -/
def Word.ofArgument (settings : List Setting) (argument : String) : Word :=
  match argument.toList with
  | ['-', '-'] => .separator
  | '-' :: '-' :: cs =>
    let (name, value) := Text.splitOnce '=' cs
    if name = "help".toList ∧ value = none then .help
    else match settings.find? (fun s => s.name.toList = name) with
      | some s => .setting s (value.map String.ofList)
      | none => .other
  | '-' :: 'h' :: _ => .help
  | '-' :: c :: cs =>
    match settings.find? (fun s => s.letter? = some c), cs with
    | some s, [] => .setting s none
    | some s, '=' :: value => .setting s (some (String.ofList value))
    | some s, value => .setting s (some (String.ofList value))
    | none, _ => .other
  | _ => .other

/-- Whether an argument can be the value of the one before it. -/
def isValue (argument : String) : Bool := argument = "-" || argument.toList.head? ≠ some '-'

/-- The settings that were given, and what they amount to. -/
structure Given where
  settings : List Setting := []
  arguments : Arguments := {}

def Given.add (g : Given) (s : Setting) (value : String) : Except UsageError Given :=
  if s ∈ g.settings then .error (.repeated s)
  else match s.assign? value g.arguments with
    | some a => .ok ⟨s :: g.settings, a⟩
    | none => .error (.invalidValue s value)

/-- Puts in all settings that arguments give; the answer is `none` if one asks for help. -/
def Given.addAll (settings : List Setting) (g : Given) : List String → Except UsageError (Option Given)
  | [] => .ok (some g)
  | argument :: rest =>
    match Word.ofArgument settings argument with
    | .separator =>
      match rest with
      | [] => .ok (some g)
      | extra :: _ => .error (.unexpectedArgument extra)
    | .help => .ok none
    | .setting s (some value) =>
      match g.add s value with
      | .ok g => g.addAll settings rest
      | .error e => .error e
    | .setting s none =>
      match rest with
      | [] => .error (.missingValue s)
      | value :: rest =>
        if isValue value then
          match g.add s value with
          | .ok g => g.addAll settings rest
          | .error e => .error e
        else .error (.missingValue s)
    | .other => .error (.unexpectedArgument argument)

/-- Puts in the settings that were not given, from the environment. -/
def Given.complete (environment : Environment) (g : Given) : List Setting → Except UsageError Given
  | [] => .ok g
  | s :: rest =>
    match environment.lookup s.variableName with
    | none => g.complete environment rest
    | some value =>
      if s ∈ g.settings then g.complete environment rest
      else match g.add s value with
        | .ok g => g.complete environment rest
        | .error e => .error e

def Command.invocation (c : Command) (a : Arguments) : Except UsageError Invocation :=
  match c, a.config with
  | .run, _ => .ok (.run a)
  | .checkConfig, some path => .ok (.checkConfig path)
  | .checkConfig, none => .error (.missing .config)

def Command.read (c : Command) (environment : Environment) (arguments : List String) :
    Except UsageError Invocation :=
  match Given.addAll c.settings {} arguments with
  | .error e => .error e
  | .ok none => .ok .help
  | .ok (some g) =>
    match g.complete environment c.settings with
    | .error e => .error e
    | .ok g => c.invocation g.arguments

/-- Reads what stands behind `help`: nothing, or the name of one command. -/
def readHelp (arguments : List String) : Except UsageError Invocation :=
  match arguments with
  | [] => .ok .help
  | [word] =>
    if (Command.ofName? word).isSome || word = "help" then .ok .help else .error (.unknownCommand word)
  | _ :: word :: _ => .error (.unknownCommand word)

def Invocation.read (environment : Environment) (arguments : List String) :
    Except UsageError Invocation :=
  match arguments with
  | [] => .error .missingCommand
  | word :: rest =>
    match Command.ofName? word with
    | some c => c.read environment rest
    | none =>
      if word = "help" then readHelp rest
      else if word = "--help" || "-h".toList.isPrefixOf word.toList then .ok .help
      else if word = "--version" || "-V".toList.isPrefixOf word.toList then .ok .version
      else .error (.unknownCommand word)

end Handoff.CommandLine
