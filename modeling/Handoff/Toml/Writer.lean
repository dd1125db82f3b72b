import Handoff.Text.Numeral

/-!
Writing a TOML document of sections. A text is written in the plainest of the four string forms that
holds it.
-/

namespace Handoff.Toml

/-- A value in a section. -/
inductive Setting
  | text (cs : List Char)
  | integer (n : Nat)
  | boolean (b : Bool)
deriving DecidableEq, Repr

/-- Sections by name, each with its settings, in order. -/
abbrev Sections := List (List Char × List (List Char × Setting))

/-- The forms of a string. -/
inductive StringForm
  | basic
  | literal
  | multiBasic
  | multiLiteral
deriving DecidableEq, Repr

/-- A control character that no form holds as it is. -/
def isControl (c : Char) : Bool := (c ≤ '\x1f' && c != '\t' && c != '\n') || c == '\x7f'

/-- The longest run of a character, when `run` of them stand before and `longest` was the longest. -/
def longestRun (c : Char) (run longest : Nat) : List Char → Nat
  | [] => longest
  | d :: rest =>
    if d = c then longestRun c (run + 1) (max longest (run + 1)) rest else longestRun c 0 longest rest

def StringForm.of (cs : List Char) : StringForm :=
  let control := cs.any isControl
  let escape := cs.contains '\\'
  let newline := cs.contains '\n'
  let doubles := longestRun '"' 0 0 cs
  let singles := longestRun '\x27' 0 0 cs
  if !control && !escape && doubles == 0 && !newline then basic
  else if !control && singles == 0 && !newline then literal
  else if !control && !escape && doubles ≤ 2 then multiBasic
  else if !control && singles ≤ 2 then multiLiteral
  else if newline then multiBasic
  else basic

def capitalDigit (n : Nat) : Char := if n < 10 then Char.ofNat (48 + n) else Char.ofNat (55 + n)

/-- A character of a basic string; over several lines a line feed is written as it is. -/
def escapeChar (multi : Bool) (c : Char) : List Char :=
  if c = '\x08' then ['\\', 'b']
  else if c = '\t' then ['\\', 't']
  else if c = '\n' then if multi then [c] else ['\\', 'n']
  else if c = '\x0c' then ['\\', 'f']
  else if c = '\r' then ['\\', 'r']
  else if c = '\\' then ['\\', '\\']
  else if isControl c then
    ['\\', 'u', '0', '0', capitalDigit (c.toNat / 16), capitalDigit (c.toNat % 16)]
  else [c]

/-- The content of a basic string, behind `run` quotes in a row. Over several lines two quotes in a row
are written as they are. -/
def basicBody (multi : Bool) (run : Nat) : List Char → List Char
  | [] => []
  | c :: rest =>
    if c = '"' then
      if run < (if multi then 2 else 0) then c :: basicBody multi (run + 1) rest
      else '\\' :: '"' :: basicBody multi 0 rest
    else escapeChar multi c ++ basicBody multi 0 rest

/-- The line end behind opening quotes, before a text of several lines. -/
def leadingLineEnd (cs : List Char) : List Char := if cs.contains '\n' then ['\n'] else []

def stringText (cs : List Char) : List Char :=
  match StringForm.of cs with
  | .basic => '"' :: basicBody false 0 cs ++ ['"']
  | .literal => '\x27' :: cs ++ ['\x27']
  | .multiBasic =>
    ['"', '"', '"'] ++ leadingLineEnd cs ++ basicBody true 0 cs ++ ['"', '"', '"']
  | .multiLiteral =>
    ['\x27', '\x27', '\x27'] ++ leadingLineEnd cs ++ cs ++ ['\x27', '\x27', '\x27']

def Setting.written : Setting → List Char
  | text cs => stringText cs
  | integer n => Text.decimal n
  | boolean b => if b then "true".toList else "false".toList

def settingLine (setting : List Char × Setting) : List Char :=
  setting.1 ++ ' ' :: '=' :: ' ' :: setting.2.written ++ ['\n']

def sectionText (s : List Char × List (List Char × Setting)) : List Char :=
  '[' :: s.1 ++ ']' :: '\n' :: s.2.flatMap settingLine

def write (sections : Sections) : List Char := ['\n'].intercalate (sections.map sectionText)

end Handoff.Toml
