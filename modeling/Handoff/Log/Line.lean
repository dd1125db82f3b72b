import Handoff.Log.Entry
import Handoff.Text.Numeral

/-!
Entries of the log as lines: one JSON object each, or a plain text.
-/

namespace Handoff.Log

def jsonChar (c : Char) : List Char :=
  if c = '"' then ['\\', '"']
  else if c = '\\' then ['\\', '\\']
  else if c = '\n' then ['\\', 'n']
  else if c = '\r' then ['\\', 'r']
  else if c = '\t' then ['\\', 't']
  else if c.toNat < 0x20 then
    let digits := Text.hexadecimal c.toNat
    '\\' :: 'u' :: List.replicate (4 - digits.length) '0' ++ digits
  else [c]

def jsonString (s : String) : String := String.ofList ('"' :: s.toList.flatMap jsonChar ++ ['"'])

/-- A value in JSON. A real number has a point even if it is whole. -/
def Value.json : Value → String
  | text s => jsonString s
  | natural n => toString n
  | real x =>
    let digits := (Value.real x).shown
    if '.' ∈ digits.toList then digits else digits ++ ".0"

/-- An entry as a JSON object, with its fields beside the level, the message and the target. -/
def Entry.json (e : Entry) : String :=
  let member (m : String × String) : String := jsonString m.1 ++ ":" ++ m.2
  let members := [("level", jsonString e.level.name), ("message", jsonString e.message)] ++
    e.fields.map (fun (name, value) => (name, value.json)) ++ [("target", jsonString e.source.target)]
  "\x7b" ++ ",".intercalate (members.map member) ++ "\x7d"

def Entry.plain (e : Entry) : String :=
  let fields := e.fields.map (fun (name, value) => " " ++ name ++ "=" ++ value.shown)
  e.level.name ++ " " ++ e.source.target ++ ": " ++ e.message ++ String.join fields

end Handoff.Log
