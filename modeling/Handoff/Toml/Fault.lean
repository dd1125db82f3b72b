import Handoff.Text.Quoted
import Handoff.Text.Split
import Handoff.Text.Utf8
import Handoff.Toml.Basic

/-!
Values that are not of the type that is asked for, and the message that points at them in the text.
-/

namespace Handoff.Toml

/-- What is wrong with a value. -/
inductive FaultKind
  -- A value of one type stands where another is expected.
  | wrongType (found expected : String)
  -- A value is out of range.
  | wrongValue (found expected : String)
  -- A text is none of two words.
  | unknownVariant (found first second : String)
  -- A choice needs exactly one entry.
  | noEntry
  | manyEntries
  -- A choice is neither a text nor a table.
  | noChoice
  -- A choice carries something although it must not.
  | fullTable
  | fullArray
  | wrongPayload (found : String)
deriving DecidableEq, Repr

def FaultKind.message : FaultKind → String
  | wrongType found expected => "invalid type: " ++ found ++ ", expected " ++ expected
  | wrongValue found expected => "invalid value: " ++ found ++ ", expected " ++ expected
  | unknownVariant found first second =>
    "unknown variant `" ++ found ++ "`, expected `" ++ first ++ "` or `" ++ second ++ "`"
  | noEntry => "wanted exactly 1 element, found 0 elements"
  | manyEntries => "wanted exactly 1 element, more than 1 element"
  | noChoice => "wanted string or table"
  | fullTable => "expected empty table"
  | fullArray => "expected empty array"
  | wrongPayload found => "expected table, found " ++ found

/-- A fault, and the stretch of text it is about if that is known. -/
structure Fault where
  kind : FaultKind
  span : Option Span
deriving DecidableEq, Repr

/-- A fault about a stretch, unless it already is about one. -/
def Fault.about (span : Option Span) (f : Fault) : Fault := { f with span := f.span.or span }

/-- A float as it is named in a message, with a point unless it is infinite. -/
def shownReal (x : Decimal.Real) : String :=
  match x with
  | .finite _ _ => if x.shown.toList.contains '.' then x.shown else x.shown ++ ".0"
  | _ => x.shown

/-- How a value without parts is named in a message. -/
def Scalar.described : Scalar → String
  | text cs => "string " ++ String.ofList (Text.quoted cs)
  | integer n => "integer `" ++ toString n ++ "`"
  | real x => "floating point `" ++ shownReal x ++ "`"
  | boolean b => "boolean `" ++ (if b then "true" else "false") ++ "`"
  | datetime => "map"

def Item.described : Item → String
  | scalar x _ => x.described
  | array _ _ => "sequence"
  | table _ _ _ => "map"
  | tables _ _ => "sequence"

def Scalar.typeName : Scalar → String
  | text _ => "string"
  | integer _ => "integer"
  | real _ => "float"
  | boolean _ => "boolean"
  | datetime => "datetime"

def lines (cs : List Char) : List (List Char) := Text.splitAt (· == '\n') cs

/-- A message that points at a stretch of a text: the line and column of its start, the line, and a mark
below each byte of the stretch, as far as the line goes. -/
def pointer (whole : List Char) (span : Span) (message : String) : String :=
  let before := whole.take (whole.length - span.start.length)
  let parts := lines before
  let line := parts.length
  let column := (parts.getLast?.getD []).length
  let content := ((lines whole)[line - 1]?).getD []
  let bytes := Text.byteLength span.start - Text.byteLength span.stop
  let marks := max 1 (min bytes (Text.byteLength content - column))
  let number := toString line
  let margin := String.ofList (List.replicate (number.length + 1) ' ')
  "TOML parse error at line " ++ number ++ ", column " ++ toString (column + 1) ++ "\n" ++
    margin ++ "|\n" ++ number ++ " | " ++ String.ofList content ++ "\n" ++
    margin ++ "|" ++ String.ofList (List.replicate (column + 1) ' ' ++ List.replicate marks '^') ++ "\n" ++
    message ++ "\n"

def Fault.message (whole : List Char) (f : Fault) : String :=
  match f.span with
  | some span => pointer whole span f.kind.message
  | none => f.kind.message ++ "\n"

end Handoff.Toml
