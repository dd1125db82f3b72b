import Handoff.Decimal.Real

/-!
TOML documents: keys, values and tables, each with the stretch of text it was read from.
-/

namespace Handoff.Toml

/-- A stretch of a text: the text from its start on, and the text behind it. -/
structure Span where
  start : List Char
  stop : List Char
deriving DecidableEq, Repr

/-- A key as it stands in a document. -/
structure Key where
  name : List Char
  span : Span
deriving DecidableEq, Repr

/-- A value without parts. -/
inductive Scalar
  | text (cs : List Char)
  | integer (n : Int)
  | real (x : Decimal.Real)
  | boolean (b : Bool)
  | datetime
deriving DecidableEq, Repr

/-- How a table came to be, which decides how it may be extended. -/
inductive TableKind
  -- Written between braces; it is closed.
  | inline
  -- Opened by a header of its own.
  | header
  -- Opened by a header further down.
  | implied
  -- Opened by a key with dots.
  | dotted
deriving DecidableEq, Repr

/-- What a key stands for. -/
inductive Item
  | scalar (value : Scalar) (span : Span)
  | array (items : List Item) (span : Span)
  | table (kind : TableKind) (entries : List (Key × Item)) (span : Option Span)
  -- Tables opened by headers between double brackets.
  | tables (items : List Item) (span : Option Span)

/-- The entries of a table, in the order in which they came to be. -/
abbrev Entries := List (Key × Item)

/-- The stretch an item was read from; a table that no text stands for has none. -/
def Item.span? : Item → Option Span
  | scalar _ span => some span
  | array _ span => some span
  | table _ _ span => span
  | tables _ span => span

end Handoff.Toml
