import Handoff.Toml.Number
import Handoff.Toml.Table
import Handoff.Toml.Text

/-!
Reading a TOML document: its text is cut into statements, which fill tables. Every reader gives what it
read and the text that follows; nothing if the text is not of its form.
-/

namespace Handoff.Toml

abbrev Reading (α : Type) := List Char → Option (α × List Char)

def isBare (c : Char) : Bool := c.isAlphanum || c == '-' || c == '_'

/-- The most levels of arrays and tables within a value. -/
def nestingLimit : Nat := 79

def keyLimit : Nat := 79

/-- Reads one part of a key: bare, or a string on one line. -/
def keyPart? (cs : List Char) : Option (Key × List Char) :=
  match cs with
  | '"' :: rest => (basicOnto [] rest).map (fun (name, rest) => (⟨name, ⟨cs, rest⟩⟩, rest))
  | '\x27' :: rest => (literalOnto [] rest).map (fun (name, rest) => (⟨name, ⟨cs, rest⟩⟩, rest))
  | _ =>
    match cs.takeWhile isBare with
    | [] => none
    | name => let rest := cs.dropWhile isBare; some (⟨name, ⟨cs, rest⟩⟩, rest)

/-- Reads the parts of a key between dots, behind the parts `done`, which stand last first. At most `fuel`
parts are read. -/
def keyPartsOnto (done : List Key) : Nat → Reading (List Key)
  | 0, _ => none
  | fuel + 1, cs =>
    (keyPart? (skipSpace cs)).bind fun (part, rest) =>
    match skipSpace rest with
    | '.' :: rest => keyPartsOnto (part :: done) fuel rest
    | rest => some (part :: done, rest)

/-- Reads a key: the path before its last part, and that part. Spaces around the parts are passed over. -/
def key? (cs : List Char) : Option ((List Key × Key) × List Char) :=
  match keyPartsOnto [] keyLimit cs with
  | some (last :: path, rest) => some ((path.reverse, last), rest)
  | _ => none

def skipComment (cs : List Char) : List Char :=
  match cs with
  | '#' :: rest => rest.dropWhile isPlain
  | _ => cs

/-- The text behind spaces, line ends and comments, from within a comment or not. -/
def skipBlankFrom (comment : Bool) : List Char → List Char
  | [] => []
  | c :: rest =>
    if c = '\n' then skipBlankFrom false rest
    else if c = '\r' ∧ rest.head? = some '\n' then skipBlankFrom comment rest
    else if comment then if isPlain c then skipBlankFrom true rest else c :: rest
    else if c = ' ' ∨ c = '\t' then skipBlankFrom false rest
    else if c = '#' then skipBlankFrom true rest
    else c :: rest

/-- The text behind spaces, line ends and comments. -/
def skipBlank (cs : List Char) : List Char := skipBlankFrom false cs

def word? (w : List Char) (cs : List Char) : Option (List Char) :=
  if w.isPrefixOf cs then some (cs.drop w.length) else none

def number? (cs : List Char) : Option (Scalar × List Char) :=
  match datetime? cs with
  | some rest => some (.datetime, rest)
  | none =>
    match real? cs with
    | some (x, rest) => some (.real x, rest)
    | none => (integer? cs).map (fun (n, rest) => (.integer n, rest))

def scalar? (cs : List Char) : Option (Scalar × List Char) :=
  match cs with
  | [] => none
  | c :: _ =>
    if c = '"' ∨ c = '\x27' then (string? cs).map (fun (s, rest) => (.text s, rest))
    else if c = 't' then (word? "true".toList cs).map (fun rest => (.boolean true, rest))
    else if c = 'f' then (word? "false".toList cs).map (fun rest => (.boolean false, rest))
    else number? cs

/-- Reads the items of an array up to its closing bracket. `done` holds those read, last first; at most
`fuel` are read. -/
def arrayItemsOnto (item : Reading Item) (done : List Item) : Nat → Reading (List Item)
  | 0, _ => none
  | fuel + 1, cs =>
    match skipBlank cs with
    | ']' :: rest => some (done.reverse, rest)
    | cs =>
      (item cs).bind fun (x, rest) =>
      match skipBlank rest with
      | ',' :: rest => arrayItemsOnto item (x :: done) fuel rest
      | ']' :: rest => some ((x :: done).reverse, rest)
      | _ => none

def pair? (item : Reading Item) (cs : List Char) : Option ((List Key × Key × Item) × List Char) :=
  (key? cs).bind fun ((path, key), rest) =>
  match rest with
  | '=' :: rest => (item (skipSpace rest)).map (fun (x, rest) => ((path, key, x), rest))
  | _ => none

/-- Reads the pairs of a table between braces, behind its opening brace and in front of a pair. -/
def inlinePairsOnto (item : Reading Item) (done : Entries) : Nat → Reading Entries
  | 0, _ => none
  | fuel + 1, cs =>
    (pair? item cs).bind fun ((path, key, x), rest) =>
    (Entries.assign? false .inline key x path done).bind fun done =>
    match skipSpace rest with
    | ',' :: rest => inlinePairsOnto item done fuel rest
    | '\x7d' :: rest => some (done, rest)
    | _ => none

/-- Reads a value, whose parts are read by `inner`; nothing is read that has parts if there is none. -/
def itemWith (inner : Option (Reading Item)) (cs : List Char) : Option (Item × List Char) :=
  match cs, inner with
  | '[' :: rest, some item =>
    (arrayItemsOnto item [] (rest.length + 1) rest).map (fun (xs, rest) => (.array xs ⟨cs, rest⟩, rest))
  | '\x7b' :: rest, some item =>
    match skipSpace rest with
    | '\x7d' :: rest => some (.table .inline [] (some ⟨cs, rest⟩), rest)
    | rest =>
      (inlinePairsOnto item [] (rest.length + 1) rest).map (fun (entries, rest) =>
        (.table .inline entries (some ⟨cs, rest⟩), rest))
  | '[' :: _, none => none
  | '\x7b' :: _, none => none
  | _, _ => (scalar? cs).map (fun (x, rest) => (.scalar x ⟨cs, rest⟩, rest))

/-- Reads a value with at most so many levels of parts. -/
def item? : Nat → Reading Item
  | 0 => itemWith none
  | levels + 1 => itemWith (some (item? levels))

/-- Reads a header behind its opening brackets: its key, and the text behind the closing brackets. -/
def headerKey? (close : List Char) (cs : List Char) : Option ((List Key × Key) × List Char) :=
  (key? cs).bind fun (key, rest) => (word? close rest).map (fun rest => (key, rest))

def statement? (cs : List Char) : Option (Statement × List Char) :=
  match cs with
  | '[' :: '[' :: rest =>
    (headerKey? [']', ']'] rest).map (fun ((path, key), rest) => (.arrayHeader path key ⟨cs, rest⟩, rest))
  | '[' :: rest =>
    (headerKey? [']'] rest).map (fun ((path, key), rest) => (.header path key ⟨cs, rest⟩, rest))
  | _ => (pair? (item? nestingLimit) cs).map (fun ((path, key, x), rest) => (.assign path key x, rest))

/-- Reads all statements, each on lines of its own. `done` holds those read, last first; at most `fuel`
are read. -/
def statementsOnto (done : List Statement) : Nat → List Char → Option (List Statement)
  | 0, _ => none
  | fuel + 1, cs =>
    match skipBlank cs with
    | [] => some done.reverse
    | cs =>
      (statement? cs).bind fun (statement, rest) =>
      match skipComment (skipSpace rest) with
      | [] => some (statement :: done).reverse
      | rest => (lineEnd? rest).bind (statementsOnto (statement :: done) fuel)

/-- The text behind a byte order mark, if it starts with one. -/
def dropByteOrderMark : List Char → List Char
  | '\uFEFF' :: rest => rest
  | cs => cs

def read? (cs : List Char) : Option Entries :=
  (statementsOnto [] (cs.length + 1) (dropByteOrderMark cs)).bind Draft.build?

end Handoff.Toml
