import Handoff.Text.Blank
import Handoff.Text.Numeral
import Handoff.Text.Split
import Handoff.Unicode.Letter

/-!
Regular expressions, as far as it takes to tell which texts are some. They match texts of Unicode
characters; letter cases are told apart, and classes of characters beyond ASCII have no names, unless
flags turn to bytes.
-/

namespace Handoff.Log.Pattern

/-- What flags have set. -/
structure Mode where
  -- Letters of either case match.
  ignoreCase : Bool := false
  -- Characters are matched, not bytes.
  unicode : Bool := true
  -- Blanks and comments in the expression do not count.
  spaced : Bool := false
deriving DecidableEq, Repr

/-- Whether characters can stand for themselves: there is no table to ignore their case by. -/
def Mode.admitsLiterals (m : Mode) : Bool := !(m.unicode && m.ignoreCase)

/-- The text behind blanks and comments, from within a comment or not. -/
def skipFrom (comment : Bool) : List Char → List Char
  | [] => []
  | c :: rest =>
    if comment then skipFrom (c ≠ '\n') rest
    else if Text.isBlank c then skipFrom false rest
    else if c = '#' then skipFrom true rest
    else c :: rest

def skip (m : Mode) (cs : List Char) : List Char := if m.spaced then skipFrom false cs else cs

/-- What a backslash with the characters behind it stands for. -/
inductive Escape
  | literal (c : Char)
  -- A byte by its value.
  | byte (c : Char)
  -- Digits, blanks or letters, or all but these.
  | kind (others : Bool)
  -- The start or end of the text.
  | edge
  -- The start, the end or the inside of a word.
  | wordEdge
deriving DecidableEq, Repr

def hexadecimal? (m : Mode) (value : Nat) : Nat → List Char → Option (Nat × List Char)
  | 0, cs => some (value, cs)
  | n + 1, cs =>
    match skip m cs with
    | c :: rest => (Text.digit? 16 c).bind (fun d => hexadecimal? m (value * 16 + d) n rest)
    | [] => none

def scalar? (n : Nat) : Option Char :=
  if n < 0xD800 ∨ (0xE000 ≤ n ∧ n < 0x110000) then some (Char.ofNat n) else none

def escape? (m : Mode) : List Char → Option (Escape × List Char)
  | [] => none
  | c :: rest =>
    let coded (digits : Nat) : Option (Char × List Char) :=
      (hexadecimal? m 0 digits rest).bind (fun (n, rest) => (scalar? n).map (·, rest))
    if c = 'x' then (coded 2).map (fun (c, rest) => (.byte c, rest))
    else if c = 'u' then (coded 4).map (fun (c, rest) => (.literal c, rest))
    else if c = 'U' then (coded 8).map (fun (c, rest) => (.literal c, rest))
    else if "dsw".toList.contains c then some (.kind false, rest)
    else if "DSW".toList.contains c then some (.kind true, rest)
    else if "Az".toList.contains c then some (.edge, rest)
    else if "bB<>".toList.contains c then some (.wordEdge, rest)
    else
      let letters := [('a', '\x07'), ('f', '\x0C'), ('n', '\n'), ('r', '\r'), ('t', '\t'), ('v', '\x0B')]
      match letters.lookup c with
      | some c => some (.literal c, rest)
      | none => if c.toNat < 0x80 ∧ ¬ c.isAlphanum then some (.literal c, rest) else none

def Escape.stands (m : Mode) : Escape → Bool
  | literal _ => m.admitsLiterals
  | byte c => m.admitsLiterals && (m.unicode || c.toNat < 0x80)
  | kind others => !m.unicode && !others
  | edge => true
  | wordEdge => !m.unicode

/-- Reads the name of a class within a class behind its bracket, and whether it means all others. -/
def named? (cs : List Char) : Option (Bool × List Char) :=
  match cs with
  | ':' :: rest =>
    let others := rest.head? = some '^'
    let (name, rest) := Text.cutAt (· == ':') (if others then rest.drop 1 else rest)
    match rest with
    | ':' :: ']' :: rest =>
      if String.ofList name ∈ ["alnum", "alpha", "ascii", "blank", "cntrl", "digit", "graph", "lower",
          "print", "punct", "space", "upper", "word", "xdigit"] then
        some (others, rest)
      else none
    | _ => none
  | _ => none

/-- Passes at most so many hyphens that stand for themselves, and says whether there are any. -/
def passHyphens (m : Mode) : Nat → List Char → Bool × List Char
  | n + 1, '-' :: rest => (true, (passHyphens m n (skip m rest)).2)
  | _, cs => (false, cs)

/-- Reads the start of a class behind its bracket: the sign that it means all others, hyphens, and a
closing bracket that stands for itself. Bytes that are not ASCII cannot be meant. -/
def opening? (m : Mode) (cs : List Char) : Option (List Char) :=
  let cs := skip m cs
  let others := cs.head? = some '^'
  let (hyphens, rest) := passHyphens m cs.length (if others then skip m (cs.drop 1) else cs)
  let bracket := !hyphens && rest.head? == some ']'
  if (others && !m.unicode) || ((hyphens || bracket) && !m.admitsLiterals) then none
  else some (if bracket then rest.drop 1 else rest)

/-- Reads one end of a range in a class, or what else stands for itself there. -/
def member? (m : Mode) : List Char → Option (Escape × List Char)
  | [] => none
  | '\\' :: rest => escape? m rest
  | c :: rest => some (.literal c, rest)

/-- The character of a member that stands for itself in a class. -/
def Escape.char? (m : Mode) : Escape → Option Char
  | literal c => if m.admitsLiterals ∧ (m.unicode ∨ c.toNat < 0x80) then some c else none
  | byte c => if m.admitsLiterals ∧ (m.unicode ∨ c.toNat < 0x80) then some c else none
  | _ => none

/-- Reads a member of a class: a range from a character to one that is not before it, a character, or
digits, blanks or letters. -/
def item? (m : Mode) (cs : List Char) : Option (List Char) :=
  (member? m cs).bind fun (first, rest) =>
  let isRange := match skip m rest with
    | '-' :: behind => !((skip m behind).head? == some ']' || (skip m behind).head? == some '-')
    | _ => false
  if isRange then
    (member? m (skip m ((skip m rest).drop 1))).bind fun (last, rest) =>
    match first.char? m, last.char? m with
    | some a, some b => if a ≤ b then some rest else none
    | _, _ => none
  else if (first.char? m).isSome ∨ (first = .kind false ∧ m.unicode = false) then some (skip m rest)
  else none

/-- Reads a class with `depth` brackets open around it, up to the last closing one. At most `fuel`
members are read. -/
def class? (m : Mode) (depth : Nat) : Nat → List Char → Option (List Char)
  | 0, _ => none
  | fuel + 1, cs =>
    match skip m cs with
    | [] => none
    | '[' :: rest =>
      match named? rest with
      | some (others, rest) =>
        if m.admitsLiterals && (m.unicode || !others) then class? m depth fuel rest else none
      | none => (opening? m rest).bind (class? m (depth + 1) fuel)
    | ']' :: rest => if depth = 0 then some rest else class? m (depth - 1) fuel rest
    | '&' :: '&' :: rest => class? m depth fuel rest
    | '-' :: '-' :: rest => class? m depth fuel rest
    | '~' :: '~' :: rest => class? m depth fuel rest
    | cs => (item? m cs).bind (class? m depth fuel)

/-- Reads flags up to a colon or closing bracket: letters, each at most once, of which those behind a
hyphen are cleared. Gives the mode, whether there are any, and the text from the mark that ends them. -/
def flags? (m : Mode) (set : Bool) (seen : List Char) : List Char → Option (Mode × List Char × List Char)
  | [] => none
  | c :: rest =>
    if c = ':' ∨ c = ')' then
      if seen.head? = some '-' then none else some (m, seen, c :: rest)
    else if seen.contains c then none
    else if c = '-' then flags? m false (c :: seen) rest
    else if c = 'i' then flags? { m with ignoreCase := set } set (c :: seen) rest
    else if c = 'u' then flags? { m with unicode := set } set (c :: seen) rest
    else if c = 'x' then flags? { m with spaced := set } set (c :: seen) rest
    else if "msUR".toList.contains c then flags? m set (c :: seen) rest
    else none

def isName (cs : List Char) : Bool :=
  match cs with
  | [] => false
  | c :: rest => (c == '_' || Unicode.isLetter c) &&
    rest.all (fun c => "_.[]".toList.contains c || Unicode.isLetterOrFigure c)

/-- What an opening parenthesis starts. -/
inductive Opening
  -- Flags for what follows.
  | flags (m : Mode)
  -- A group with a mode of its own, and its name if it has one.
  | group (m : Mode) (name : Option (List Char))

/-- Reads what stands behind an opening parenthesis. -/
def parenthesis? (m : Mode) (cs : List Char) : Option (Opening × List Char) :=
  let named (cs : List Char) : Option (Opening × List Char) :=
    match Text.splitOnce '>' cs with
    | (name, some rest) => if isName name then some (.group m (some name), rest) else none
    | (_, none) => none
  match skip m cs with
  | '?' :: 'P' :: '<' :: rest => named rest
  | '?' :: '<' :: rest => named rest
  | '?' :: rest =>
    match flags? m true [] rest with
    | some (inner, _, ':' :: rest) => some (.group inner none, rest)
    | some (inner, seen, _ :: rest) => if seen = [] then none else some (.flags inner, rest)
    | _ => none
  | cs => some (.group m none, cs)

/-- Where reading an expression is: the mode, those around the open groups, the names of groups so far,
and whether what was read last can be repeated. -/
structure State where
  mode : Mode := {}
  outer : List Mode := []
  names : List (List Char) := []
  repeatable : Bool := false

/-- Reads the next part of an expression; nothing if it cannot stand there. -/
def next? (s : State) : List Char → Option (State × List Char)
  | [] => none
  | c :: rest =>
    if c = '(' then
      match parenthesis? s.mode rest with
      | none => none
      | some (.flags m, rest) => some ({ s with mode := m, repeatable := false }, rest)
      | some (.group m none, rest) =>
        some ({ s with mode := m, outer := s.mode :: s.outer, repeatable := false }, rest)
      | some (.group m (some name), rest) =>
        if s.names.contains name then none
        else some (⟨m, s.mode :: s.outer, name :: s.names, false⟩, rest)
    else if c = ')' then
      match s.outer with
      | [] => none
      | m :: outer => some ({ s with mode := m, outer := outer, repeatable := true }, rest)
    else if c = '|' then some ({ s with repeatable := false }, rest)
    else if c = '*' ∨ c = '+' ∨ c = '?' then
      if s.repeatable then some (s, if rest.head? = some '?' then rest.drop 1 else rest) else none
    else if c = '\x7b' then none
    else
      let done (rest : List Char) : State × List Char := ({ s with repeatable := true }, rest)
      if c = '[' then
        ((opening? s.mode rest).bind (class? s.mode 0 (rest.length + 1))).map done
      else if c = '\\' then
        (escape? s.mode rest).bind fun (e, rest) => if e.stands s.mode then some (done rest) else none
      else if c = '^' ∨ c = '$' then some (done rest)
      else if c = '.' then if s.mode.unicode then some (done rest) else none
      else if s.mode.admitsLiterals then some (done rest) else none

/-- Reads the rest of an expression, at most `fuel` parts. -/
def completes (s : State) : Nat → List Char → Bool
  | 0, _ => false
  | fuel + 1, cs =>
    match skip s.mode cs with
    | [] => s.outer.isEmpty
    | cs =>
      match next? s cs with
      | some (s, rest) => completes s fuel rest
      | none => false

/-- Whether a text is a regular expression. A number of repetitions cannot be given. -/
def isPattern (cs : List Char) : Bool := completes {} (cs.length + 1) cs

end Handoff.Log.Pattern
