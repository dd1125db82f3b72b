import Handoff.Text.Numeral

/-!
Strings of a TOML document: basic ones with escapes and literal ones without, each on one line or over
several. Every reader gives the characters read and the text that follows.
-/

namespace Handoff.Toml

/-- Whether a character may stand in a document outside line ends: no control character but the tab. -/
def isPlain (c : Char) : Bool := c == '\t' || (' ' ≤ c && c != '\x7f')

/-- A line end: a line feed, or a carriage return before one. -/
def lineEnd? : List Char → Option (List Char)
  | '\n' :: rest => some rest
  | '\r' :: '\n' :: rest => some rest
  | _ => none

/-- The character that an escape without digits stands for. -/
def simpleEscape? : Char → Option Char
  | 'b' => some '\x08'
  | 't' => some '\t'
  | 'n' => some '\n'
  | 'f' => some '\x0c'
  | 'r' => some '\r'
  | '"' => some '"'
  | '\\' => some '\\'
  | _ => none

def charOfCode? (n : Nat) : Option Char := if h : n.isValidChar then some (Char.ofNatAux n h) else none

/-- An escape behind its backslash: the character it stands for, and the text behind it. -/
def escape? : List Char → Option (Char × List Char)
  | 'u' :: a :: b :: c :: d :: rest =>
    ((Text.numeral? 16 [a, b, c, d]).bind charOfCode?).map (fun x => (x, rest))
  | 'U' :: a :: b :: c :: d :: e :: f :: g :: h :: rest =>
    ((Text.numeral? 16 [a, b, c, d, e, f, g, h]).bind charOfCode?).map (fun x => (x, rest))
  | x :: rest => (simpleEscape? x).map (fun x => (x, rest))
  | [] => none

theorem escape?_length {cs rest : List Char} {c : Char} (h : escape? cs = some (c, rest)) :
    rest.length < cs.length := by
  unfold escape? at h
  split at h
  · simp only [Option.map_eq_some_iff, Prod.mk.injEq] at h
    obtain ⟨_, _, _, rfl⟩ := h
    simp only [List.length_cons]; omega
  · simp only [Option.map_eq_some_iff, Prod.mk.injEq] at h
    obtain ⟨_, _, _, rfl⟩ := h
    simp only [List.length_cons]; omega
  · simp only [Option.map_eq_some_iff, Prod.mk.injEq] at h
    obtain ⟨_, _, _, rfl⟩ := h
    simp
  · cases h

/-- Reads a basic string on one line, behind its opening quote. `done` holds the characters read, last
first. -/
def basicOnto (done : List Char) (cs : List Char) : Option (List Char × List Char) :=
  match cs with
  | [] => none
  | '"' :: rest => some (done.reverse, rest)
  | '\\' :: rest =>
    match _h : escape? rest with
    | some (c, rest') => basicOnto (c :: done) rest'
    | none => none
  | c :: rest => if isPlain c then basicOnto (c :: done) rest else none
termination_by cs.length
decreasing_by
  · have := escape?_length _h; simp only [List.length_cons]; omega
  · simp

/-- Reads a literal string on one line, behind its opening quote. -/
def literalOnto (done : List Char) : List Char → Option (List Char × List Char)
  | [] => none
  | '\x27' :: rest => some (done.reverse, rest)
  | c :: rest => if isPlain c then literalOnto (c :: done) rest else none

def skipLines : List Char → List Char
  | ' ' :: rest => skipLines rest
  | '\t' :: rest => skipLines rest
  | '\n' :: rest => skipLines rest
  | '\r' :: '\n' :: rest => skipLines rest
  | cs => cs

def skipSpace (cs : List Char) : List Char := cs.dropWhile (fun c => c == ' ' || c == '\t')

/-- The text behind a line end that a backslash hides, with the spaces and line ends that follow. -/
def hiddenLineEnd? (cs : List Char) : Option (List Char) := (lineEnd? (skipSpace cs)).map skipLines

theorem skipLines_length (cs : List Char) : (skipLines cs).length ≤ cs.length := by
  fun_induction skipLines cs <;> simp_all <;> omega

theorem skipSpace_length (cs : List Char) : (skipSpace cs).length ≤ cs.length :=
  (List.dropWhile_sublist _).length_le

theorem lineEnd?_length {cs rest : List Char} (h : lineEnd? cs = some rest) :
    rest.length < cs.length := by
  unfold lineEnd? at h
  split at h
  · simp_all
  · simp only [Option.some.injEq] at h; subst h; simp only [List.length_cons]; omega
  · cases h

theorem hiddenLineEnd?_length {cs rest : List Char} (h : hiddenLineEnd? cs = some rest) :
    rest.length < cs.length := by
  unfold hiddenLineEnd? at h
  obtain ⟨behind, h1, rfl⟩ := Option.map_eq_some_iff.1 h
  have := lineEnd?_length h1
  have := skipLines_length behind
  have := skipSpace_length cs
  omega

/-- The quotes that end a string over several lines: up to two in front of the last three belong to the
string. Gives those, and the text behind. -/
def closing? (quote : Char) (cs : List Char) : Option (List Char × List Char) :=
  match (cs.take 5).takeWhile (· == quote) with
  | [_, _, _] => some ([], cs.drop 3)
  | [_, _, _, _] => some ([quote], cs.drop 4)
  | [_, _, _, _, _] => some ([quote, quote], cs.drop 5)
  | _ => none

/-- Reads a basic string over several lines, behind its opening quotes. -/
def multiBasicOnto (done : List Char) (cs : List Char) : Option (List Char × List Char) :=
  match closing? '"' cs with
  | some (quotes, rest) => some ((quotes ++ done).reverse, rest)
  | none =>
    match cs with
    | [] => none
    | '\\' :: rest =>
      match _h : hiddenLineEnd? rest with
      | some rest' => multiBasicOnto done rest'
      | none =>
        match _h' : escape? rest with
        | some (c, rest') => multiBasicOnto (c :: done) rest'
        | none => none
    | c :: rest =>
      match _h : lineEnd? (c :: rest) with
      | some rest' => multiBasicOnto ('\n' :: done) rest'
      | none => if isPlain c then multiBasicOnto (c :: done) rest else none
termination_by cs.length
decreasing_by
  · have := hiddenLineEnd?_length _h; simp only [List.length_cons]; omega
  · have := escape?_length _h'; simp only [List.length_cons]; omega
  · exact lineEnd?_length _h
  · simp

/-- Reads a literal string over several lines, behind its opening quotes. -/
def multiLiteralOnto (done : List Char) (cs : List Char) : Option (List Char × List Char) :=
  match closing? '\x27' cs with
  | some (quotes, rest) => some ((quotes ++ done).reverse, rest)
  | none =>
    match cs with
    | [] => none
    | c :: rest =>
      match _h : lineEnd? (c :: rest) with
      | some rest' => multiLiteralOnto ('\n' :: done) rest'
      | none => if isPlain c then multiLiteralOnto (c :: done) rest else none
termination_by cs.length
decreasing_by
  · exact lineEnd?_length _h
  · simp

/-- The text behind the line end that may follow opening quotes. -/
def dropLineEnd (cs : List Char) : List Char := (lineEnd? cs).getD cs

def string? : List Char → Option (List Char × List Char)
  | '"' :: '"' :: '"' :: rest => multiBasicOnto [] (dropLineEnd rest)
  | '\x27' :: '\x27' :: '\x27' :: rest => multiLiteralOnto [] (dropLineEnd rest)
  | '"' :: rest => basicOnto [] rest
  | '\x27' :: rest => literalOnto [] rest
  | _ => none

end Handoff.Toml
