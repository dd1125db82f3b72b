import Handoff.Log.Entry
import Handoff.Log.FieldValue
import Handoff.Text.Truncate

/-!
Filters of the log: directives between commas, each of which sets how much is told for the sources whose
name starts with a text. The most specific directive decides.
-/

namespace Handoff.Log

/-- The least level that is told; nothing is told if there is none. -/
abbrev Threshold := Option Level

def thresholds : List (String × Threshold) :=
  [("off", none), ("error", some .error), ("warn", some .warn), ("info", some .info),
    ("debug", some .debug), ("trace", some .trace)]

/-- Reads a level: its name in any letter case, or its number from 0 to 5. An empty text is an error. -/
def threshold? (cs : List Char) : Option Threshold :=
  let digits := match cs with
    | '+' :: rest => rest
    | _ => cs
  match (Text.numeral? 10 digits).bind (fun n => thresholds[n]?) with
  | some entry => some entry.2
  | none =>
    if cs = [] then some (some .error)
    else thresholds.lookup (String.ofList (cs.map Char.toLower))

def thresholdName : Threshold → String
  | none => "off"
  | some .error => "error"
  | some .warn => "warn"
  | some .info => "info"
  | some .debug => "debug"
  | some .trace => "trace"

/-- A directive. One that names a span concerns what happens within such spans only. -/
structure Directive where
  target : Option (List Char) := none
  span : Option (List Char) := none
  -- A field that has to be there, and the value it has to have.
  field : Option (List Char × Option FieldValue) := none
  threshold : Threshold := some .trace
deriving DecidableEq, Repr

namespace Directive

/-- Where reading a directive is, and where the part that is being read started. -/
inductive Part
  | start
  | levelOrTarget (start : Nat)
  | span (start : Nat)
  | field (start : Nat)
  | fields
  | target
  | level (start : Nat)

def behind (n : Nat) (cs : List Char) : List Char := cs.drop (Text.truncate n cs).length

/-- The text from one position to another, in bytes. -/
def slice (whole : List Char) (start stop : Nat) : List Char := behind start (Text.truncate stop whole)

/-- Reads a field, with its value between its first equals sign and the next. -/
def readField? (cs : List Char) : Option (List Char × Option FieldValue) :=
  match Text.splitOnce '=' cs with
  | (name, none) => some (name, none)
  | (name, some value) =>
    (FieldValue.read? (value.takeWhile (· ≠ '='))).map (fun value => (name, some value))

def next? (whole : List Char) (d : Directive) (part : Part) (i : Nat) (c : Char) :
    Option (Directive × Part) :=
  match part with
  | .start =>
    if c = '[' then some (d, .span (i + 1))
    else if "-:_".toList.contains c || Unicode.isLetterOrFigure c then some (d, .levelOrTarget i)
    else none
  | .levelOrTarget start =>
    if c = '=' then some ({ d with target := some (slice whole start i) }, .level (i + 1))
    else if c = '[' then some ({ d with target := some (slice whole start i) }, .span (i + 1))
    else some (d, part)
  | .span start =>
    if c = ']' then some ({ d with span := some (slice whole start i) }, .target)
    else if c = '\x7b' then
      let name := slice whole start i
      some ({ d with span := if name = [] then none else some name }, .field (i + 1))
    else some (d, part)
  | .field start =>
    if c = '\x7d' then
      let text := slice whole start i
      if text = [] then none else (readField? text).map (fun field => ({ d with field := field }, .fields))
    else some (d, part)
  | .fields => if c = ']' then some (d, .target) else none
  | .target => if c = '=' then some (d, .level (i + 1)) else none
  | .level _ => some (d, part)

def finish? (whole : List Char) (d : Directive) : Part → Option Directive
  | .levelOrTarget start =>
    let text := behind start whole
    if text = [] then some { d with threshold := some .trace, target := none }
    else match threshold? text with
      | some threshold => some { d with threshold := threshold, target := none }
      | none => some { d with threshold := some .trace, target := some text }
  | .level start =>
    let text := behind start whole
    if text = [] then some { d with threshold := some .trace }
    else (threshold? text).map (fun threshold => { d with threshold := threshold })
  | .target => some d
  | _ => none

def readFrom? (whole : List Char) (d : Directive) (part : Part) (i : Nat) : List Char → Option Directive
  | [] => finish? whole d part
  | c :: rest => (next? whole d part i c).bind fun (d, part) =>
    readFrom? whole d part (i + c.utf8Size) rest

/-- Reads a directive. Blanks around it are passed over, but positions count from where they end, in
bytes. -/
def read? (cs : List Char) : Option Directive := readFrom? cs {} .start 0 (Text.trim cs)

/-- Whether a directive concerns events at any place. -/
def isStatic (d : Directive) : Bool :=
  d.span.isNone && (match d.field with
    | some (_, some _) => false
    | _ => true)

/-- Whether a directive concerns what happens within spans. -/
def isDynamic (d : Directive) : Bool := d.span.isSome || d.field.isSome

/-- Compares two texts that need not be there, a missing one first. -/
def compareText (a b : Option (List Char)) : Ordering :=
  match a, b with
  | none, none => .eq
  | none, some _ => .lt
  | some _, none => .gt
  | some x, some y => compareOfLessAndEq (String.ofList x) (String.ofList y)

/-- Compares the bytes of two targets that need not be there. -/
def compareLength (a b : Option (List Char)) : Ordering :=
  let size (t : Option (List Char)) : Nat := match t with
    | none => 0
    | some cs => cs.foldl (fun n c => n + c.utf8Size) 1
  compare (size a) (size b)

def specificity (a b : Directive) : Ordering :=
  let value (d : Directive) : Option FieldValue := d.field.bind (·.2)
  (compareLength a.target b.target).then
    ((compare a.span.isSome.toNat b.span.isSome.toNat).then
      ((compare a.field.isSome.toNat b.field.isSome.toNat).then
        ((compareText a.target b.target).then
          ((compareText a.span b.span).then
            ((compare (value a).isSome.toNat (value b).isSome.toNat).then
              ((compareText (a.field.map (·.1)) (b.field.map (·.1))).then
                (match value a, value b with
                  | some x, some y => x.order y
                  | _, _ => .eq)))))))

/-- Puts a directive among others, the most specific first, in place of one that is its equal. -/
def insert (d : Directive) : List Directive → List Directive
  | [] => [d]
  | e :: rest =>
    match specificity d e with
    | .gt => d :: e :: rest
    | .eq => d :: rest
    | .lt => e :: insert d rest

def text (d : Directive) : List Char :=
  let fieldText := match d.field with
    | some (name, some value) => '\x7b' :: name ++ '=' :: value.text ++ ['\x7d']
    | some (name, none) => '\x7b' :: name ++ ['\x7d']
    | none => []
  let place := if d.span.isSome ∨ d.field.isSome then '[' :: d.span.getD [] ++ fieldText ++ [']'] else []
  let scope := d.target.getD [] ++ place
  (if d.target.isSome ∨ place ≠ [] then scope ++ ['='] else []) ++ (thresholdName d.threshold).toList

def concerns (d : Directive) (e : Entry) : Bool :=
  (match d.target with
    | some t => t.isPrefixOf e.source.target.toList
    | none => true) &&
  (match d.field with
    | some (name, _) => e.fields.any (fun f => decide (f.1.toList = name)) || name = "message".toList
    | none => true)

end Directive

/-- A filter: the directives that concern events, and those that concern what happens within spans. -/
structure Filter where
  statics : List Directive
  dynamics : List Directive
deriving DecidableEq, Repr

namespace Filter

def ofDirectives (ds : List Directive) : Filter :=
  ⟨(ds.filter Directive.isStatic).foldl (fun done d => Directive.insert d done) [],
    (ds.filter Directive.isDynamic).foldl (fun done d => Directive.insert d done) []⟩

/-- Reads a filter. A text without directives is one that admits nothing. -/
def read? (s : String) : Option Filter :=
  (((Text.splitAt (· == ',') s.toList).filter (· ≠ [])).mapM Directive.read?).map ofDirectives

/-- The filter of a run: that of the environment if there is one, else the configured one, else
`info`. -/
def choose (environment : Option String) (configured : String) : Filter :=
  match environment.bind read? with
  | some f => f
  | none =>
    match read? configured with
    | some f => f
    | none => ofDirectives [{ threshold := some .info }]

def text (f : Filter) : String :=
  String.ofList ([','].intercalate ((f.statics ++ f.dynamics).map Directive.text))

def admits (f : Filter) (e : Entry) : Bool :=
  match f.statics.find? (fun d => d.concerns e) with
  | some d => match d.threshold with
    | some level => decide (level.rank ≤ e.level.rank)
    | none => false
  | none => false

end Filter

end Handoff.Log
