import Handoff.Text.Base64
import Handoff.Text.Split

/-!
PEM files: blocks between a BEGIN line and an END line of the same label, with text around them that
does not count. Reading goes line by line.
-/

namespace Handoff.Tls.Pem

/-- A block: its label, and the lines between its BEGIN and END. -/
structure Block where
  label : Bytes
  body : Bytes
deriving DecidableEq, Repr

/-- Reading between two lines: the label of the block that is open, the lines in it so far, and the blocks
read, last first. -/
structure State where
  label : Option Bytes
  body : Bytes
  blocks : List Block
  -- Whether a BEGIN line was malformed; nothing is read after it.
  broken : Bool
deriving DecidableEq, Repr

def beginMark : Bytes := Text.encode "-----BEGIN ".toList

def endMark : Bytes := Text.encode "-----END ".toList

def dashes : Bytes := Text.encode "-----".toList

/-- Counts the dashes at the end of a line, spaces among them passed over. Takes the line backwards, and
gives what stands before the first of these dashes, backwards too. -/
def closingDashes (count : Nat) (before : Bytes) : Bytes → Nat × Bytes
  | [] => (count, before)
  | b :: rest =>
    if b = 0x2D then closingDashes (count + 1) rest rest
    else if b = 0x20 then closingDashes count before rest
    else (count, before)

/-- The label of a BEGIN line, if exactly five dashes close it. -/
def beginLabel? (line : Bytes) : Option Bytes :=
  match closingDashes 0 line.reverse line.reverse with
  | (5, before) => some (before.reverse.drop beginMark.length)
  | _ => none

/-- Takes one line. A BEGIN line opens a block even within another. -/
def State.next (s : State) (line : Bytes) : State :=
  if s.broken then s
  else if beginMark.isPrefixOf line then
    match beginLabel? line with
    | some label => { s with label := some label }
    | none => { s with broken := true }
  else
    match s.label with
    | none => s
    | some label =>
      if (endMark ++ label ++ dashes).isPrefixOf line then
        { s with label := none, body := [], blocks := ⟨label, s.body⟩ :: s.blocks }
      else { s with body := s.body ++ line }

/-- The lines of a file; a carriage return ends a line as a line feed does. -/
def lines (bs : Bytes) : List Bytes := Text.splitAt (fun b => b == 0x0A || b == 0x0D) bs

def scan (bs : Bytes) : State := (lines bs).foldl State.next ⟨none, [], [], false⟩

def blocks (bs : Bytes) : List Block := (scan bs).blocks.reverse

/-- Whether a file holds whole blocks only: every BEGIN line is well formed and has its END line. -/
def isComplete (bs : Bytes) : Bool := (scan bs).label.isNone && !(scan bs).broken

/-- What a block can hold. -/
inductive Kind
  | certificate
  | pkcs8Key
  | sec1Key
  | pkcs1Key
  | other
deriving DecidableEq, Repr

/-- The kind of a label; blocks with other labels are passed over. -/
def kind? (label : Bytes) : Option Kind :=
  ([("CERTIFICATE", Kind.certificate), ("PRIVATE KEY", .pkcs8Key), ("EC PRIVATE KEY", .sec1Key),
    ("RSA PRIVATE KEY", .pkcs1Key), ("PUBLIC KEY", .other), ("X509 CRL", .other),
    ("CERTIFICATE REQUEST", .other), ("ECHCONFIG", .other)].find?
      (fun entry => decide (Text.encode entry.1.toList = label))).map (·.2)

/-- The decoded blocks of known kinds, in order; nothing if the file is not whole or a block is not
Base64. -/
def items? (bs : Bytes) : Option (List (Kind × Bytes)) :=
  if isComplete bs then
    ((blocks bs).filterMap (fun b => (kind? b.label).map (fun kind => (kind, b.body)))).mapM
      (fun (kind, body) => (Base64.decode body).map (fun der => (kind, der)))
  else none

end Handoff.Tls.Pem
