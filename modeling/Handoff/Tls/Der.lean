import Handoff.Text.Utf8

/-!
DER: values that consist of a tag, a length and a content, which may again consist of values. No value is
longer than two bytes of length can say.
-/

namespace Handoff.Tls.Der

/-- A value: its tag and its content. -/
structure Element where
  tag : UInt8
  content : Bytes
deriving DecidableEq, Repr

/-- The tags of truth values, numbers, bits, bytes, nothing, identifiers and sequences. -/
def booleanTag : UInt8 := 0x01
def integerTag : UInt8 := 0x02
def bitStringTag : UInt8 := 0x03
def octetStringTag : UInt8 := 0x04
def nullTag : UInt8 := 0x05
def objectTag : UInt8 := 0x06
def sequenceTag : UInt8 := 0x30

/-- The tag of a part that may be left out, by its number. -/
def partTag (n : UInt8) : UInt8 := 0xA0 + n

def bigEndian (bs : Bytes) : Nat := bs.foldl (fun n b => n * 256 + b.toNat) 0

/-- A number as big-endian bytes, as many as asked for. -/
def toBigEndian : Nat → Nat → Bytes
  | 0, _ => []
  | size + 1, n => toBigEndian size (n / 256) ++ [UInt8.ofNat n]

def length? : Bytes → Option (Nat × Bytes)
  | 0x81 :: a :: rest => if a < 0x80 then none else some (a.toNat, rest)
  | 0x82 :: a :: b :: rest => if a = 0 then none else some (bigEndian [a, b], rest)
  | a :: rest => if a < 0x80 then some (a.toNat, rest) else none
  | [] => none

def element? : Bytes → Option (Element × Bytes)
  | [] => none
  | tag :: rest =>
    match length? rest with
    | none => none
    | some (n, rest) =>
      if tag % 0x20 = 0x1F ∨ rest.length < n then none else some (⟨tag, rest.take n⟩, rest.drop n)

/-- Reading a length leaves less to read. -/
theorem length?_length {bs rest : Bytes} {n : Nat} (h : length? bs = some (n, rest)) :
    rest.length < bs.length := by
  unfold length? at h
  split at h <;> try split at h
  all_goals simp_all
  all_goals omega

/-- Reading a value leaves less to read. -/
theorem element?_length {bs rest : Bytes} {e : Element} (h : element? bs = some (e, rest)) :
    rest.length < bs.length := by
  unfold element? at h
  split at h
  · simp at h
  · next tag body =>
    split at h
    · simp at h
    · next n tail hl =>
      have := length?_length hl
      split at h
      · simp at h
      · simp only [Option.some.injEq, Prod.mk.injEq] at h
        obtain ⟨-, rfl⟩ := h
        simp only [List.length_drop, List.length_cons]
        omega

def elements? (bs : Bytes) : Option (List Element) :=
  match bs with
  | [] => some []
  | b :: more =>
    match h : element? (b :: more) with
    | none => none
    | some (e, rest) =>
      have : rest.length < (b :: more).length := element?_length h
      (elements? rest).map (e :: ·)
termination_by bs.length
decreasing_by assumption

/-- The content of a value that has a tag and fills some bytes. -/
def filling? (tag : UInt8) (bs : Bytes) : Option Bytes :=
  match element? bs with
  | some (e, []) => if e.tag = tag then some e.content else none
  | _ => none

/-- The values of a sequence that fills some bytes. -/
def sequence? (bs : Bytes) : Option (List Element) := (filling? sequenceTag bs).bind elements?

/-- The bytes in the content of a bit string, if they are whole. -/
def wholeBits? : Bytes → Option Bytes
  | 0 :: bits => some bits
  | _ => none

/-- The number of an integer, written without bytes to spare and not negative. -/
def Element.natural? (e : Element) : Option Nat :=
  if e.tag ≠ integerTag then none
  else
    match e.content with
    | [] => none
    | [a] => if a < 0x80 then some a.toNat else none
    | a :: b :: rest =>
      if 0x80 ≤ a ∨ a = 0 ∧ b < 0x80 then none else some (bigEndian (a :: b :: rest))

def writeLength (n : Nat) : Bytes :=
  if n < 0x80 then toBigEndian 1 n
  else if n < 0x100 then 0x81 :: toBigEndian 1 n
  else 0x82 :: toBigEndian 2 n

def write (tag : UInt8) (content : Bytes) : Bytes := tag :: writeLength content.length ++ content

/-- The integer of a number, in as many bytes as leave its first bit clear. -/
def writeNatural (n : Nat) : Bytes :=
  write integerTag (toBigEndian (if n = 0 then 1 else (n.log2 + 1) / 8 + 1) n)

end Handoff.Tls.Der
