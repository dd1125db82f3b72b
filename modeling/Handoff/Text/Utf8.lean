/-!
UTF-8 as bytes are read back. A byte string is a sequence of pieces, each a character or the longest
start of one that goes no further. The strict reading stops at the first malformed piece and says where
it stands; the lossy reading shows each malformed piece as one replacement character.
-/

namespace Handoff

/-- Raw bytes, as a file or a message body holds them. -/
abbrev Bytes := List UInt8

namespace Text

/-- One step of reading bytes as UTF-8. -/
inductive Piece
  -- A well-formed character.
  | scalar (c : Char)
  -- The start of a character that does not go on: its length, and whether the bytes ended there.
  | malformed (length : Nat) (truncated : Bool)
deriving DecidableEq, Repr

def Piece.size : Piece → Nat
  | .scalar c => c.utf8Size
  | .malformed n _ => n

/-- The character that stands for a piece in a lossy reading. -/
def Piece.shown : Piece → Char
  | .scalar c => c
  | .malformed _ _ => '\uFFFD'

/-- The payload of a lead byte, and the ranges its continuation bytes must fall in. The ranges leave
out overlong forms, surrogates and everything beyond U+10FFFF. -/
def lead? (b : UInt8) : Option (Nat × List (UInt8 × UInt8)) :=
  if b < 0x80 then some (b.toNat, [])
  else if b < 0xC2 then none
  else if b < 0xE0 then some (b.toNat - 0xC0, [(0x80, 0xBF)])
  else if b = 0xE0 then some (0, [(0xA0, 0xBF), (0x80, 0xBF)])
  else if b = 0xED then some (13, [(0x80, 0x9F), (0x80, 0xBF)])
  else if b < 0xF0 then some (b.toNat - 0xE0, [(0x80, 0xBF), (0x80, 0xBF)])
  else if b = 0xF0 then some (0, [(0x90, 0xBF), (0x80, 0xBF), (0x80, 0xBF)])
  else if b < 0xF4 then some (b.toNat - 0xF0, [(0x80, 0xBF), (0x80, 0xBF), (0x80, 0xBF)])
  else if b = 0xF4 then some (4, [(0x80, 0x8F), (0x80, 0xBF), (0x80, 0xBF)])
  else none

/-- Reads the continuation bytes of a character whose payload so far is `payload`, read from `used`
bytes. -/
def continuation (payload used : Nat) : List (UInt8 × UInt8) → Bytes → Piece × Bytes
  | [], rest => (.scalar (Char.ofNat payload), rest)
  | _ :: _, [] => (.malformed used true, [])
  | (lo, hi) :: ranges, b :: rest =>
    if lo ≤ b ∧ b ≤ hi then continuation (payload * 64 + (b.toNat - 0x80)) (used + 1) ranges rest
    else (.malformed used false, b :: rest)

/-- The first piece of the bytes `b :: rest`, and what follows it. -/
def Piece.first (b : UInt8) (rest : Bytes) : Piece × Bytes :=
  match lead? b with
  | none => (.malformed 1 false, rest)
  | some (payload, ranges) => continuation payload 1 ranges rest

theorem continuation_rest_length (payload used : Nat) (ranges : List (UInt8 × UInt8)) (bs : Bytes) :
    (continuation payload used ranges bs).2.length ≤ bs.length := by
  fun_induction continuation payload used ranges bs with
  | case1 => simp
  | case2 => simp
  | case3 _ _ _ _ _ _ _ _ ih => exact Nat.le_succ_of_le ih
  | case4 => simp

theorem Piece.first_rest_length (b : UInt8) (rest : Bytes) :
    (Piece.first b rest).2.length ≤ rest.length := by
  unfold Piece.first
  split
  · simp
  · exact continuation_rest_length ..

/-- The pieces of some bytes behind those already read, which `done` holds last first. -/
def piecesOnto (done : List Piece) : Bytes → List Piece
  | [] => done.reverse
  | b :: rest => piecesOnto ((Piece.first b rest).1 :: done) (Piece.first b rest).2
termination_by bs => bs.length
decreasing_by exact Nat.lt_succ_of_le (Piece.first_rest_length b rest)

def pieces (bs : Bytes) : List Piece := piecesOnto [] bs

/-- Where bytes stop being UTF-8. -/
structure Utf8Error where
  -- The number of well-formed bytes before the fault.
  index : Nat
  -- The length of the malformed piece; nothing if the bytes end inside a character.
  length : Option Nat
deriving DecidableEq, Repr

def Utf8Error.message (e : Utf8Error) : String :=
  match e.length with
  | some n => "invalid utf-8 sequence of " ++ toString n ++ " bytes from index " ++ toString e.index
  | none => "incomplete utf-8 byte sequence from index " ++ toString e.index

/-- The characters of pieces, or the fault of the first malformed one. `index` bytes and the characters
`done`, last first, came before. -/
def scalarsOnto (index : Nat) (done : List Char) : List Piece → Except Utf8Error (List Char)
  | [] => .ok done.reverse
  | .scalar c :: rest => scalarsOnto (index + c.utf8Size) (c :: done) rest
  | .malformed n truncated :: _ => .error ⟨index, if truncated then none else some n⟩

def decode (bs : Bytes) : Except Utf8Error (List Char) := scalarsOnto 0 [] (pieces bs)

/-- Reads bytes as UTF-8, with U+FFFD for each malformed piece. -/
def decodeLossy (bs : Bytes) : String := String.ofList ((pieces bs).map Piece.shown)

def encode (cs : List Char) : Bytes := cs.flatMap String.utf8EncodeChar

def byteLength (cs : List Char) : Nat := cs.foldl (fun n c => n + c.utf8Size) 0

theorem byteLength_cons (c : Char) (cs : List Char) : byteLength (c :: cs) = c.utf8Size + byteLength cs := by
  have hshift (n : Nat) (ds : List Char) :
      ds.foldl (fun n c => n + c.utf8Size) n = n + ds.foldl (fun n c => n + c.utf8Size) 0 := by
    induction ds generalizing n with
    | nil => rfl
    | cons d ds ih =>
      rw [List.foldl_cons, List.foldl_cons, ih, ih (0 + d.utf8Size), Nat.zero_add, Nat.add_assoc]
  rw [byteLength, List.foldl_cons, hshift, Nat.zero_add]
  rfl

end Text

end Handoff
