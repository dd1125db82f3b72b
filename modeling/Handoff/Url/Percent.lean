import Handoff.Text.Utf8
import Handoff.Text.Numeral

/-!
Percent-encoding. A class of characters is kept; every other character is written byte by byte.
-/

namespace Handoff.Url

def hexDigit (n : Nat) : Char := if n < 10 then Char.ofNat (48 + n) else Char.ofNat (55 + n)

def percentByte (b : UInt8) : List Char := ['%', hexDigit (b.toNat / 16), hexDigit (b.toNat % 16)]

/-- Writes characters, those outside the class `keep` percent-encoded. -/
def percentEncode (keep : Char → Bool) (cs : List Char) : List Char :=
  cs.flatMap (fun c => if keep c then [c] else (String.utf8EncodeChar c).flatMap percentByte)

/-- The bytes that a percent-encoded text stands for. A `%` without two digits stands for itself. -/
def percentDecode : List Char → Bytes
  | [] => []
  | '%' :: a :: b :: rest =>
    match Text.digit? 16 a, Text.digit? 16 b with
    | some x, some y => UInt8.ofNat (x * 16 + y) :: percentDecode rest
    | _, _ => 0x25 :: percentDecode (a :: b :: rest)
  | c :: rest => String.utf8EncodeChar c ++ percentDecode rest

def isPrintableAscii (c : Char) : Bool := ' ' ≤ c && c ≤ '~'

/-- The characters kept in a path that has no segments, and in the host of an unknown scheme. -/
def keptInOpaque (c : Char) : Bool := isPrintableAscii c

def keptInFragment (c : Char) : Bool := isPrintableAscii c && !(" \"<>`".toList.contains c)

def keptInQuery (special : Bool) (c : Char) : Bool :=
  isPrintableAscii c && !(" \"#<>".toList.contains c) && !(special && c == '\x27')

def keptInPath (c : Char) : Bool := keptInFragment c && !("#?\x7b\x7d".toList.contains c)

/-- The characters kept in a user name or password. -/
def keptInUserinfo (c : Char) : Bool := keptInPath c && !("/:;=@[\\]^|".toList.contains c)

/-- The characters kept when a text is put into a path as one segment. -/
def keptInSegment (special : Bool) (c : Char) : Bool :=
  keptInPath c && !("/%".toList.contains c) && !(special && c == '\\')

end Handoff.Url
