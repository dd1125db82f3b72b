import Handoff.Text.Utf8

/-!
Base64: three bytes in four characters, the end filled up with `=`. Writing fills it up; reading takes it
filled up or not.
-/

namespace Handoff.Base64

def symbol (n : Nat) : Char :=
  if n < 26 then Char.ofNat (65 + n)
  else if n < 52 then Char.ofNat (71 + n)
  else if n < 62 then Char.ofNat (n - 4)
  else if n = 62 then '+'
  else '/'

def value? (b : UInt8) : Option Nat :=
  let n := b.toNat
  if 65 ≤ n ∧ n ≤ 90 then some (n - 65)
  else if 97 ≤ n ∧ n ≤ 122 then some (n - 71)
  else if 48 ≤ n ∧ n ≤ 57 then some (n + 4)
  else if n = 43 then some 62
  else if n = 47 then some 63
  else none

def encode : Bytes → List Char
  | [] => []
  | [a] => [symbol (a.toNat / 4), symbol (a.toNat % 4 * 16), '=', '=']
  | [a, b] =>
    [symbol (a.toNat / 4), symbol (a.toNat % 4 * 16 + b.toNat / 16), symbol (b.toNat % 16 * 4), '=']
  | a :: b :: c :: rest =>
    symbol (a.toNat / 4) :: symbol (a.toNat % 4 * 16 + b.toNat / 16)
      :: symbol (b.toNat % 16 * 4 + c.toNat / 64) :: symbol (c.toNat % 64) :: encode rest

/-- Whether a byte is passed over in reading: a space, a tab, or a character that moves to another line. -/
def isSpace (b : UInt8) : Bool := b == 0x20 || 0x09 ≤ b && b ≤ 0x0D

/-- Reads groups of four characters. Only the last may be shorter, with `=` in all the missing places or in
none. -/
def decodeGroups : Bytes → Option Bytes
  | [] => some []
  | [p, q] | [p, q, 0x3D, 0x3D] =>
    match value? p, value? q with
    | some x, some y => some [UInt8.ofNat (x * 4 + y / 16)]
    | _, _ => none
  | [p, q, r] | [p, q, r, 0x3D] =>
    match value? p, value? q, value? r with
    | some x, some y, some z => some [UInt8.ofNat (x * 4 + y / 16), UInt8.ofNat (y * 16 + z / 4)]
    | _, _, _ => none
  | p :: q :: r :: s :: rest =>
    match value? p, value? q, value? r, value? s, decodeGroups rest with
    | some x, some y, some z, some w, some bs =>
      some (UInt8.ofNat (x * 4 + y / 16) :: UInt8.ofNat (y * 16 + z / 4) :: UInt8.ofNat (z * 64 + w) :: bs)
    | _, _, _, _, _ => none
  | _ => none

/-- The bytes that a text in Base64 stands for. Blanks are passed over. -/
def decode (bs : Bytes) : Option Bytes := decodeGroups (bs.filter (fun b => !(isSpace b)))

end Handoff.Base64
