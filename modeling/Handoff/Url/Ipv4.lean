import Handoff.Text.Numeral
import Handoff.Text.Split

/-!
IPv4 addresses: the strict form of four decimal octets, and the loose form that hosts of a URL may
have, with one to four numbers in octal, decimal or hexadecimal.
-/

namespace Handoff

/-- An IPv4 address. -/
structure Ipv4 where
  a : UInt8
  b : UInt8
  c : UInt8
  d : UInt8
deriving DecidableEq, Repr

namespace Ipv4

/-- The octets of a 32-bit number, the highest first. -/
def ofNat (n : Nat) : Ipv4 :=
  ⟨UInt8.ofNat (n / Nat.pow 2 24), UInt8.ofNat (n / Nat.pow 2 16), UInt8.ofNat (n / Nat.pow 2 8),
    UInt8.ofNat n⟩

def text (ip : Ipv4) : List Char :=
  Text.decimal ip.a.toNat ++ '.' :: Text.decimal ip.b.toNat ++ '.' :: Text.decimal ip.c.toNat
    ++ '.' :: Text.decimal ip.d.toNat

/-- An octet in decimal, with no needless zero in front. -/
def octet? (cs : List Char) : Option UInt8 :=
  if cs.length > 3 ∨ (cs.head? = some '0' ∧ cs.length > 1) then none
  else match Text.numeral? 10 cs with
    | some n => if n < 256 then some (UInt8.ofNat n) else none
    | none => none

def ofText? (cs : List Char) : Option Ipv4 :=
  match (Text.splitAt (· == '.') cs).mapM octet? with
  | some [a, b, c, d] => some ⟨a, b, c, d⟩
  | _ => none

/-- A number of the loose form: `0x` introduces hexadecimal and a further `0` octal. -/
def looseNumber? (cs : List Char) : Option Nat :=
  let digits (base : Nat) (ds : List Char) : Option Nat :=
    if ds = [] then some 0 else Text.numeral? base ds
  match cs with
  | [] => none
  | '0' :: 'x' :: ds => digits 16 ds
  | '0' :: 'X' :: ds => digits 16 ds
  | '0' :: d :: ds => digits 8 (d :: ds)
  | ds => digits 10 ds

/-- The numbers of the loose form; a dot at the end is passed over. -/
def looseParts (cs : List Char) : List (List Char) :=
  let parts := Text.splitAt (· == '.') cs
  if parts.getLast? = some [] then parts.dropLast else parts

/-- Reads the loose form: the last number fills all octets that are left. -/
def ofLoose? (cs : List Char) : Option Ipv4 :=
  match (looseParts cs).mapM looseNumber? with
  | none => none
  | some numbers =>
    match numbers.reverse with
    | [] => none
    | last :: upper =>
      if numbers.length ≤ 4 ∧ last < Nat.pow 2 (8 * (5 - numbers.length)) ∧ upper.all (· < 256) then
        some (ofNat (upper.reverse.foldl
          (fun (acc : Nat × Nat) n => (acc.1 + n * Nat.pow 2 acc.2, acc.2 - 8)) (last, 24)).1)
      else none

/-- Whether a host has to be read as an address: its last part is a number. -/
def endsInNumber (cs : List Char) : Bool :=
  match (looseParts cs).getLast? with
  | none => false
  | some part => (part ≠ [] && part.all (Text.isDigit 10)) || (looseNumber? part).isSome

end Ipv4

end Handoff
