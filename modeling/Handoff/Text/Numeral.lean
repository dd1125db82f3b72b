/-!
Whole numbers in a base from 2 to 16, read from and written as digits.
-/

namespace Handoff.Text

/-- The value of a digit, the letters in either case. -/
def digitValue (c : Char) : Option Nat :=
  if '0' ≤ c ∧ c ≤ '9' then some (c.toNat - 48)
  else if 'a' ≤ c ∧ c ≤ 'f' then some (c.toNat - 87)
  else if 'A' ≤ c ∧ c ≤ 'F' then some (c.toNat - 55)
  else none

def digit? (base : Nat) (c : Char) : Option Nat := (digitValue c).filter (· < base)

def isDigit (base : Nat) (c : Char) : Bool := (digit? base c).isSome

/-- The number that digits stand for, behind those already read. Other characters count as zero. -/
def numeralOnto (base : Nat) (value : Nat) (cs : List Char) : Nat :=
  cs.foldl (fun n c => n * base + (digit? base c).getD 0) value

/-- The number that one or more digits of a base stand for. -/
def numeral? (base : Nat) (cs : List Char) : Option Nat :=
  if cs ≠ [] ∧ cs.all (isDigit base) then some (numeralOnto base 0 cs) else none

def decimal (n : Nat) : List Char := Nat.toDigits 10 n

/-- The hexadecimal digits of a number, in small letters. -/
def hexadecimal (n : Nat) : List Char := Nat.toDigits 16 n

end Handoff.Text
