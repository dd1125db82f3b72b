import Handoff.Text.Numeral
import Handoff.Text.Split
import Handoff.Toml.Basic
import Handoff.Toml.Text

/-!
Numbers and dates of a TOML document.
-/

namespace Handoff.Toml

/-- Digits of a base behind a first one, where a lone underscore may stand between two digits. Gives the
digits without the underscores; nothing if an underscore has no digit behind it. -/
def moreDigitsOnto (base : Nat) (done : List Char) : List Char → Option (List Char × List Char)
  | '_' :: c :: rest => if Text.isDigit base c then moreDigitsOnto base (c :: done) rest else none
  | ['_'] => none
  | c :: rest =>
    if Text.isDigit base c then moreDigitsOnto base (c :: done) rest
    else some (done.reverse, c :: rest)
  | [] => some (done.reverse, [])

def digits? (base : Nat) : List Char → Option (List Char × List Char)
  | c :: rest => if Text.isDigit base c then moreDigitsOnto base [c] rest else none
  | [] => none

/-- The digits of a decimal whole number, which does not start with a needless zero. -/
def wholeDigits? : List Char → Option (List Char × List Char)
  | '0' :: rest => some (['0'], rest)
  | cs => digits? 10 cs

/-- The sign in front of a number, whether it is negative, and the text behind it. -/
def sign : List Char → Bool × List Char
  | '-' :: rest => (true, rest)
  | '+' :: rest => (false, rest)
  | cs => (false, cs)

/-- An integer, if it fits into 64 bits with a sign. -/
def integer64? (n : Int) : Option Int :=
  let bound : Int := Nat.pow 2 63
  if -bound ≤ n ∧ n < bound then some n else none

def valueOf (base : Nat) (ds : List Char) : Nat := Text.numeralOnto base 0 ds

/-- Reads an integer: decimal with a sign, or in base 16, 8 or 2 behind `0x`, `0o` or `0b`. -/
def integer? (cs : List Char) : Option (Int × List Char) :=
  let inBase (base : Nat) (rest : List Char) : Option (Int × List Char) :=
    (digits? base rest).bind (fun (ds, rest) => (integer64? (valueOf base ds)).map (·, rest))
  match cs with
  | '0' :: 'x' :: rest => inBase 16 rest
  | '0' :: 'o' :: rest => inBase 8 rest
  | '0' :: 'b' :: rest => inBase 2 rest
  | _ =>
    let (negative, rest) := sign cs
    (wholeDigits? rest).bind (fun (ds, rest) =>
      (integer64? (if negative then -(valueOf 10 ds : Int) else (valueOf 10 ds : Int))).map (·, rest))

def fraction? : List Char → Option (List Char × List Char)
  | '.' :: rest => digits? 10 rest
  | _ => none

def exponent? : List Char → Option (Int × List Char)
  | c :: rest =>
    if c = 'e' ∨ c = 'E' then
      let (negative, rest) := sign rest
      (digits? 10 rest).map (fun (ds, rest) =>
        (if negative then -(valueOf 10 ds : Int) else (valueOf 10 ds : Int), rest))
    else none
  | [] => none

/-- The float of digits and a power of ten. A positive one beyond the largest is refused. -/
def realOf? (negative : Bool) (digits : List Char) (exponent : Int) : Option Decimal.Real :=
  match Decimal.Real.ofDecimal negative (valueOf 10 digits) exponent with
  | .infinite false => none
  | x => some x

/-- Reads a float: a whole number with a fraction, an exponent or both, or one of the special words. -/
def real? (cs : List Char) : Option (Decimal.Real × List Char) :=
  let (negative, behind) := sign cs
  match behind with
  | 'i' :: 'n' :: 'f' :: rest => some (.infinite negative, rest)
  | 'n' :: 'a' :: 'n' :: rest => some (.notANumber, rest)
  | _ =>
    match wholeDigits? behind with
    | none => none
    | some (whole, rest) =>
      match fraction? rest with
      | some (places, rest') =>
        let (e, rest'') := (exponent? rest').getD (0, rest')
        (realOf? negative (whole ++ places) (e - places.length)).map (·, rest'')
      | none =>
        match exponent? rest with
        | some (e, rest') => (realOf? negative whole e).map (·, rest')
        | none => none

def field? (n low high : Nat) (cs : List Char) : Option (Nat × List Char) :=
  if (cs.take n).length = n then
    ((Text.numeral? 10 (cs.take n)).filter (fun v => low ≤ v && v ≤ high)).map (·, cs.drop n)
  else none

/-- The text behind a character that has to come first. -/
def mark? (c : Char) : List Char → Option (List Char)
  | d :: rest => if c = d then some rest else none
  | [] => none

def daysIn (year month : Nat) : Nat :=
  if month = 2 then if year % 4 = 0 ∧ (year % 100 ≠ 0 ∨ year % 400 = 0) then 29 else 28
  else if month = 4 ∨ month = 6 ∨ month = 9 ∨ month = 11 then 30
  else 31

def date? (cs : List Char) : Option (List Char) :=
  (field? 4 0 9999 cs).bind fun (year, cs) => (mark? '-' cs).bind fun cs =>
  (field? 2 1 12 cs).bind fun (month, cs) => (mark? '-' cs).bind fun cs =>
  (field? 2 1 (daysIn year month) cs).map (·.2)

/-- The text behind a fraction of a second, if there is one. -/
def skipFraction (cs : List Char) : List Char :=
  match cs with
  | '.' :: c :: rest => if c.isDigit then rest.dropWhile Char.isDigit else cs
  | _ => cs

def time? (cs : List Char) : Option (List Char) :=
  (field? 2 0 23 cs).bind fun (_, cs) => (mark? ':' cs).bind fun cs =>
  (field? 2 0 59 cs).bind fun (_, cs) => (mark? ':' cs).bind fun cs =>
  (field? 2 0 60 cs).map fun (_, cs) => skipFraction cs

/-- The text behind an offset from universal time, if there is one. -/
def skipOffset (cs : List Char) : List Char :=
  match cs with
  | c :: rest =>
    if c = 'Z' ∨ c = 'z' then rest
    else if c = '+' ∨ c = '-' then
      ((field? 2 0 23 rest).bind fun (_, cs) => (mark? ':' cs).bind fun cs =>
        (field? 2 0 59 cs).map (·.2)).getD cs
    else cs
  | [] => []

def datetime? (cs : List Char) : Option (List Char) :=
  match date? cs with
  | some rest =>
    match rest with
    | c :: behind =>
      if c = 'T' ∨ c = 't' ∨ c = ' ' then
        match time? behind with
        | some rest' => some (skipOffset rest')
        | none => some rest
      else some rest
    | [] => some rest
  | none => time? cs

end Handoff.Toml
