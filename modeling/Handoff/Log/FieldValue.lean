import Handoff.Decimal.Real
import Handoff.Log.Pattern

/-!
Values that a filter asks fields for: a truth value, a number, or else a pattern for texts.
-/

namespace Handoff.Log

/-- What the value of a field has to be. -/
inductive FieldValue
  | truth (b : Bool)
  | real (x : Decimal.Real)
  | natural (n : Nat)
  | integer (n : Int)
  | pattern (cs : List Char)
deriving DecidableEq, Repr

namespace FieldValue

/-- Reads a number that is not negative and fits into 64 bits. -/
def natural? (cs : List Char) : Option Nat :=
  let digits := match cs with
    | '+' :: rest => rest
    | _ => cs
  (Text.numeral? 10 digits).filter (· < Nat.pow 2 64)

/-- Reads a number behind a minus sign that fits into 64 bits. -/
def negative? (cs : List Char) : Option Int :=
  match cs with
  | '-' :: rest => ((Text.numeral? 10 rest).filter (· ≤ Nat.pow 2 63)).map (fun n => -(n : Int))
  | _ => none

/-- The sign in front of a number, whether it is negative, and the text behind it. -/
def sign : List Char → Bool × List Char
  | '-' :: rest => (true, rest)
  | '+' :: rest => (false, rest)
  | cs => (false, cs)

def exponent? (cs : List Char) : Option Int :=
  let (negative, digits) := sign cs
  (Text.numeral? 10 digits).map (fun n => if negative then -(n : Int) else n)

/-- Reads a decimal number, of which the whole part or the fraction may be missing, or a word for what is
infinite or no number. -/
def real? (cs : List Char) : Option Decimal.Real :=
  let (negative, rest) := sign cs
  let word := String.ofList (rest.map Char.toLower)
  if word = "inf" ∨ word = "infinity" then some (.infinite negative)
  else if word = "nan" then some .notANumber
  else
    let (mantissa, behind) := Text.cutAt (fun c => c == 'e' || c == 'E') rest
    let (whole, fraction) := Text.splitOnce '.' mantissa
    let digits := whole ++ fraction.getD []
    match Text.numeral? 10 digits, if behind = [] then some 0 else exponent? (behind.drop 1) with
    | some n, some e => some (.ofDecimal negative n (e - (fraction.getD []).length))
    | _, _ => none

/-- Reads a value. A text that is neither a truth value nor a number has to be a pattern. -/
def read? (cs : List Char) : Option FieldValue :=
  if cs = "true".toList then some (truth true)
  else if cs = "false".toList then some (truth false)
  else
    match natural? cs, negative? cs, real? cs with
    | some n, _, _ => some (natural n)
    | none, some n, _ => some (integer n)
    | none, none, some x => some (real x)
    | none, none, none => if Pattern.isPattern cs then some (pattern cs) else none

/-- The place of a value among the kinds of values. -/
def rank : FieldValue → Nat
  | truth _ => 0
  | real _ => 1
  | natural _ => 2
  | integer _ => 3
  | pattern _ => 4

def order : FieldValue → FieldValue → Ordering
  | truth a, truth b => compare a.toNat b.toNat
  | real x, real y => x.order y
  | natural a, natural b => compare a b
  | integer a, integer b => compare a b
  | pattern a, pattern b => compareOfLessAndEq (String.ofList a) (String.ofList b)
  | a, b => compare a.rank b.rank

def text : FieldValue → List Char
  | truth b => if b then "true".toList else "false".toList
  | real x => x.shown.toList
  | natural n => Text.decimal n
  | integer n => (toString n).toList
  | pattern cs => cs

end FieldValue

end Handoff.Log
