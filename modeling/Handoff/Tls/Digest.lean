import Handoff.Tls.Der

/-!
The digest of 64 bytes called SHA-512. Its constants are the first bits of roots of the first primes.
-/

namespace Handoff.Tls.Digest

open Der

def primes : List Nat :=
  (List.range 410).filter (fun n =>
    decide (2 ≤ n) && (List.range n).all (fun d => decide (d < 2) || n % d != 0))

/-- The first 64 bits behind the point of a `k`th root, found bit by bit. The root is below 32. -/
def rootFraction (k n : Nat) : UInt64 :=
  UInt64.ofNat ((List.range 69).reverse.foldl
    (fun r i =>
      let next := r + Nat.pow 2 i
      if Nat.pow next k ≤ n * Nat.pow 2 (64 * k) then next else r) 0)

/-- The state before the first block: from square roots. -/
def start : List UInt64 := (primes.take 8).map (rootFraction 2)

def roundConstants : List UInt64 := primes.map (rootFraction 3)

def turn (x n : UInt64) : UInt64 := x >>> n ||| x <<< (64 - n)

def nextWord (w : List UInt64) : UInt64 :=
  let low := w.getD 1 0
  let high := w.getD 14 0
  w.getD 0 0 + (turn low 1 ^^^ turn low 8 ^^^ low >>> 7) + w.getD 9 0
    + (turn high 19 ^^^ turn high 61 ^^^ high >>> 6)

def round (state : List UInt64) (word constant : UInt64) : List UInt64 :=
  match state with
  | [a, b, c, d, e, f, g, h] =>
    let s := h + (turn e 14 ^^^ turn e 18 ^^^ turn e 41) + ((e &&& f) ^^^ (~~~e &&& g))
      + constant + word
    let t := (turn a 28 ^^^ turn a 34 ^^^ turn a 39) + ((a &&& b) ^^^ (a &&& c) ^^^ (b &&& c))
    [s + t, a, b, c, d + s, e, f, g]
  | _ => state

/-- All rounds. The words move on by one with each. -/
def rounds (words state : List UInt64) : List UInt64 → List UInt64
  | [] => state
  | constant :: more =>
    rounds (words.drop 1 ++ [nextWord words]) (round state (words.getD 0 0) constant) more

def wordsOf (block : Bytes) : List UInt64 :=
  (List.range 16).map (fun i => UInt64.ofNat (bigEndian ((block.drop (8 * i)).take 8)))

/-- Takes the blocks of a text, one after the other. -/
def absorb (state : List UInt64) (bs : Bytes) : List UInt64 :=
  if bs.length < 128 then state
  else absorb (List.zipWith (· + ·) state (rounds (wordsOf (bs.take 128)) state roundConstants)) (bs.drop 128)
termination_by bs.length
decreasing_by simp only [List.length_drop]; omega

/-- A text filled up to whole blocks: a set bit, clear bits, and the number of its bits. -/
def filledUp (bs : Bytes) : Bytes :=
  bs ++ 0x80 :: List.replicate ((239 - bs.length % 128) % 128) 0 ++ toBigEndian 16 (8 * bs.length)

def digest (bs : Bytes) : Bytes := (absorb start (filledUp bs)).flatMap (fun w => toBigEndian 8 w.toNat)

end Handoff.Tls.Digest
