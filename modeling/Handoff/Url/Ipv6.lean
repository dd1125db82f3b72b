import Handoff.Url.Ipv4

/-!
IPv6 addresses: eight groups of 16 bits, of which the longest run of zeros is left out in writing.
-/

namespace Handoff

/-- An IPv6 address. -/
structure Ipv6 where
  groups : List UInt16
  size : groups.length = 8
deriving DecidableEq, Repr

namespace Ipv6

def ofGroups? (groups : List UInt16) : Option Ipv6 :=
  if h : groups.length = 8 then some ⟨groups, h⟩ else none

def group? (cs : List Char) : Option UInt16 :=
  if cs.length > 4 then none else (Text.numeral? 16 cs).map UInt16.ofNat

def embedded (ip : Ipv4) : List UInt16 :=
  [UInt16.ofNat (ip.a.toNat * 256 + ip.b.toNat), UInt16.ofNat (ip.c.toNat * 256 + ip.d.toNat)]

/-- Groups between colons; the last may be an IPv4 address if `ipv4Last`. -/
def groups? (ipv4Last : Bool) : List (List Char) → Option (List UInt16)
  | [] => some []
  | [part] =>
    match group? part with
    | some g => some [g]
    | none => if ipv4Last then (Ipv4.ofText? part).map embedded else none
  | part :: rest =>
    match group? part, groups? ipv4Last rest with
    | some g, some gs => some (g :: gs)
    | _, _ => none

def groupsOfText? (ipv4Last : Bool) (cs : List Char) : Option (List UInt16) :=
  if cs = [] then some [] else groups? ipv4Last (Text.splitAt (· == ':') cs)

/-- The texts before and behind the first two colons in a row. -/
def atGap? : List Char → Option (List Char × List Char)
  | [] => none
  | ':' :: ':' :: rest => some ([], rest)
  | c :: rest => (atGap? rest).map (fun (before, behind) => (c :: before, behind))

/-- Reads an address. Two colons stand for one or more groups of zero, once at most, and the last two
groups may be written as an IPv4 address. -/
def ofText? (cs : List Char) : Option Ipv6 :=
  match atGap? cs with
  | none => if cs = [] then none else (groupsOfText? true cs).bind ofGroups?
  | some (before, behind) =>
    match groupsOfText? false before, groupsOfText? true behind with
    | some xs, some ys =>
      if xs.length + ys.length < 8 then
        ofGroups? (xs ++ List.replicate (8 - (xs.length + ys.length)) 0 ++ ys)
      else none
    | _, _ => none

/-- The length of the run of zeros from position `i`. -/
def zerosFrom (groups : List UInt16) (i : Nat) : Nat := ((groups.drop i).takeWhile (· == 0)).length

/-- The position and length of the longest run of zeros; of two, the first. -/
def longestZeros (groups : List UInt16) : Nat × Nat :=
  (List.range groups.length).foldl
    (fun best i => if best.2 < zerosFrom groups i then (i, zerosFrom groups i) else best) (0, 0)

def groupsText (groups : List UInt16) : List Char :=
  [':'].intercalate (groups.map (fun g => Text.hexadecimal g.toNat))

/-- The canonical text: a run of at least two zeros is left out, the longest one. -/
def text (ip : Ipv6) : List Char :=
  let (i, n) := longestZeros ip.groups
  if n < 2 then groupsText ip.groups
  else groupsText (ip.groups.take i) ++ ':' :: ':' :: groupsText (ip.groups.drop (i + n))

end Ipv6

end Handoff
