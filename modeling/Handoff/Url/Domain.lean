import Handoff.Text.Split
import Handoff.Text.Utf8
import Handoff.Unicode.Composition
import Handoff.Url.Domain.Direction
import Handoff.Url.Domain.Joiner
import Handoff.Url.Domain.Mapping
import Handoff.Url.Punycode

/-!
Domain names in ASCII. A name is mapped to small letters, cut into labels at its dots, and each label
beyond ASCII is written in Punycode behind `xn--`.
-/

namespace Handoff.Url.Domain

def isAscii (cs : List Char) : Bool := cs.all (fun c => decide (c.toNat < 128))

/-- A name with each character replaced by what it stands for, in composed form. -/
def map? (cs : List Char) : Option (List Char) :=
  if isAscii cs then some (cs.map Char.toLower)
  else (cs.mapM mapChar?).map (fun parts => Unicode.compose parts.flatten)

def isForbidden (c : Char) : Bool :=
  c.toNat ≤ 0x20 || c.toNat == 0x7F || "%#/:<>?@[\\]^|".toList.contains c

def longestText : Nat := 1000

/-- The most characters of the Punycode of a label. -/
def longestPunycode : Nat := 2000

/-- Whether a mapped label beyond ASCII can stand in a name. -/
def isLabel (label : List Char) : Bool :=
  label.head?.all (fun c => !(Unicode.isMark c)) && joinersFit [] label && !(label.any isForbidden)
    && label.length ≤ longestText

/-- Whether a text that Punycode stands for can be a label: it is beyond ASCII, and mapping leaves it as
it is. -/
def isDecodedLabel (text : List Char) : Bool :=
  !(isAscii text) && map? text == some text && !(text.contains '.') && isLabel text

def acePrefix : List Char := ['x', 'n', '-', '-']

/-- The text a label stands for. A label behind `xn--` stands for what it decodes to, which must be a
label beyond ASCII. -/
def unicodeLabel? (label : List Char) : Option (List Char) :=
  if acePrefix.isPrefixOf label then
    let code := label.drop acePrefix.length
    if code.length ≤ longestPunycode then
      match Punycode.decode? code with
      | some text => if isDecodedLabel text && Punycode.encode text == code then some text else none
      | none => none
    else none
  else if isAscii label then some label
  else if isLabel label then some label
  else none

/-- A label in ASCII. One beyond ASCII is kept only if its written form reads back as it. -/
def asciiLabel? (label : List Char) : Option (List Char) :=
  if isAscii label then (unicodeLabel? label).map (fun _ => label)
  else if isLabel label && Punycode.decode? (Punycode.encode label) == some label then
    some (acePrefix ++ Punycode.encode label)
  else none

/-- Whether a character makes a name run in both directions. -/
def turns (c : Char) : Bool := direction c == .rightToLeft || direction c == .arabicNumber

/-- A name in ASCII, or nothing if it is no domain name. -/
def toAscii? (cs : List Char) : Option (List Char) :=
  match map? cs with
  | none => none
  | some mapped =>
    let labels := Text.splitAt (· == '.') mapped
    match labels.mapM asciiLabel?, labels.mapM unicodeLabel? with
    | some ascii, some texts =>
      if texts.any (·.any turns) && !(texts.all keepsDirection) then none
      else
        let name := ['.'].intercalate ascii
        if name.any isForbidden then none else some name
    | _, _ => none

def ofBytes? (bs : Bytes) : Option (List Char) :=
  match Text.decode bs with
  | .ok cs => toAscii? cs
  | .error _ => none

end Handoff.Url.Domain
