import Handoff.Text.Split
import Handoff.Url.Basic

/-!
The segments of a path. Dot segments are resolved as segments are put in place, and a segment given as a
text is encoded so that it stays one segment.
-/

namespace Handoff.Url

def isSingleDot (part : List Char) : Bool :=
  [".", "%2e"].any (fun s => decide (s.toList = part.map Char.toLower))

def isDoubleDot (part : List Char) : Bool :=
  ["..", ".%2e", "%2e.", "%2e%2e"].any (fun s => decide (s.toList = part.map Char.toLower))

/-- Whether a segment is a drive: a letter and a colon or bar. -/
def isDrive : List Char → Bool
  | [letter, mark] => letter.isAlpha && (mark == ':' || mark == '|')
  | _ => false

/-- Takes the last segment away, unless it is a drive. `placed` holds the segments last first. -/
def shorten : List (List Char) → List (List Char)
  | [] => []
  | part :: placed => if isDrive part then part :: placed else placed

/-- Puts segments in place behind those in `placed`, which stand last first. A dot segment at the end
leaves an empty segment. -/
def placeOnto (placed : List (List Char)) : List (List Char) → List (List Char)
  | [] => placed
  | part :: rest =>
    let close (placed : List (List Char)) := if rest = [] then [] :: placed else placed
    if isDoubleDot part then placeOnto (close (shorten placed)) rest
    else if isSingleDot part then placeOnto (close placed) rest
    else placeOnto (part :: placed) rest

def place (before : List (List Char)) (parts : List (List Char)) : List (List Char) :=
  (placeOnto before.reverse parts).reverse

/-- A file path does not start with empty segments. -/
def settle (kind : SchemeKind) (parts : List (List Char)) : List (List Char) :=
  if kind = .file then
    match parts.dropWhile (· = []) with
    | [] => [[]]
    | parts => parts
  else parts

/-- Whether segments are a drive of a file path and nothing else. -/
def isLoneDrive (kind : SchemeKind) : List (List Char) → Bool
  | [part] => decide (kind = .file) && isDrive part
  | _ => false

/-- A drive that is all of a file path is written with a colon. -/
def colonDrive (kind : SchemeKind) (parts : List (List Char)) : List (List Char) :=
  if isLoneDrive kind parts then parts.map (fun part => part.take 1 ++ [':']) else parts

/-- A character that separates segments in the text of a URL. -/
def isSeparator (kind : SchemeKind) (c : Char) : Bool := c == '/' || (kind.isSpecial && c == '\\')

/-- The segments of a path written in the text of a URL, dot segments resolved. -/
def placedOfText (kind : SchemeKind) (cs : List Char) : List (List Char) :=
  let cs := match cs with
    | c :: rest => if isSeparator kind c then rest else cs
    | [] => []
  place [] ((Text.splitAt (isSeparator kind) cs).map (percentEncode keptInPath))

/-- The segments of the path of a URL. Only an unknown scheme lets a path be empty. -/
def segmentsOfText (kind : SchemeKind) (cs : List Char) : List (List Char) :=
  if cs = [] ∧ kind = .unknown then []
  else settle kind (colonDrive kind (placedOfText kind cs))

/-- A character that is dropped wherever it stands in a URL. -/
def isDropped (c : Char) : Bool := c == '\t' || c == '\n' || c == '\r'

def encodeSegment (kind : SchemeKind) (cs : List Char) : List Char :=
  percentEncode (keptInSegment kind.isSpecial) (cs.filter (fun c => !(isDropped c)))

/-- Segments without an empty one at the end. A path of one empty segment counts as no segments. -/
def withoutTrailingSlash (parts : List (List Char)) : List (List Char) :=
  match parts.reverse with
  | [] :: _ :: _ => parts.dropLast
  | _ => parts

/-- Adds a text as a further segment. The texts `.` and `..` add nothing. -/
def pushSegment (kind : SchemeKind) (parts : List (List Char)) (cs : List Char) : List (List Char) :=
  if cs = ['.'] ∨ cs = ['.', '.'] then parts
  else settle kind (place (if parts = [[]] then [] else parts) [encodeSegment kind cs])

/-- A URL extended by texts as segments, an empty segment at its end dropped; nothing if its path cannot
be extended. -/
def extend? (u : Url) (texts : List (List Char)) : Option Url :=
  match u.path with
  | .opaqueText _ => none
  | .segments parts =>
    let kind := SchemeKind.ofScheme u.scheme
    some { u with path := .segments (texts.foldl (pushSegment kind) (withoutTrailingSlash parts)) }

end Handoff.Url
