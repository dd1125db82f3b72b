import Handoff.Text.Blank
import Handoff.Url.Segments

/-!
Reading URLs. Spaces and control characters around a text, and tabs and line ends within it, do not
count.
-/

namespace Handoff.Url

/-- A character that is dropped at the ends of a text. -/
def isEdge (c : Char) : Bool := c.toNat ≤ 0x20

def significant (cs : List Char) : List Char :=
  (Text.dropEndWhile isEdge (cs.dropWhile isEdge)).filter (fun c => !(isDropped c))

/-- A character that can follow the letter a scheme starts with. -/
def isSchemeChar (c : Char) : Bool := c.isAlphanum || c == '+' || c == '-' || c == '.'

/-- The scheme in small letters, and what follows its colon. -/
def splitScheme? (cs : List Char) : Option (List Char × List Char) :=
  match cs with
  | [] => none
  | c :: _ =>
    if c.isAlpha then
      match cs.dropWhile isSchemeChar with
      | ':' :: rest => some ((cs.takeWhile isSchemeChar).map Char.toLower, rest)
      | _ => none
    else none

/-- Whether a character ends the part of a URL before its path. -/
def endsAuthority (kind : SchemeKind) (c : Char) : Bool :=
  c == '/' || c == '?' || c == '#' || (kind.isSpecial && c == '\\')

/-- The text before the last `@`, and what follows it. -/
def splitLastAt (cs : List Char) : Option (List Char × List Char) :=
  match cs.reverse.dropWhile (· ≠ '@') with
  | [] => none
  | _ :: before => some (before.reverse, (cs.reverse.takeWhile (· ≠ '@')).reverse)

/-- The text up to the first colon outside brackets, and the rest with its colon. -/
def cutHost (bracket : Bool) : List Char → List Char × List Char
  | [] => ([], [])
  | c :: rest =>
    if c = ':' ∧ bracket = false then ([], c :: rest)
    else
      let r := cutHost (if c = '[' then true else if c = ']' then false else bracket) rest
      (c :: r.1, r.2)

/-- Reads what follows a host: a port between 0 and 65535 behind a colon, or nothing. A backslash ends
the port; it and what follows belong to the path. -/
def portOfText (scheme cs : List Char) : Except ParseError (Option Nat × List Char) :=
  match cs with
  | ':' :: cs =>
    let (digits, rest) := Text.cutAt (· == '\\') cs
    if digits = [] then .ok (none, rest)
    else match Text.numeral? 10 digits with
      | none => .error .invalidPort
      | some n =>
        if n ≥ 65536 then .error .invalidPort
        else .ok (if defaultPort? scheme = some n then none else some n, rest)
  | _ => .ok (none, [])

/-- Reads user, host and port, and leaves what belongs to the path. Without a host there is neither a user
nor a port, and a lone `@` stands at the end of the URL; `more` says whether anything follows. -/
def authorityOfText (scheme : List Char) (kind : SchemeKind) (more : Bool) (cs : List Char) :
    Except ParseError (Authority × List Char) :=
  let (user, hostPort) := match splitLastAt cs with
    | some (user, rest) => (user, rest)
    | none => ([], cs)
  let (username, password) := Text.splitOnce ':' user
  let username := percentEncode keptInUserinfo username
  let password := percentEncode keptInUserinfo (password.getD [])
  let (hostText, portText) := cutHost false hostPort
  if hostText = [] ∧ (kind.isSpecial = true ∨ portText ≠ [] ∨ username ≠ [] ∨ password ≠ []
      ∨ (cs = ['@'] ∧ more = true)) then
    .error .emptyHost
  else
    match (if kind.isSpecial then Host.ofText hostText else Host.ofOpaqueText hostText) with
    | .error e => .error e
    | .ok host =>
      match portOfText scheme portText with
      | .error e => .error e
      | .ok (port, left) => .ok (⟨username, password, host, port⟩, left)

/-- Reads the host of a file URL, where `localhost` and a drive count as none. -/
def fileHostOfText (cs : List Char) : Except ParseError Host :=
  if cs = [] then .ok .empty
  else match Host.ofText cs with
    | .error e => .error e
    | .ok host => .ok (if host = .name "localhost".toList then .empty else host)

/-- The path of a URL, its query and its fragment, as texts. -/
def splitTail (cs : List Char) : List Char × Option (List Char) × Option (List Char) :=
  let (front, fragment) := Text.splitOnce '#' cs
  let (path, query) := Text.splitOnce '?' front
  (path, query, fragment)

/-- A URL from its parts, the query and fragment still to be encoded. -/
def assemble (scheme : List Char) (authority : Option Authority) (path : Path)
    (query fragment : Option (List Char)) : Url :=
  let special := (SchemeKind.ofScheme scheme).isSpecial
  ⟨scheme, authority, path, query.map (percentEncode (keptInQuery special)),
    fragment.map (percentEncode keptInFragment)⟩

def parseAuthority (scheme : List Char) (kind : SchemeKind) (cs : List Char) : Except ParseError Url :=
  let (before, rest) := Text.cutAt (endsAuthority kind) cs
  match authorityOfText scheme kind (rest ≠ []) before with
  | .error e => .error e
  | .ok (authority, left) =>
    let (path, query, fragment) := splitTail (left ++ rest)
    .ok (assemble scheme (some authority) (.segments (segmentsOfText kind path)) query fragment)

/-- Reads a URL of the scheme `file`, which always has an authority, mostly an empty one. A path that is a
drive alone takes the host away. -/
def parseFile (scheme : List Char) (cs : List Char) : Except ParseError Url :=
  let kind := SchemeKind.file
  let finish (host : Host) (rest : List Char) : Url :=
    let (path, query, fragment) := splitTail rest
    let host := if isLoneDrive kind (placedOfText kind path) then .empty else host
    assemble scheme (some ⟨[], [], host, none⟩) (.segments (segmentsOfText kind path)) query fragment
  match cs with
  | a :: b :: rest =>
    if isSeparator kind a ∧ isSeparator kind b then
      let (before, behind) := Text.cutAt (endsAuthority kind) rest
      if isDrive before then .ok (finish .empty rest)
      else match fileHostOfText before with
        | .error e => .error e
        | .ok host => .ok (finish host behind)
    else .ok (finish .empty cs)
  | _ => .ok (finish .empty cs)

def parseUnknown (scheme : List Char) (cs : List Char) : Except ParseError Url :=
  match cs with
  | '/' :: '/' :: rest => parseAuthority scheme .unknown rest
  | _ =>
    let (path, query, fragment) := splitTail cs
    match path with
    | '/' :: _ => .ok (assemble scheme none (.segments (segmentsOfText .unknown path)) query fragment)
    | _ => .ok (assemble scheme none (.opaqueText (percentEncode keptInOpaque path)) query fragment)

def parse (cs : List Char) : Except ParseError Url :=
  match splitScheme? (significant cs) with
  | none => .error .noScheme
  | some (scheme, rest) =>
    match SchemeKind.ofScheme scheme with
    | .web => parseAuthority scheme .web (rest.dropWhile (isSeparator .web))
    | .file => parseFile scheme rest
    | .unknown => parseUnknown scheme rest

end Handoff.Url
