import Handoff.Url.Host

/-!
URLs in parsed form, and their text.
-/

namespace Handoff

/-- User, host and port of a URL. An empty password counts as none. -/
structure Url.Authority where
  username : List Char
  password : List Char
  host : Url.Host
  port : Option Nat
deriving DecidableEq, Repr

/-- The path of a URL: a text that cannot be extended, or segments between slashes. -/
inductive Url.Path
  | opaqueText (text : List Char)
  | segments (segments : List (List Char))
deriving DecidableEq, Repr

/-- A URL. All parts are held as they are written, percent-encoded where that is needed. -/
structure Url where
  scheme : List Char
  authority : Option Url.Authority
  path : Url.Path
  query : Option (List Char)
  fragment : Option (List Char)
deriving DecidableEq, Repr

namespace Url

/-- How the scheme of a URL decides its form. -/
inductive SchemeKind
  -- Schemes of the web, with a host and always a path.
  | web
  | file
  -- Schemes of which nothing is known.
  | unknown
deriving DecidableEq, Repr

def SchemeKind.ofScheme (scheme : List Char) : SchemeKind :=
  if scheme = "file".toList then file
  else if ["http", "https", "ws", "wss", "ftp"].any (fun s => decide (s.toList = scheme)) then web
  else unknown

/-- Whether a backslash counts as a slash, and a host is an address or a domain. -/
def SchemeKind.isSpecial : SchemeKind → Bool
  | unknown => false
  | _ => true

def defaultPort? (scheme : List Char) : Option Nat :=
  [("http", 80), ("https", 443), ("ws", 80), ("wss", 443), ("ftp", 21)].findSome?
    (fun entry => if entry.1.toList = scheme then some entry.2 else none)

/-- The user part before the host; nothing if there is neither a name nor a password. -/
def Authority.userText (a : Authority) : List Char :=
  if a.username = [] ∧ a.password = [] then []
  else a.username ++ (if a.password = [] then [] else ':' :: a.password) ++ ['@']

def Authority.hostText (a : Authority) : List Char :=
  a.host.text ++ match a.port with
    | some n => ':' :: Text.decimal n
    | none => []

def Path.text : Path → List Char
  | opaqueText cs => cs
  | segments parts => parts.flatMap (fun part => '/' :: part)

/-- A part of a URL behind the character that introduces it. -/
def tail (mark : Char) : Option (List Char) → List Char
  | some cs => mark :: cs
  | none => []

/-- The authority behind two slashes. Without one, a path that starts with two slashes is set off by
`/.`. -/
def leadText (u : Url) : List Char :=
  match u.authority with
  | some a => '/' :: '/' :: a.userText ++ a.hostText
  | none =>
    match u.path with
    | .segments ([] :: _ :: _) => ['/', '.']
    | _ => []

def text (u : Url) : List Char :=
  u.scheme ++ ':' :: u.leadText ++ u.path.text ++ tail '?' u.query ++ tail '#' u.fragment

def shown (u : Url) : String := String.ofList u.text

def isOpaque (u : Url) : Bool :=
  match u.path with
  | .opaqueText _ => true
  | .segments _ => false

def target (u : Url) : List Char := u.path.text ++ tail '?' u.query

end Url

end Handoff
