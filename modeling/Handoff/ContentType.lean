import Handoff.Path

/-!
The content type of a result file, which its extension decides.
-/

namespace Handoff

/-- The kinds of result file that are told apart. -/
inductive ContentType
  | gzip
  | tar
  | zip
  | json
  | xml
  | yaml
  | plainText
  | html
deriving DecidableEq, Repr

namespace ContentType

def header : ContentType → String
  | gzip => "application/gzip"
  | tar => "application/x-tar"
  | zip => "application/zip"
  | json => "application/json"
  | xml => "text/xml; charset=utf-8"
  | yaml => "application/yaml"
  | plainText => "text/plain; charset=utf-8"
  | html => "text/html; charset=utf-8"

def extensions : List (String × ContentType) :=
  [("gz", gzip), ("tgz", gzip), ("tar", tar), ("zip", zip), ("json", json), ("xml", xml),
    ("yaml", yaml), ("yml", yaml), ("txt", plainText), ("log", plainText), ("html", html), ("htm", html)]

/-- ASCII capitals as small letters, other bytes unchanged. -/
def lowerByte (b : UInt8) : UInt8 := if 0x41 ≤ b ∧ b ≤ 0x5A then b + 0x20 else b

/-- The type an extension stands for, in any letter case. -/
def ofExtension? (extension : Bytes) : Option ContentType :=
  (extensions.find? (fun entry => Text.encode entry.1.toList = extension.map lowerByte)).map (·.2)

/-- The content type of the file a path names; an unknown extension leaves it open. -/
def ofPath? (p : Path) : Option ContentType := p.extension?.bind ofExtension?

/-- The word that stands for a content type in the log. -/
def label : Option ContentType → String
  | some t => t.header
  | none => "unspecified"

end ContentType

end Handoff
