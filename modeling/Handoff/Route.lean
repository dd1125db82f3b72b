import Handoff.Config.Basic
import Handoff.Text.Blank
import Handoff.Upload.Error
import Handoff.Url.Parser

/-!
The route that results are uploaded to. Results of a plugin lie under `global`, or under `by-node` and
the name of the node.
-/

namespace Handoff.Route

def segments (plugin : List Char) (node : Option (List Char)) : List (List Char) :=
  ["api".toList, "v1".toList, "results".toList] ++
    match node with
    | some node => ["by-node".toList, node, plugin]
    | none => ["global".toList, plugin]

def under (base : Url) (plugin : List Char) (node : Option (List Char)) : Except Upload.Error Url :=
  match base.extend? (segments plugin node) with
  | some url => .ok url
  | none => .error (.noRoute base)

/-- A text without surrounding blanks, if anything is left. -/
def named? (s : Option String) : Option (List Char) :=
  match s with
  | none => none
  | some s => if Text.trim s.toList = [] then none else some (Text.trim s.toList)

/-- Whether a URL has a path of its own, which makes it complete. -/
def isComplete (url : Url) : Bool := url.path.text ≠ [] && url.path.text ≠ ['/']

/-- The URL that results are uploaded to: the aggregator's own if it has a path, else the route of the
plugin under it. -/
def resolve (aggregator : AggregatorSection) : Except Upload.Error Url :=
  match Url.parse aggregator.url.toList with
  | .error cause => .error (.invalidUrl cause)
  | .ok url =>
    if isComplete url then .ok url
    else match named? aggregator.plugin with
      | none => .error (.missingPlugin url)
      | some plugin => under url plugin (named? aggregator.node)

end Handoff.Route
