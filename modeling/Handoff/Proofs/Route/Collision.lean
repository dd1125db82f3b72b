import Handoff.Proofs.Except
import Handoff.Proofs.Route.Agreement
import Handoff.Proofs.Url.Segments

/-!
Which names share a route. Under a URL without a path the route of a plugin tells what is written of its
name and of the node, but a name of dots leaves no segment of its own.
-/

namespace Handoff.Route

/-- A URL without a path, under which results can be uploaded. -/
structure IsBare (text : String) (base : Url) : Prop where
  parsed : Url.parse text.toList = .ok base
  upload : Config.isUploadScheme base.scheme = true
  incomplete : isComplete base = false

/-- The segments of a route before they are encoded. -/
def trail (plugin : List Char) (node : Option (List Char)) : List (List Char) :=
  (segments plugin node).foldl Url.putBehind []

def encoded (trail : List (List Char)) : List (List Char) :=
  trail.map (Url.percentEncode (Url.keptInSegment true))

/-- What is written of a name is not a dot segment. -/
def IsPlain (name : List Char) : Prop :=
  Url.written name ≠ ['.'] ∧ Url.written name ≠ ['.', '.']

instance (name : List Char) : Decidable (IsPlain name) :=
  inferInstanceAs (Decidable (_ ∧ _))

def root : List (List Char) := ["api".toList, "v1".toList, "results".toList]

/-- The segments behind the root that are the same for all names of a kind. -/
def scope (plugin : List Char) : Option (List Char) → List (List Char)
  | some node => ["by-node".toList, node, plugin]
  | none => ["global".toList, plugin]

theorem segments_eq (plugin : List Char) (node : Option (List Char)) :
    segments plugin node = root ++ scope plugin node := by
  cases node <;> rfl

theorem trail_eq (plugin : List Char) (node : Option (List Char)) :
    trail plugin node = (scope plugin node).foldl Url.putBehind root := by
  have hroot : root.foldl Url.putBehind [] = root := by decide +kernel
  rw [trail, segments_eq, List.foldl_append, hroot]

theorem foldl_segments {start : List (List Char)} (hstart : start = [] ∨ start = [[]])
    (plugin : List Char) (node : Option (List Char)) :
    (segments plugin node).foldl (Url.pushSegment .web) start = encoded (trail plugin node) := by
  have hroot : root.foldl (Url.pushSegment .web) start = encoded root := by
    rcases hstart with rfl | rfl <;> decide +kernel
  rw [segments_eq, List.foldl_append, hroot, trail_eq]
  exact Url.foldl_pushSegment (by decide) (by decide) _

theorem isComplete_segments {base : Url} {parts : List (List Char)}
    (hpath : base.path = .segments parts)
    (h : isComplete base = false) : parts = [] ∨ parts = [[]] := by
  cases parts with
  | nil => exact Or.inl rfl
  | cons part parts =>
    have htext : base.path.text = '/' :: (part ++ (Url.Path.segments parts).text) := by
      rw [hpath]
      rfl
    cases hrest : part ++ (Url.Path.segments parts).text with
    | nil =>
      obtain ⟨rfl, hnil⟩ := List.append_eq_nil_iff.mp hrest
      cases parts with
      | nil => exact Or.inr rfl
      | cons part parts => cases hnil
    | cons c cs =>
      rw [isComplete, htext, hrest] at h
      simp at h

section
variable {aggregator : AggregatorSection} {base : Url} {plugin : List Char}

/-- The route of a plugin under a URL without a path. -/
theorem resolve_bare (hbare : IsBare aggregator.url base)
    (hplugin : named? aggregator.plugin = some plugin) :
    resolve aggregator =
      .ok { base with path := .segments (encoded (trail plugin (named? aggregator.node))) } := by
  have hkind := Config.ofScheme_of_upload hbare.upload
  have hknown : Url.SchemeKind.ofScheme base.scheme ≠ .unknown := by
    rw [hkind]
    decide
  obtain ⟨parts, hpath⟩ := Url.parse_segments hbare.parsed hknown
  have hstart := isComplete_segments hpath hbare.incomplete
  have htrailing : Url.withoutTrailingSlash parts = parts := by
    rcases hstart with rfl | rfl <;> rfl
  unfold resolve
  simp only [hbare.parsed, hbare.incomplete, hplugin, Bool.false_eq_true, if_false]
  simp only [under, Url.extend?, hpath, htrailing, hkind]
  rw [foldl_segments hstart]

end

theorem encoded_injective : Function.Injective encoded := by
  intro trail other h
  exact (List.map_inj_right (Url.percentEncode_injective Url.keptInSegment_percent)).mp h

theorem slash_notMem_encoded {trail : List (List Char)} : ∀ part ∈ encoded trail, '/' ∉ part := by
  intro part hpart
  obtain ⟨cs, _, rfl⟩ := List.mem_map.mp hpart
  exact Url.slash_notMem_segment cs

/-- Routes under one URL differ in their texts if their trails differ. -/
theorem text_encoded_inj {base : Url} {a : Url.Authority} (hauthority : base.authority = some a)
    {t u : List (List Char)}
    (h : ({ base with path := .segments (encoded t) } : Url).text =
      ({ base with path := .segments (encoded u) } : Url).text) : t = u := by
  have hpath : (Url.Path.segments (encoded t)).text = (Url.Path.segments (encoded u)).text := by
    simpa [Url.text, Url.leadText, hauthority] using h
  exact encoded_injective (Url.Path.segments_eq_of_text slash_notMem_encoded slash_notMem_encoded hpath)

theorem scope_inj {p q : List Char} {m n : Option (List Char)} :
    scope p m = scope q n ↔ p = q ∧ m = n := by
  cases m <;> cases n <;> simp [scope, and_comm]

theorem foldl_putBehind_of_plain {names : List (List Char)} (h : ∀ name ∈ names, IsPlain name)
    (trail : List (List Char)) :
    names.foldl Url.putBehind trail = trail ++ names.map Url.written := by
  induction names generalizing trail with
  | nil => exact (List.append_nil trail).symm
  | cons name names ih =>
    obtain ⟨hsingle, hdouble⟩ := h name List.mem_cons_self
    rw [List.foldl_cons, Url.putBehind_of_plain hsingle hdouble,
      ih fun other hother => h other (List.mem_cons_of_mem name hother), List.append_assoc]
    rfl

/-- Plain names stand in a route as they are written. -/
theorem trail_of_plain {plugin : List Char} {node : Option (List Char)} (hplugin : IsPlain plugin)
    (hnode : ∀ name ∈ node, IsPlain name) :
    trail plugin node = root ++ scope (Url.written plugin) (node.map Url.written) := by
  have hglobal : IsPlain "global".toList := by decide
  have hbyNode : IsPlain "by-node".toList := by decide
  have hscope : ∀ name ∈ scope plugin node, IsPlain name := by
    intro name hname
    cases node with
    | none =>
      simp only [scope, List.mem_cons, List.not_mem_nil, or_false] at hname
      rcases hname with rfl | rfl
      · exact hglobal
      · exact hplugin
    | some host =>
      simp only [scope, List.mem_cons, List.not_mem_nil, or_false] at hname
      rcases hname with rfl | rfl | rfl
      · exact hbyNode
      · exact hnode name rfl
      · exact hplugin
  have hwritten : (scope plugin node).map Url.written =
      scope (Url.written plugin) (node.map Url.written) := by
    cases node <;> rfl
  rw [trail_eq, foldl_putBehind_of_plain hscope, hwritten]

section
variable {a b : AggregatorSection} {base : Url} {p q : List Char}

/-- Under a URL without a path two names have the same route iff they leave the same trail. Names
that are not written as dots do so iff the same is written of them. -/
theorem resolve_text_eq_iff (hbare : IsBare a.url base) (hurl : b.url = a.url)
    (hp : named? a.plugin = some p) (hq : named? b.plugin = some q) :
    ∃ u v, resolve a = .ok u ∧ resolve b = .ok v ∧
      (u.text = v.text ↔ trail p (named? a.node) = trail q (named? b.node)) ∧
      (IsPlain p → IsPlain q → (∀ name ∈ named? a.node, IsPlain name) →
        (∀ name ∈ named? b.node, IsPlain name) →
        (u.text = v.text ↔ Url.written p = Url.written q ∧
          (named? a.node).map Url.written = (named? b.node).map Url.written)) := by
  have hkind := Config.ofScheme_of_upload hbare.upload
  obtain ⟨authority, hauthority⟩ := Url.parse_authority hbare.parsed hkind
  have hiff : ({ base with path := .segments (encoded (trail p (named? a.node))) } : Url).text =
      ({ base with path := .segments (encoded (trail q (named? b.node))) } : Url).text ↔
      trail p (named? a.node) = trail q (named? b.node) := by
    constructor
    · exact text_encoded_inj hauthority
    · intro h
      rw [h]
  refine ⟨_, _, resolve_bare hbare hp, resolve_bare (hurl ▸ hbare) hq, hiff, ?_⟩
  intro hplainP hplainQ hplainA hplainB
  rw [hiff, trail_of_plain hplainP hplainA, trail_of_plain hplainQ hplainB, List.append_right_inj,
    scope_inj]

end

def agg (parts : List (List Char)) : Url where
  scheme := "http".toList
  authority := some ⟨[], [], .name "agg".toList, none⟩
  path := .segments parts
  query := none
  fragment := none

/-- The section of an aggregator whose URL has no path. -/
def underAgg (plugin : String) (node : Option String) : AggregatorSection :=
  { url := "http://agg", plugin := some plugin, node := node }

theorem isBare_agg : IsBare "http://agg" (agg [[]]) := by
  constructor <;> decide +kernel

/-- A slash and its encoding make two names. -/
theorem resolve_slash_ne_encoded : ∃ u v, resolve (underAgg "a/b" none) = .ok u ∧
    resolve (underAgg "a%2Fb" none) = .ok v ∧ u.text ≠ v.text := by
  have hurl : (underAgg "a%2Fb" none).url = (underAgg "a/b" none).url := rfl
  have hslash : named? (underAgg "a/b" none).plugin = some "a/b".toList := by decide +kernel
  have hencoded : named? (underAgg "a%2Fb" none).plugin = some "a%2Fb".toList := by decide +kernel
  obtain ⟨u, v, hu, hv, _, hplain⟩ := resolve_text_eq_iff isBare_agg hurl hslash hencoded
  have htext := hplain (by decide +kernel) (by decide +kernel) nofun nofun
  refine ⟨u, v, hu, hv, ?_⟩
  rw [Ne, htext]
  decide +kernel

/-- A tab within a name is lost, and a node named by a dot or by two dots has no segment. -/
theorem different_names_share_route :
    IsBare "http://agg" (agg [[]]) ∧
    named? (some "a\tb") ≠ named? (some "ab") ∧
    resolve (underAgg "a\tb" none) = .ok (agg (root ++ ["global".toList, "ab".toList])) ∧
    resolve (underAgg "ab" none) = .ok (agg (root ++ ["global".toList, "ab".toList])) ∧
    named? (some ".") ≠ named? (some "..") ∧
    resolve (underAgg "e2e" (some ".")) = .ok (agg (root ++ ["by-node".toList, "e2e".toList])) ∧
    resolve (underAgg "e2e" (some "..")) = .ok (agg (root ++ ["by-node".toList, "e2e".toList])) := by
  refine ⟨isBare_agg, ?_, ?_, ?_, ?_, ?_, ?_⟩ <;> decide +kernel

end Handoff.Route
