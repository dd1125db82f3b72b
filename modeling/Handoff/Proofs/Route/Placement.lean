import Handoff.Proofs.Route.Collision
import Handoff.Proofs.Url.Path

/-!
The route under any URL, however long its path is. The path of the route is that of the URL without
a slash at its end, then the fixed segments, then each name as one segment; all else of the URL
stays.
-/

namespace Handoff.Url

/-- What a name is written as in a path of the web. -/
def encodeName (name : List Char) : List Char := encodeSegment .web name

/-- A path without one slash at its end. -/
def withoutSlash (path : List Char) : List Char :=
  if path.getLast? = some '/' then path.dropLast else path

/-- A path without one slash at its end, read as empty if only a slash is left. -/
def stem (path : List Char) : List Char := if withoutSlash path = ['/'] then [] else withoutSlash path

/-- The segments that texts are put behind. -/
def stemSegments (parts : List (List Char)) : List (List Char) :=
  if withoutTrailingSlash parts = [[]] then [] else withoutTrailingSlash parts

theorem Path.text_nil : (Path.segments []).text = [] := rfl

theorem Path.text_singleton (part : List Char) : (Path.segments [part]).text = '/' :: part :=
  List.append_nil _

theorem Path.text_append (parts others : List (List Char)) :
    (Path.segments (parts ++ others)).text =
      (Path.segments parts).text ++ (Path.segments others).text :=
  List.flatMap_append

theorem getLast?_text {part : List Char} (hslash : '/' ∉ part) (hne : part ≠ [])
    (parts : List (List Char)) : (Path.segments (parts ++ [part])).text.getLast? ≠ some '/' := by
  have hlast : (Path.segments (parts ++ [part])).text =
      ((Path.segments parts).text ++ ['/']) ++ part := by
    rw [Path.text_append, List.append_assoc]
    simp [Path.text]
  rw [hlast, List.getLast?_append_of_ne_nil _ hne, List.getLast?_eq_some_getLast hne]
  intro h
  exact hslash (Option.some.inj h ▸ List.getLast_mem hne)

theorem withoutTrailingSlash_of_slash {parts : List (List Char)} (h : parts ≠ []) :
    withoutTrailingSlash (parts ++ [[]]) = parts := by
  obtain ⟨init, last, rfl⟩ := List.eq_nil_or_concat parts |>.resolve_left h
  unfold withoutTrailingSlash
  simp

theorem withoutTrailingSlash_of_ne {part : List Char} (h : part ≠ []) (parts : List (List Char)) :
    withoutTrailingSlash (parts ++ [part]) = parts ++ [part] := by
  unfold withoutTrailingSlash
  rw [List.reverse_append]
  cases part with
  | nil => exact absurd rfl h
  | cons c cs => rfl

/-- The stem of a path is the text of the segments that texts are put behind. -/
theorem stem_text {parts : List (List Char)} (hslash : ∀ part ∈ parts, '/' ∉ part) :
    stem (Path.segments parts).text = (Path.segments (stemSegments parts)).text := by
  have hlone (others : List (List Char)) (h : ∀ part ∈ others, '/' ∉ part) :
      (Path.segments others).text = ['/'] ↔ others = [[]] := by
    constructor
    · intro htext
      exact Path.segments_eq_of_text h (by decide) htext
    · rintro rfl
      rfl
  have hread (others : List (List Char)) (h : ∀ part ∈ others, '/' ∉ part) :
      (if (Path.segments others).text = ['/'] then [] else (Path.segments others).text) =
        (Path.segments (if others = [[]] then [] else others)).text := by
    rw [if_congr (hlone others h) rfl rfl]
    split
    · rfl
    · rfl
  unfold stem stemSegments
  rcases List.eq_nil_or_concat parts with rfl | ⟨init, last, rfl⟩
  · rfl
  · rw [List.concat_eq_append] at hslash ⊢
    have hinit : ∀ part ∈ init, '/' ∉ part :=
      fun part hpart => hslash part (List.mem_append_left _ hpart)
    by_cases hlast : last = []
    · subst hlast
      have htext : (Path.segments (init ++ [[]])).text = (Path.segments init).text ++ ['/'] :=
        Path.text_append init [[]]
      have hshort : withoutSlash (Path.segments (init ++ [[]])).text = (Path.segments init).text := by
        rw [htext, withoutSlash, List.getLast?_concat, if_pos rfl, List.dropLast_concat]
      rw [hshort]
      by_cases hempty : init = []
      · subst hempty
        rfl
      · rw [withoutTrailingSlash_of_slash hempty]
        exact hread init hinit
    · have hend : '/' ∉ last := hslash last (by simp)
      rw [withoutSlash, if_neg (getLast?_text hend hlast init), withoutTrailingSlash_of_ne hlast]
      exact hread _ hslash

section
variable {names parts : List (List Char)}

/-- A text that is written as it is, and not as a dot segment. -/
def IsName (name : List Char) : Prop :=
  name ≠ ['.'] ∧ name ≠ ['.', '.'] ∧ ∀ c ∈ name, isDropped c = false

instance (name : List Char) : Decidable (IsName name) :=
  decidable_of_iff (name ≠ ['.'] ∧ name ≠ ['.', '.'] ∧ name.all (fun c => !(isDropped c)) = true) (by
    simp [IsName])

theorem IsName.written {name : List Char} (h : IsName name) : written name = name := by
  apply List.filter_eq_self.mpr
  intro c hc
  rw [h.2.2 c hc]
  rfl

theorem encodeName_eq {name : List Char} (h : IsName name) :
    encodeName name = percentEncode (keptInSegment true) name := by
  have hwritten : encodeName name = percentEncode (keptInSegment true) (Url.written name) := rfl
  rw [hwritten, h.written]

/-- A name is encoded to its bytes. -/
theorem percentDecode_encodeName {name : List Char} (h : IsName name) :
    percentDecode (encodeName name) = Text.encode name := by
  rw [encodeName_eq h, percentDecode_percentEncode keptInSegment_percent]

/-- Nothing in what a name is written as ends a segment or a path. -/
theorem notMem_encodeName (name : List Char) : ∀ c ∈ encodeName name, c ∉ "/?#\\".toList := by
  unfold encodeName encodeSegment
  refine forall_mem_percentEncode ?_ (by decide) (by decide)
  intro c _ hkept hc
  have hends : "/?#\\".toList.all (fun d => !(keptInSegment true d)) = true := by decide
  have hfree : keptInSegment true c = false := by simpa using List.all_eq_true.mp hends c hc
  exact Bool.false_ne_true (hfree.symm.trans hkept)

/-- A name is one segment behind those that are there. -/
theorem pushSegment_of_name {name : List Char} (h : IsName name) (parts : List (List Char)) :
    pushSegment .web parts name = (if parts = [[]] then [] else parts) ++ [encodeName name] := by
  have hdots : ¬ (name = ['.'] ∨ name = ['.', '.']) := fun hdots => hdots.elim h.1 h.2.1
  have hdouble : isDoubleDot (encodeName name) ≠ true := by
    rw [encodeName_eq h, Ne, isDoubleDot_percentEncode keptInSegment_percent keptInSegment_dot]
    exact h.2.1
  have hsingle : isSingleDot (encodeName name) ≠ true := by
    rw [encodeName_eq h, Ne, isSingleDot_percentEncode keptInSegment_percent keptInSegment_dot]
    exact h.1
  rw [pushSegment, if_neg hdots, settle_eq (by decide), ← encodeName, place_single, if_neg hdouble,
    if_neg hsingle]

theorem foldl_names (hnames : ∀ name ∈ names, IsName name) (hempty : parts ≠ [])
    (hlone : parts ≠ [[]]) :
    names.foldl (pushSegment .web) parts = parts ++ names.map encodeName := by
  induction names generalizing parts with
  | nil => exact (List.append_nil parts).symm
  | cons name names ih =>
    have hlonger : parts ++ [encodeName name] ≠ [[]] := by
      intro h
      have hlength := congrArg List.length h
      have hpositive := List.length_pos_of_ne_nil hempty
      rw [List.length_append, List.length_singleton, List.length_singleton] at hlength
      omega
    rw [List.foldl_cons, pushSegment_of_name (hnames name List.mem_cons_self), if_neg hlone,
      ih (fun other hother => hnames other (List.mem_cons_of_mem name hother)) (by simp) hlonger,
      List.map_cons, List.append_assoc]
    rfl

/-- Names stand behind the stem of a path, each as one segment, if the first of them is not empty. -/
theorem foldl_names_of_stem {name : List Char} (hname : IsName name) (hwritten : encodeName name ≠ [])
    (hnames : ∀ other ∈ names, IsName other) :
    (name :: names).foldl (pushSegment .web) (withoutTrailingSlash parts) =
      stemSegments parts ++ (name :: names).map encodeName := by
  have hlone : stemSegments parts ++ [encodeName name] ≠ [[]] := by
    intro h
    have hlast := congrArg List.getLast? h
    rw [List.getLast?_append_of_ne_nil _ (List.cons_ne_nil _ _)] at hlast
    exact hwritten (Option.some.inj hlast)
  rw [List.foldl_cons, pushSegment_of_name hname, ← stemSegments, foldl_names hnames (by simp) hlone,
    List.append_assoc]
  rfl

end

end Handoff.Url

namespace Handoff.Route

/-- What a route adds to a path. -/
def addition (plugin : List Char) : Option (List Char) → List Char
  | none => "/api/v1/results/global/".toList ++ Url.encodeName plugin
  | some node =>
    "/api/v1/results/by-node/".toList ++ (Url.encodeName node ++ '/' :: Url.encodeName plugin)

/-- How a route lies under a URL, whatever path that has. -/
structure Placement (base : Url) (plugin : List Char) (node : Option (List Char)) : Prop where
  route : ∃ url, under base plugin node = .ok url ∧ url = { base with path := url.path } ∧
    url.path.text = Url.stem base.path.text ++ addition plugin node
  -- Every name stays in its segment and can be read back from it.
  contained : ∀ name ∈ plugin :: node.toList, ∀ c ∈ Url.encodeName name, c ∉ "/?#\\".toList
  recovered : ∀ name ∈ plugin :: node.toList, Url.percentDecode (Url.encodeName name) = Text.encode name

theorem under_error_iff {base : Url} {plugin : List Char} {node : Option (List Char)}
    {e : Upload.Error} :
    under base plugin node = .error e ↔ base.isOpaque = true ∧ e = .noRoute base := by
  constructor
  · intro h
    exact (under_error h).symm
  · rintro ⟨htext, rfl⟩
    unfold under Url.extend?
    cases hpath : base.path with
    | opaqueText text => rfl
    | segments parts =>
      rw [Url.isOpaque, hpath] at htext
      cases htext

theorem isName_segments {plugin : List Char} {node : Option (List Char)} (hplugin : Url.IsName plugin)
    (hnode : ∀ name ∈ node, Url.IsName name) : ∀ name ∈ segments plugin node, Url.IsName name := by
  have hroot : ∀ name ∈ root, Url.IsName name := by decide
  have hscope : ∀ name ∈ scope plugin node, Url.IsName name := by
    have hlast : ∀ name ∈ [plugin], Url.IsName name := List.forall_mem_singleton.mpr hplugin
    cases node with
    | none =>
      have hkind : Url.IsName "global".toList := by decide
      exact List.forall_mem_cons.mpr ⟨hkind, hlast⟩
    | some node =>
      have hkind : Url.IsName "by-node".toList := by decide
      exact List.forall_mem_cons.mpr ⟨hkind, List.forall_mem_cons.mpr ⟨hnode node rfl, hlast⟩⟩
  rw [segments_eq]
  exact List.forall_mem_append.mpr ⟨hroot, hscope⟩

theorem text_behind (fixed : List (List Char)) (name : List Char) (names : List (List Char)) :
    (Url.Path.segments ((fixed ++ name :: names).map Url.encodeName)).text =
      ((Url.Path.segments (fixed.map Url.encodeName)).text ++ ['/']) ++
        (Url.encodeName name ++ (Url.Path.segments (names.map Url.encodeName)).text) := by
  rw [List.map_append, Url.Path.text_append, List.append_assoc]
  rfl

theorem text_segments (plugin : List Char) (node : Option (List Char)) :
    (Url.Path.segments ((segments plugin node).map Url.encodeName)).text = addition plugin node := by
  have hlead (kind : String) (hkind : kind ∈ ["global", "by-node"]) :
      (Url.Path.segments ((root ++ [kind.toList]).map Url.encodeName)).text ++ ['/'] =
        "/api/v1/results/".toList ++ kind.toList ++ ['/'] := by
    revert kind
    decide
  cases node with
  | none =>
    have hbehind := text_behind (root ++ ["global".toList]) plugin []
    rw [hlead "global" (by decide), List.map_nil, Url.Path.text_nil, List.append_nil] at hbehind
    exact hbehind
  | some node =>
    have hbehind := text_behind (root ++ ["by-node".toList]) node [plugin]
    rw [hlead "by-node" (by decide), List.map_singleton, Url.Path.text_singleton] at hbehind
    exact hbehind

/-- The route under a URL of the web. -/
theorem under_ok {base : Url} {parts : List (List Char)} {plugin : List Char}
    {node : Option (List Char)} (hkind : Url.SchemeKind.ofScheme base.scheme = .web)
    (hpath : base.path = .segments parts)
    (hplugin : Url.IsName plugin) (hnode : ∀ name ∈ node, Url.IsName name) :
    under base plugin node = .ok { base with
      path := .segments (Url.stemSegments parts ++ (segments plugin node).map Url.encodeName) } := by
  have hnames := isName_segments hplugin hnode
  have hfold : (segments plugin node).foldl (Url.pushSegment .web) (Url.withoutTrailingSlash parts) =
      Url.stemSegments parts ++ (segments plugin node).map Url.encodeName :=
    Url.foldl_names_of_stem (hnames _ List.mem_cons_self) (by decide)
      fun other hother => hnames other (List.mem_cons_of_mem _ hother)
  unfold under Url.extend?
  simp only [hpath, hkind]
  rw [hfold]

/-- Where the route of a plugin lies under a URL, and when there is none. -/
theorem under_placement (base : Url) :
    (∀ plugin node e, under base plugin node = .error e ↔ base.isOpaque = true ∧ e = .noRoute base) ∧
    ∀ text plugin node, Url.parse text = .ok base → Config.isUploadScheme base.scheme = true →
      Url.IsName plugin → (∀ name ∈ node, Url.IsName name) → Placement base plugin node := by
  refine ⟨fun _ _ _ => under_error_iff, ?_⟩
  intro text plugin node hparse hupload hplugin hnode
  have hkind := Config.ofScheme_of_upload hupload
  obtain ⟨parts, hpath, hsegments⟩ := Url.isSegment_of_parse hparse hkind
  have hslash : ∀ part ∈ parts, '/' ∉ part := fun part hpart => (hsegments part hpart).slash_notMem
  have htext :
      (Url.Path.segments (Url.stemSegments parts ++ (segments plugin node).map Url.encodeName)).text =
      Url.stem base.path.text ++ addition plugin node := by
    rw [Url.Path.text_append, ← Url.stem_text hslash, hpath, text_segments]
  have hnames : ∀ name ∈ plugin :: node.toList, Url.IsName name := by
    intro name hname
    rcases List.mem_cons.mp hname with rfl | hname
    · exact hplugin
    · exact hnode name (Option.mem_toList.mp hname)
  exact {
    route := ⟨_, under_ok hkind hpath hplugin hnode, rfl, htext⟩
    contained := fun name _ => Url.notMem_encodeName name
    recovered := fun name hname => Url.percentDecode_encodeName (hnames name hname) }

/-- A URL with all parts, and slashes at the end of its path. -/
def mirror : Url where
  scheme := "https".toList
  authority := some ⟨"ops".toList, "pw".toList, .name "agg".toList, some 8443⟩
  path := .segments ["base".toList, [], []]
  query := some "q=1".toList
  fragment := some "top".toList

/-- A name that looks like a dot segment and holds a slash stays one segment, and so does an empty
one. -/
theorem under_mirror : Url.parse "https://ops:pw@agg:8443/base//?q=1#top".toList = .ok mirror ∧
    Placement mirror "%2e/ü".toList (some []) ∧
    ∀ plugin node, under mirror plugin node ≠ .error (.noRoute mirror) := by
  have hparse : Url.parse "https://ops:pw@agg:8443/base//?q=1#top".toList = .ok mirror := by
    decide +kernel
  refine ⟨hparse, (under_placement mirror).2 _ _ _ hparse (by decide) (by decide) (by decide), ?_⟩
  intro plugin node h
  cases ((under_placement mirror).1 plugin node _).mp h |>.1

end Handoff.Route
