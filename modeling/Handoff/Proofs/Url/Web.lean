import Handoff.Proofs.Url.Host
import Handoff.Proofs.Url.Path
import Handoff.Proofs.Url.Segments

/-!
URLs of the web in the form in which they are held. Reading gives this form and extending keeps it: every part
holds only characters that are kept as they are, and the path is segments.
-/

namespace Handoff.Url

structure Authority.IsWeb (scheme : List Char) (a : Authority) : Prop where
  username : ∀ c ∈ a.username, keptInUserinfo c = true
  password : ∀ c ∈ a.password, keptInUserinfo c = true
  host : a.host.IsWeb
  port : ∀ n ∈ a.port, n < 65536 ∧ defaultPort? scheme ≠ some n

/-- A URL of the web as it is held. -/
structure IsWeb (u : Url) : Prop where
  scheme : SchemeKind.ofScheme u.scheme = .web
  authority : ∃ a, u.authority = some a ∧ a.IsWeb u.scheme
  path : ∃ parts, u.path = .segments parts ∧ parts ≠ [] ∧ ∀ part ∈ parts, IsSegment part
  query : ∀ cs ∈ u.query, ∀ c ∈ cs, keptInQuery true c = true
  fragment : ∀ cs ∈ u.fragment, ∀ c ∈ cs, keptInFragment c = true

/-! Reading. -/

section
variable {keep : Char → Bool} {cs : List Char}

/-- What is percent-encoded is kept as it is. -/
theorem kept_percentEncode (hpercent : keep '%' = true) (hdigit : ∀ n < 16, keep (hexDigit n) = true)
    (cs : List Char) : ∀ c ∈ percentEncode keep cs, keep c = true :=
  forall_mem_percentEncode (fun _ _ hkept => hkept) hpercent hdigit

theorem kept_userinfo (cs : List Char) : ∀ c ∈ percentEncode keptInUserinfo cs, keptInUserinfo c = true :=
  kept_percentEncode (by decide) (by decide) cs

theorem kept_query (cs : List Char) : ∀ c ∈ percentEncode (keptInQuery true) cs, keptInQuery true c = true :=
  kept_percentEncode (by decide) (by decide) cs

theorem kept_fragment (cs : List Char) : ∀ c ∈ percentEncode keptInFragment cs, keptInFragment c = true :=
  kept_percentEncode (by decide) (by decide) cs

end

section
variable {scheme cs rest : List Char} {more : Bool} {a : Authority} {parts placed : List (List Char)}

theorem portOfText_range {port : Option Nat} (h : portOfText scheme cs = .ok (port, rest)) :
    ∀ n ∈ port, n < 65536 ∧ defaultPort? scheme ≠ some n := by
  unfold portOfText at h
  split at h
  · dsimp only at h
    split at h
    · obtain ⟨rfl, _⟩ := Prod.mk.inj (Except.ok.inj h)
      exact nofun
    · split at h
      · cases h
      · split at h
        · cases h
        · rename_i hsmall
          obtain ⟨rfl, _⟩ := Prod.mk.inj (Except.ok.inj h)
          intro n hn
          split at hn
          · cases hn
          · rename_i hdefault
            obtain rfl := Option.some.inj hn
            exact ⟨Nat.lt_of_not_le hsmall, hdefault⟩
  · obtain ⟨rfl, _⟩ := Prod.mk.inj (Except.ok.inj h)
    exact nofun

theorem isWeb_of_authorityOfText (h : authorityOfText scheme .web more cs = .ok (a, rest)) :
    a.IsWeb scheme := by
  unfold authorityOfText at h
  split at h
  dsimp only at h
  split at h
  · cases h
  · split at h
    · cases h
    · rename_i hhost
      split at h
      · cases h
      · rename_i hport
        obtain ⟨rfl, _⟩ := Prod.mk.inj (Except.ok.inj h)
        exact ⟨kept_userinfo _, kept_userinfo _, Host.isWeb_of_ofText hhost, portOfText_range hport⟩

/-- Putting segments in place leaves some. -/
theorem placeOnto_ne_nil (h : parts ≠ []) : placeOnto placed parts ≠ [] := by
  induction parts generalizing placed with
  | nil => exact absurd rfl h
  | cons part parts ih =>
    rw [placeOnto]
    by_cases hparts : parts = []
    · subst hparts
      simp only [placeOnto]
      split
      · exact List.cons_ne_nil _ _
      · split
        · exact List.cons_ne_nil _ _
        · exact List.cons_ne_nil _ _
    · split
      · exact ih hparts
      · split
        · exact ih hparts
        · exact ih hparts

theorem place_ne_nil (h : parts ≠ []) : place placed parts ≠ [] :=
  fun hnil => placeOnto_ne_nil h (List.reverse_eq_nil_iff.mp hnil)

theorem segmentsOfText_ne_nil (cs : List Char) : segmentsOfText .web cs ≠ [] := by
  have hplaced : placedOfText .web cs ≠ [] :=
    place_ne_nil fun hnil => Text.splitAt_ne_nil _ (List.map_eq_nil_iff.mp hnil)
  unfold segmentsOfText
  rw [if_neg (fun h => nomatch h.2), settle_eq (by decide), colonDrive_web]
  exact hplaced

/-- Reading a URL of the web gives its form. -/
theorem isWeb_of_parse {u : Url} (h : parse cs = .ok u) (hs : SchemeKind.ofScheme u.scheme = .web) :
    u.IsWeb := by
  obtain ⟨_, _, a, _, path, query, fragment, hauthority, hu⟩ := parse_web h hs
  have hspecial : (SchemeKind.ofScheme u.scheme).isSpecial = true := by
    rw [hs]
    rfl
  rw [hu]
  refine ⟨hs, ⟨a, rfl, isWeb_of_authorityOfText hauthority⟩,
    ⟨_, rfl, segmentsOfText_ne_nil path, isSegment_segmentsOfText path⟩, ?_, ?_⟩
  · intro cs hcs
    obtain ⟨text, _, rfl⟩ := Option.map_eq_some_iff.mp hcs
    rw [hspecial]
    exact kept_query text
  · intro cs hcs
    obtain ⟨text, _, rfl⟩ := Option.map_eq_some_iff.mp hcs
    exact kept_fragment text

/-! Extending. -/

theorem isSegment_pushSegment (h : ∀ part ∈ parts, IsSegment part) (cs : List Char) :
    ∀ part ∈ pushSegment .web parts cs, IsSegment part := by
  unfold pushSegment
  split
  · exact h
  · rw [settle_eq (by decide)]
    apply forall_place isSegment_nil
    · split
      · exact fun _ hpart => absurd hpart List.not_mem_nil
      · exact h
    · rw [List.forall_mem_singleton]
      refine fun hsingle hdouble => ⟨forall_mem_percentEncode ?_ (by decide) (by decide), hsingle, hdouble⟩
      intro c _ hkept
      obtain ⟨hboth, hslash⟩ := (Bool.and_eq_true _ _).mp hkept
      obtain ⟨hpath, hsigns⟩ := (Bool.and_eq_true _ _).mp hboth
      refine ⟨hpath, ?_⟩
      rw [isSeparator, Bool.or_eq_false_iff, beq_eq_false_iff_ne]
      refine ⟨?_, (Bool.not_eq_true' _).mp hslash⟩
      rintro rfl
      exact absurd hsigns (by decide)

theorem pushSegment_ne_nil (h : parts ≠ []) (cs : List Char) : pushSegment .web parts cs ≠ [] := by
  unfold pushSegment
  split
  · exact h
  · rw [settle_eq (by decide)]
    exact place_ne_nil (List.cons_ne_nil _ _)

theorem withoutTrailingSlash_ne_nil (h : parts ≠ []) : withoutTrailingSlash parts ≠ [] := by
  unfold withoutTrailingSlash
  split
  · rename_i hreverse
    intro hnil
    have hlength := congrArg List.length hreverse
    have hdrop := congrArg List.length hnil
    rw [List.length_reverse, List.length_cons, List.length_cons] at hlength
    rw [List.length_dropLast, List.length_nil] at hdrop
    omega
  · exact h

theorem isSegment_foldl (hne : parts ≠ []) (h : ∀ part ∈ parts, IsSegment part) (texts : List (List Char)) :
    texts.foldl (pushSegment .web) parts ≠ [] ∧
      ∀ part ∈ texts.foldl (pushSegment .web) parts, IsSegment part := by
  induction texts generalizing parts with
  | nil => exact ⟨hne, h⟩
  | cons cs texts ih => exact ih (pushSegment_ne_nil hne cs) (isSegment_pushSegment h cs)

/-- Extending a URL of the web keeps its form. -/
theorem isWeb_extend? {u v : Url} {texts : List (List Char)} (hu : u.IsWeb) (h : u.extend? texts = some v) :
    v.IsWeb := by
  obtain ⟨parts, hpath, hne, hsegments⟩ := hu.path
  rw [extend?, hpath] at h
  dsimp only at h
  rw [hu.scheme] at h
  obtain rfl := Option.some.inj h
  have hfold := isSegment_foldl (withoutTrailingSlash_ne_nil hne) (forall_withoutTrailingSlash hsegments) texts
  exact { hu with path := ⟨_, rfl, hfold⟩ }

end

/-! The characters of the text. -/

/-- A character that can be seen: no blank and no control character. -/
def isGraphic (c : Char) : Bool := decide (0x20 < c.toNat) && c != '\x7f'

/-- A character that is no control character. -/
def isVisible (c : Char) : Bool := ' ' ≤ c && c != '\x7f'

def Visible (cs : List Char) : Prop := ∀ c ∈ cs, isVisible c = true

instance (cs : List Char) : Decidable (Visible cs) :=
  decidable_of_iff (cs.all isVisible = true) List.all_eq_true

theorem Visible.append {cs ds : List Char} (hcs : Visible cs) (hds : Visible ds) : Visible (cs ++ ds) := by
  intro c hc
  rcases List.mem_append.mp hc with hfirst | hlast
  · exact hcs c hfirst
  · exact hds c hlast

/-- A character of the part of a URL before its path. -/
def isAuthorityChar (c : Char) : Bool := isGraphic c && !(endsAuthority .web c)

section
variable {c : Char}

theorem isVisible_of_graphic (h : isGraphic c = true) : isVisible c = true := by
  obtain ⟨hlow, hdelete⟩ := (Bool.and_eq_true _ _).mp h
  have hlow' : 0x20 < c.toNat := of_decide_eq_true hlow
  have hspace : ' ' ≤ c := by
    change 0x20 ≤ c.toNat
    omega
  rw [isVisible, decide_eq_true hspace, Bool.true_and]
  exact hdelete

theorem isGraphic_of_printable (h : isPrintableAscii c = true) (hspace : c ≠ ' ') : isGraphic c = true := by
  obtain ⟨hlow, hhigh⟩ := (Bool.and_eq_true _ _).mp h
  have hlow' : 0x20 ≤ c.toNat := of_decide_eq_true hlow
  have hhigh' : c.toNat ≤ 0x7E := of_decide_eq_true hhigh
  have hne : c.toNat ≠ 0x20 := fun heq => hspace (Char.toNat_inj.mp heq)
  have hdelete : c ≠ '\x7f' := by
    rintro rfl
    exact absurd hhigh' (by decide)
  rw [isGraphic, Bool.and_eq_true, decide_eq_true_eq, bne_iff_ne]
  exact ⟨by omega, hdelete⟩

theorem isGraphic_of_fragment (h : keptInFragment c = true) : isGraphic c = true := by
  refine isGraphic_of_printable ((Bool.and_eq_true _ _).mp h).1 ?_
  rintro rfl
  exact absurd h (by decide)

theorem isGraphic_of_query (h : keptInQuery true c = true) : isGraphic c = true := by
  refine isGraphic_of_printable ((Bool.and_eq_true _ _).mp ((Bool.and_eq_true _ _).mp h).1).1 ?_
  rintro rfl
  exact absurd h (by decide)

theorem isGraphic_of_path (h : keptInPath c = true) : isGraphic c = true :=
  isGraphic_of_fragment ((Bool.and_eq_true _ _).mp h).1

theorem isGraphic_of_host (h : Host.isHostChar c = true) : isGraphic c = true := by
  rcases (Bool.or_eq_true _ _).mp h with hallowed | hmark
  · have hfree := (Bool.not_eq_true' _).mp hallowed
    simp only [Domain.isForbidden, Bool.or_eq_false_iff, decide_eq_false_iff_not, beq_eq_false_iff_ne] at hfree
    obtain ⟨⟨hlow, hdelete⟩, _⟩ := hfree
    rw [isGraphic, Bool.and_eq_true, decide_eq_true_eq, bne_iff_ne]
    refine ⟨Nat.lt_of_not_le hlow, ?_⟩
    rintro rfl
    exact hdelete rfl
  · have hmarks : [':', '[', ']'].all isGraphic = true := by decide
    exact List.all_eq_true.mp hmarks c (List.contains_iff_mem.mp hmark)

/-- No character that ends the part before the path is in a class that holds none of the four. -/
theorem endsAuthority_eq_false {keep : Char → Bool}
    (hkeep : ['/', '?', '#', '\\'].all (fun d => !(keep d)) = true) (h : keep c = true) :
    endsAuthority .web c = false := by
  rw [← Bool.not_eq_true]
  intro hends
  have hmem : c ∈ ['/', '?', '#', '\\'] := by
    simpa [endsAuthority, SchemeKind.isSpecial, or_assoc] using hends
  rw [(Bool.not_eq_true' _).mp (List.all_eq_true.mp hkeep c hmem)] at h
  cases h

theorem isAuthorityChar_of_userinfo (h : keptInUserinfo c = true) : isAuthorityChar c = true := by
  rw [isAuthorityChar, isGraphic_of_path ((Bool.and_eq_true _ _).mp h).1, endsAuthority_eq_false (by decide) h]
  rfl

theorem isAuthorityChar_of_host (h : Host.isHostChar c = true) : isAuthorityChar c = true := by
  rw [isAuthorityChar, isGraphic_of_host h, endsAuthority_eq_false (by decide) h]
  rfl

end

section
variable {a : Authority} {scheme : List Char}

theorem Authority.IsWeb.forall_mem_userText (h : a.IsWeb scheme) :
    ∀ c ∈ a.userText, isAuthorityChar c = true := by
  have hname : ∀ c ∈ a.username, isAuthorityChar c = true :=
    fun c hc => isAuthorityChar_of_userinfo (h.username c hc)
  have hpassword : ∀ c ∈ a.password, isAuthorityChar c = true :=
    fun c hc => isAuthorityChar_of_userinfo (h.password c hc)
  have hmark : ∀ c ∈ ['@'], isAuthorityChar c = true := List.forall_mem_singleton.mpr (by decide)
  unfold Authority.userText
  split
  · exact fun _ hc => absurd hc List.not_mem_nil
  · rw [List.forall_mem_append, List.forall_mem_append]
    refine ⟨⟨hname, ?_⟩, hmark⟩
    split
    · exact fun _ hc => absurd hc List.not_mem_nil
    · exact List.forall_mem_cons.mpr ⟨by decide, hpassword⟩

theorem Authority.IsWeb.forall_mem_hostText (h : a.IsWeb scheme) :
    ∀ c ∈ a.hostText, Host.isHostChar c = true := by
  unfold Authority.hostText
  rw [List.forall_mem_append]
  refine ⟨Host.forall_mem_text h.host, ?_⟩
  split
  · exact List.forall_mem_cons.mpr ⟨by decide, Text.forall_mem_toDigits (by decide) (by decide) _⟩
  · exact fun _ hc => absurd hc List.not_mem_nil

end

section
variable {u : Url}

/-- The schemes of the web. -/
theorem ofScheme_web {scheme : List Char} (h : SchemeKind.ofScheme scheme = .web) :
    ∃ s ∈ ["http", "https", "ws", "wss", "ftp"], s.toList = scheme := by
  unfold SchemeKind.ofScheme at h
  split at h
  · cases h
  · split at h
    · rename_i hweb
      obtain ⟨s, hs, heq⟩ := List.any_eq_true.mp hweb
      exact ⟨s, hs, of_decide_eq_true heq⟩
    · cases h

/-- All of the text of a URL of the web can be seen. -/
theorem IsWeb.forall_mem_text (h : u.IsWeb) : ∀ c ∈ u.text, isGraphic c = true := by
  have hscheme : ∀ c ∈ u.scheme, isGraphic c = true := by
    obtain ⟨s, hs, heq⟩ := ofScheme_web h.scheme
    have hknown :
        ["http", "https", "ws", "wss", "ftp"].all (fun s => s.toList.all isGraphic) = true := by decide
    rw [← heq]
    exact List.all_eq_true.mp (List.all_eq_true.mp hknown s hs)
  have hlead : ∀ c ∈ u.leadText, isGraphic c = true := by
    obtain ⟨a, hauthority, ha⟩ := h.authority
    rw [leadText, hauthority, List.forall_mem_append, List.forall_mem_cons, List.forall_mem_cons]
    exact ⟨⟨by decide, by decide, fun c hc => ((Bool.and_eq_true _ _).mp (ha.forall_mem_userText c hc)).1⟩,
      fun c hc => isGraphic_of_host (ha.forall_mem_hostText c hc)⟩
  have hpath : ∀ c ∈ u.path.text, isGraphic c = true := by
    obtain ⟨parts, hpath, _, hsegments⟩ := h.path
    rw [hpath]
    intro c hc
    obtain ⟨part, hpart, hmem⟩ := List.mem_flatMap.mp hc
    rcases List.mem_cons.mp hmem with rfl | hmem
    · decide
    · exact isGraphic_of_path ((hsegments part hpart).kept c hmem).1
  have hquery : ∀ c ∈ tail '?' u.query, isGraphic c = true := by
    cases hquery : u.query with
    | none => exact fun _ hc => absurd hc List.not_mem_nil
    | some cs =>
      exact List.forall_mem_cons.mpr ⟨by decide, fun c hc => isGraphic_of_query (h.query cs hquery c hc)⟩
  have hfragment : ∀ c ∈ tail '#' u.fragment, isGraphic c = true := by
    cases hfragment : u.fragment with
    | none => exact fun _ hc => absurd hc List.not_mem_nil
    | some cs =>
      exact List.forall_mem_cons.mpr ⟨by decide, fun c hc =>
        isGraphic_of_fragment (h.fragment cs hfragment c hc)⟩
  unfold text
  simp only [List.forall_mem_append, List.forall_mem_cons]
  exact ⟨⟨⟨⟨hscheme, by decide, hlead⟩, hpath⟩, hquery⟩, hfragment⟩

end

end Handoff.Url
