import Handoff.Url.Parser

/-!
The form of a URL that was read. Its scheme decides it: only an unknown scheme lets a path be a text that
cannot be extended.
-/

namespace Handoff.Url

variable {scheme cs : List Char} {kind : SchemeKind} {u : Url}

theorem parseAuthority_form (h : parseAuthority scheme kind cs = .ok u) :
    u.scheme = scheme ∧ u.isOpaque = false := by
  unfold parseAuthority at h
  dsimp only at h
  split at h
  · cases h
  · obtain rfl := Except.ok.inj h
    exact ⟨rfl, rfl⟩

theorem parseFile_form (h : parseFile scheme cs = .ok u) : u.scheme = scheme ∧ u.isOpaque = false := by
  unfold parseFile at h
  extract_lets kind finish at h
  have hfinish (host : Host) (rest : List Char) :
      (finish host rest).scheme = scheme ∧ (finish host rest).isOpaque = false := ⟨rfl, rfl⟩
  clear_value finish
  split at h
  · split at h
    · dsimp only [Text.cutAt] at h
      split at h
      · obtain rfl := Except.ok.inj h
        exact hfinish _ _
      · split at h
        · cases h
        · obtain rfl := Except.ok.inj h
          exact hfinish _ _
    · obtain rfl := Except.ok.inj h
      exact hfinish _ _
  · obtain rfl := Except.ok.inj h
    exact hfinish _ _

theorem parseUnknown_scheme (h : parseUnknown scheme cs = .ok u) : u.scheme = scheme := by
  unfold parseUnknown at h
  split at h
  · exact (parseAuthority_form h).1
  · dsimp only at h
    split at h
    · obtain rfl := Except.ok.inj h
      rfl
    · obtain rfl := Except.ok.inj h
      rfl

/-- A URL of the web is an authority with a path behind it. -/
theorem parse_web (h : parse cs = .ok u) (hs : SchemeKind.ofScheme u.scheme = .web) :
    ∃ more before a left path query fragment, authorityOfText u.scheme .web more before = .ok (a, left) ∧
      u = assemble u.scheme (some a) (.segments (segmentsOfText .web path)) query fragment := by
  unfold parse at h
  split at h
  · cases h
  · rename_i scheme rest _
    split at h
    · unfold parseAuthority at h
      dsimp only at h
      split at h
      · cases h
      · rename_i hauthority
        obtain rfl := Except.ok.inj h
        exact ⟨_, _, _, _, _, _, _, hauthority, rfl⟩
    · rename_i hkind
      rw [(parseFile_form h).1, hkind] at hs
      cases hs
    · rename_i hkind
      rw [parseUnknown_scheme h, hkind] at hs
      cases hs

/-- A URL of the web has an authority. -/
theorem parse_authority (h : parse cs = .ok u) (hs : SchemeKind.ofScheme u.scheme = .web) :
    ∃ a, u.authority = some a := by
  obtain ⟨_, _, a, _, _, _, _, _, hu⟩ := parse_web h hs
  exact ⟨a, by rw [hu]; rfl⟩

/-- The path of a URL with a known scheme is segments. -/
theorem parse_segments (h : parse cs = .ok u) (hs : SchemeKind.ofScheme u.scheme ≠ .unknown) :
    ∃ parts, u.path = .segments parts := by
  have hform : u.isOpaque = false := by
    unfold parse at h
    split at h
    · cases h
    · rename_i scheme rest _
      split at h
      · exact (parseAuthority_form h).2
      · exact (parseFile_form h).2
      · rename_i hkind
        rw [parseUnknown_scheme h] at hs
        exact absurd hkind hs
  cases hpath : u.path with
  | segments parts => exact ⟨parts, rfl⟩
  | opaqueText text =>
    rw [isOpaque, hpath] at hform
    cases hform

end Handoff.Url
