import Handoff.Proofs.Config.Issues
import Handoff.Tls.Client

/-!
The TLS material that a client cannot be set up from. The file that is named is the first one that cannot be
read, whatever the other files hold. A certificate without a key, or a key without a certificate, is not
looked at, but no valid configuration has one.
-/

namespace Handoff.Tls

/-- The files that a client is set up from, in the order in which they are read. -/
def materialPaths (s : TransmitSection) : List Path :=
  s.caCertPath.toList ++
    match s.clientCertPath, s.clientKeyPath with
    | some cert, some key => [cert, key]
    | _, _ => []

/-- The first of some files that cannot be read, and why. -/
def FirstUnreadable (fs : FileSystem) (paths : List Path) (path : Path) (cause : FileError) : Prop :=
  ∃ before behind, paths = before ++ path :: behind ∧ (∀ other ∈ before, ∃ bytes, fs.read other = .ok bytes) ∧
    fs.read path = .error cause

/-- What the result of setting a client up tells of the files. -/
structure NamesUnreadable (fs : FileSystem) (s : TransmitSection) : Prop where
  tlsMaterial_iff : ∀ path cause, (setUp fs s).1 = .error (.tlsMaterial path cause) ↔
    FirstUnreadable fs (materialPaths s) path cause
  unreadable_iff : (∃ path cause, (setUp fs s).1 = .error (.tlsMaterial path cause)) ↔
    ∃ path ∈ materialPaths s, ∃ cause, fs.read path = .error cause
  otherwise : ∀ e, (setUp fs s).1 = .error e → (∃ path cause, e = .tlsMaterial path cause) ∨ e = .client
  unpaired : s.clientCertPath.isSome ≠ s.clientKeyPath.isSome →
    setUp fs s = setUp fs { s with clientCertPath := none, clientKeyPath := none }
  paired : ∀ c : Config, Config.validate c = .ok c → c.transmit = s →
    ∀ path, s.clientCertPath = some path ∨ s.clientKeyPath = some path → path ∈ materialPaths s

/-- The error that names a file, if the file cannot be read. -/
def fault? (fs : FileSystem) (path : Path) : Option Upload.Error :=
  match fs.read path with
  | .ok _ => none
  | .error cause => some (.tlsMaterial path cause)

section
variable {fs : FileSystem} {path : Path}

theorem fault?_eq_none_iff : fault? fs path = none ↔ ∃ bytes, fs.read path = .ok bytes := by
  unfold fault?
  cases fs.read path with
  | ok bytes => exact ⟨fun _ => ⟨bytes, rfl⟩, fun _ => rfl⟩
  | error cause => exact ⟨nofun, fun ⟨_, h⟩ => nomatch h⟩

theorem fault?_eq_some_iff {e : Upload.Error} :
    fault? fs path = some e ↔ ∃ cause, fs.read path = .error cause ∧ e = .tlsMaterial path cause := by
  unfold fault?
  cases fs.read path with
  | ok bytes => exact ⟨nofun, fun ⟨_, h, _⟩ => nomatch h⟩
  | error cause => simp [eq_comm]

/-- A file is loaded, or it is at fault. -/
theorem load_cases (fs : FileSystem) (path : Path) :
    (∃ e, fault? fs path = some e ∧ load fs path = .error e) ∨
      (fault? fs path = none ∧ ∃ bytes, load fs path = .ok bytes) := by
  unfold fault? load
  cases fs.read path with
  | ok bytes => exact Or.inr ⟨rfl, bytes, rfl⟩
  | error cause => exact Or.inl ⟨_, rfl, rfl⟩

theorem loadBundle_cases (fs : FileSystem) (s : TransmitSection) :
    (∃ e, s.caCertPath.toList.findSome? (fault? fs) = some e ∧ loadBundle fs s = .error e) ∨
      (s.caCertPath.toList.findSome? (fault? fs) = none ∧ ∃ bundle, loadBundle fs s = .ok bundle) := by
  unfold loadBundle
  cases s.caCertPath with
  | none => exact Or.inr ⟨rfl, none, rfl⟩
  | some path =>
    rw [Option.toList_some, List.findSome?_singleton]
    dsimp only
    rcases load_cases fs path with ⟨e, hfault, hload⟩ | ⟨hfault, bytes, hload⟩
    · exact Or.inl ⟨e, hfault, by rw [hload]; rfl⟩
    · exact Or.inr ⟨hfault, some bytes, by rw [hload]; rfl⟩

theorem loadIdentity_cases (fs : FileSystem) (cert key : Path) :
    (∃ e, [cert, key].findSome? (fault? fs) = some e ∧ loadIdentity fs (cert, key) = .error e) ∨
      ([cert, key].findSome? (fault? fs) = none ∧ ∃ bytes, loadIdentity fs (cert, key) = .ok bytes) := by
  unfold loadIdentity
  rw [List.findSome?_cons]
  rcases load_cases fs cert with ⟨e, hfault, hload⟩ | ⟨hfault, certBytes, hload⟩
  · rw [hfault, hload]
    exact Or.inl ⟨e, rfl, rfl⟩
  · rw [hfault, hload, List.findSome?_singleton]
    dsimp only
    rcases load_cases fs key with ⟨e, hfault, hload⟩ | ⟨hfault, keyBytes, hload⟩
    · rw [hfault, hload]
      exact Or.inl ⟨e, rfl, rfl⟩
    · rw [hfault, hload]
      exact Or.inr ⟨rfl, _, rfl⟩

/-- Setting a client up fails with the first file that is at fault. If none is, all files have been read, and
only what they hold can make it fail. -/
theorem setUp_cases (fs : FileSystem) (s : TransmitSection) :
    (∃ e, (materialPaths s).findSome? (fault? fs) = some e ∧ (setUp fs s).1 = .error e) ∨
      ((materialPaths s).findSome? (fault? fs) = none ∧
        ((setUp fs s).1 = .ok () ∨ (setUp fs s).1 = .error .client)) := by
  have hjudged (usable : Bool) :
      (if usable then .ok () else .error .client : Except Upload.Error Unit) = .ok () ∨
      (if usable then .ok () else .error .client : Except Upload.Error Unit) = .error .client := by
    cases usable with
    | true => exact Or.inl rfl
    | false => exact Or.inr rfl
  unfold setUp materialPaths identityPaths?
  -- The bundle is loaded first. What is wrong with its text shows only behind the identity's files.
  rw [List.findSome?_append]
  rcases loadBundle_cases fs s with ⟨e, hfault, hload⟩ | ⟨hfault, bundle, hload⟩
  · rw [hfault, hload]
    exact Or.inl ⟨e, rfl, rfl⟩
  · rw [hfault, hload, Option.none_or]
    dsimp only
    cases hcert : s.clientCertPath with
    | none => exact Or.inr ⟨rfl, hjudged _⟩
    | some cert =>
      cases hkey : s.clientKeyPath with
      | none => exact Or.inr ⟨rfl, hjudged _⟩
      | some key =>
        dsimp only
        rcases loadIdentity_cases fs cert key with ⟨e, hfault, hload⟩ | ⟨hfault, bytes, hload⟩
        · rw [hfault, hload]
          exact Or.inl ⟨e, rfl, rfl⟩
        · rw [hfault, hload]
          dsimp only
          cases Identity.ofPem? bytes with
          | none => exact Or.inr ⟨rfl, Or.inr rfl⟩
          | some identity => exact Or.inr ⟨rfl, hjudged _⟩

theorem firstUnreadable_iff {paths : List Path} {cause : FileError} :
    FirstUnreadable fs paths path cause ↔ paths.findSome? (fault? fs) = some (.tlsMaterial path cause) := by
  rw [List.findSome?_eq_some_iff]
  constructor
  · rintro ⟨before, behind, rfl, hbefore, hread⟩
    refine ⟨before, path, behind, rfl, fault?_eq_some_iff.mpr ⟨cause, hread, rfl⟩, ?_⟩
    exact fun other hother => fault?_eq_none_iff.mpr (hbefore other hother)
  · rintro ⟨before, found, behind, rfl, hfault, hbefore⟩
    obtain ⟨why, hread, hnamed⟩ := fault?_eq_some_iff.mp hfault
    obtain ⟨rfl, rfl⟩ := Upload.Error.tlsMaterial.inj hnamed
    exact ⟨before, behind, rfl, fun other hother => fault?_eq_none_iff.mp (hbefore other hother), hread⟩

theorem setUp_tlsMaterial_iff {s : TransmitSection} {cause : FileError} :
    (setUp fs s).1 = .error (.tlsMaterial path cause) ↔ FirstUnreadable fs (materialPaths s) path cause := by
  rw [firstUnreadable_iff]
  rcases setUp_cases fs s with ⟨e, hfault, hresult⟩ | ⟨hfault, hresult | hresult⟩
  · rw [hfault, hresult, Except.error.injEq, Option.some_inj]
  · rw [hfault, hresult]
    exact ⟨nofun, nofun⟩
  · rw [hfault, hresult]
    exact ⟨nofun, nofun⟩

theorem mem_materialPaths {s : TransmitSection} (hpaired : s.clientCertPath.isSome = s.clientKeyPath.isSome)
    (h : s.clientCertPath = some path ∨ s.clientKeyPath = some path) : path ∈ materialPaths s := by
  unfold materialPaths
  cases hcert : s.clientCertPath with
  | none =>
    cases hkey : s.clientKeyPath with
    | none => simp [hcert, hkey] at h
    | some key => simp [hcert, hkey] at hpaired
  | some cert =>
    cases hkey : s.clientKeyPath with
    | none => simp [hcert, hkey] at hpaired
    | some key =>
      simp only [hcert, hkey, Option.some_inj] at h
      rcases h with rfl | rfl <;> simp

/-- The result of setting a client up names the first file that cannot be read. -/
theorem setUp_names_unreadable (fs : FileSystem) (s : TransmitSection) : NamesUnreadable fs s where
  tlsMaterial_iff := fun path cause => setUp_tlsMaterial_iff
  unreadable_iff := by
    simp only [setUp_tlsMaterial_iff]
    constructor
    · rintro ⟨path, cause, before, behind, hpaths, _, hread⟩
      exact ⟨path, hpaths ▸ List.mem_append_right before List.mem_cons_self, cause, hread⟩
    · rintro ⟨path, hmem, cause, hread⟩
      have hfault : fault? fs path = some (.tlsMaterial path cause) :=
        fault?_eq_some_iff.mpr ⟨cause, hread, rfl⟩
      -- A file before this one may be unreadable as well, and is named instead.
      have hsome : ((materialPaths s).findSome? (fault? fs)).isSome = true :=
        List.findSome?_isSome_iff.mpr ⟨path, hmem, by rw [hfault]; rfl⟩
      obtain ⟨e, hfirst⟩ := Option.isSome_iff_exists.mp hsome
      obtain ⟨first, _, hat⟩ := List.exists_of_findSome?_eq_some hfirst
      obtain ⟨why, _, rfl⟩ := fault?_eq_some_iff.mp hat
      exact ⟨first, why, firstUnreadable_iff.mpr hfirst⟩
  otherwise := by
    intro e h
    rcases setUp_cases fs s with ⟨found, hfault, hresult⟩ | ⟨_, hresult | hresult⟩
    · obtain rfl : found = e := Except.error.inj (hresult.symm.trans h)
      obtain ⟨path, _, hpath⟩ := List.exists_of_findSome?_eq_some hfault
      obtain ⟨cause, _, hnamed⟩ := fault?_eq_some_iff.mp hpath
      exact Or.inl ⟨path, cause, hnamed⟩
    · cases hresult.symm.trans h
    · exact Or.inr (Except.error.inj (hresult.symm.trans h)).symm
  unpaired := by
    intro h
    have hidentity : identityPaths? s = none := by
      unfold identityPaths?
      cases hcert : s.clientCertPath with
      | none => rfl
      | some cert =>
        cases hkey : s.clientKeyPath with
        | none => rfl
        | some key => simp [hcert, hkey] at h
    unfold setUp
    rw [hidentity]
    rfl
  paired := by
    rintro c hvalid rfl path h
    -- A valid configuration has both paths or none.
    have hcheck : ¬ Config.Check.clientCertificate.Fails c :=
      Config.issues_eq_nil_iff.mp (Config.validate_eq_ok_iff.mp hvalid) _
    exact mem_materialPaths (not_not.mp hcheck) h

end

end Handoff.Tls
