import Handoff.Proofs.Text.Blank
import Handoff.Proofs.Text.Utf8
import Handoff.Waitfile

/-!
What a look at the waitfile means. It finds a result file exactly if the waitfile is a text with a
reference in it, nothing exactly if there is no file or only blanks, and in every other case it reports
why the waitfile cannot be read.
-/

namespace Handoff.Waitfile

/-- The waitfile is a text that consists of a reference with nothing but blanks around it. -/
def Holds (fs : FileSystem) (waitfile : Path) (reference : List Char) : Prop :=
  Text.IsCore reference ∧ ∃ before after, Text.IsBlankText before ∧ Text.IsBlankText after ∧
    fs.read waitfile = .ok (Text.encode (before ++ reference ++ after))

/-- What the statuses of a look mean. -/
structure Meaning (fs : FileSystem) (waitfile : Path) : Prop where
  ready_iff : ∀ resultFile, inspect fs waitfile = .ready resultFile ↔
    ∃ reference, Holds fs waitfile reference ∧ resultFile = ⟨Text.encode reference⟩
  reference_unique : ∀ reference other, Holds fs waitfile reference → Holds fs waitfile other →
    reference = other
  reference_kept : ∀ reference, Holds fs waitfile reference →
    reference? reference = some ⟨Text.encode reference⟩
  missing_iff : inspect fs waitfile = .missing ↔
    fs.read waitfile = .error .notFound ∨
      ∃ content, Text.IsBlankText content ∧ fs.read waitfile = .ok (Text.encode content)
  -- A link that leads nowhere counts as a file that is not there.
  dangling : ∀ parent name, fs.locate true waitfile = .ok (.free parent name) →
    inspect fs waitfile = .missing
  unreadable_iff : ∀ cause, inspect fs waitfile = .unreadable cause ↔
    (fs.read waitfile = .error cause ∧ cause ≠ .notFound) ∨
      ∃ bytes fault, fs.read waitfile = .ok bytes ∧ Text.decode bytes = .error fault ∧
        cause = .malformedText fault
  malformed : ∀ bytes, fs.read waitfile = .ok bytes → (∀ content, bytes ≠ Text.encode content) →
    ∃ fault, inspect fs waitfile = .unreadable (.malformedText fault)

theorem reference?_blank {content : List Char} (h : Text.IsBlankText content) : reference? content = none := by
  rw [reference?, Text.trim_blank h]

theorem reference?_around {before reference after : List Char} (hbefore : Text.IsBlankText before)
    (hreference : Text.IsCore reference) (hafter : Text.IsBlankText after) :
    reference? (before ++ reference ++ after) = some ⟨Text.encode reference⟩ := by
  rw [reference?, Text.trim_around hbefore hreference hafter]
  cases reference with
  | nil => exact absurd rfl hreference.ne_nil
  | cons c cs => rfl

/-- A text names nothing if it is blank, and else the part between its blanks. -/
theorem reference?_cases (content : List Char) :
    (Text.IsBlankText content ∧ reference? content = none) ∨
    ∃ before reference after, Text.IsBlankText before ∧ Text.IsCore reference ∧ Text.IsBlankText after ∧
      content = before ++ reference ++ after ∧ reference? content = some ⟨Text.encode reference⟩ := by
  rcases Text.trim_cases content with hblank | ⟨before, after, hbefore, hcore, hafter, hcontent⟩
  · exact Or.inl ⟨hblank, reference?_blank hblank⟩
  · refine Or.inr ⟨before, Text.trim content, after, hbefore, hcore, hafter, hcontent, ?_⟩
    calc reference? content = reference? (before ++ Text.trim content ++ after) := by rw [← hcontent]
      _ = some ⟨Text.encode (Text.trim content)⟩ := reference?_around hbefore hcore hafter

theorem status_encode (content : List Char) :
    status (.ok (Text.encode content)) = match reference? content with
      | some resultFile => .ready resultFile
      | none => .missing := by
  cases hreference : reference? content with
  | none => simp [status, Text.decode_encode, hreference]
  | some resultFile => simp [status, Text.decode_encode, hreference]

theorem status_malformed {bytes : Bytes} {fault : Text.Utf8Error} (h : Text.decode bytes = .error fault) :
    status (.ok bytes) = .unreadable (.malformedText fault) := by
  rw [status, h]

theorem status_error {cause : FileError} (h : cause ≠ .notFound) :
    status (.error cause) = .unreadable cause := by
  cases cause with
  | notFound => exact absurd rfl h
  | _ => rfl

section
variable {fs : FileSystem} {waitfile : Path}

/-- The ways in which a look comes out. -/
theorem inspect_cases (fs : FileSystem) (waitfile : Path) :
    (fs.read waitfile = .error .notFound ∧ inspect fs waitfile = .missing) ∨
    (∃ cause, cause ≠ .notFound ∧ fs.read waitfile = .error cause ∧ inspect fs waitfile = .unreadable cause) ∨
    (∃ bytes fault, fs.read waitfile = .ok bytes ∧ Text.decode bytes = .error fault ∧
      inspect fs waitfile = .unreadable (.malformedText fault)) ∨
    (∃ content, Text.IsBlankText content ∧ fs.read waitfile = .ok (Text.encode content) ∧
      inspect fs waitfile = .missing) ∨
    ∃ reference, Holds fs waitfile reference ∧ inspect fs waitfile = .ready ⟨Text.encode reference⟩ := by
  unfold inspect
  cases hread : fs.read waitfile with
  | error cause =>
    by_cases hcause : cause = .notFound
    · subst hcause
      exact Or.inl ⟨rfl, rfl⟩
    · exact Or.inr (Or.inl ⟨cause, hcause, rfl, status_error hcause⟩)
  | ok bytes =>
    right
    right
    cases hdecode : Text.decode bytes with
    | error fault => exact Or.inl ⟨bytes, fault, rfl, hdecode, status_malformed hdecode⟩
    | ok content =>
      right
      obtain rfl := Text.decode_eq_ok_iff.mp hdecode
      rw [status_encode]
      rcases reference?_cases content with ⟨hblank, hnone⟩ |
        ⟨before, reference, after, hbefore, hcore, hafter, rfl, hsome⟩
      · exact Or.inl ⟨content, hblank, rfl, by rw [hnone]⟩
      · exact Or.inr ⟨reference, ⟨hcore, before, after, hbefore, hafter, hread⟩, by rw [hsome]⟩

theorem inspect_of_holds {reference : List Char} (h : Holds fs waitfile reference) :
    inspect fs waitfile = .ready ⟨Text.encode reference⟩ := by
  obtain ⟨hcore, before, after, hbefore, hafter, hread⟩ := h
  rw [inspect, hread, status_encode, reference?_around hbefore hcore hafter]

theorem inspect_of_blank {content : List Char} (hblank : Text.IsBlankText content)
    (hread : fs.read waitfile = .ok (Text.encode content)) : inspect fs waitfile = .missing := by
  rw [inspect, hread, status_encode, reference?_blank hblank]

theorem holds_of_ready {resultFile : Path} (h : inspect fs waitfile = .ready resultFile) :
    ∃ reference, Holds fs waitfile reference ∧ resultFile = ⟨Text.encode reference⟩ := by
  rcases inspect_cases fs waitfile with ⟨_, hinspect⟩ | ⟨_, _, _, hinspect⟩ | ⟨_, _, _, _, hinspect⟩ |
    ⟨_, _, _, hinspect⟩ | ⟨reference, hholds, hinspect⟩
  · cases hinspect.symm.trans h
  · cases hinspect.symm.trans h
  · cases hinspect.symm.trans h
  · cases hinspect.symm.trans h
  · exact ⟨reference, hholds, (WaitfileStatus.ready.inj (hinspect.symm.trans h)).symm⟩

theorem absent_or_blank_of_missing (h : inspect fs waitfile = .missing) :
    fs.read waitfile = .error .notFound ∨
      ∃ content, Text.IsBlankText content ∧ fs.read waitfile = .ok (Text.encode content) := by
  rcases inspect_cases fs waitfile with ⟨hread, _⟩ | ⟨_, _, _, hinspect⟩ | ⟨_, _, _, _, hinspect⟩ |
    ⟨content, hblank, hread, _⟩ | ⟨_, _, hinspect⟩
  · exact Or.inl hread
  · cases hinspect.symm.trans h
  · cases hinspect.symm.trans h
  · exact Or.inr ⟨content, hblank, hread⟩
  · cases hinspect.symm.trans h

theorem fault_of_unreadable {cause : FileError} (h : inspect fs waitfile = .unreadable cause) :
    (fs.read waitfile = .error cause ∧ cause ≠ .notFound) ∨
      ∃ bytes fault, fs.read waitfile = .ok bytes ∧ Text.decode bytes = .error fault ∧
        cause = .malformedText fault := by
  rcases inspect_cases fs waitfile with ⟨_, hinspect⟩ | ⟨found, hfound, hread, hinspect⟩ |
    ⟨bytes, fault, hread, hdecode, hinspect⟩ | ⟨_, _, _, hinspect⟩ | ⟨_, _, hinspect⟩
  · cases hinspect.symm.trans h
  · obtain rfl : found = cause := WaitfileStatus.unreadable.inj (hinspect.symm.trans h)
    exact Or.inl ⟨hread, hfound⟩
  · exact Or.inr ⟨bytes, fault, hread, hdecode, (WaitfileStatus.unreadable.inj (hinspect.symm.trans h)).symm⟩
  · cases hinspect.symm.trans h
  · cases hinspect.symm.trans h

/-- A look at the waitfile says what is there. -/
theorem inspect_meaning (fs : FileSystem) (waitfile : Path) : Meaning fs waitfile where
  ready_iff := by
    intro resultFile
    constructor
    · exact holds_of_ready
    · rintro ⟨reference, hholds, rfl⟩
      exact inspect_of_holds hholds
  reference_unique := by
    intro reference other h hother
    have hready : (⟨Text.encode reference⟩ : Path) = ⟨Text.encode other⟩ :=
      WaitfileStatus.ready.inj ((inspect_of_holds h).symm.trans (inspect_of_holds hother))
    exact Text.encode_injective (Path.mk.inj hready)
  reference_kept := by
    intro reference h
    have haround : reference? ([] ++ reference ++ []) = some ⟨Text.encode reference⟩ :=
      reference?_around nofun h.1 nofun
    rwa [List.nil_append, List.append_nil] at haround
  missing_iff := by
    constructor
    · exact absent_or_blank_of_missing
    · rintro (hread | ⟨content, hblank, hread⟩)
      · rw [inspect, hread]
        rfl
      · exact inspect_of_blank hblank hread
  dangling := by
    intro parent name h
    rw [inspect, FileSystem.read, FileSystem.find, h]
    rfl
  unreadable_iff := by
    intro cause
    constructor
    · exact fault_of_unreadable
    · rintro (⟨hread, hcause⟩ | ⟨bytes, fault, hread, hdecode, rfl⟩)
      · rw [inspect, hread, status_error hcause]
      · rw [inspect, hread, status_malformed hdecode]
  malformed := by
    intro bytes hread hmalformed
    cases hdecode : Text.decode bytes with
    | error fault =>
      refine ⟨fault, ?_⟩
      rw [inspect, hread, status_malformed hdecode]
    | ok content => exact absurd (Text.decode_eq_ok_iff.mp hdecode) (hmalformed content)

end

end Handoff.Waitfile
