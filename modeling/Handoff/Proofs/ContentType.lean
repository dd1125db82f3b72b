import Handoff.ContentType
import Handoff.Proofs.Path
import Mathlib.Data.List.Forall2

/-!
The content type of a file comes from the final extension of its path, whatever letter case that is in, and
from nothing else of the path.
-/

namespace Handoff.ContentType

/-- The same byte, or the same letter of ASCII in the other case. -/
def SameLetter (a b : UInt8) : Prop :=
  a = b ∨ (0x41 ≤ a ∧ a ≤ 0x5A ∧ b = a + 0x20) ∨ (0x41 ≤ b ∧ b ≤ 0x5A ∧ a = b + 0x20)

/-- Bytes that are equal up to the case of letters. -/
def SameWord (xs ys : Bytes) : Prop := List.Forall₂ SameLetter xs ys

/-- The content type of a path comes from the extension of its final component. -/
structure FromExtension (p : Path) : Prop where
  some_iff : ∀ t, ofPath? p = some t ↔
    ∃ stem extension word, p.EndsIn (stem ++ Path.dot :: extension) ∧
      stem ++ Path.dot :: extension ≠ [Path.dot, Path.dot] ∧ stem ≠ [] ∧ Path.dot ∉ extension ∧
      (word, t) ∈ extensions ∧ SameWord (Text.encode word.toList) extension
  final_unique : ∀ name other, p.EndsIn name → p.EndsIn other → name = other
  of_nameless : (∀ name, ¬ p.EndsIn name) → ofPath? p = none
  of_parent : p.EndsIn [Path.dot, Path.dot] → ofPath? p = none
  -- A dot at the start of a name does not make an extension.
  of_plain : ∀ name, p.EndsIn name → Path.dot ∉ name.tail → ofPath? p = none
  under_directory : ∀ name, p.EndsIn name → ∀ directory,
    ofPath? ⟨directory ++ Path.slash :: p.bytes⟩ = ofPath? p
  before_trail : ∀ trail, Path.IsTrail trail → ofPath? ⟨p.bytes ++ trail⟩ = ofPath? p
  -- What stands before the last dot, and in other components, may be any bytes.
  behind_stem : ∀ q stem other extension, p.EndsIn (stem ++ Path.dot :: extension) →
    q.EndsIn (other ++ Path.dot :: extension) → stem ≠ [] → other ≠ [] → Path.dot ∉ extension →
      ofPath? p = ofPath? q
  in_any_case : ∀ q : Path, SameWord p.bytes q.bytes → ofPath? p = ofPath? q

theorem toNat_lowerByte (b : UInt8) :
    (lowerByte b).toNat = if 0x41 ≤ b.toNat ∧ b.toNat ≤ 0x5A then b.toNat + 0x20 else b.toNat := by
  have hrange : (0x41 ≤ b ∧ b ≤ 0x5A) ↔ 0x41 ≤ b.toNat ∧ b.toNat ≤ 0x5A := by
    rw [UInt8.le_iff_toNat_le, UInt8.le_iff_toNat_le]
    rfl
  by_cases h : 0x41 ≤ b ∧ b ≤ 0x5A
  · have hcapital := hrange.mp h
    rw [lowerByte, if_pos h, if_pos hcapital, UInt8.toNat_add]
    change (b.toNat + 0x20) % 256 = b.toNat + 0x20
    omega
  · rw [lowerByte, if_neg h, if_neg fun hcapital => h (hrange.mpr hcapital)]

theorem sameLetter_iff {a b : UInt8} : SameLetter a b ↔ a.toNat = b.toNat ∨
    (0x41 ≤ a.toNat ∧ a.toNat ≤ 0x5A ∧ b.toNat = a.toNat + 0x20) ∨
    (0x41 ≤ b.toNat ∧ b.toNat ≤ 0x5A ∧ a.toNat = b.toNat + 0x20) := by
  have hfirst : (0x41 : UInt8).toNat = 0x41 := rfl
  have hlast : (0x5A : UInt8).toNat = 0x5A := rfl
  have hshift : (0x20 : UInt8).toNat = 0x20 := rfl
  simp only [SameLetter, ← UInt8.toNat_inj, UInt8.le_iff_toNat_le, UInt8.toNat_add]
  omega

theorem lowerByte_eq_iff {a b : UInt8} : lowerByte a = lowerByte b ↔ SameLetter a b := by
  rw [← UInt8.toNat_inj, toNat_lowerByte, toNat_lowerByte, sameLetter_iff]
  split_ifs <;> omega

theorem lowerByte_lowerByte (b : UInt8) : lowerByte (lowerByte b) = lowerByte b := by
  rw [← UInt8.toNat_inj, toNat_lowerByte (lowerByte b), toNat_lowerByte]
  split_ifs <;> omega

/-- Slashes and dots come before the letters, so lowering letters keeps them. -/
theorem keepsMarks_lowerByte : Path.KeepsMarks lowerByte := by
  have hmark (mark : UInt8) (h : mark.toNat < 0x41) (b : UInt8) : lowerByte b = mark ↔ b = mark := by
    rw [← UInt8.toNat_inj, ← UInt8.toNat_inj, toNat_lowerByte]
    split_ifs <;> omega
  exact ⟨hmark Path.slash (by decide), hmark Path.dot (by decide)⟩

theorem sameWord_iff {xs ys : Bytes} : SameWord xs ys ↔ xs.map lowerByte = ys.map lowerByte := by
  rw [← List.forall₂_eq_eq_eq, List.forall₂_map_left_iff, List.forall₂_map_right_iff]
  simp only [lowerByte_eq_iff]
  rfl

theorem lower_word : ∀ entry ∈ extensions,
    (Text.encode entry.1.toList).map lowerByte = Text.encode entry.1.toList := by
  decide +kernel

/-- No word stands in the table for two types. -/
theorem type_unique : ∀ entry ∈ extensions, ∀ other ∈ extensions,
    Text.encode entry.1.toList = Text.encode other.1.toList → entry.2 = other.2 := by
  decide +kernel

theorem ofExtension?_eq_some_iff {extension : Bytes} {t : ContentType} :
    ofExtension? extension = some t ↔
      ∃ word, (word, t) ∈ extensions ∧ SameWord (Text.encode word.toList) extension := by
  have hsame {entry : String × ContentType} (hmem : entry ∈ extensions) :
      SameWord (Text.encode entry.1.toList) extension ↔
        Text.encode entry.1.toList = extension.map lowerByte := by
    rw [sameWord_iff, lower_word entry hmem]
  unfold ofExtension?
  -- The search stops at the first entry for the word. It is the only one that counts, as no word
  -- has two types.
  cases hfind : extensions.find? fun entry => Text.encode entry.1.toList = extension.map lowerByte with
  | none =>
    refine ⟨nofun, ?_⟩
    rintro ⟨word, hmem, hword⟩
    have hnot := List.find?_eq_none.mp hfind (word, t) hmem
    exact absurd (decide_eq_true ((hsame hmem).mp hword)) hnot
  | some entry =>
    have hmem : entry ∈ extensions := List.mem_of_find?_eq_some hfind
    have hentry : Text.encode entry.1.toList = extension.map lowerByte :=
      of_decide_eq_true (List.find?_some (p := fun entry : String × ContentType =>
        decide (Text.encode entry.1.toList = extension.map lowerByte)) hfind)
    rw [Option.map_some, Option.some_inj]
    constructor
    · rintro rfl
      exact ⟨entry.1, hmem, (hsame hmem).mpr hentry⟩
    · rintro ⟨word, hword, hsameWord⟩
      exact type_unique entry hmem (word, t) hword (hentry.trans ((hsame hword).mp hsameWord).symm)

theorem ofExtension?_map (extension : Bytes) :
    ofExtension? (extension.map lowerByte) = ofExtension? extension := by
  have hidempotent : lowerByte ∘ lowerByte = lowerByte := funext lowerByte_lowerByte
  unfold ofExtension?
  rw [List.map_map, hidempotent]

section
variable {p q : Path}

theorem ofPath?_map (bytes : Bytes) : ofPath? ⟨bytes.map lowerByte⟩ = ofPath? ⟨bytes⟩ := by
  rw [ofPath?, ofPath?, keepsMarks_lowerByte.extension?_map]
  cases Path.extension? ⟨bytes⟩ with
  | none => rfl
  | some extension => exact ofExtension?_map extension

theorem ofPath?_eq_some_iff {t : ContentType} : ofPath? p = some t ↔
    ∃ stem extension word, p.EndsIn (stem ++ Path.dot :: extension) ∧
      stem ++ Path.dot :: extension ≠ [Path.dot, Path.dot] ∧ stem ≠ [] ∧ Path.dot ∉ extension ∧
      (word, t) ∈ extensions ∧ SameWord (Text.encode word.toList) extension := by
  rw [ofPath?, Option.bind_eq_some_iff]
  constructor
  · rintro ⟨extension, hextension, htype⟩
    obtain ⟨stem, hends, hparent, hstem, hdot⟩ := Path.extension?_eq_some_iff.mp hextension
    obtain ⟨word, hmem, hword⟩ := ofExtension?_eq_some_iff.mp htype
    exact ⟨stem, extension, word, hends, hparent, hstem, hdot, hmem, hword⟩
  · rintro ⟨stem, extension, word, hends, hparent, hstem, hdot, hmem, hword⟩
    exact ⟨extension, Path.extension?_eq_some_iff.mpr ⟨stem, hends, hparent, hstem, hdot⟩,
      ofExtension?_eq_some_iff.mpr ⟨word, hmem, hword⟩⟩

/-- Paths with the same final component have the same type. -/
theorem ofPath?_congr (h : ∀ name, p.EndsIn name ↔ q.EndsIn name) : ofPath? p = ofPath? q := by
  apply Option.ext
  intro t
  simp only [ofPath?_eq_some_iff, h]

theorem ofPath?_of_endsIn {name : Bytes} (h : p.EndsIn name) (hq : q.EndsIn name) :
    ofPath? p = ofPath? q := by
  apply ofPath?_congr
  intro other
  constructor
  · intro hother
    rwa [hother.unique h]
  · intro hother
    rwa [hother.unique hq]

theorem ofPath?_eq_none (h : ∀ stem extension, p.EndsIn (stem ++ Path.dot :: extension) →
    stem ++ Path.dot :: extension ≠ [Path.dot, Path.dot] → stem = []) : ofPath? p = none := by
  rw [Option.eq_none_iff_forall_ne_some]
  intro t htype
  obtain ⟨stem, extension, _, hends, hparent, hstem, _⟩ := ofPath?_eq_some_iff.mp htype
  exact hstem (h stem extension hends hparent)

/-- No type stands for the empty extension, so `..` needs no exception here. -/
theorem ofPath?_of_extension {stem extension : Bytes} (h : p.EndsIn (stem ++ Path.dot :: extension))
    (hstem : stem ≠ []) (hdot : Path.dot ∉ extension) : ofPath? p = ofExtension? extension := by
  have hsome : ∀ entry ∈ extensions, Text.encode entry.1.toList ≠ [] := by decide +kernel
  apply Option.ext
  intro t
  rw [ofPath?_eq_some_iff, ofExtension?_eq_some_iff]
  constructor
  · rintro ⟨other, found, word, hends, _, _, hfree, hmem, hword⟩
    obtain ⟨_, rfl⟩ := Text.cut_last_inj hfree hdot (hends.unique h)
    exact ⟨word, hmem, hword⟩
  · rintro ⟨word, hmem, hword⟩
    refine ⟨stem, extension, word, h, ?_, hstem, hdot, hmem, hword⟩
    intro hparent
    have hdots : stem ++ Path.dot :: extension = [Path.dot] ++ Path.dot :: [] := hparent
    obtain ⟨_, rfl⟩ := Text.cut_last_inj hdot List.not_mem_nil hdots
    exact hsome _ hmem (List.forall₂_nil_right_iff.mp hword)

/-- The content type of a path comes from its final extension. -/
theorem ofPath?_from_extension (p : Path) : FromExtension p where
  some_iff := fun t => ofPath?_eq_some_iff
  final_unique := fun name other h hother => h.unique hother
  of_nameless := by
    intro h
    apply ofPath?_eq_none
    intro stem extension hends
    exact absurd hends (h _)
  of_parent := by
    intro h
    apply ofPath?_eq_none
    intro stem extension hends hparent
    exact absurd (hends.unique h) hparent
  of_plain := by
    intro name h hplain
    apply ofPath?_eq_none
    intro stem extension hends _
    cases stem with
    | nil => rfl
    | cons b stem =>
      rw [h.unique hends] at hplain
      exact absurd (List.mem_append_right stem List.mem_cons_self) hplain
  under_directory := fun name h directory => ofPath?_of_endsIn (h.under directory) h
  before_trail := by
    intro trail htrail
    apply ofPath?_congr
    intro name
    rw [← Path.getLast?_components_iff, ← Path.getLast?_components_iff, Path.components_trail htrail]
  behind_stem := by
    intro q stem other extension hp hq hstem hother hdot
    rw [ofPath?_of_extension hp hstem hdot, ofPath?_of_extension hq hother hdot]
  in_any_case := by
    intro q h
    -- Both paths are the same once all their letters are small, directories included.
    calc ofPath? p = ofPath? ⟨p.bytes.map lowerByte⟩ := (ofPath?_map p.bytes).symm
      _ = ofPath? ⟨q.bytes.map lowerByte⟩ := by rw [sameWord_iff.mp h]
      _ = ofPath? q := ofPath?_map q.bytes

example : ofPath? (Path.ofString "/tmp/results.tar.GZ//./") = some .gzip := by decide +kernel

example : ofPath? (Path.ofString "a.gz/..") = none := by decide +kernel

end

end Handoff.ContentType
