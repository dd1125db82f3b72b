import Handoff.Proofs.Text.Split
import Handoff.Proofs.Url.Form
import Handoff.Proofs.Url.Percent

/-!
What holds of every segment of a path. Reading and extending a path cut and encode texts and leave dot
segments out, so a property of the segments that are put in place is one of all segments.
-/

namespace Handoff.Url

section
variable {Q : List Char → Prop} {parts placed : List (List Char)}

theorem forall_shorten (h : ∀ part ∈ placed, Q part) : ∀ part ∈ shorten placed, Q part := by
  cases placed with
  | nil => exact h
  | cons part placed =>
    rw [shorten]
    split
    · exact h
    · exact fun x hx => h x (List.mem_cons_of_mem _ hx)

theorem forall_placeOnto (hnil : Q []) (hplaced : ∀ part ∈ placed, Q part)
    (hparts : ∀ part ∈ parts, isSingleDot part = false → isDoubleDot part = false → Q part) :
    ∀ part ∈ placeOnto placed parts, Q part := by
  induction parts generalizing placed with
  | nil => exact hplaced
  | cons part rest ih =>
    have hrest : ∀ x ∈ rest, isSingleDot x = false → isDoubleDot x = false → Q x :=
      fun x hx => hparts x (List.mem_cons_of_mem _ hx)
    have hclose {placed : List (List Char)} (h : ∀ x ∈ placed, Q x) :
        ∀ x ∈ (if rest = [] then [] :: placed else placed), Q x := by
      split
      · exact List.forall_mem_cons.mpr ⟨hnil, h⟩
      · exact h
    rw [placeOnto]
    split
    · exact ih (hclose (forall_shorten hplaced)) hrest
    · rename_i hdouble
      split
      · exact ih (hclose hplaced) hrest
      · rename_i hsingle
        have hpart : Q part := hparts part List.mem_cons_self (Bool.eq_false_iff.mpr hsingle)
          (Bool.eq_false_iff.mpr hdouble)
        exact ih (List.forall_mem_cons.mpr ⟨hpart, hplaced⟩) hrest

theorem forall_place (hnil : Q []) (hplaced : ∀ part ∈ placed, Q part)
    (hparts : ∀ part ∈ parts, isSingleDot part = false → isDoubleDot part = false → Q part) :
    ∀ part ∈ place placed parts, Q part := by
  have hreverse : ∀ part ∈ placed.reverse, Q part := fun x hx => hplaced x (List.mem_reverse.mp hx)
  exact fun x hx => forall_placeOnto hnil hreverse hparts x (List.mem_reverse.mp hx)

theorem forall_withoutTrailingSlash (h : ∀ part ∈ parts, Q part) :
    ∀ part ∈ withoutTrailingSlash parts, Q part := by
  unfold withoutTrailingSlash
  split
  · exact fun part hpart => h part (List.dropLast_subset parts hpart)
  · exact h

end

/-- A segment as a web URL holds it: written out, and neither a separator nor a dot segment. -/
structure IsSegment (part : List Char) : Prop where
  kept : ∀ c ∈ part, keptInPath c = true ∧ isSeparator .web c = false
  not_single : isSingleDot part = false
  not_double : isDoubleDot part = false

theorem IsSegment.slash_notMem {part : List Char} (h : IsSegment part) : '/' ∉ part := by
  intro hmem
  cases (h.kept '/' hmem).2

theorem isSegment_nil : IsSegment [] := ⟨nofun, by decide, by decide⟩

/-- Only a file path has drives. -/
theorem colonDrive_web (parts : List (List Char)) : colonDrive .web parts = parts := by
  have hlone : isLoneDrive .web parts = false := by
    unfold isLoneDrive
    split
    · rfl
    · rfl
  rw [colonDrive, hlone, if_neg Bool.false_ne_true]

/-- The path of a web URL that was read holds segments. -/
theorem isSegment_segmentsOfText (cs : List Char) : ∀ part ∈ segmentsOfText .web cs, IsSegment part := by
  have hplaced : ∀ part ∈ placedOfText .web cs, IsSegment part := by
    unfold placedOfText
    refine forall_place isSegment_nil nofun ?_
    intro part hpart hsingle hdouble
    obtain ⟨text, htext, rfl⟩ := List.mem_map.mp hpart
    refine ⟨?_, hsingle, hdouble⟩
    exact forall_mem_percentEncode (fun c hc hkept => ⟨hkept, Text.splitAt_free htext c hc⟩)
      (by decide) (by decide)
  unfold segmentsOfText
  split
  · exact fun _ hx => absurd hx List.not_mem_nil
  · rw [colonDrive_web]
    exact hplaced

theorem isSegment_of_parse {cs : List Char} {u : Url} (h : parse cs = .ok u)
    (hs : SchemeKind.ofScheme u.scheme = .web) :
    ∃ parts, u.path = .segments parts ∧ ∀ part ∈ parts, IsSegment part := by
  obtain ⟨_, _, _, _, path, _, _, _, hu⟩ := parse_web h hs
  exact ⟨_, by rw [hu]; rfl, isSegment_segmentsOfText path⟩

end Handoff.Url
