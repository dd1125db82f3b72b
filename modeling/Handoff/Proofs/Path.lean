import Handoff.Path
import Handoff.Proofs.Text.Split

/-!
The final component of a path, and the extension it has. Directories before the final component, and
slashes and lone dots behind it, do not count.
-/

namespace Handoff.Path

/-- What can stand behind a name without naming anything: slashes, and lone dots behind slashes. -/
inductive IsTrail : Bytes → Prop
  | nil : IsTrail []
  | slash {trail : Bytes} : IsTrail trail → IsTrail (slash :: trail)
  | dot {trail : Bytes} : IsTrail trail → IsTrail (slash :: dot :: trail)

/-- A name that stands for something: not empty, no lone dot, and without slashes. -/
structure IsName (name : Bytes) : Prop where
  ne_nil : name ≠ []
  ne_dot : name ≠ [dot]
  slash_notMem : slash ∉ name

/-- The final component of a path is the name behind all directories and before the trail. -/
def EndsIn (p : Path) (name : Bytes) : Prop :=
  IsName name ∧ ∃ directory trail, (directory = [] ∨ directory.getLast? = some slash) ∧ IsTrail trail ∧
    p.bytes = directory ++ name ++ trail

section
variable {p : Path} {name trail directory : Bytes}

theorem IsTrail.append {other : Bytes} (h : IsTrail trail) (hother : IsTrail other) :
    IsTrail (trail ++ other) := by
  induction h with
  | nil => exact hother
  | slash _ ih => exact IsTrail.slash ih
  | dot _ ih => exact IsTrail.dot ih

theorem components_append (front back : Bytes) :
    components ⟨front ++ slash :: back⟩ = components ⟨front⟩ ++ components ⟨back⟩ := by
  unfold components
  dsimp only
  rw [Text.splitAt_append_cons (p := (· == slash)) (beq_self_eq_true slash), List.filter_append]

theorem components_name (h : IsName name) : components ⟨name⟩ = [name] := by
  rw [components, Text.splitAt_of_notMem h.slash_notMem]
  exact List.filter_eq_self.mpr fun part hpart => by
    obtain rfl := List.mem_singleton.mp hpart
    exact decide_eq_true ⟨h.ne_nil, h.ne_dot⟩

theorem components_trail (h : IsTrail trail) (front : Bytes) :
    components ⟨front ++ trail⟩ = components ⟨front⟩ := by
  induction h generalizing front with
  | nil => rw [List.append_nil]
  | @slash trail _ ih =>
    calc components ⟨front ++ slash :: trail⟩ = components ⟨(front ++ [slash]) ++ trail⟩ := by
          rw [List.append_assoc, List.singleton_append]
      _ = components ⟨front ++ [slash]⟩ := ih _
      _ = components ⟨front⟩ := by rw [components_append]; exact List.append_nil _
  | @dot trail _ ih =>
    calc components ⟨front ++ slash :: dot :: trail⟩ = components ⟨(front ++ [slash, dot]) ++ trail⟩ := by
          rw [List.append_assoc]; rfl
      _ = components ⟨front ++ [slash, dot]⟩ := ih _
      _ = components ⟨front⟩ := by rw [components_append]; exact List.append_nil _

theorem components_directory (h : directory = [] ∨ directory.getLast? = some slash) (back : Bytes) :
    components ⟨directory ++ back⟩ = components ⟨directory⟩ ++ components ⟨back⟩ := by
  rcases h with rfl | hlast
  · rfl
  · obtain ⟨front, rfl⟩ := List.getLast?_eq_some_iff.mp hlast
    have hnothing : components ⟨[]⟩ = [] := rfl
    rw [List.append_assoc, List.singleton_append, components_append, components_append, hnothing,
      List.append_nil]

theorem EndsIn.getLast?_components (h : p.EndsIn name) : p.components.getLast? = some name := by
  obtain ⟨hname, directory, trail, hdirectory, htrail, hbytes⟩ := h
  have hcomponents : p.components = components ⟨directory⟩ ++ [name] := by
    calc p.components = components ⟨directory ++ name ++ trail⟩ := by rw [← hbytes]
      _ = components ⟨directory ++ name⟩ := components_trail htrail _
      _ = components ⟨directory⟩ ++ components ⟨name⟩ := components_directory hdirectory _
      _ = components ⟨directory⟩ ++ [name] := by rw [components_name hname]
  rw [hcomponents]
  exact List.getLast?_concat

theorem EndsIn.unique {other : Bytes} (h : p.EndsIn name) (hother : p.EndsIn other) : name = other :=
  Option.some.inj (h.getLast?_components.symm.trans hother.getLast?_components)

theorem EndsIn.of_name (h : IsName name) (hdirectory : directory = [] ∨ directory.getLast? = some slash) :
    EndsIn ⟨directory ++ name⟩ name :=
  ⟨h, directory, [], hdirectory, IsTrail.nil, (List.append_nil _).symm⟩

theorem EndsIn.append (h : p.EndsIn name) (htrail : IsTrail trail) : EndsIn ⟨p.bytes ++ trail⟩ name := by
  obtain ⟨hname, directory, inner, hdirectory, hinner, hbytes⟩ := h
  exact ⟨hname, directory, inner ++ trail, hdirectory, hinner.append htrail, by
    rw [hbytes, List.append_assoc]⟩

/-- Whatever directory a path is put under, its final component stays. -/
theorem EndsIn.under (h : p.EndsIn name) (front : Bytes) : EndsIn ⟨front ++ slash :: p.bytes⟩ name := by
  obtain ⟨hname, directory, trail, hdirectory, htrail, hbytes⟩ := h
  refine ⟨hname, front ++ slash :: directory, trail, Or.inr ?_, htrail, by rw [hbytes]; simp⟩
  rcases hdirectory with rfl | hlast
  · exact List.getLast?_concat
  · rw [List.getLast?_append, List.getLast?_cons, hlast]
    rfl

/-- A stretch without slashes is a name, or it names nothing and is part of a trail. -/
theorem isName_or_isTrail {part : Bytes} (h : slash ∉ part) : IsName part ∨ IsTrail (slash :: part) := by
  by_cases hnil : part = []
  · exact Or.inr (hnil ▸ IsTrail.slash IsTrail.nil)
  · by_cases hdot : part = [dot]
    · exact Or.inr (hdot ▸ IsTrail.dot IsTrail.nil)
    · exact Or.inl ⟨hnil, hdot, h⟩

theorem components_of_isTrail {part : Bytes} (h : IsTrail (slash :: part)) : components ⟨part⟩ = [] := by
  calc components ⟨part⟩ = components ⟨[]⟩ ++ components ⟨part⟩ := rfl
    _ = components ⟨[] ++ slash :: part⟩ := (components_append [] part).symm
    _ = components ⟨[]⟩ := components_trail h []
    _ = [] := rfl

theorem endsIn_of_getLast? (bytes : Bytes) (h : (components ⟨bytes⟩).getLast? = some name) :
    EndsIn ⟨bytes⟩ name := by
  -- By induction on the length: a last stretch that belongs to the trail leaves a shorter path with the same
  -- components.
  induction hlength : bytes.length using Nat.strongRecOn generalizing bytes with
  | ind n ih =>
    by_cases hslash : slash ∈ bytes
    -- What stands behind the last slash is the final component, or it belongs to the trail.
    · obtain ⟨front, back, rfl, hback⟩ := Text.exists_last_of_mem hslash
      rcases isName_or_isTrail hback with hname | htrail
      · rw [components_append, components_name hname, List.getLast?_concat] at h
        obtain rfl := Option.some.inj h
        have hends : EndsIn ⟨(front ++ [slash]) ++ back⟩ back :=
          EndsIn.of_name hname (Or.inr List.getLast?_concat)
        rwa [List.append_assoc, List.singleton_append] at hends
      · have hshorter : front.length < n := by
          rw [← hlength, List.length_append, List.length_cons]
          omega
        rw [components_trail htrail] at h
        exact (ih front.length hshorter front h rfl).append htrail
    · rcases isName_or_isTrail hslash with hname | htrail
      · rw [components_name hname] at h
        obtain rfl := Option.some.inj h
        exact EndsIn.of_name hname (Or.inl rfl)
      · rw [components_of_isTrail htrail] at h
        cases h

theorem getLast?_components_iff : p.components.getLast? = some name ↔ p.EndsIn name :=
  ⟨endsIn_of_getLast? p.bytes, EndsIn.getLast?_components⟩

theorem fileName?_eq_some_iff : p.fileName? = some name ↔ p.EndsIn name ∧ name ≠ [dot, dot] := by
  rw [← getLast?_components_iff, fileName?]
  cases p.components.getLast? with
  | none => exact ⟨nofun, fun h => nomatch h.1⟩
  | some found =>
    dsimp only
    by_cases hparent : found = [dot, dot]
    · rw [if_pos hparent, Option.some_inj]
      refine ⟨nofun, ?_⟩
      rintro ⟨heq, hne⟩
      exact absurd (heq.symm.trans hparent) hne
    · rw [if_neg hparent, Option.some_inj]
      exact ⟨fun heq => ⟨heq, heq ▸ hparent⟩, And.left⟩

/-- The extension is what stands behind the last dot of the final component, if that dot is not its first
byte. -/
theorem extension?_eq_some_iff {extension : Bytes} :
    p.extension? = some extension ↔
      ∃ stem, p.EndsIn (stem ++ dot :: extension) ∧ stem ++ dot :: extension ≠ [dot, dot] ∧ stem ≠ [] ∧
        dot ∉ extension := by
  unfold extension?
  cases hname : p.fileName? with
  | none =>
    refine ⟨nofun, ?_⟩
    rintro ⟨stem, hends, hparent, _⟩
    rw [fileName?_eq_some_iff.mpr ⟨hends, hparent⟩] at hname
    cases hname
  | some name =>
    dsimp only
    obtain ⟨hends, hparent⟩ := fileName?_eq_some_iff.mp hname
    by_cases hdot : dot ∈ name
    -- The name is read from its end, so that the first dot met is the last one. Nothing before it makes the
    -- name a hidden one.
    · obtain ⟨stem, behind, rfl, hbehind⟩ := Text.exists_last_of_mem hdot
      obtain ⟨htake, hdrop⟩ := Text.pass_reverse_append hbehind stem
      rw [hdrop, htake, List.reverse_reverse]
      constructor
      · intro h
        cases hstem : stem.reverse with
        | nil =>
          rw [hstem] at h
          cases h
        | cons b rest =>
          rw [hstem] at h
          obtain rfl := Option.some.inj h
          have hne : stem ≠ [] := by
            rintro rfl
            cases hstem
          exact ⟨stem, hends, hparent, hne, hbehind⟩
      · rintro ⟨other, hother, _, hne, hfree⟩
        obtain ⟨rfl, rfl⟩ := Text.cut_last_inj hbehind hfree (hends.unique hother)
        cases hstem : stem.reverse with
        | nil => exact absurd (List.reverse_eq_nil_iff.mp hstem) hne
        | cons b rest => rfl
    · rw [Text.pass_reverse_of_notMem hdot]
      refine ⟨nofun, ?_⟩
      rintro ⟨stem, hother, _⟩
      rw [hends.unique hother] at hdot
      exact absurd (List.mem_append_right stem List.mem_cons_self) hdot

end

/-- A change of bytes that neither makes nor takes away slashes and dots. -/
structure KeepsMarks (f : UInt8 → UInt8) : Prop where
  slash_iff : ∀ b, f b = slash ↔ b = slash
  dot_iff : ∀ b, f b = dot ↔ b = dot

section
variable {f : UInt8 → UInt8}

theorem KeepsMarks.map_eq_dots (h : KeepsMarks f) (n : Nat) (name : Bytes) :
    name.map f = List.replicate n dot ↔ name = List.replicate n dot := by
  simp [List.eq_replicate_iff, h.dot_iff]

theorem KeepsMarks.components_map (h : KeepsMarks f) (bytes : Bytes) :
    components ⟨bytes.map f⟩ = (components ⟨bytes⟩).map (List.map f) := by
  have hslash (b : UInt8) : (f b == slash) = (b == slash) := by
    rw [Bool.eq_iff_iff, beq_iff_eq, beq_iff_eq]
    exact h.slash_iff b
  have hkept (part : Bytes) : (part.map f ≠ [] ∧ part.map f ≠ [dot]) ↔ (part ≠ [] ∧ part ≠ [dot]) :=
    and_congr (not_congr List.map_eq_nil_iff) (not_congr (h.map_eq_dots 1 part))
  unfold components
  dsimp only
  rw [Text.splitAt_map (p := (· == slash)) f hslash, List.filter_map]
  congr 1
  apply List.filter_congr
  intro part _
  exact decide_eq_decide.mpr (hkept part)

theorem KeepsMarks.fileName?_map (h : KeepsMarks f) (bytes : Bytes) :
    fileName? ⟨bytes.map f⟩ = (fileName? ⟨bytes⟩).map (List.map f) := by
  unfold fileName?
  rw [h.components_map, List.getLast?_map]
  cases (components ⟨bytes⟩).getLast? with
  | none => rfl
  | some name =>
    have hparent : name.map f = [dot, dot] ↔ name = [dot, dot] := h.map_eq_dots 2 name
    simp only [Option.map_some, hparent]
    split <;> rfl

theorem KeepsMarks.extension?_map (h : KeepsMarks f) (bytes : Bytes) :
    extension? ⟨bytes.map f⟩ = (extension? ⟨bytes⟩).map (List.map f) := by
  have hpass : (fun b => decide (b ≠ dot)) ∘ f = fun b => decide (b ≠ dot) := by
    funext b
    exact decide_eq_decide.mpr (not_congr (h.dot_iff b))
  unfold extension?
  rw [h.fileName?_map]
  cases fileName? ⟨bytes⟩ with
  | none => rfl
  | some name =>
    simp only [Option.map_some, ← List.map_reverse, List.dropWhile_map, List.takeWhile_map, hpass]
    match name.reverse.dropWhile (fun b => decide (b ≠ dot)) with
    | [] => rfl
    | [_] => rfl
    | _ :: _ :: _ => rfl

end

end Handoff.Path
