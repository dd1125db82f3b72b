import Handoff.Proofs.Text.Utf8
import Handoff.Proofs.Unicode.Bits
import Handoff.Unicode.Composition
import Mathlib.Data.List.Chain

/-!
What the tables and the rule for Hangul say of composites. Each is composed of one pair only and comes apart
into it, three times at most, and begins with a letter. None has to do with a dot.
-/

namespace Handoff.Unicode

def isSyllable (n : Nat) : Bool := decide (0xAC00 ≤ n ∧ n < 0xD7A4)

/-- The code points that are composed by the table. -/
def wholes : Nat := union (composites.map (2 ^ ·.whole))

/-- Those that have to be taken apart at least `k` times before their first part is not composed. -/
def layer : Nat → Nat
  | 0 => wholes
  | k + 1 => union ((composites.filter fun t => (layer k).testBit t.first).map (2 ^ ·.whole))

/-- The code points that composites begin with, by the table or as Hangul. -/
def firsts : Nat :=
  union (Ranges.bits [(0x1100, 0x1112), (0xAC00, 0xD7A3)] :: composites.map (2 ^ ·.first))

/-- A composite of the table: all three are characters, none is a dot, and the second part is not
composed. -/
structure Composite.IsSound (t : Composite) : Prop where
  whole : t.whole.isValidChar
  first : t.first.isValidChar
  second : t.second.isValidChar
  high : 0xC0 ≤ t.whole
  apart : isSyllable t.whole = false ∧ isSyllable t.first = false
  simple : isSyllable t.second = false ∧ wholes.testBit t.second = false
  undotted : t.first ≠ 0x2E ∧ t.second ≠ 0x2E

instance (t : Composite) : Decidable t.IsSound :=
  decidable_of_iff (t.whole.isValidChar ∧ t.first.isValidChar ∧ t.second.isValidChar ∧ 0xC0 ≤ t.whole ∧
      (isSyllable t.whole = false ∧ isSyllable t.first = false) ∧
      (isSyllable t.second = false ∧ wholes.testBit t.second = false) ∧ t.first ≠ 0x2E ∧ t.second ≠ 0x2E)
    ⟨fun ⟨whole, first, second, high, apart, simple, undotted⟩ =>
      ⟨whole, first, second, high, apart, simple, undotted⟩,
    fun h => ⟨h.whole, h.first, h.second, h.high, h.apart, h.simple, h.undotted⟩⟩

theorem composites_sound : ∀ t ∈ composites, t.IsSound := by decide +kernel

theorem composites_ascending : (composites.map (·.whole)).IsChain (· < ·) := by decide +kernel

theorem layer_three : layer 3 = 0 := by decide +kernel

theorem wholes_jamo : wholes &&& Ranges.bits [(0x1100, 0x11C2)] = 0 := by decide +kernel

/-- The code points with a combining class. -/
def classed : Nat := Ranges.bits (combiningClasses.map (·.1))

theorem classed_firsts : classed &&& firsts = 0 := by decide +kernel

/-- A list with ascending keys is searched by a key. -/
theorem find?_of_ascending {ts : List Composite} (hts : ts.Pairwise (fun a b => a.whole < b.whole))
    {t : Composite} (h : t ∈ ts) : ts.find? (fun other => other.whole == t.whole) = some t := by
  induction ts with
  | nil => exact absurd h List.not_mem_nil
  | cons first rest ih =>
    obtain ⟨hfirst, hrest⟩ := List.pairwise_cons.mp hts
    rcases List.mem_cons.mp h with rfl | hmem
    · exact List.find?_cons_of_pos (p := fun other : Composite => other.whole == t.whole) (beq_self_eq_true _)
    · have hne : ¬ ((first.whole == t.whole) = true) := by
        rw [beq_iff_eq]
        exact Nat.ne_of_lt (hfirst t hmem)
      exact (List.find?_cons_of_neg (p := fun other : Composite => other.whole == t.whole) hne).trans
        (ih hrest hmem)

theorem find?_whole {t : Composite} (h : t ∈ composites) :
    composites.find? (fun other => other.whole == t.whole) = some t :=
  find?_of_ascending (List.pairwise_map.mp (List.isChain_iff_pairwise.mp composites_ascending)) h

theorem parts?_of_syllable {n : Nat} (h : isSyllable n = true) :
    parts? n = some (hangulParts (n - 0xAC00)) := by
  rw [parts?, if_pos (of_decide_eq_true h)]

theorem parts?_of_composite {t : Composite} (h : t ∈ composites) :
    parts? t.whole = some (t.first, t.second) := by
  rw [parts?, if_neg (of_decide_eq_false (composites_sound t h).apart.1), find?_whole h]
  rfl

/-- What comes apart is a syllable or a composite of the table. -/
theorem parts?_cases {n a b : Nat} (h : parts? n = some (a, b)) :
    (isSyllable n = true ∧ hangulParts (n - 0xAC00) = (a, b)) ∨ ⟨n, a, b⟩ ∈ composites := by
  unfold parts? at h
  split at h
  · rename_i hn
    exact Or.inl ⟨decide_eq_true hn, Option.some.inj h⟩
  · right
    obtain ⟨t, hfind, hparts⟩ := Option.map_eq_some_iff.mp h
    obtain ⟨rfl, rfl⟩ := Prod.mk.inj hparts
    have hwhole : t.whole = n := by simpa using List.find?_some hfind
    exact hwhole ▸ List.mem_of_find?_eq_some hfind

theorem parts?_eq_none {n : Nat} (hsyllable : isSyllable n = false) (hwholes : wholes.testBit n = false) :
    parts? n = none := by
  cases h : parts? n with
  | none => rfl
  | some parts =>
    rcases parts?_cases h with ⟨hn, _⟩ | hmem
    · rw [hsyllable] at hn
      cases hn
    · have hbit : wholes.testBit n = true := by
        rw [wholes, testBit_union, List.any_eq_true]
        exact ⟨_, List.mem_map_of_mem hmem, by simp⟩
      rw [hwholes] at hbit
      cases hbit

/-- What is composed by a rule of Hangul comes apart by it. -/
theorem hangulWhole?_parts {a b n : Nat} (h : hangulWhole? a b = some n) :
    isSyllable n = true ∧ hangulParts (n - 0xAC00) = (a, b) := by
  unfold hangulWhole? at h
  split at h
  · obtain rfl := Option.some.inj h
    refine ⟨decide_eq_true (by omega), ?_⟩
    rw [hangulParts, if_pos (by omega), Prod.mk.injEq]
    omega
  · split at h
    · obtain rfl := Option.some.inj h
      refine ⟨decide_eq_true (by omega), ?_⟩
      rw [hangulParts, if_neg (by omega), Prod.mk.injEq]
      omega
    · cases h

/-- What is composed is a syllable or a composite of the table. -/
theorem whole?_cases {a b n : Nat} (h : whole? a b = some n) :
    hangulWhole? a b = some n ∨ ⟨n, a, b⟩ ∈ composites := by
  unfold whole? at h
  split at h
  · rename_i hhangul
    exact Or.inl (hhangul.trans h)
  · right
    obtain ⟨t, hfind, rfl⟩ := Option.map_eq_some_iff.mp h
    have hparts := List.find?_some hfind
    simp only [Bool.and_eq_true, beq_iff_eq] at hparts
    obtain ⟨rfl, rfl⟩ := hparts
    exact List.mem_of_find?_eq_some hfind

/-- A composite comes apart into what it was composed of. -/
theorem parts?_whole {a b n : Nat} (h : whole? a b = some n) : parts? n = some (a, b) := by
  rcases whole?_cases h with hhangul | hmem
  · obtain ⟨hsyllable, hparts⟩ := hangulWhole?_parts hhangul
    rw [parts?_of_syllable hsyllable, hparts]
  · exact parts?_of_composite hmem

/-- The parts of a Hangul syllable: a syllable without a last consonant, or a consonant, and one more. -/
theorem hangulParts_cases {n a b : Nat} (hn : isSyllable n = true) (h : hangulParts (n - 0xAC00) = (a, b)) :
    (0x1100 ≤ a ∧ a < 0x1113 ∧ 0x1161 ≤ b ∧ b < 0x1176) ∨
    (isSyllable a = true ∧ (a - 0xAC00) % 28 = 0 ∧ 0x11A7 < b ∧ b < 0x11C3) := by
  have hrange : 0xAC00 ≤ n ∧ n < 0xD7A4 := of_decide_eq_true hn
  unfold hangulParts at h
  split at h
  · obtain ⟨rfl, rfl⟩ := Prod.mk.inj h
    left
    omega
  · obtain ⟨rfl, rfl⟩ := Prod.mk.inj h
    right
    refine ⟨decide_eq_true (by omega), ?_⟩
    omega

theorem parts?_jamo {n : Nat} (h : 0x1100 ≤ n ∧ n ≤ 0x11C2) : parts? n = none := by
  apply parts?_eq_none
  · exact decide_eq_false (by omega)
  · have hjamo : (Ranges.bits [(0x1100, 0x11C2)]).testBit n = true := by
      rw [Ranges.testBit_bits]
      simpa [Ranges.contains] using h
    exact testBit_of_disjoint (Nat.land_comm _ _ ▸ wholes_jamo) hjamo

/-- Parts are characters, and neither is a dot. -/
theorem parts?_sound {n a b : Nat} (h : parts? n = some (a, b)) :
    (a.isValidChar ∧ b.isValidChar) ∧ a ≠ 0x2E ∧ b ≠ 0x2E := by
  rcases parts?_cases h with ⟨hn, hparts⟩ | hmem
  · have hvalid (m : Nat) (hlow : 0x2E < m) (hhigh : m < 0xD7A4) : m.isValidChar ∧ m ≠ 0x2E :=
      ⟨Or.inl (by omega), by omega⟩
    have ha : 0x2E < a ∧ a < 0xD7A4 := by
      rcases hangulParts_cases hn hparts with hjamo | ⟨hsyllable, _⟩
      · omega
      · have hrange : 0xAC00 ≤ a ∧ a < 0xD7A4 := of_decide_eq_true hsyllable
        omega
    have hb : 0x2E < b ∧ b < 0xD7A4 := by
      rcases hangulParts_cases hn hparts with hjamo | ⟨_, _, hjamo⟩ <;> omega
    exact ⟨⟨(hvalid a ha.1 ha.2).1, (hvalid b hb.1 hb.2).1⟩, (hvalid a ha.1 ha.2).2, (hvalid b hb.1 hb.2).2⟩
  · have hsound := composites_sound _ hmem
    exact ⟨⟨hsound.first, hsound.second⟩, hsound.undotted⟩

/-- The second part is not composed itself. -/
theorem parts?_second {n a b : Nat} (h : parts? n = some (a, b)) : parts? b = none := by
  rcases parts?_cases h with ⟨hn, hparts⟩ | hmem
  · apply parts?_jamo
    rcases hangulParts_cases hn hparts with hjamo | ⟨_, _, hjamo⟩ <;> omega
  · exact parts?_eq_none (composites_sound _ hmem).simple.1 (composites_sound _ hmem).simple.2

theorem whole?_sound {a b n : Nat} (h : whole? a b = some n) : n.isValidChar ∧ 0xC0 ≤ n := by
  rcases whole?_cases h with hhangul | hmem
  · have hrange : 0xAC00 ≤ n ∧ n < 0xD7A4 := of_decide_eq_true (hangulWhole?_parts hhangul).1
    exact ⟨Or.inl (by omega), by omega⟩
  · exact ⟨(composites_sound _ hmem).whole, (composites_sound _ hmem).high⟩

/-- Nothing else begins a composite. -/
theorem firsts_of_whole? {a b n : Nat} (h : whole? a b = some n) : firsts.testBit a = true := by
  rw [firsts, testBit_union, List.any_cons, Bool.or_eq_true]
  rcases whole?_cases h with hhangul | hmem
  · left
    rw [Ranges.testBit_bits]
    unfold hangulWhole? at hhangul
    simp only [Ranges.contains, List.any_cons, List.any_nil, Bool.or_false, Bool.or_eq_true, decide_eq_true_eq]
    split at hhangul
    · omega
    · split at hhangul
      · omega
      · cases hhangul
  · exact Or.inr (List.any_eq_true.mpr ⟨_, List.mem_map_of_mem hmem, by simp⟩)

theorem combiningClass_of_unclassed {c : Char} (h : classed.testBit c.toNat = false) :
    combiningClass c = 0 := by
  rw [classed, Ranges.testBit_bits, Ranges.contains, List.any_map, List.any_eq_false] at h
  have hnone : combiningClasses.find? (fun r => decide (r.1.1 ≤ c.toNat ∧ c.toNat ≤ r.1.2)) = none :=
    List.find?_eq_none.mpr h
  rw [combiningClass, hnone]
  split
  · rfl
  · rfl

/-- A composite begins with a character that starts anew. -/
theorem whole?_first {c : Char} {b n : Nat} (h : whole? c.toNat b = some n) : combiningClass c = 0 :=
  combiningClass_of_unclassed (testBit_of_disjoint (Nat.land_comm _ _ ▸ classed_firsts) (firsts_of_whole? h))

/-! Taking apart. -/

theorem takeApart_of_none {n : Nat} (h : parts? n = none) (k : Nat) : takeApart k n = [Char.ofNat n] := by
  cases k with
  | zero => rfl
  | succ k => rw [takeApart, h]

theorem takeApart_of_some {n a b : Nat} (h : parts? n = some (a, b)) (k : Nat) :
    takeApart (k + 1) n = takeApart k a ++ [Char.ofNat b] := by
  rw [takeApart, h]

theorem takeApart_of_layer {k n : Nat} (hsyllable : isSyllable n = false) (h : (layer k).testBit n = false) :
    takeApart (k + 1) n = takeApart k n := by
  induction k generalizing n with
  | zero =>
    have hnone := parts?_eq_none hsyllable h
    rw [takeApart_of_none hnone, takeApart_of_none hnone]
  | succ k ih =>
    cases hparts : parts? n with
    | none => rw [takeApart_of_none hparts, takeApart_of_none hparts]
    | some parts =>
      obtain ⟨a, b⟩ := parts
      rcases parts?_cases hparts with ⟨hn, _⟩ | hmem
      · rw [hsyllable] at hn
        cases hn
      · have ha : (layer k).testBit a = false := by
          rw [← Bool.not_eq_true]
          intro hlayer
          have hn : (layer (k + 1)).testBit n = true := by
            rw [layer, testBit_union, List.any_eq_true]
            exact ⟨_, List.mem_map_of_mem (List.mem_filter.mpr ⟨hmem, hlayer⟩), by simp⟩
          rw [h] at hn
          cases hn
        rw [takeApart_of_some hparts, takeApart_of_some hparts, ih (composites_sound _ hmem).apart.2 ha]

/-- Three times are enough. -/
theorem takeApart_three (n : Nat) : takeApart 4 n = takeApart 3 n := by
  cases hn : isSyllable n with
  | false =>
    apply takeApart_of_layer hn
    rw [layer_three, Nat.zero_testBit]
  | true =>
    cases hab : hangulParts (n - 0xAC00) with
    | mk a b =>
      have hparts : parts? n = some (a, b) := by rw [parts?_of_syllable hn, hab]
      rw [takeApart_of_some hparts, takeApart_of_some hparts]
      rcases hangulParts_cases hn hab with hjamo | ⟨ha, hopen, _⟩
      · have hnone : parts? a = none := parts?_jamo (by omega)
        rw [takeApart_of_none hnone, takeApart_of_none hnone]
      -- A syllable without a last consonant begins with a consonant.
      · have hrange : 0xAC00 ≤ a ∧ a < 0xD7A4 := of_decide_eq_true ha
        have hfirst : parts? a = some (0x1100 + (a - 0xAC00) / 588, 0x1161 + (a - 0xAC00) % 588 / 28) := by
          rw [parts?_of_syllable ha, hangulParts, if_pos hopen]
        have hnone : parts? (0x1100 + (a - 0xAC00) / 588) = none := parts?_jamo (by omega)
        rw [takeApart_of_some hfirst, takeApart_of_some hfirst, takeApart_of_none hnone,
          takeApart_of_none hnone]

section
variable {P : Nat → Prop}

theorem toNat_ofNat {n : Nat} (h : n.isValidChar) : (Char.ofNat n).toNat = n := by
  rw [Char.toNat, Text.toNat_charOfNat h]

/-- What holds of parts if it holds of what they compose holds of all that a character is taken apart into. -/
theorem forall_takeApart (hparts : ∀ n a b, parts? n = some (a, b) → P n → P a ∧ P b) {n : Nat}
    (hvalid : n.isValidChar) (hn : P n) (k : Nat) : ∀ c ∈ takeApart k n, P c.toNat := by
  induction k generalizing n with
  | zero =>
    intro c hc
    obtain rfl := List.mem_singleton.mp hc
    rwa [toNat_ofNat hvalid]
  | succ k ih =>
    cases h : parts? n with
    | none =>
      rw [takeApart_of_none h]
      intro c hc
      obtain rfl := List.mem_singleton.mp hc
      rwa [toNat_ofNat hvalid]
    | some parts =>
      obtain ⟨a, b⟩ := parts
      obtain ⟨⟨ha, hb⟩, _⟩ := parts?_sound h
      obtain ⟨hfirst, hsecond⟩ := hparts n a b h hn
      rw [takeApart_of_some h]
      intro c hc
      rcases List.mem_append.mp hc with hmem | hmem
      · exact ih ha hfirst c hmem
      · obtain rfl := List.mem_singleton.mp hmem
        rwa [toNat_ofNat hb]

theorem isValidChar_toNat (c : Char) : c.toNat.isValidChar := c.valid

theorem decompose_eq (c : Char) : decompose c = takeApart 4 c.toNat := by
  unfold decompose
  split
  · rename_i hlow
    have hnone : parts? c.toNat = none := by
      cases h : parts? c.toNat with
      | none => rfl
      | some parts =>
        rcases parts?_cases h with ⟨hn, _⟩ | hmem
        · have hrange : 0xAC00 ≤ c.toNat ∧ c.toNat < 0xD7A4 := of_decide_eq_true hn
          omega
        · have hhigh := (composites_sound _ hmem).high
          exact absurd hlow (Nat.not_lt.mpr hhigh)
    rw [takeApart_of_none hnone, Char.ofNat_toNat]
  · rfl

theorem forall_decompose (hparts : ∀ n a b, parts? n = some (a, b) → P n → P a ∧ P b) {c : Char}
    (hc : P c.toNat) : ∀ d ∈ decompose c, P d.toNat := by
  rw [decompose_eq]
  exact forall_takeApart hparts (isValidChar_toNat c) hc 4

end

/-- A character that is not composed. -/
def IsSimple (c : Char) : Prop := parts? c.toNat = none

theorem simple_of_takeApart {k n : Nat} (hvalid : n.isValidChar) (h : takeApart (k + 1) n = takeApart k n) :
    ∀ c ∈ takeApart k n, IsSimple c := by
  induction k generalizing n with
  | zero =>
    intro c hc
    obtain rfl := List.mem_singleton.mp hc
    rw [IsSimple, toNat_ofNat hvalid]
    cases hparts : parts? n with
    | none => rfl
    | some parts =>
      have hlength := congrArg List.length ((takeApart_of_some hparts 0).symm.trans h)
      simp [takeApart] at hlength
  | succ k ih =>
    cases hparts : parts? n with
    | none =>
      rw [takeApart_of_none hparts]
      intro c hc
      obtain rfl := List.mem_singleton.mp hc
      rwa [IsSimple, toNat_ofNat hvalid]
    | some parts =>
      obtain ⟨a, b⟩ := parts
      obtain ⟨⟨ha, hb⟩, _⟩ := parts?_sound hparts
      rw [takeApart_of_some hparts, takeApart_of_some hparts] at h
      rw [takeApart_of_some hparts]
      intro c hc
      rcases List.mem_append.mp hc with hmem | hmem
      · exact ih ha (List.append_cancel_right h) c hmem
      · obtain rfl := List.mem_singleton.mp hmem
        rw [IsSimple, toNat_ofNat hb]
        exact parts?_second hparts

theorem simple_decompose (c : Char) : ∀ d ∈ decompose c, IsSimple d := by
  rw [decompose_eq, takeApart_three]
  exact simple_of_takeApart (isValidChar_toNat c) (takeApart_three c.toNat)

theorem decompose_simple {c : Char} (h : IsSimple c) : decompose c = [c] := by
  rw [decompose_eq, takeApart_of_none h, Char.ofNat_toNat]

/-- A composite is taken apart into what its first part is taken apart into, and the second part. -/
theorem decompose_whole {c d : Char} {n : Nat} (h : whole? c.toNat d.toNat = some n) :
    decompose (Char.ofNat n) = decompose c ++ [d] := by
  rw [decompose_eq, decompose_eq, toNat_ofNat (whole?_sound h).1, takeApart_of_some (parts?_whole h),
    ← takeApart_three, Char.ofNat_toNat]

end Handoff.Unicode
