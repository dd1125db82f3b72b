import Handoff.Proofs.Unicode.Composition
import Handoff.Url.Domain.Mapping

/-!
Mapping the characters of a name. What a character stands for is left as it is by mapping, and so is what is
composed of such characters.
-/

namespace Handoff.Url.Domain

open Unicode (union comb)

/-- How far the code points of a row are from the first. -/
def Row.offsets (r : Row) : Nat :=
  if r.first ≤ r.last then comb r.step ((r.last - r.first) / r.step + 1) else 0

/-- The code points that others stand for. -/
def images : Nat := union (rows.flatMap fun r => r.target.map (r.offsets <<< ·))

def capitals : Unicode.Ranges := [(0x41, 0x5A)]

/-- The code points that mapping changes or refuses. -/
def unsettled : Nat :=
  union (rows.map (fun r => r.offsets <<< r.first) ++ [capitals.bits, ignored.bits, refused.bits])

/-- The parts of Hangul syllables, and the syllables. -/
def hangul : Unicode.Ranges := [(0x1100, 0x1112), (0x1161, 0x1175), (0x11A8, 0x11C2), (0xAC00, 0xD7A3)]

def ideographs : Unicode.Ranges := [(0x4E00, 0x9FFF)]

/-- What the tables say of the code points that are mapped to, of ASCII, and of composites. -/
structure TablesAgree : Prop where
  images : images &&& unsettled = 0
  ascii : unsettled % 2 ^ 0x80 = capitals.bits
  composites : ∀ t ∈ Unicode.composites,
    unsettled.testBit t.whole = (unsettled.testBit t.first || unsettled.testBit t.second)
  hangul : hangul.bits &&& unsettled = 0
  ideographs : ideographs.bits &&& unsettled = 0

instance : Decidable TablesAgree :=
  decidable_of_iff (images &&& unsettled = 0 ∧ unsettled % 2 ^ 0x80 = capitals.bits ∧
      (∀ t ∈ Unicode.composites,
        unsettled.testBit t.whole = (unsettled.testBit t.first || unsettled.testBit t.second)) ∧
      hangul.bits &&& unsettled = 0 ∧ ideographs.bits &&& unsettled = 0)
    ⟨fun ⟨images, ascii, composites, hangul, ideographs⟩ => ⟨images, ascii, composites, hangul, ideographs⟩,
    fun h => ⟨h.images, h.ascii, h.composites, h.hangul, h.ideographs⟩⟩

theorem tables_agree : TablesAgree := by decide +kernel

theorem testBit_offsets (r : Row) (n : Nat) : (r.offsets <<< r.first).testBit n = r.covers n := by
  rw [Nat.testBit_shiftLeft, Row.covers, Bool.eq_iff_iff, Bool.and_eq_true, decide_eq_true_eq,
    decide_eq_true_eq]
  unfold Row.offsets
  split
  · rename_i hle
    rw [Unicode.testBit_comb, decide_eq_true_eq, Nat.lt_succ_iff]
    constructor
    · rintro ⟨hfirst, hstep, hcount⟩
      refine ⟨hfirst, ?_, hstep⟩
      have hexact : (n - r.first) / r.step * r.step = n - r.first :=
        Nat.div_mul_cancel (Nat.dvd_of_mod_eq_zero hstep)
      have hbelow : (n - r.first) / r.step * r.step ≤ r.last - r.first :=
        Nat.le_trans (Nat.mul_le_mul_right _ hcount) (Nat.div_mul_le_self _ _)
      omega
    · rintro ⟨hfirst, hlast, hstep⟩
      exact ⟨hfirst, hstep, Nat.div_le_div_right (by omega)⟩
  · rw [Nat.zero_testBit]
    constructor
    · exact fun h => absurd h.2 Bool.false_ne_true
    · rintro ⟨hfirst, hlast, _⟩
      omega

/-- A code point that mapping leaves as it is. -/
def IsSettled (n : Nat) : Prop := unsettled.testBit n = false

theorem isSettled_iff {n : Nat} :
    IsSettled n ↔ (∀ r ∈ rows, r.covers n = false) ∧ capitals.contains n = false ∧
    ignored.contains n = false ∧ refused.contains n = false := by
  rw [IsSettled, unsettled, Unicode.testBit_union, List.any_append, Bool.or_eq_false_iff, List.any_map,
    List.any_eq_false]
  simp only [Function.comp_apply, testBit_offsets, List.any_cons, List.any_nil, Bool.or_false,
    Bool.or_eq_false_iff, Unicode.Ranges.testBit_bits, Bool.not_eq_true]

theorem isSettled_ascii {n : Nat} (h : n < 0x80) : IsSettled n ↔ ¬ (0x41 ≤ n ∧ n ≤ 0x5A) := by
  have hbit : unsettled.testBit n = capitals.contains n := by
    rw [← Unicode.Ranges.testBit_bits, ← tables_agree.ascii, Nat.testBit_mod_two_pow, decide_eq_true h,
      Bool.true_and]
  rw [IsSettled, hbit]
  simp [capitals, Unicode.Ranges.contains]

theorem isSettled_of_ranges {n : Nat} {rs : Unicode.Ranges} (h : rs.bits &&& unsettled = 0)
    (hn : rs.contains n = true) : IsSettled n :=
  Unicode.testBit_of_disjoint h ((Unicode.Ranges.testBit_bits rs n).trans hn)

theorem isSettled_ofNat {n : Nat} (h : IsSettled n) : IsSettled (Char.ofNat n).toNat := by
  by_cases hvalid : n.isValidChar
  · rwa [Unicode.toNat_ofNat hvalid]
  · have hzero : (Char.ofNat n).toNat = 0 := by
      rw [Char.ofNat, dif_neg hvalid]
      rfl
    rw [hzero, isSettled_ascii (by decide)]
    decide

theorem toLower_of_settled {c : Char} (hascii : c.toNat < 0x80) (h : IsSettled c.toNat) : c.toLower = c := by
  have hcapital := (isSettled_ascii hascii).mp h
  unfold Char.toLower
  rw [dif_neg]
  rintro ⟨hlow, hhigh⟩
  exact hcapital ⟨hlow, hhigh⟩

/-- Mapping leaves a settled character as it is. -/
theorem mapChar?_of_settled {c : Char} (h : IsSettled c.toNat) : mapChar? c = some [c] := by
  unfold mapChar?
  dsimp only
  split
  · rename_i hascii
    rw [toLower_of_settled hascii h]
  · obtain ⟨hrows, _, hignored, hrefused⟩ := isSettled_iff.mp h
    have hnone : rows.find? (fun r => r.covers c.toNat) = none := by
      rw [List.find?_eq_none]
      intro r hr
      rw [hrows r hr]
      exact Bool.false_ne_true
    rw [hnone, hignored, hrefused]
    rfl

/-- A small letter for a character of ASCII is in ASCII, and no capital. -/
theorem toNat_toLower {c : Char} (h : c.toNat < 0x80) :
    c.toLower.toNat < 0x80 ∧ ¬ (0x41 ≤ c.toLower.toNat ∧ c.toLower.toNat ≤ 0x5A) := by
  have hall : ∀ n < 0x80, (Char.ofNat n).toLower.toNat < 0x80 ∧
      ¬ (0x41 ≤ (Char.ofNat n).toLower.toNat ∧ (Char.ofNat n).toLower.toNat ≤ 0x5A) := by decide
  have hc := hall c.toNat h
  rwa [Char.ofNat_toNat] at hc

theorem isSettled_toLower {c : Char} (h : c.toNat < 0x80) : IsSettled c.toLower.toNat := by
  obtain ⟨hascii, hcapital⟩ := toNat_toLower h
  exact (isSettled_ascii hascii).mpr hcapital

/-- What a row maps to is settled. -/
theorem isSettled_image {r : Row} (hr : r ∈ rows) {n t : Nat} (hn : r.covers n = true) (ht : t ∈ r.target) :
    IsSettled (t + (n - r.first)) := by
  apply Unicode.testBit_of_disjoint tables_agree.images
  rw [images, Unicode.testBit_union, List.any_eq_true]
  refine ⟨r.offsets <<< t, List.mem_flatMap.mpr ⟨r, hr, List.mem_map_of_mem ht⟩, ?_⟩
  rw [← testBit_offsets, Nat.testBit_shiftLeft, Bool.and_eq_true] at hn
  rw [Nat.testBit_shiftLeft, Nat.add_sub_cancel_left, hn.2, Bool.and_true]
  exact decide_eq_true (Nat.le_add_right _ _)

/-- What a character stands for is settled. -/
theorem isSettled_of_mapChar? {c : Char} {text : List Char} (h : mapChar? c = some text) :
    ∀ d ∈ text, IsSettled d.toNat := by
  unfold mapChar? at h
  dsimp only at h
  split at h
  · rename_i hascii
    obtain rfl := Option.some.inj h
    intro d hd
    obtain rfl := List.mem_singleton.mp hd
    exact isSettled_toLower hascii
  · rename_i hascii
    split at h
    · rename_i r hfind
      obtain rfl := Option.some.inj h
      intro d hd
      obtain ⟨t, ht, rfl⟩ := List.mem_map.mp hd
      have hcovers : r.covers c.toNat = true := List.find?_some (p := fun r : Row => r.covers c.toNat) hfind
      exact isSettled_ofNat (isSettled_image (List.mem_of_find?_eq_some hfind) hcovers ht)
    · rename_i hfind
      split at h
      · obtain rfl := Option.some.inj h
        exact fun _ hd => absurd hd List.not_mem_nil
      · rename_i hignored
        split at h
        · cases h
        · rename_i hrefused
          obtain rfl := Option.some.inj h
          intro d hd
          obtain rfl := List.mem_singleton.mp hd
          have hrows : ∀ r ∈ rows, r.covers d.toNat = false :=
            fun r hr => Bool.eq_false_iff.mpr (List.find?_eq_none.mp hfind r hr)
          have hcapital : capitals.contains d.toNat = false := by
            simp only [capitals, Unicode.Ranges.contains, List.any_cons, List.any_nil, Bool.or_false,
              decide_eq_false_iff_not]
            omega
          exact isSettled_iff.mpr
            ⟨hrows, hcapital, Bool.eq_false_iff.mpr hignored, Bool.eq_false_iff.mpr hrefused⟩

/-- The parts of what is settled are settled. -/
theorem isSettled_parts {n a b : Nat} (h : Unicode.parts? n = some (a, b)) (hn : IsSettled n) :
    IsSettled a ∧ IsSettled b := by
  rcases Unicode.parts?_cases h with ⟨hsyllable, hparts⟩ | hmem
  · have hhangul (m : Nat) (hm : hangul.contains m = true) : IsSettled m :=
      isSettled_of_ranges tables_agree.hangul hm
    simp only [hangul, Unicode.Ranges.contains, List.any_cons, List.any_nil, Bool.or_false, Bool.or_eq_true,
      decide_eq_true_eq] at hhangul
    rcases Unicode.hangulParts_cases hsyllable hparts with hjamo | ⟨ha, _, hb⟩
    · exact ⟨hhangul a (by omega), hhangul b (by omega)⟩
    · have hrange : 0xAC00 ≤ a ∧ a < 0xD7A4 := of_decide_eq_true ha
      exact ⟨hhangul a (by omega), hhangul b (by omega)⟩
  · have hboth := tables_agree.composites _ hmem
    rw [IsSettled] at hn
    rw [hn] at hboth
    exact (Bool.or_eq_false_iff.mp hboth.symm)

/-- What is composed of settled parts is settled. -/
theorem isSettled_whole {a b n : Nat} (h : Unicode.whole? a b = some n) (ha : IsSettled a) (hb : IsSettled b) :
    IsSettled n := by
  rcases Unicode.whole?_cases h with hhangul | hmem
  · have hrange : 0xAC00 ≤ n ∧ n < 0xD7A4 := of_decide_eq_true (Unicode.hangulWhole?_parts hhangul).1
    apply isSettled_of_ranges tables_agree.hangul
    simp only [hangul, Unicode.Ranges.contains, List.any_cons, List.any_nil, Bool.or_false, Bool.or_eq_true,
      decide_eq_true_eq]
    omega
  · have hboth := tables_agree.composites _ hmem
    rw [IsSettled, hboth, ha, hb]
    rfl

/-- Composing settled characters leaves settled characters. -/
theorem isSettled_compose {cs : List Char} (h : ∀ c ∈ cs, IsSettled c.toNat) :
    ∀ c ∈ Unicode.compose cs, IsSettled c.toNat :=
  Unicode.forall_compose (fun _ _ _ => isSettled_parts) (fun _ _ _ => isSettled_whole) h

end Handoff.Url.Domain
