import Handoff.Text.Truncate

/-!
What cutting a text to a number of bytes keeps: the longest start, in whole characters, that takes at most so
many bytes. No cut fails, and of a text that is too long all but three bytes of what fits are kept.
-/

namespace Handoff.Text

/-- The longest start of a text, in whole characters, that takes at most `limit` bytes. -/
structure LongestStart (limit : Nat) (text kept : List Char) : Prop where
  isStart : kept <+: text
  fits : byteLength kept ≤ limit
  longest : ∀ start, start <+: text → byteLength start ≤ limit → start <+: kept

/-- A text is cut without fail, and what is kept is the longest start. -/
structure CutsSafely (limit : Nat) (text : List Char) : Prop where
  -- Going back from the limit stops within three bytes, at a position where the text can be cut.
  stops : limit < byteLength text → ∃ stop, backToBoundary? text limit = some stop ∧ stop ≤ limit ∧
    limit < stop + 4 ∧ cut? text stop = some (truncate limit text)
  succeeds : truncate? limit text = some (truncate limit text)
  longest : LongestStart limit text (truncate limit text)
  again : truncate limit (truncate limit text) = truncate limit text

theorem byteLength_append (front back : List Char) :
    byteLength (front ++ back) = byteLength front + byteLength back := by
  induction front with
  | nil => rw [List.nil_append]; exact (Nat.zero_add _).symm
  | cons c front ih => rw [List.cons_append, byteLength_cons, byteLength_cons, ih, Nat.add_assoc]

theorem length_le_byteLength (cs : List Char) : cs.length ≤ byteLength cs := by
  induction cs with
  | nil => exact Nat.le_refl 0
  | cons c cs ih =>
    have hsize : 0 < c.utf8Size := c.utf8Size_pos
    rw [byteLength_cons, List.length_cons]
    omega

section
variable {limit : Nat} {text kept start : List Char}

theorem byteLength_mono (h : start <+: text) : byteLength start ≤ byteLength text := by
  obtain ⟨rest, rfl⟩ := h
  rw [byteLength_append]
  exact Nat.le_add_right _ _

/-- A start of a text that is as long as the text is the text. -/
theorem eq_of_start (h : start <+: text) (hlength : byteLength text ≤ byteLength start) : start = text := by
  obtain ⟨rest, rfl⟩ := h
  rw [byteLength_append] at hlength
  have hrest : rest.length = 0 := by
    have hle := length_le_byteLength rest
    omega
  rw [List.length_eq_zero_iff.mp hrest, List.append_nil]

theorem isBoundary_byteLength (h : start <+: text) : isBoundary text (byteLength start) = true := by
  induction start generalizing text with
  | nil => exact isBoundary_zero text
  | cons c start ih =>
    obtain ⟨rest, rfl⟩ := h
    have hsize : 0 < c.utf8Size := c.utf8Size_pos
    obtain ⟨n, hn⟩ : ∃ n, byteLength (c :: start) = n + 1 :=
      Nat.exists_eq_succ_of_ne_zero (by rw [byteLength_cons]; omega)
    have hrest : n + 1 - c.utf8Size = byteLength start := by
      rw [← hn, byteLength_cons]
      omega
    rw [hn, List.cons_append, isBoundary, hrest, ih (List.prefix_append start rest), Bool.and_true,
      decide_eq_true_eq, ← hn, byteLength_cons]
    exact Nat.le_add_right _ _

theorem LongestStart.refl (h : byteLength text ≤ limit) : LongestStart limit text text where
  isStart := List.prefix_refl text
  fits := h
  longest := fun _ hstart _ => hstart

theorem LongestStart.eq_iff (h : LongestStart limit text kept) : kept = text ↔ byteLength text ≤ limit := by
  constructor
  · rintro rfl
    exact h.fits
  · intro hfits
    exact eq_of_start h.isStart (byteLength_mono (h.longest text (List.prefix_refl text) hfits))

/-- The character behind the longest start does not fit any more, and no character takes more than four
bytes. -/
theorem LongestStart.lt_add_four (h : LongestStart limit text kept) (hlong : limit < byteLength text) :
    limit < byteLength kept + 4 := by
  obtain ⟨rest, rfl⟩ := h.isStart
  cases rest with
  | nil =>
    rw [List.append_nil] at hlong
    exact absurd h.fits (Nat.not_le_of_lt hlong)
  | cons c rest =>
    have hnext : ¬ byteLength (kept ++ [c]) ≤ limit := by
      intro hfits
      have hprefix := h.longest (kept ++ [c]) ⟨rest, by simp⟩ hfits
      have hlength := hprefix.length_le
      rw [List.length_append, List.length_singleton] at hlength
      omega
    have hsize : c.utf8Size ≤ 4 := c.utf8Size_le_four
    have hone : byteLength [c] = c.utf8Size := byteLength_cons c []
    rw [byteLength_append, hone] at hnext
    omega

/-- Where going back from the limit stops, the longest start ends. -/
theorem longestStart_of_stop {stop : Nat} (hkept : kept <+: text) (hlength : byteLength kept = stop)
    (hle : stop ≤ limit) (hnone : ∀ j, stop < j → j ≤ limit → isBoundary text j = false) :
    LongestStart limit text kept where
  isStart := hkept
  fits := hlength ▸ hle
  longest := by
    intro start hstart hfits
    -- A start beyond the kept one would end at a boundary that going back has passed.
    rcases List.prefix_or_prefix_of_prefix hstart hkept with hinside | hbeyond
    · exact hinside
    · have hnot : ¬ stop < byteLength start := by
        intro hlater
        have hboundary := hnone (byteLength start) hlater hfits
        rw [isBoundary_byteLength hstart] at hboundary
        cases hboundary
      obtain rfl : kept = start := eq_of_start hbeyond (by omega)
      exact hbeyond

end

theorem truncate?_eq (limit : Nat) (text : List Char) : truncate? limit text = some (truncate limit text) :=
  (Option.some_get _).symm

theorem truncate_of_fits {limit : Nat} {text : List Char} (h : byteLength text ≤ limit) :
    truncate limit text = text := by
  have hcut := truncate?_eq limit text
  rw [truncate?, if_neg (Nat.not_lt_of_le h)] at hcut
  exact (Option.some.inj hcut).symm

theorem truncate_of_long {limit : Nat} {text : List Char} (h : limit < byteLength text) :
    ∃ stop, backToBoundary? text limit = some stop ∧ stop ≤ limit ∧
      cut? text stop = some (truncate limit text) ∧ LongestStart limit text (truncate limit text) ∧
        byteLength (truncate limit text) = stop := by
  obtain ⟨stop, hstop, hboundary, hle, hnone⟩ := backToBoundary?_spec text limit
  obtain ⟨start, hcut, hprefix, hlength⟩ := cut?_of_isBoundary hboundary
  have htruncate := truncate?_eq limit text
  rw [truncate?, if_pos h, hstop, Option.bind_some, hcut] at htruncate
  obtain rfl := Option.some.inj htruncate
  exact ⟨stop, hstop, hle, hcut, longestStart_of_stop hprefix hlength hle hnone, hlength⟩

theorem longestStart_truncate (limit : Nat) (text : List Char) :
    LongestStart limit text (truncate limit text) := by
  rcases Nat.lt_or_ge limit (byteLength text) with hlong | hfits
  · obtain ⟨_, _, _, _, hlongest, _⟩ := truncate_of_long hlong
    exact hlongest
  · rw [truncate_of_fits hfits]
    exact LongestStart.refl hfits

theorem truncate_cuts_safely (limit : Nat) (text : List Char) : CutsSafely limit text where
  stops := by
    intro hlong
    obtain ⟨stop, hstop, hle, hcut, hlongest, hlength⟩ := truncate_of_long hlong
    exact ⟨stop, hstop, hle, hlength ▸ hlongest.lt_add_four hlong, hcut⟩
  succeeds := truncate?_eq limit text
  longest := longestStart_truncate limit text
  again := truncate_of_fits (longestStart_truncate limit text).fits

end Handoff.Text
