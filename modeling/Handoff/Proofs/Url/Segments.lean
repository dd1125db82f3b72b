import Handoff.Proofs.Url.Percent
import Handoff.Url.Segments

/-!
Texts as segments of a path. A text that is put into a path is told apart from every other one by its
segment, but for what is dropped of it and for dot segments.
-/

namespace Handoff.Url

/-- The characters of a text that are written into a path. -/
def written (cs : List Char) : List Char := cs.filter (fun c => !isDropped c)

theorem toLower_eq_cases {c d : Char} (h : c.toLower = d) :
    c = d ∨ 97 ≤ d.toNat ∧ c = Char.ofNat (d.toNat - 32) := by
  unfold Char.toLower at h
  split at h
  · rename_i hupper
    right
    obtain ⟨hlow, hhigh⟩ := hupper
    have hlow' : 65 ≤ c.toNat := hlow
    have hhigh' : c.toNat ≤ 90 := hhigh
    have hd : d.toNat = c.toNat + 32 := by
      subst h
      change (c.val + 32).toNat = c.toNat + 32
      rw [UInt32.toNat_add]
      exact Nat.mod_eq_of_lt (by change c.toNat + 32 < _; omega)
    refine ⟨by omega, ?_⟩
    rw [hd, Nat.add_sub_cancel, Char.ofNat_toNat]
  · exact Or.inl h

theorem eq_of_toLower_eq {c d : Char} (h : c.toLower = d) (hd : d.toNat < 97) : c = d := by
  rcases toLower_eq_cases h with heq | ⟨hlow, _⟩
  · exact heq
  · omega

/-- The ways to write a dot, up to letter case. -/
def dots : List (List Char) := [['.'], ['%', '2', 'e']]

theorem percentDecode_dot {dot part after : List Char} (hdot : dot ∈ dots)
    (h : dot ++ after = part.map Char.toLower) :
    ∃ rest, after = rest.map Char.toLower ∧ percentDecode part = 0x2E :: percentDecode rest := by
  simp only [dots, List.mem_cons, List.not_mem_nil, or_false] at hdot
  rcases hdot with rfl | rfl
  · obtain ⟨c, rest, rfl, hc, hrest⟩ := List.map_eq_cons_iff.mp h.symm
    obtain rfl := eq_of_toLower_eq hc (by decide)
    exact ⟨rest, hrest.symm, percentDecode_cons (by decide) rest⟩
  · obtain ⟨a, _, rfl, ha, htail⟩ := List.map_eq_cons_iff.mp h.symm
    obtain ⟨b, _, rfl, hb, htail⟩ := List.map_eq_cons_iff.mp htail
    obtain ⟨c, rest, rfl, hc, hrest⟩ := List.map_eq_cons_iff.mp htail
    obtain rfl := eq_of_toLower_eq ha (by decide)
    obtain rfl := eq_of_toLower_eq hb (by decide)
    refine ⟨rest, hrest.symm, ?_⟩
    rcases toLower_eq_cases hc with rfl | ⟨_, rfl⟩
    · rfl
    · rfl

theorem percentDecode_of_isSingleDot {part : List Char} (h : isSingleDot part = true) :
    percentDecode part = [0x2E] := by
  rw [isSingleDot, List.any_eq_true] at h
  obtain ⟨s, hs, heq⟩ := h
  have hdot : ∀ s ∈ [".", "%2e"], s.toList ∈ dots := by decide
  obtain ⟨rest, hrest, hdecode⟩ := percentDecode_dot (hdot s hs)
    ((List.append_nil _).trans (of_decide_eq_true heq))
  obtain rfl := List.map_eq_nil_iff.mp hrest.symm
  rw [hdecode, percentDecode]

theorem percentDecode_of_isDoubleDot {part : List Char} (h : isDoubleDot part = true) :
    percentDecode part = [0x2E, 0x2E] := by
  rw [isDoubleDot, List.any_eq_true] at h
  obtain ⟨s, hs, heq⟩ := h
  have hdots : ∀ s ∈ ["..", ".%2e", "%2e.", "%2e%2e"],
      ∃ a ∈ dots, ∃ b ∈ dots, a ++ b = s.toList := by decide
  obtain ⟨a, ha, b, hb, happend⟩ := hdots s hs
  obtain ⟨rest, hrest, hdecode⟩ := percentDecode_dot ha (happend.trans (of_decide_eq_true heq))
  obtain ⟨rest', hrest', hdecode'⟩ := percentDecode_dot hb ((List.append_nil b).trans hrest)
  obtain rfl := List.map_eq_nil_iff.mp hrest'.symm
  rw [hdecode, hdecode', percentDecode]

section
variable {keep : Char → Bool}

/-- Only the dot becomes a dot segment. -/
theorem isSingleDot_percentEncode (hpercent : keep '%' = false) (hdot : keep '.' = true)
    (cs : List Char) : isSingleDot (percentEncode keep cs) = true ↔ cs = ['.'] := by
  constructor
  · intro h
    have hdecode := percentDecode_of_isSingleDot h
    rw [percentDecode_percentEncode hpercent] at hdecode
    exact Text.encode_injective hdecode
  · rintro rfl
    rw [percentEncode_of_kept (by simp [hdot])]
    decide

theorem isDoubleDot_percentEncode (hpercent : keep '%' = false) (hdot : keep '.' = true)
    (cs : List Char) : isDoubleDot (percentEncode keep cs) = true ↔ cs = ['.', '.'] := by
  constructor
  · intro h
    have hdecode := percentDecode_of_isDoubleDot h
    rw [percentDecode_percentEncode hpercent] at hdecode
    exact Text.encode_injective hdecode
  · rintro rfl
    rw [percentEncode_of_kept (by simp [hdot])]
    decide

theorem percentEncode_of_percent_notMem {cs : List Char} (h : '%' ∉ percentEncode keep cs) :
    percentEncode keep cs = cs := by
  apply percentEncode_of_kept
  intro c hc
  rw [← Bool.not_eq_false]
  intro hkeep
  apply h
  obtain ⟨b, hb⟩ := List.exists_mem_of_ne_nil (String.utf8EncodeChar c) String.utf8EncodeChar_ne_nil
  rw [percentEncode, List.mem_flatMap]
  refine ⟨c, hc, ?_⟩
  rw [hkeep, if_neg Bool.false_ne_true, List.mem_flatMap]
  exact ⟨b, hb, List.mem_cons_self⟩

theorem isDrive_iff {cs : List Char} :
    isDrive cs = true ↔ ∃ letter mark, cs = [letter, mark] ∧ letter.isAlpha = true ∧
      (mark = ':' ∨ mark = '|') := by
  unfold isDrive
  split
  · rename_i letter mark
    rw [Bool.and_eq_true, Bool.or_eq_true, beq_iff_eq, beq_iff_eq]
    constructor
    · rintro ⟨hletter, hmark⟩
      exact ⟨letter, mark, rfl, hletter, hmark⟩
    · rintro ⟨_, _, heq, hdrive⟩
      obtain ⟨rfl, htail⟩ := List.cons.inj heq
      obtain rfl := List.head_eq_of_cons_eq htail
      exact hdrive
  · rename_i hlength
    refine ⟨nofun, ?_⟩
    rintro ⟨letter, mark, rfl, _⟩
    exact absurd rfl (hlength letter mark)

/-- Only a drive becomes a drive. -/
theorem isDrive_percentEncode (hdrive : ∀ c, c.isAlpha = true ∨ c = ':' ∨ c = '|' → keep c = true)
    (cs : List Char) : isDrive (percentEncode keep cs) = isDrive cs := by
  rw [Bool.eq_iff_iff]
  constructor
  · intro h
    obtain ⟨letter, mark, heq, hletter, hmark⟩ := isDrive_iff.mp h
    have hpercent : '%' ∉ percentEncode keep cs := by
      rw [heq]
      simp only [List.mem_cons, List.not_mem_nil, or_false, not_or]
      constructor
      · rintro rfl
        exact absurd hletter (by decide)
      · rintro rfl
        exact absurd hmark (by decide)
    rwa [percentEncode_of_percent_notMem hpercent] at h
  · intro h
    obtain ⟨letter, mark, rfl, hletter, hmark⟩ := isDrive_iff.mp h
    rw [percentEncode_of_kept]
    · exact h
    · intro c hc
      simp only [List.mem_cons, List.not_mem_nil, or_false] at hc
      rcases hc with rfl | rfl
      · exact hdrive _ (Or.inl hletter)
      · exact hdrive _ (Or.inr hmark)

theorem notMem_percentEncode {d : Char} (hd : keep d = false) (hpercent : '%' ≠ d)
    (hdigit : ∀ n < 16, hexDigit n ≠ d) (cs : List Char) : d ∉ percentEncode keep cs := by
  have hkeep : ∀ c ∈ cs, keep c = true → c ≠ d := by
    rintro c _ hc rfl
    rw [hd] at hc
    cases hc
  exact fun h => forall_mem_percentEncode hkeep hpercent hdigit d h rfl

end

section
variable {special : Bool}

theorem keptInSegment_percent : keptInSegment special '%' = false := by
  cases special <;> decide

theorem slash_notMem_segment (cs : List Char) : '/' ∉ percentEncode (keptInSegment special) cs :=
  notMem_percentEncode (by cases special <;> decide) (by decide) (by decide) cs

theorem keptInSegment_dot : keptInSegment special '.' = true := by
  cases special <;> decide

theorem keptInSegment_of_alpha {c : Char} (h : c.isAlpha = true) : keptInSegment special c = true := by
  have hrange : 65 ≤ c.toNat ∧ c.toNat ≤ 122 := by
    rcases (Bool.or_eq_true _ _).mp h with hupper | hlower
    · have hbounds : 65 ≤ c.toNat ∧ c.toNat ≤ 90 := of_decide_eq_true hupper
      omega
    · have hbounds : 97 ≤ c.toNat ∧ c.toNat ≤ 122 :=
        ((Bool.and_eq_true _ _).mp hlower).imp of_decide_eq_true of_decide_eq_true
      omega
  have hall : ∀ n < 123, 65 ≤ n → (Char.ofNat n).isAlpha = true →
      keptInSegment special (Char.ofNat n) = true := by
    cases special <;> decide +kernel
  have hc := hall c.toNat (by omega) hrange.1
  rw [Char.ofNat_toNat] at hc
  exact hc h

theorem keptInSegment_of_drive {c : Char} (h : c.isAlpha = true ∨ c = ':' ∨ c = '|') :
    keptInSegment special c = true := by
  rcases h with h | rfl | rfl
  · exact keptInSegment_of_alpha h
  · cases special <;> decide
  · cases special <;> decide

end

/-- The segments of a path behind which a text is put, before they are encoded. -/
def putBehind (trail : List (List Char)) (cs : List Char) : List (List Char) :=
  if cs = ['.'] ∨ cs = ['.', '.'] then trail
  else if written cs = ['.', '.'] then (shorten trail.reverse).reverse ++ [[]]
  else if written cs = ['.'] then trail ++ [[]]
  else trail ++ [written cs]

theorem place_single (before : List (List Char)) (part : List Char) :
    place before [part] =
      if isDoubleDot part then (shorten before.reverse).reverse ++ [[]]
      else if isSingleDot part then before ++ [[]]
      else before ++ [part] := by
  unfold place
  split
  · rename_i hdouble
    simp [placeOnto, hdouble]
  · rename_i hdouble
    split
    · rename_i hsingle
      simp [placeOnto, hdouble, hsingle]
    · rename_i hsingle
      simp [placeOnto, hdouble, hsingle]

theorem shorten_map {f : List Char → List Char} (h : ∀ part, isDrive (f part) = isDrive part)
    (parts : List (List Char)) : shorten (parts.map f) = (shorten parts).map f := by
  cases parts with
  | nil => rfl
  | cons part rest =>
    rw [List.map_cons, shorten, shorten, h]
    split
    · rfl
    · rfl

theorem length_le_putBehind (trail : List (List Char)) (cs : List Char) :
    trail.length ≤ (putBehind trail cs).length := by
  have hshorten (parts : List (List Char)) : parts.length ≤ (shorten parts).length + 1 := by
    cases parts with
    | nil => exact Nat.zero_le _
    | cons part rest =>
      rw [shorten]
      split
      · exact Nat.le_succ _
      · exact Nat.le_refl _
  have hreverse := hshorten trail.reverse
  rw [List.length_reverse] at hreverse
  unfold putBehind
  split
  · exact Nat.le_refl _
  · split
    · rw [List.length_append, List.length_reverse]
      exact hreverse
    · split
      · rw [List.length_append]
        exact Nat.le_add_right _ _
      · rw [List.length_append]
        exact Nat.le_add_right _ _

section
variable {kind : SchemeKind} (hkind : kind ≠ .file)
include hkind

theorem settle_eq (parts : List (List Char)) : settle kind parts = parts := if_neg hkind

theorem pushSegment_map {trail : List (List Char)} (htrail : trail ≠ [[]]) (cs : List Char) :
    pushSegment kind (trail.map (percentEncode (keptInSegment kind.isSpecial))) cs =
      (putBehind trail cs).map (percentEncode (keptInSegment kind.isSpecial)) := by
  have hstart : trail.map (percentEncode (keptInSegment kind.isSpecial)) ≠ [[]] := by
    intro h
    obtain ⟨part, rfl, hpart⟩ := List.map_eq_singleton_iff.mp h
    obtain rfl := percentEncode_injective keptInSegment_percent (hpart.trans rfl : _ = percentEncode _ [])
    exact htrail rfl
  have hdrive (part : List Char) :
      isDrive (percentEncode (keptInSegment kind.isSpecial) part) = isDrive part :=
    isDrive_percentEncode (fun _ => keptInSegment_of_drive) part
  unfold pushSegment putBehind
  by_cases hdots : cs = ['.'] ∨ cs = ['.', '.']
  · rw [if_pos hdots, if_pos hdots]
  · rw [if_neg hdots, if_neg hdots, settle_eq hkind, if_neg hstart, place_single, encodeSegment, ← written]
    simp only [isDoubleDot_percentEncode keptInSegment_percent keptInSegment_dot,
      isSingleDot_percentEncode keptInSegment_percent keptInSegment_dot]
    rw [← List.map_reverse, shorten_map hdrive, ← List.map_reverse]
    split
    · rw [List.map_append]
      rfl
    · split
      · rw [List.map_append]
        rfl
      · rw [List.map_append]
        rfl

/-- Texts added to a path one by one stand in it as they are put behind each other, encoded. -/
theorem foldl_pushSegment {trail : List (List Char)} (htrail : 2 ≤ trail.length)
    (texts : List (List Char)) :
    texts.foldl (pushSegment kind) (trail.map (percentEncode (keptInSegment kind.isSpecial))) =
      (texts.foldl putBehind trail).map (percentEncode (keptInSegment kind.isSpecial)) := by
  induction texts generalizing trail with
  | nil => rfl
  | cons cs texts ih =>
    have hne : trail ≠ [[]] := by
      rintro rfl
      exact absurd htrail (by decide)
    rw [List.foldl_cons, List.foldl_cons, pushSegment_map hkind hne]
    exact ih (Nat.le_trans htrail (length_le_putBehind trail cs))

end

theorem putBehind_of_plain {cs : List Char} (hsingle : written cs ≠ ['.'])
    (hdouble : written cs ≠ ['.', '.']) (trail : List (List Char)) :
    putBehind trail cs = trail ++ [written cs] := by
  have hdots : ¬ (cs = ['.'] ∨ cs = ['.', '.']) := by
    rintro (rfl | rfl)
    · exact hsingle (by decide)
    · exact hdouble (by decide)
  rw [putBehind, if_neg hdots, if_neg hdouble, if_neg hsingle]

theorem segment_append_inj {part other rest more : List Char} (hpart : '/' ∉ part)
    (hother : '/' ∉ other) (hrest : ∀ c ∈ rest.head?, c = '/') (hmore : ∀ c ∈ more.head?, c = '/')
    (h : part ++ rest = other ++ more) : part = other ∧ rest = more := by
  induction part generalizing other with
  | nil =>
    cases other with
    | nil => exact ⟨rfl, h⟩
    | cons c other =>
      obtain rfl : rest = c :: (other ++ more) := h
      obtain rfl := hrest c rfl
      exact absurd List.mem_cons_self hother
  | cons c part ih =>
    cases other with
    | nil =>
      obtain rfl : more = c :: (part ++ rest) := h.symm
      obtain rfl := hmore c rfl
      exact absurd List.mem_cons_self hpart
    | cons d other =>
      obtain ⟨rfl, htail⟩ := List.cons.inj h
      obtain ⟨rfl, hrest⟩ := ih (fun hc => hpart (List.mem_cons_of_mem _ hc))
        (fun hc => hother (List.mem_cons_of_mem _ hc)) htail
      exact ⟨rfl, hrest⟩

theorem Path.head_text_segments (parts : List (List Char)) :
    ∀ c ∈ (Path.segments parts).text.head?, c = '/' := by
  cases parts with
  | nil => nofun
  | cons part parts =>
    intro c hc
    exact (Option.some.inj hc).symm

/-- Segments without slashes are told apart by the text of their path. -/
theorem Path.segments_eq_of_text {parts others : List (List Char)} (hparts : ∀ part ∈ parts, '/' ∉ part)
    (hothers : ∀ part ∈ others, '/' ∉ part)
    (h : (Path.segments parts).text = (Path.segments others).text) : parts = others := by
  induction parts generalizing others with
  | nil =>
    cases others with
    | nil => rfl
    | cons other others => cases h
  | cons part parts ih =>
    cases others with
    | nil => cases h
    | cons other others =>
      have hcons : part ++ (Path.segments parts).text = other ++ (Path.segments others).text :=
        List.tail_eq_of_cons_eq h
      obtain ⟨rfl, htail⟩ := segment_append_inj (hparts part List.mem_cons_self)
        (hothers other List.mem_cons_self) (head_text_segments parts) (head_text_segments others) hcons
      rw [ih (fun p hp => hparts p (List.mem_cons_of_mem _ hp))
        (fun p hp => hothers p (List.mem_cons_of_mem _ hp)) htail]

end Handoff.Url
