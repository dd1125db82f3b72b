import Handoff.Proofs.Url.Domain

/-!
Labels of ideographs. They are mapped to themselves, so such a label is written as its Punycode.
-/

namespace Handoff.Url.Domain

/-- The characters that are composed or compose, and the marks, and those that turn the direction of a name. -/
def involved : List Nat :=
  [Unicode.wholes, Unicode.firsts, Unicode.classed, Unicode.marks.bits, rightToLeft.bits, arabicNumbers.bits]

theorem ideographs_plain : ideographs.bits &&& Unicode.union involved = 0 := by decide +kernel

def IsIdeograph (c : Char) : Prop := 0x4E00 ≤ c.toNat ∧ c.toNat ≤ 0x9FFF

section
variable {c : Char} {label : List Char}

theorem IsIdeograph.contains (h : IsIdeograph c) : ideographs.contains c.toNat = true := by
  simp only [ideographs, Unicode.Ranges.contains, List.any_cons, List.any_nil, Bool.or_false,
    decide_eq_true_eq]
  exact h

theorem IsIdeograph.not_ascii (h : IsIdeograph c) : ¬ c.toNat < 0x80 := by
  have hlow := h.1
  omega

theorem IsIdeograph.ne (h : IsIdeograph c) {d : Char} (hd : d.toNat < 0x4E00) : c ≠ d := by
  rintro rfl
  exact Nat.not_lt_of_le h.1 hd

theorem IsIdeograph.settled (h : IsIdeograph c) : IsSettled c.toNat :=
  isSettled_of_ranges tables_agree.ideographs h.contains

theorem IsIdeograph.testBit (h : IsIdeograph c) {set : Nat} (hset : set ∈ involved) :
    set.testBit c.toNat = false := by
  have hbit :=
    Unicode.testBit_of_disjoint ideographs_plain ((Unicode.Ranges.testBit_bits _ _).trans h.contains)
  rw [Unicode.testBit_union, List.any_eq_false] at hbit
  exact Bool.eq_false_iff.mpr (hbit set hset)

theorem IsIdeograph.simple (h : IsIdeograph c) : Unicode.IsSimple c := by
  refine Unicode.parts?_eq_none (decide_eq_false ?_) (h.testBit (by simp [involved]))
  have hhigh := h.2
  omega

theorem IsIdeograph.inert (h : IsIdeograph c) : Unicode.IsInert c := by
  intro b
  cases hwhole : Unicode.whole? c.toNat b with
  | none => rfl
  | some n =>
    have hfirst := Unicode.firsts_of_whole? hwhole
    rw [h.testBit (by simp [involved])] at hfirst
    cases hfirst

theorem IsIdeograph.class_zero (h : IsIdeograph c) : Unicode.combiningClass c = 0 :=
  Unicode.combiningClass_of_unclassed (h.testBit (by simp [involved]))

theorem IsIdeograph.not_mark (h : IsIdeograph c) : Unicode.isMark c = false := by
  rw [Unicode.isMark, if_neg h.not_ascii, ← Unicode.Ranges.testBit_bits]
  exact h.testBit (by simp [involved])

theorem IsIdeograph.not_turns (h : IsIdeograph c) : turns c = false := by
  have hright : rightToLeft.contains c.toNat = false := by
    rw [← Unicode.Ranges.testBit_bits]
    exact h.testBit (by simp [involved])
  have hnumber : arabicNumbers.contains c.toNat = false := by
    rw [← Unicode.Ranges.testBit_bits]
    exact h.testBit (by simp [involved])
  have hdirection : direction c ≠ .rightToLeft ∧ direction c ≠ .arabicNumber := by
    unfold direction
    dsimp only
    rw [if_neg h.not_ascii, hright, hnumber, if_neg Bool.false_ne_true, if_neg Bool.false_ne_true]
    split
    · exact ⟨nofun, nofun⟩
    · split
      · exact ⟨nofun, nofun⟩
      · split
        · exact ⟨nofun, nofun⟩
        · exact ⟨nofun, nofun⟩
  rw [turns, beq_false_of_ne hdirection.1, beq_false_of_ne hdirection.2, Bool.false_or]

theorem IsIdeograph.not_forbidden (h : IsIdeograph c) : isForbidden c = false := by
  have hlist : c ∉ "%#/:<>?@[\\]^|".toList := by
    intro hmem
    have hall : "%#/:<>?@[\\]^|".toList.all (fun d => decide (d.toNat < 0x4E00)) = true := by decide
    exact h.ne (of_decide_eq_true (List.all_eq_true.mp hall c hmem)) rfl
  have hlow := h.1
  simp only [isForbidden, Bool.or_eq_false_iff, decide_eq_false_iff_not, beq_eq_false_iff_ne]
  exact ⟨⟨by omega, by omega⟩, by simpa using hlist⟩

/-- No joiner has to fit into a label of ideographs. -/
theorem joinersFit_ideographs (h : ∀ c ∈ label, IsIdeograph c) (before : List Char) :
    joinersFit before label = true := by
  induction label generalizing before with
  | nil => rfl
  | cons c label ih =>
    obtain ⟨hc, hlabel⟩ := List.forall_mem_cons.mp h
    rw [joinersFit, beq_false_of_ne (hc.ne (by decide)), beq_false_of_ne (hc.ne (by decide)), ih hlabel]
    rfl

theorem isLabel_ideographs (h : ∀ c ∈ label, IsIdeograph c) (hlength : label.length ≤ longestText) :
    isLabel label = true := by
  have hhead : label.head?.all (fun c => !(Unicode.isMark c)) = true := by
    cases label with
    | nil => rfl
    | cons c label =>
      have hc := (h c List.mem_cons_self).not_mark
      simp [hc]
  have hallowed : label.any isForbidden = false :=
    List.any_eq_false.mpr fun c hc => Bool.eq_false_iff.mp (h c hc).not_forbidden
  rw [isLabel, hhead, joinersFit_ideographs h, hallowed, decide_eq_true hlength]
  rfl

theorem encode_allowed (text : List Char) (hbeyond : ∀ c ∈ text, ¬ c.toNat < 0x80) :
    (acePrefix ++ Punycode.encode text).any isForbidden = false := by
  have hencode := Punycode.forall_mem_encode (P := fun c => ¬ isForbidden c = true)
    (fun c hc hlow => absurd hlow (hbeyond c hc)) (by decide) (by decide)
  have hace : acePrefix.any isForbidden = false := by decide
  rw [List.any_append, hace, Bool.false_or]
  exact List.any_eq_false.mpr hencode

/-- A label of ideographs is written as its Punycode. -/
theorem toAscii?_ideographs (hne : label ≠ []) (h : ∀ c ∈ label, IsIdeograph c)
    (hlength : label.length ≤ longestText) :
    toAscii? label = some (acePrefix ++ Punycode.encode label) := by
  have hbeyond : isAscii label = false := by
    obtain ⟨c, rest, rfl⟩ := List.exists_cons_of_ne_nil hne
    rw [isAscii, List.all_cons, decide_eq_false (h c List.mem_cons_self).not_ascii, Bool.false_and]
  have hmap : map? label = some label := by
    rw [map?_beyond hbeyond fun c hc => (h c hc).settled,
      Unicode.compose_of_inert (fun c hc => (h c hc).simple)
      (fun c hc => (h c hc).class_zero) (fun c hc => (h c hc).inert)]
  -- The name is this one label.
  have hsplit : Text.splitAt (· == '.') label = [label] :=
    Text.splitAt_of_notMem fun hdot => (h '.' hdot).ne (by decide) rfl
  have hlabel := isLabel_ideographs h hlength
  have hascii : asciiLabel? label = some (acePrefix ++ Punycode.encode label) := by
    rw [asciiLabel?, hbeyond, if_neg Bool.false_ne_true, hlabel, Punycode.decode?_encode, beq_self_eq_true]
    rfl
  have hunicode : unicodeLabel? label = some label := by
    have hbegins : acePrefix.isPrefixOf label = false := by
      rw [← Bool.not_eq_true, List.isPrefixOf_iff_prefix]
      exact fun hbegins => (h 'x' (hbegins.subset List.mem_cons_self)).ne (by decide) rfl
    rw [unicodeLabel?, hbegins, hbeyond, hlabel]
    rfl
  have hturns : label.any turns = false :=
    List.any_eq_false.mpr fun c hc => Bool.eq_false_iff.mp (h c hc).not_turns
  rw [toAscii?, hmap]
  dsimp only
  rw [hsplit, mapM_cons_eq_some.mpr ⟨_, [], hascii, rfl, rfl⟩,
    mapM_cons_eq_some.mpr ⟨_, [], hunicode, rfl, rfl⟩]
  dsimp only
  rw [List.any_cons, hturns, List.any_nil, List.intercalate_singleton,
    encode_allowed label fun c hc => (h c hc).not_ascii]
  rfl

end

end Handoff.Url.Domain
