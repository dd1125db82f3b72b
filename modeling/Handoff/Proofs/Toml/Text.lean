import Handoff.Toml.Text
import Handoff.Toml.Writer

/-!
Strings of a TOML document read back. Whatever form a text is written in, reading it gives the text.
-/

namespace Handoff.Toml

theorem reverse_cons_append {α : Type} (x : α) (done xs : List α) :
    (x :: done).reverse ++ xs = done.reverse ++ x :: xs := by
  rw [List.reverse_cons, List.append_assoc, List.singleton_append]

/-- A control character is written with the digits of its code, which read back as it. -/
theorem charOfCode?_control {c : Char} (h : isControl c = true) :
    (Text.numeral? 16 ['0', '0', capitalDigit (c.toNat / 16), capitalDigit (c.toNat % 16)]).bind
      charOfCode? = some c := by
  have hlt : c.toNat < 128 := by
    simp only [isControl, Bool.or_eq_true, Bool.and_eq_true, decide_eq_true_eq, beq_iff_eq] at h
    rcases h with ⟨⟨hle, _⟩, _⟩ | rfl
    · have hle' : c.toNat ≤ 31 := hle
      omega
    · decide
  have hall : ∀ n < 128, isControl (Char.ofNat n) = true →
      (Text.numeral? 16 ['0', '0', capitalDigit (n / 16), capitalDigit (n % 16)]).bind charOfCode? =
        some (Char.ofNat n) := by
    decide +kernel
  have hc := hall c.toNat hlt
  rw [Char.ofNat_toNat] at hc
  exact hc h

theorem isPlain_of_not_control {c : Char} (h : isControl c = false) (hline : c ≠ '\n') :
    isPlain c = true := by
  simp only [isControl, Bool.or_eq_false_iff, Bool.and_eq_false_iff, decide_eq_false_iff_not,
    bne_eq_false_iff_eq, beq_eq_false_iff_ne] at h
  simp only [isPlain, Bool.or_eq_true, Bool.and_eq_true, beq_iff_eq, decide_eq_true_eq, bne_iff_ne]
  obtain ⟨(hgt | htab) | hnewline, hdelete⟩ := h
  · right
    refine ⟨?_, hdelete⟩
    have hgt' : ¬ c.toNat ≤ 31 := hgt
    change 32 ≤ c.toNat
    omega
  · exact Or.inl htab
  · exact absurd hnewline hline

/-- What a character of a basic string is written as, but for quotes: an escape that reads as it, or
itself. -/
theorem escapeChar_cases (multi : Bool) (c : Char) :
    (∃ escape, escapeChar multi c = '\\' :: escape ∧
      ∀ rest, escape? (escape ++ rest) = some (c, rest) ∧ hiddenLineEnd? (escape ++ rest) = none) ∨
    multi = true ∧ c = '\n' ∧ escapeChar multi c = [c] ∨
    c ≠ '\\' ∧ c ≠ '\n' ∧ c ≠ '\r' ∧ isPlain c = true ∧ escapeChar multi c = [c] := by
  by_cases hnamed : c = '\x08' ∨ c = '\t' ∨ c = '\x0c' ∨ c = '\r' ∨ c = '\\'
  · left
    rcases hnamed with rfl | rfl | rfl | rfl | rfl
    all_goals exact ⟨_, rfl, fun rest => ⟨rfl, rfl⟩⟩
  by_cases hline : c = '\n'
  · subst hline
    cases multi with
    | true => exact Or.inr (Or.inl ⟨rfl, rfl, rfl⟩)
    | false => exact Or.inl ⟨_, rfl, fun rest => ⟨rfl, rfl⟩⟩
  simp only [not_or] at hnamed
  obtain ⟨hback, htab, hfeed, hreturn, hslash⟩ := hnamed
  rw [escapeChar, if_neg hback, if_neg htab, if_neg hline, if_neg hfeed, if_neg hreturn, if_neg hslash]
  cases hcontrol : isControl c with
  | true =>
    refine Or.inl ⟨_, rfl, fun rest => ⟨?_, rfl⟩⟩
    simp only [List.cons_append, List.nil_append, escape?, charOfCode?_control hcontrol, Option.map_some]
  | false => exact Or.inr (Or.inr ⟨hslash, hline, hreturn, isPlain_of_not_control hcontrol hline, rfl⟩)

/-! One character of each kind of string. -/

section
variable {done rest : List Char} {c : Char}

theorem basicOnto_plain (hquote : c ≠ '"') (hslash : c ≠ '\\') (hplain : isPlain c = true) :
    basicOnto done (c :: rest) = basicOnto (c :: done) rest := by
  rw [basicOnto]
  · rw [if_pos hplain]
  · exact hquote
  · exact hslash

theorem basicOnto_escape {escape : List Char} (h : escape? escape = some (c, rest)) :
    basicOnto done ('\\' :: escape) = basicOnto (c :: done) rest := by
  rw [basicOnto]
  split
  · rename_i heq
    obtain ⟨rfl, rfl⟩ := Prod.mk.inj (Option.some.inj (heq.symm.trans h))
    rfl
  · rename_i heq
    cases heq.symm.trans h

theorem basicOnto_escapeChar (hquote : c ≠ '"') :
    basicOnto done (escapeChar false c ++ rest) = basicOnto (c :: done) rest := by
  rcases escapeChar_cases false c with ⟨escape, heq, hescape⟩ | ⟨hmulti, _⟩ | ⟨hslash, _, _, hplain, heq⟩
  · rw [heq]
    exact basicOnto_escape (hescape rest).1
  · cases hmulti
  · rw [heq]
    exact basicOnto_plain hquote hslash hplain

end

section
variable {multi : Bool} {run : Nat} {c : Char} {cs : List Char}

theorem basicBody_verbatim (hrun : run < 2) :
    basicBody true run ('"' :: cs) = '"' :: basicBody true (run + 1) cs := by
  rw [basicBody, if_pos rfl, if_pos rfl, if_pos hrun]

theorem basicBody_escaped (hrun : 2 ≤ run) :
    basicBody true run ('"' :: cs) = '\\' :: '"' :: basicBody true 0 cs := by
  rw [basicBody, if_pos rfl, if_pos rfl, if_neg (Nat.not_lt.mpr hrun)]

theorem basicBody_other (hquote : c ≠ '"') :
    basicBody multi run (c :: cs) = escapeChar multi c ++ basicBody multi 0 cs := by
  rw [basicBody, if_neg hquote]

end

/-- A text written on one line reads back. -/
theorem basicOnto_basicBody (done : List Char) (run : Nat) (cs rest : List Char) :
    basicOnto done (basicBody false run cs ++ '"' :: rest) = some (done.reverse ++ cs, rest) := by
  induction cs generalizing done run with
  | nil => rw [basicBody, List.nil_append, basicOnto, List.append_nil]
  | cons c cs ih =>
    rw [← reverse_cons_append, ← ih (c :: done) 0]
    by_cases hquote : c = '"'
    · subst hquote
      exact basicOnto_escape rfl
    · rw [basicBody_other hquote, List.append_assoc, basicOnto_escapeChar hquote]

theorem literalOnto_plain (done cs rest : List Char) (h : ∀ c ∈ cs, c ≠ '\x27' ∧ isPlain c = true) :
    literalOnto done (cs ++ '\x27' :: rest) = some (done.reverse ++ cs, rest) := by
  induction cs generalizing done with
  | nil => rw [List.nil_append, literalOnto, List.append_nil]
  | cons c cs ih =>
    obtain ⟨hquote, hplain⟩ := h c List.mem_cons_self
    rw [List.cons_append, literalOnto]
    · rw [if_pos hplain, ih _ fun d hd => h d (List.mem_cons_of_mem c hd), reverse_cons_append]
    · exact hquote

/-! Quotes within a string over several lines. -/

/-- A text starts with at most two quotes, those among the `run` before it counted. -/
inductive FewLeading (quote : Char) : Nat → List Char → Prop
  | nil {run : Nat} : run ≤ 2 → FewLeading quote run []
  | quote {run : Nat} {cs : List Char} : FewLeading quote (run + 1) cs → FewLeading quote run (quote :: cs)
  | other {run : Nat} {c : Char} {cs : List Char} : run ≤ 2 → c ≠ quote → FewLeading quote run (c :: cs)

section
variable {quote : Char} {run : Nat} {cs rest : List Char}

theorem FewLeading.cases (h : FewLeading quote run cs) :
    (∃ k, run + k ≤ 2 ∧ cs = List.replicate k quote) ∨
    ∃ k d more, run + k ≤ 2 ∧ d ≠ quote ∧ cs = List.replicate k quote ++ d :: more := by
  induction h with
  | nil hrun => exact Or.inl ⟨0, hrun, rfl⟩
  | quote _ ih =>
    rcases ih with ⟨k, hk, rfl⟩ | ⟨k, d, more, hk, hd, rfl⟩
    · exact Or.inl ⟨k + 1, by omega, rfl⟩
    · exact Or.inr ⟨k + 1, d, more, by omega, hd, rfl⟩
  | @other _ c cs hrun hc => exact Or.inr ⟨0, c, cs, hrun, hc, rfl⟩

theorem closing?_quotes {k : Nat} (hk : k ≤ 2) (hrest : rest.head? ≠ some quote) :
    closing? quote (List.replicate k quote ++ quote :: quote :: quote :: rest) =
      some (List.replicate k quote, rest) := by
  have htake (n : Nat) : (rest.take n).takeWhile (· == quote) = [] := by
    cases rest with
    | nil => rw [List.take_nil, List.takeWhile_nil]
    | cons c rest =>
      have hc : (c == quote) = false := beq_eq_false_iff_ne.mpr fun h => hrest (congrArg some h)
      cases n with
      | zero => rfl
      | succ n => rw [List.take_succ_cons, List.takeWhile_cons, hc, if_neg Bool.false_ne_true]
  obtain rfl | rfl | rfl : k = 0 ∨ k = 1 ∨ k = 2 := by omega
  all_goals simp [closing?, List.replicate, htake]

theorem closing?_few {k : Nat} (hk : k ≤ 2) {c : Char} (hc : c ≠ quote) :
    closing? quote (List.replicate k quote ++ c :: rest) = none := by
  obtain rfl | rfl | rfl : k = 0 ∨ k = 1 ∨ k = 2 := by omega
  all_goals simp [closing?, List.replicate, hc]

/-- Three quotes close a string behind a text that starts with few quotes, if it is nothing but these. -/
theorem FewLeading.closing? (h : FewLeading quote run cs) (hrest : rest.head? ≠ some quote) :
    (∃ k, cs = List.replicate k quote ∧
      closing? quote (cs ++ quote :: quote :: quote :: rest) = some (cs, rest)) ∨
    closing? quote (cs ++ quote :: quote :: quote :: rest) = none ∧ cs ≠ [] := by
  rcases h.cases with ⟨k, hk, rfl⟩ | ⟨k, d, more, hk, hd, rfl⟩
  · exact Or.inl ⟨k, rfl, closing?_quotes (by omega) hrest⟩
  · refine Or.inr ⟨?_, by simp⟩
    rw [List.append_assoc]
    exact closing?_few (by omega) hd

theorem le_longestRun (run longest : Nat) (cs : List Char) : longest ≤ longestRun quote run longest cs := by
  induction cs generalizing run longest with
  | nil => exact Nat.le_refl _
  | cons c cs ih =>
    rw [longestRun]
    split
    · exact Nat.le_trans (Nat.le_max_left _ _) (ih _ _)
    · exact ih _ _

theorem fewLeading_of_longestRun {longest : Nat} (hrun : run ≤ longest)
    (h : longestRun quote run longest cs ≤ 2) : FewLeading quote run cs := by
  have hle := Nat.le_trans (Nat.le_trans hrun (le_longestRun run longest cs)) h
  induction cs generalizing run longest with
  | nil => exact .nil hle
  | cons c cs ih =>
    rw [longestRun] at h
    split at h
    · rename_i hc
      subst hc
      have hnext : run + 1 ≤ max longest (run + 1) := Nat.le_max_right _ _
      exact .quote (ih hnext h (Nat.le_trans (Nat.le_trans hnext (le_longestRun _ _ _)) h))
    · rename_i hc
      exact .other hle hc

theorem reverse_quotes_append (k : Nat) (done : List Char) :
    (List.replicate k quote ++ done).reverse = done.reverse ++ List.replicate k quote := by
  rw [List.reverse_append, List.reverse_replicate]

end

theorem lineEnd?_none {c : Char} (hline : c ≠ '\n') (hreturn : c ≠ '\r') (rest : List Char) :
    lineEnd? (c :: rest) = none := by
  unfold lineEnd?
  split
  · rename_i h
    exact absurd (List.cons.inj h).1 hline
  · rename_i h
    exact absurd (List.cons.inj h).1 hreturn
  · rfl

/-- A character that stands for itself in a string over several lines. -/
def IsVerbatim (c : Char) : Prop := c = '\n' ∨ c ≠ '\r' ∧ isPlain c = true

/-- Read as a line end or as itself, a character that stands for itself is what is read. -/
theorem lineEnd?_verbatim {α : Type} {c : Char} (hc : IsVerbatim c) (rest : List Char)
    (next : Char → List Char → Option α) :
    (match _h : lineEnd? (c :: rest) with
      | some behind => next '\n' behind
      | none => if isPlain c then next c rest else none) = next c rest := by
  by_cases hline : c = '\n'
  · subst hline
    rfl
  · obtain ⟨hreturn, hplain⟩ := hc.resolve_left hline
    have hend := lineEnd?_none hline hreturn rest
    split
    · rename_i heq
      cases heq.symm.trans hend
    · exact if_pos hplain

theorem multiLiteralOnto_verbatim {done rest : List Char} {c : Char} (hc : IsVerbatim c)
    (hclosing : closing? '\x27' (c :: rest) = none) :
    multiLiteralOnto done (c :: rest) = multiLiteralOnto (c :: done) rest := by
  rw [multiLiteralOnto.eq_def, hclosing]
  exact lineEnd?_verbatim hc rest fun c rest => multiLiteralOnto (c :: done) rest

theorem multiLiteralOnto_closing {done quotes cs rest : List Char}
    (h : closing? '\x27' cs = some (quotes, rest)) :
    multiLiteralOnto done cs = some ((quotes ++ done).reverse, rest) := by
  rw [multiLiteralOnto.eq_def, h]

/-- A literal text of several lines with few quotes reads back. -/
theorem multiLiteralOnto_few {run longest : Nat} {cs rest : List Char} (done : List Char)
    (hrun : run ≤ longest) (hfew : longestRun '\x27' run longest cs ≤ 2) (hcs : ∀ c ∈ cs, IsVerbatim c)
    (hrest : rest.head? ≠ some '\x27') :
    multiLiteralOnto done (cs ++ '\x27' :: '\x27' :: '\x27' :: rest) = some (done.reverse ++ cs, rest) := by
  induction cs generalizing done run longest with
  | nil =>
    rcases (fewLeading_of_longestRun hrun hfew).closing? hrest with ⟨k, _, hclosing⟩ | ⟨_, hne⟩
    · rw [multiLiteralOnto_closing hclosing, List.nil_append, List.append_nil]
    · exact absurd rfl hne
  | cons c cs ih =>
    rcases (fewLeading_of_longestRun hrun hfew).closing? hrest with ⟨k, hquotes, hclosing⟩ | ⟨hclosing, _⟩
    · rw [multiLiteralOnto_closing hclosing, hquotes, reverse_quotes_append]
    · have hnext : ∃ run longest, run ≤ longest ∧ longestRun '\x27' run longest cs ≤ 2 := by
        rw [longestRun] at hfew
        split at hfew
        · exact ⟨_, _, Nat.le_max_right _ _, hfew⟩
        · exact ⟨_, _, Nat.zero_le _, hfew⟩
      obtain ⟨_, _, hrun, hfew⟩ := hnext
      rw [List.cons_append] at hclosing ⊢
      rw [multiLiteralOnto_verbatim (hcs c List.mem_cons_self) hclosing,
        ih _ hrun hfew fun d hd => hcs d (List.mem_cons_of_mem c hd), reverse_cons_append]

section
variable {done quotes cs rest : List Char} {c : Char}

theorem multiBasicOnto_closing (h : closing? '"' cs = some (quotes, rest)) :
    multiBasicOnto done cs = some ((quotes ++ done).reverse, rest) := by
  rw [multiBasicOnto.eq_def, h]

theorem multiBasicOnto_verbatim (hslash : c ≠ '\\') (hc : IsVerbatim c)
    (hclosing : closing? '"' (c :: rest) = none) :
    multiBasicOnto done (c :: rest) = multiBasicOnto (c :: done) rest := by
  rw [multiBasicOnto.eq_def, hclosing]
  simp only
  exact lineEnd?_verbatim hc rest fun c rest => multiBasicOnto (c :: done) rest

theorem multiBasicOnto_escape {escape : List Char} (h : escape? escape = some (c, rest))
    (hhidden : hiddenLineEnd? escape = none) :
    multiBasicOnto done ('\\' :: escape) = multiBasicOnto (c :: done) rest := by
  have hclosing : closing? '"' ('\\' :: escape) = none := closing?_few (Nat.zero_le 2) (by decide)
  rw [multiBasicOnto.eq_def, hclosing]
  simp only
  split
  · rename_i heq
    cases heq.symm.trans hhidden
  · split
    · rename_i heq
      obtain ⟨rfl, rfl⟩ := Prod.mk.inj (Option.some.inj (heq.symm.trans h))
      rfl
    · rename_i heq
      cases heq.symm.trans h

end

theorem escapeChar_head {multi : Bool} {c : Char} (hc : c ≠ '"') :
    ∃ d more, d ≠ '"' ∧ escapeChar multi c = d :: more := by
  rcases escapeChar_cases multi c with ⟨escape, heq, _⟩ | ⟨_, _, heq⟩ | ⟨_, _, _, _, heq⟩
  · exact ⟨_, escape, by decide, heq⟩
  · exact ⟨c, [], hc, heq⟩
  · exact ⟨c, [], hc, heq⟩

theorem fewLeading_basicBody {run : Nat} (hrun : run ≤ 2) (cs : List Char) :
    FewLeading '"' run (basicBody true run cs) := by
  induction cs generalizing run with
  | nil => exact .nil hrun
  | cons c cs ih =>
    by_cases hquote : c = '"'
    · subst hquote
      by_cases hlt : run < 2
      · rw [basicBody_verbatim hlt]
        exact .quote (ih hlt)
      · rw [basicBody_escaped (Nat.le_of_not_lt hlt)]
        exact .other hrun (by decide)
    · obtain ⟨d, more, hd, heq⟩ := escapeChar_head hquote
      rw [basicBody_other hquote, heq]
      exact .other hrun hd

/-- Only quotes are written as nothing but quotes. -/
theorem eq_quotes_of_basicBody {run k : Nat} {cs : List Char}
    (h : basicBody true run cs = List.replicate k '"') : cs = List.replicate k '"' := by
  have hfirst {d : Char} {more : List Char} (heq : d :: more = List.replicate k '"') : d = '"' :=
    List.eq_of_mem_replicate (heq ▸ List.mem_cons_self)
  induction cs generalizing run k with
  | nil => exact h
  | cons c cs ih =>
    by_cases hquote : c = '"'
    · subst hquote
      by_cases hlt : run < 2
      · rw [basicBody_verbatim hlt] at h
        cases k with
        | zero => cases h
        | succ k =>
          have htail := List.tail_eq_of_cons_eq h
          rw [ih htail fun heq => List.eq_of_mem_replicate (heq ▸ List.mem_cons_self), List.replicate_succ]
      · rw [basicBody_escaped (Nat.le_of_not_lt hlt)] at h
        exact absurd (hfirst h) (by decide)
    · obtain ⟨d, more, hd, heq⟩ := escapeChar_head hquote
      rw [basicBody_other hquote, heq] at h
      exact absurd (hfirst h) hd

/-- A text written over several lines reads back. -/
theorem multiBasicOnto_basicBody (done : List Char) {run : Nat} (hrun : run ≤ 2) (cs : List Char)
    {rest : List Char} (hrest : rest.head? ≠ some '"') :
    multiBasicOnto done (basicBody true run cs ++ '"' :: '"' :: '"' :: rest) =
      some (done.reverse ++ cs, rest) := by
  induction cs generalizing done run with
  | nil =>
    rcases (fewLeading_basicBody hrun []).closing? hrest with ⟨k, _, hclosing⟩ | ⟨_, hne⟩
    · rw [multiBasicOnto_closing hclosing, basicBody, List.nil_append, List.append_nil]
    · exact absurd rfl hne
  | cons c cs ih =>
    rcases (fewLeading_basicBody hrun (c :: cs)).closing? hrest with ⟨k, hquotes, hclosing⟩ | ⟨hclosing, _⟩
    · rw [multiBasicOnto_closing hclosing, hquotes, eq_quotes_of_basicBody hquotes, reverse_quotes_append]
    · rw [← reverse_cons_append]
      by_cases hquote : c = '"'
      · subst hquote
        by_cases hlt : run < 2
        · rw [basicBody_verbatim hlt] at hclosing ⊢
          rw [← ih ('"' :: done) hlt]
          exact multiBasicOnto_verbatim (by decide) (by right; decide) hclosing
        · rw [basicBody_escaped (Nat.le_of_not_lt hlt), ← ih ('"' :: done) (Nat.zero_le 2)]
          exact multiBasicOnto_escape rfl rfl
      · rw [basicBody_other hquote, List.append_assoc] at hclosing ⊢
        rw [← ih (c :: done) (Nat.zero_le 2)]
        rcases escapeChar_cases true c with ⟨escape, heq, hescape⟩ | ⟨_, hline, heq⟩ |
          ⟨hslash, _, hreturn, hplain, heq⟩
        · rw [heq]
          exact multiBasicOnto_escape (hescape _).1 (hescape _).2
        · rw [heq] at hclosing ⊢
          exact multiBasicOnto_verbatim (by rw [hline]; decide) (Or.inl hline) hclosing
        · rw [heq] at hclosing ⊢
          exact multiBasicOnto_verbatim hslash (Or.inr ⟨hreturn, hplain⟩) hclosing

/-! The forms that a text is written in. -/

theorem isVerbatim_of_not_control {c : Char} (h : isControl c = false) : IsVerbatim c := by
  by_cases hline : c = '\n'
  · exact Or.inl hline
  · refine Or.inr ⟨?_, isPlain_of_not_control h hline⟩
    rintro rfl
    exact absurd h (by decide)

theorem notMem_of_longestRun {quote : Char} {run longest : Nat} {cs : List Char}
    (h : longestRun quote run longest cs = 0) : quote ∉ cs := by
  induction cs generalizing run longest with
  | nil => exact List.not_mem_nil
  | cons c cs ih =>
    rw [longestRun] at h
    split at h
    · have hle : max longest (run + 1) ≤ longestRun quote (run + 1) (max longest (run + 1)) cs :=
        le_longestRun _ _ _
      have hmax := Nat.le_max_right longest (run + 1)
      omega
    · rename_i hc
      intro hmem
      rcases List.mem_cons.mp hmem with rfl | hmem
      · exact hc rfl
      · exact ih h hmem

theorem of_eq_literal {cs : List Char} (h : StringForm.of cs = .literal) :
    (∀ c ∈ cs, isControl c = false) ∧ '\x27' ∉ cs ∧ '\n' ∉ cs := by
  unfold StringForm.of at h
  extract_lets control escape newline doubles singles at h
  split at h
  · cases h
  split at h
  · rename_i hform
    simp only [Bool.and_eq_true, Bool.not_eq_true', beq_iff_eq] at hform
    obtain ⟨⟨hcontrol, hsingles⟩, hnewline⟩ := hform
    refine ⟨fun c hc => ?_, notMem_of_longestRun hsingles, by simpa [newline] using hnewline⟩
    exact Bool.eq_false_iff.mpr (List.any_eq_false.mp hcontrol c hc)
  repeat' split at h
  all_goals cases h

theorem of_eq_multiLiteral {cs : List Char} (h : StringForm.of cs = .multiLiteral) :
    (∀ c ∈ cs, isControl c = false) ∧ longestRun '\x27' 0 0 cs ≤ 2 := by
  unfold StringForm.of at h
  extract_lets control escape newline doubles singles at h
  split at h
  · cases h
  split at h
  · cases h
  split at h
  · cases h
  split at h
  · rename_i hform
    simp only [Bool.and_eq_true, Bool.not_eq_true', decide_eq_true_eq] at hform
    refine ⟨fun c hc => ?_, hform.2⟩
    exact Bool.eq_false_iff.mpr (List.any_eq_false.mp hform.1 c hc)
  · split at h
    · cases h
    · cases h

theorem dropLineEnd_leading {cs text : List Char}
    (h : '\n' ∉ cs → ∃ c rest, text = c :: rest ∧ c ≠ '\n' ∧ c ≠ '\r') :
    dropLineEnd (leadingLineEnd cs ++ text) = text := by
  unfold leadingLineEnd
  split
  · rfl
  · rename_i hline
    obtain ⟨c, rest, rfl, hc, hreturn⟩ := h (by simpa using hline)
    rw [List.nil_append, dropLineEnd, lineEnd?_none hc hreturn]
    rfl

section
variable {cs rest : List Char}

theorem string?_basic (h : cs.take 2 ≠ ['"', '"']) : string? ('"' :: cs) = basicOnto [] cs := by
  unfold string?
  split
  · rename_i heq
    obtain rfl := (List.cons.inj heq).2
    exact absurd rfl h
  · rename_i heq
    cases (List.cons.inj heq).1
  · rename_i heq
    rw [(List.cons.inj heq).2]
  · rename_i heq
    cases (List.cons.inj heq).1
  · rename_i heq _
    exact absurd rfl (heq cs)

theorem string?_literal (h : cs.take 2 ≠ ['\x27', '\x27']) :
    string? ('\x27' :: cs) = literalOnto [] cs := by
  unfold string?
  split
  · rename_i heq
    cases (List.cons.inj heq).1
  · rename_i heq
    obtain rfl := (List.cons.inj heq).2
    exact absurd rfl h
  · rename_i heq
    cases (List.cons.inj heq).1
  · rename_i heq
    rw [(List.cons.inj heq).2]
  · rename_i heq
    exact absurd rfl (heq cs)

/-- One quote behind a text is not taken for two more that open a string over several lines. -/
theorem take_two_ne {quote : Char} (hcs : cs.head? ≠ some quote) (hrest : rest.head? ≠ some quote) :
    (cs ++ quote :: rest).take 2 ≠ [quote, quote] := by
  intro h
  cases cs with
  | nil =>
    cases rest with
    | nil => cases h
    | cons c rest => exact hrest (congrArg some (List.cons.inj (List.cons.inj h).2).1)
  | cons c cs => exact hcs (congrArg some (List.cons.inj h).1)

theorem basicBody_head (run : Nat) (cs : List Char) : (basicBody false run cs).head? ≠ some '"' := by
  cases cs with
  | nil => nofun
  | cons c cs =>
    by_cases hquote : c = '"'
    · subst hquote
      exact fun h => absurd (Option.some.inj h) (by decide)
    · obtain ⟨d, more, hd, heq⟩ := escapeChar_head hquote
      rw [basicBody_other hquote, heq]
      exact fun h => hd (Option.some.inj h)

/-- Without line ends in a text, none stands behind the opening quotes. -/
theorem basicBody_starts {multi : Bool} {run : Nat} (hline : '\n' ∉ cs) :
    ∃ c more, basicBody multi run cs ++ '"' :: rest = c :: more ∧ c ≠ '\n' ∧ c ≠ '\r' := by
  cases cs with
  | nil => exact ⟨'"', rest, rfl, by decide, by decide⟩
  | cons c cs =>
    have hc : c ≠ '\n' := fun h => hline (h ▸ List.mem_cons_self)
    by_cases hquote : c = '"'
    · subst hquote
      by_cases hrun : run < (if multi then 2 else 0)
      · rw [basicBody, if_pos rfl, if_pos hrun]
        exact ⟨'"', _, rfl, by decide, by decide⟩
      · rw [basicBody, if_pos rfl, if_neg hrun]
        exact ⟨'\\', _, rfl, by decide, by decide⟩
    · rw [basicBody_other hquote]
      rcases escapeChar_cases multi c with ⟨escape, heq, _⟩ | ⟨_, h, _⟩ | ⟨_, _, hreturn, _, heq⟩
      · rw [heq]
        exact ⟨'\\', _, rfl, by decide, by decide⟩
      · exact absurd h hc
      · rw [heq]
        exact ⟨c, _, rfl, hc, hreturn⟩

end

/-- A text that is written as a string reads back, if no quote follows. -/
theorem string?_stringText (cs : List Char) {rest : List Char} (hdouble : rest.head? ≠ some '"')
    (hsingle : rest.head? ≠ some '\x27') : string? (stringText cs ++ rest) = some (cs, rest) := by
  unfold stringText
  cases hform : StringForm.of cs with
  | basic =>
    simp only [List.cons_append, List.append_assoc, List.nil_append]
    rw [string?_basic (take_two_ne (basicBody_head 0 cs) hdouble), basicOnto_basicBody]
    rfl
  | literal =>
    obtain ⟨hcontrol, hquote, hline⟩ := of_eq_literal hform
    have hplain : ∀ c ∈ cs, c ≠ '\x27' ∧ isPlain c = true := fun c hc =>
      ⟨fun h => hquote (h ▸ hc), isPlain_of_not_control (hcontrol c hc) fun h => hline (h ▸ hc)⟩
    have hhead : cs.head? ≠ some '\x27' := fun h => hquote (List.mem_of_mem_head? h)
    simp only [List.cons_append, List.append_assoc, List.nil_append]
    rw [string?_literal (take_two_ne hhead hsingle), literalOnto_plain [] cs rest hplain]
    rfl
  | multiBasic =>
    simp only [List.cons_append, List.append_assoc, List.nil_append]
    rw [string?, dropLineEnd_leading basicBody_starts, multiBasicOnto_basicBody [] (Nat.zero_le 2) cs hdouble]
    rfl
  | multiLiteral =>
    obtain ⟨hcontrol, hfew⟩ := of_eq_multiLiteral hform
    have hverbatim : ∀ c ∈ cs, IsVerbatim c := fun c hc => isVerbatim_of_not_control (hcontrol c hc)
    have hstarts : '\n' ∉ cs → ∃ c more, cs ++ '\x27' :: '\x27' :: '\x27' :: rest = c :: more ∧
        c ≠ '\n' ∧ c ≠ '\r' := by
      intro hline
      cases cs with
      | nil => exact ⟨_, _, rfl, by decide, by decide⟩
      | cons c cs =>
        have hc : c ≠ '\n' := fun h => hline (h ▸ List.mem_cons_self)
        exact ⟨c, _, rfl, hc, ((hverbatim c List.mem_cons_self).resolve_left hc).1⟩
    simp only [List.cons_append, List.append_assoc, List.nil_append]
    rw [string?, dropLineEnd_leading hstarts, multiLiteralOnto_few [] (Nat.le_refl 0) hfew hverbatim hsingle]
    rfl

end Handoff.Toml
