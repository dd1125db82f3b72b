import Handoff.Proofs.Toml.Number
import Mathlib.Data.List.Forall2

/-!
The statements of a written document. Each of its lines reads as the one statement it was written for,
whatever follows the line.
-/

namespace Handoff.Toml

/-- A name that stands in a document without quotes. -/
structure IsBareName (name : List Char) : Prop where
  nonempty : name ≠ []
  bare : ∀ c ∈ name, isBare c = true

instance (name : List Char) : Decidable (IsBareName name) :=
  decidable_of_iff (name ≠ [] ∧ name.all isBare = true)
    ⟨fun h => ⟨h.1, List.all_eq_true.mp h.2⟩, fun h => ⟨h.nonempty, List.all_eq_true.mpr h.bare⟩⟩

/-- The value that a setting is read as. -/
def Setting.scalar : Setting → Scalar
  | text cs => .text cs
  | integer n => .integer n
  | boolean b => .boolean b

/-- A document can hold the setting. -/
def Setting.Fits : Setting → Prop
  | integer n => n < Nat.pow 2 63
  | _ => True

theorem IsBareName.starts {name : List Char} (h : IsBareName name) :
    ∃ c cs, name = c :: cs ∧ isBare c = true := by
  cases name with
  | nil => exact absurd rfl h.nonempty
  | cons c cs => exact ⟨c, cs, rfl, h.bare c List.mem_cons_self⟩

theorem ne_of_isBare {c d : Char} (hc : isBare c = true) (hd : isBare d = false) : c ≠ d := by
  rintro rfl
  rw [hc] at hd
  cases hd

theorem skipSpace_cons {c : Char} (hspace : c ≠ ' ') (htab : c ≠ '\t') (cs : List Char) :
    skipSpace (c :: cs) = c :: cs := by
  have hc : (c == ' ' || c == '\t') = false := by simp [hspace, htab]
  rw [skipSpace, List.dropWhile_cons, hc, if_neg Bool.false_ne_true]

section
variable {name : List Char} (h : IsBareName name)
include h

theorem skipSpace_name (rest : List Char) : skipSpace (name ++ rest) = name ++ rest := by
  obtain ⟨c, cs, rfl, hc⟩ := h.starts
  exact skipSpace_cons (ne_of_isBare hc (by decide)) (ne_of_isBare hc (by decide)) _

theorem keyPart?_name {c : Char} (hc : isBare c = false) (rest : List Char) :
    keyPart? (name ++ c :: rest) = some (⟨name, ⟨name ++ c :: rest, c :: rest⟩⟩, c :: rest) := by
  have htake : (name ++ c :: rest).takeWhile isBare = name := by
    rw [List.takeWhile_append_of_pos h.bare, List.takeWhile_cons, hc, if_neg Bool.false_ne_true,
      List.append_nil]
  have hdrop : (name ++ c :: rest).dropWhile isBare = c :: rest := by
    rw [List.dropWhile_append_of_pos h.bare, List.dropWhile_cons, hc, if_neg Bool.false_ne_true]
  obtain ⟨d, ds, hname, hd⟩ := h.starts
  unfold keyPart?
  split
  · rename_i heq
    rw [hname] at heq
    exact absurd (List.cons.inj heq).1 (ne_of_isBare hd (by decide))
  · rename_i heq
    rw [hname] at heq
    exact absurd (List.cons.inj heq).1 (ne_of_isBare hd (by decide))
  · rw [htake, hdrop]
    split
    · exact absurd rfl h.nonempty
    · rfl

/-- A name reads as a key of one part. -/
theorem key?_name {c : Char} {rest behind : List Char} (hc : isBare c = false)
    (hspace : skipSpace (c :: rest) = behind) (hdot : behind.head? ≠ some '.') :
    key? (name ++ c :: rest) = some (([], ⟨name, ⟨name ++ c :: rest, c :: rest⟩⟩), behind) := by
  have hparts : keyPartsOnto [] (78 + 1) (name ++ c :: rest) =
      some ([⟨name, ⟨name ++ c :: rest, c :: rest⟩⟩], behind) := by
    rw [keyPartsOnto, skipSpace_name h, keyPart?_name h hc, Option.bind_some]
    simp only [hspace]
    split
    · rename_i heq
      exact absurd rfl hdot
    · rfl
  rw [key?, keyLimit, hparts]
  rfl

end

section
variable {name : List Char} (h : IsBareName name) (rest : List Char)
include h

/-- The line of a header reads as the header. -/
theorem statement?_header :
    ∃ keySpan span, statement? ('[' :: name ++ ']' :: '\n' :: rest) =
      some (.header [] ⟨name, keySpan⟩ span, '\n' :: rest) := by
  have hkey := key?_name h (by decide : isBare ']' = false)
    (skipSpace_cons (by decide) (by decide) ('\n' :: rest)) (by simp)
  obtain ⟨c, cs, hname, hc⟩ := h.starts
  rw [List.cons_append]
  unfold statement?
  split
  · rename_i heq
    rw [hname] at heq
    exact absurd (List.cons.inj (List.cons.inj heq).2).1 (ne_of_isBare hc (by decide))
  · rename_i heq
    rw [← (List.cons.inj heq).2, headerKey?, hkey]
    exact ⟨_, _, rfl⟩
  · rename_i heq
    exact absurd rfl (heq _)

/-- The line of a setting reads as a statement that assigns its value. -/
theorem statement?_assign {value : List Char} {item : Item} (hvalue : skipSpace (' ' :: value) = value)
    (hitem : item? nestingLimit value = some (item, '\n' :: rest)) :
    ∃ keySpan, statement? (name ++ ' ' :: '=' :: ' ' :: value) =
      some (.assign [] ⟨name, keySpan⟩ item, '\n' :: rest) := by
  have hequals : skipSpace (' ' :: '=' :: ' ' :: value) = '=' :: ' ' :: value := rfl
  have hkey := key?_name h (by decide : isBare ' ' = false) hequals (by simp)
  obtain ⟨c, cs, hname, hc⟩ := h.starts
  have hhead : ∀ more, name ++ ' ' :: '=' :: ' ' :: value ≠ '[' :: more := by
    intro more heq
    rw [hname] at heq
    exact absurd (List.cons.inj heq).1 (ne_of_isBare hc (by decide))
  unfold statement?
  split
  · rename_i heq
    exact absurd heq (hhead _)
  · rename_i heq
    exact absurd heq (hhead _)
  · rw [pair?, hkey, Option.bind_some]
    simp only [hvalue, hitem]
    exact ⟨_, rfl⟩

end

/-! Values. -/

theorem item?_of_scalar {c : Char} {cs rest : List Char} {x : Scalar}
    (h : scalar? (c :: cs) = some (x, rest)) (hbracket : c ≠ '[') (hbrace : c ≠ '\x7b') :
    item? nestingLimit (c :: cs) = some (.scalar x ⟨c :: cs, rest⟩, rest) := by
  change itemWith (some (item? 78)) (c :: cs) = _
  unfold itemWith
  split
  · rename_i heq _
    exact absurd (List.cons.inj heq).1 hbracket
  · rename_i heq _
    exact absurd (List.cons.inj heq).1 hbrace
  · rename_i heq _
    exact absurd (List.cons.inj heq).1 hbracket
  · rename_i heq _
    exact absurd (List.cons.inj heq).1 hbrace
  · rw [h]
    rfl

theorem stringText_starts (cs : List Char) :
    ∃ c more, stringText cs = c :: more ∧ (c = '"' ∨ c = '\x27') := by
  unfold stringText
  split
  · exact ⟨_, _, rfl, Or.inl rfl⟩
  · exact ⟨_, _, rfl, Or.inr rfl⟩
  · exact ⟨_, _, rfl, Or.inl rfl⟩
  · exact ⟨_, _, rfl, Or.inr rfl⟩

theorem scalar?_text (cs rest : List Char) :
    scalar? (stringText cs ++ '\n' :: rest) = some (.text cs, '\n' :: rest) := by
  have hstring : string? (stringText cs ++ '\n' :: rest) = some (cs, '\n' :: rest) :=
    string?_stringText cs (by simp) (by simp)
  obtain ⟨c, more, heq, hc⟩ := stringText_starts cs
  rw [heq, List.cons_append] at hstring ⊢
  rw [scalar?, if_pos hc, hstring]
  rfl

theorem scalar?_integer {n : Nat} (hn : n < Nat.pow 2 63) (rest : List Char) :
    scalar? (Text.decimal n ++ '\n' :: rest) = some (.integer n, '\n' :: rest) := by
  have hnumber := number?_decimal hn rest
  obtain ⟨c, more, heq, hc⟩ := decimal_starts n
  rw [heq, List.cons_append] at hnumber ⊢
  have hquote : ¬ (c = '"' ∨ c = '\x27') := by
    rintro (rfl | rfl)
    · exact absurd hc (by decide)
    · exact absurd hc (by decide)
  rw [scalar?, if_neg hquote, if_neg (ne_of_isDigit hc (by decide)), if_neg (ne_of_isDigit hc (by decide)),
    hnumber]

theorem scalar?_boolean (b : Bool) (rest : List Char) :
    scalar? ((if b then "true".toList else "false".toList) ++ '\n' :: rest) =
      some (.boolean b, '\n' :: rest) := by
  cases b with
  | true => simp [scalar?, word?]
  | false => simp [scalar?, word?]

theorem scalar?_written {value : Setting} (hfits : value.Fits) (rest : List Char) :
    scalar? (value.written ++ '\n' :: rest) = some (value.scalar, '\n' :: rest) := by
  cases value with
  | text cs => exact scalar?_text cs rest
  | integer n => exact scalar?_integer hfits rest
  | boolean b => exact scalar?_boolean b rest

/-- The first character of a written value is neither blank nor a bracket. -/
theorem written_starts (value : Setting) : ∃ c more, value.written = c :: more ∧
    c ≠ ' ' ∧ c ≠ '\t' ∧ c ≠ '[' ∧ c ≠ '\x7b' := by
  cases value with
  | text cs =>
    obtain ⟨c, more, heq, hc⟩ := stringText_starts cs
    refine ⟨c, more, heq, ?_⟩
    rcases hc with rfl | rfl <;> decide
  | integer n =>
    obtain ⟨c, more, heq, hc⟩ := decimal_starts n
    exact ⟨c, more, heq, ne_of_isDigit hc (by decide), ne_of_isDigit hc (by decide),
      ne_of_isDigit hc (by decide), ne_of_isDigit hc (by decide)⟩
  | boolean b =>
    cases b with
    | true => exact ⟨'t', "rue".toList, rfl, by decide⟩
    | false => exact ⟨'f', "alse".toList, rfl, by decide⟩

/-- A written value reads as a scalar. -/
theorem item?_written {value : Setting} (hfits : value.Fits) (rest : List Char) :
    ∃ span, item? nestingLimit (value.written ++ '\n' :: rest) =
      some (.scalar value.scalar span, '\n' :: rest) := by
  have hscalar := scalar?_written hfits rest
  obtain ⟨c, more, heq, _, _, hbracket, hbrace⟩ := written_starts value
  rw [heq, List.cons_append] at hscalar ⊢
  exact ⟨_, item?_of_scalar hscalar hbracket hbrace⟩

/-! Lines. -/

/-- The statement gives a name its value. -/
def Assigns (setting : List Char × Setting) (statement : Statement) : Prop :=
  ∃ keySpan span, statement = .assign [] ⟨setting.1, keySpan⟩ (.scalar setting.2.scalar span)

/-- The statement opens a table with a name. -/
def Opens (name : List Char) (statement : Statement) : Prop :=
  ∃ keySpan span, statement = .header [] ⟨name, keySpan⟩ span

theorem skipBlank_cons {c : Char} (hblank : c ≠ ' ' ∧ c ≠ '\t') (hline : c ≠ '\n' ∧ c ≠ '\r')
    (hcomment : c ≠ '#') (cs : List Char) : skipBlank (c :: cs) = c :: cs := by
  rw [skipBlank, skipBlankFrom, if_neg hline.1, if_neg fun h => hline.2 h.1, if_neg Bool.false_ne_true,
    if_neg (by simp [hblank]), if_neg hcomment]

/-- A line is read as its statement, and what follows it is read next. -/
theorem statementsOnto_line (done : List Statement) (fuel : Nat) {c : Char} {cs rest : List Char}
    {statement : Statement} (hblank : skipBlank (c :: cs) = c :: cs)
    (h : statement? (c :: cs) = some (statement, '\n' :: rest)) :
    statementsOnto done (fuel + 1) (c :: cs) = statementsOnto (statement :: done) fuel rest := by
  rw [statementsOnto, hblank]
  simp only [h, Option.bind_some]
  rfl

/-- What is blank before a statement does not matter. -/
theorem statementsOnto_congr {cs ds : List Char} (h : skipBlank cs = skipBlank ds) (done : List Statement)
    (fuel : Nat) : statementsOnto done fuel cs = statementsOnto done fuel ds := by
  cases fuel with
  | zero => rfl
  | succ fuel => rw [statementsOnto, statementsOnto, h]

theorem skipBlank_name {name : List Char} (h : IsBareName name) (rest : List Char) :
    skipBlank (name ++ rest) = name ++ rest := by
  obtain ⟨c, cs, rfl, hc⟩ := h.starts
  exact skipBlank_cons ⟨ne_of_isBare hc (by decide), ne_of_isBare hc (by decide)⟩
    ⟨ne_of_isBare hc (by decide), ne_of_isBare hc (by decide)⟩ (ne_of_isBare hc (by decide)) _

theorem statementsOnto_setting {setting : List Char × Setting} (hname : IsBareName setting.1)
    (hfits : setting.2.Fits) (rest : List Char) :
    ∃ statement, Assigns setting statement ∧ ∀ done fuel,
      statementsOnto done (fuel + 1) (settingLine setting ++ rest) =
        statementsOnto (statement :: done) fuel rest := by
  obtain ⟨span, hitem⟩ := item?_written hfits rest
  have hvalue : skipSpace (' ' :: (setting.2.written ++ '\n' :: rest)) =
      setting.2.written ++ '\n' :: rest := by
    obtain ⟨c, more, heq, hspace, htab, _⟩ := written_starts setting.2
    rw [heq]
    exact skipSpace_cons hspace htab _
  obtain ⟨keySpan, hstatement⟩ := statement?_assign hname rest hvalue hitem
  have hline : settingLine setting ++ rest =
      setting.1 ++ ' ' :: '=' :: ' ' :: (setting.2.written ++ '\n' :: rest) := by
    simp [settingLine]
  refine ⟨_, ⟨keySpan, span, rfl⟩, fun done fuel => ?_⟩
  rw [hline]
  have hblank := skipBlank_name hname (' ' :: '=' :: ' ' :: (setting.2.written ++ '\n' :: rest))
  obtain ⟨c, cs, hstart, _⟩ := hname.starts
  rw [hstart] at hblank hstatement ⊢
  exact statementsOnto_line done fuel hblank hstatement

section
variable {settings : List (List Char × Setting)}

/-- The lines of settings read as statements that assign their values. -/
theorem statementsOnto_settings (hnames : ∀ setting ∈ settings, IsBareName setting.1)
    (hfits : ∀ setting ∈ settings, setting.2.Fits) (rest : List Char) :
    ∃ statements, List.Forall₂ Assigns settings statements ∧ ∀ done fuel,
      statementsOnto done (fuel + settings.length) (settings.flatMap settingLine ++ rest) =
        statementsOnto (statements.reverse ++ done) fuel rest := by
  induction settings with
  | nil => exact ⟨[], .nil, fun _ _ => rfl⟩
  | cons setting settings ih =>
    obtain ⟨statements, hall, htail⟩ := ih (fun s hs => hnames s (List.mem_cons_of_mem setting hs))
      (fun s hs => hfits s (List.mem_cons_of_mem setting hs))
    obtain ⟨statement, hassigns, hhead⟩ := statementsOnto_setting (hnames setting List.mem_cons_self)
      (hfits setting List.mem_cons_self) (settings.flatMap settingLine ++ rest)
    refine ⟨statement :: statements, .cons hassigns hall, fun done fuel => ?_⟩
    rw [List.flatMap_cons, List.append_assoc, List.length_cons, ← Nat.add_assoc, hhead, htail,
      reverse_cons_append]

end

/-- A section that a document can hold: its names are bare, and no name is given twice. -/
structure IsSection (s : List Char × List (List Char × Setting)) : Prop where
  name : IsBareName s.1
  names : ∀ setting ∈ s.2, IsBareName setting.1
  fits : ∀ setting ∈ s.2, setting.2.Fits
  distinct : (s.2.map Prod.fst).Nodup

/-- The statements that a section is read as. -/
def StatementsOf (s : List Char × List (List Char × Setting)) (statements : List Statement) : Prop :=
  ∃ header assignments, statements = header :: assignments ∧ Opens s.1 header ∧
    List.Forall₂ Assigns s.2 assignments

theorem statementsOnto_section {s : List Char × List (List Char × Setting)} (h : IsSection s)
    (rest : List Char) :
    ∃ statements, StatementsOf s statements ∧ ∀ done fuel,
      statementsOnto done (fuel + (s.2.length + 1)) (sectionText s ++ rest) =
        statementsOnto (statements.reverse ++ done) fuel rest := by
  obtain ⟨assignments, hall, hsettings⟩ := statementsOnto_settings h.names h.fits rest
  obtain ⟨keySpan, span, hheader⟩ := statement?_header h.name (s.2.flatMap settingLine ++ rest)
  have hblank : skipBlank ('[' :: s.1 ++ ']' :: '\n' :: (s.2.flatMap settingLine ++ rest)) =
      '[' :: s.1 ++ ']' :: '\n' :: (s.2.flatMap settingLine ++ rest) :=
    skipBlank_cons (by decide) (by decide) (by decide) _
  have htext : sectionText s ++ rest = '[' :: s.1 ++ ']' :: '\n' :: (s.2.flatMap settingLine ++ rest) := by
    simp [sectionText]
  refine ⟨_, ⟨_, assignments, rfl, ⟨keySpan, span, rfl⟩, hall⟩, fun done fuel => ?_⟩
  rw [htext, ← Nat.add_assoc, List.reverse_cons, List.append_assoc, List.singleton_append, ← hsettings]
  exact statementsOnto_line done _ hblank hheader

/-- The number of lines of sections, the empty ones between them apart. -/
def lineCount : Sections → Nat
  | [] => 0
  | s :: sections => s.2.length + 1 + lineCount sections

theorem write_cons (s : List Char × List (List Char × Setting)) (sections : Sections) :
    write (s :: sections) = sectionText s ++ (if sections = [] then [] else '\n' :: write sections) := by
  cases sections with
  | nil => simp [write]
  | cons t sections => simp [write, List.intercalate]

/-- A document reads as the statements of its sections, whatever blank text stands behind it. -/
theorem statementsOnto_write {sections : Sections} (h : ∀ s ∈ sections, IsSection s) {after : List Char}
    (hafter : skipBlank after = []) :
    ∃ statements, List.Forall₂ StatementsOf sections statements ∧ ∀ done fuel,
      statementsOnto done (fuel + 1 + lineCount sections) (write sections ++ after) =
        some (done.reverse ++ statements.flatten) := by
  induction sections with
  | nil =>
    refine ⟨[], .nil, fun done fuel => ?_⟩
    have hempty : write [] ++ after = after := rfl
    rw [List.flatten_nil, List.append_nil, hempty, lineCount, statementsOnto, hafter]
  | cons s sections ih =>
    obtain ⟨statements, hall, htail⟩ := ih fun t ht => h t (List.mem_cons_of_mem s ht)
    obtain ⟨first, hfirst, hhead⟩ := statementsOnto_section (h s List.mem_cons_self)
      ((if sections = [] then [] else '\n' :: write sections) ++ after)
    have hrest : skipBlank ((if sections = [] then [] else '\n' :: write sections) ++ after) =
        skipBlank (write sections ++ after) := by
      split
      · rename_i hnil
        subst hnil
        rfl
      · rfl
    refine ⟨first :: statements, .cons hfirst hall, fun done fuel => ?_⟩
    have hcount : fuel + 1 + lineCount (s :: sections) =
        fuel + 1 + lineCount sections + (s.2.length + 1) := by
      rw [lineCount]
      omega
    rw [write_cons, List.append_assoc, hcount, hhead, statementsOnto_congr hrest, htail, List.reverse_append,
      List.reverse_reverse, List.append_assoc, List.flatten_cons]

/-- A document has at least as many characters as lines. -/
theorem lineCount_le (sections : Sections) : lineCount sections ≤ (write sections).length := by
  have hsettings (settings : List (List Char × Setting)) :
      settings.length ≤ (settings.flatMap settingLine).length := by
    induction settings with
    | nil => exact Nat.le_refl 0
    | cons setting settings ih =>
      rw [List.flatMap_cons, List.length_append, List.length_cons]
      have hline : 0 < (settingLine setting).length := by
        rw [settingLine, List.length_append]
        exact Nat.succ_pos _
      omega
  induction sections with
  | nil => exact Nat.le_refl 0
  | cons s sections ih =>
    have hs := hsettings s.2
    have htext : s.2.length + 1 ≤ (sectionText s).length := by
      simp only [sectionText, List.length_append, List.length_cons]
      omega
    have hrest : (write sections).length ≤ (if sections = [] then [] else '\n' :: write sections).length := by
      split
      · rename_i hnil
        subst hnil
        exact Nat.le_refl 0
      · exact Nat.le_succ _
    rw [write_cons, lineCount, List.length_append]
    omega

end Handoff.Toml
