import Handoff.Proofs.Toml.Statement

/-!
A written document read back as a whole: the statements of its sections fill one table for each section,
with one value for each setting.
-/

namespace Handoff.Toml

/-- An entry holds the value of a setting under its name. -/
def Holds (setting : List Char × Setting) (entry : Key × Item) : Prop :=
  entry.1.name = setting.1 ∧ ∃ span, entry.2 = .scalar setting.2.scalar span

/-- An entry is a table that holds the settings of a section, in their order. -/
def HoldsSection (s : List Char × List (List Char × Setting)) (entry : Key × Item) : Prop :=
  entry.1.name = s.1 ∧ ∃ entries span, entry.2 = .table .header entries span ∧
    List.Forall₂ Holds s.2 entries

def Entries.names (entries : Entries) : List (List Char) := entries.map (·.1.name)

theorem Entries.names_append (a b : Entries) : Entries.names (a ++ b) = a.names ++ b.names :=
  List.map_append

theorem get?_eq_none {name : List Char} {entries : Entries} (h : name ∉ entries.names) :
    entries.get? name = none := by
  have hfind : entries.find? (fun entry => entry.1.name = name) = none := by
    rw [List.find?_eq_none]
    intro entry hentry heq
    exact h (of_decide_eq_true heq ▸ List.mem_map_of_mem hentry)
  rw [Entries.get?, hfind]
  rfl

theorem insert?_of_new {key : Key} {entries : Entries} (h : key.name ∉ entries.names) (item : Item) :
    entries.insert? key item = some (entries ++ [(key, item)]) := by
  rw [Entries.insert?, get?_eq_none h]
  rfl

section
variable {d : Draft}

theorem next?_assign {key : Key} (h : key.name ∉ d.filling.names) (item : Item) :
    d.next? (.assign [] key item) =
      some { d with place := d.place.reaching item.span?, filling := d.filling ++ [(key, item)] } := by
  have hassign : d.filling.assign? false .header key item [] = some (d.filling ++ [(key, item)]) :=
    (insert?_of_new h item)
  rw [Draft.next?, hassign]
  rfl

theorem next?_header {done : Entries} (hclose : d.close? = some done) {key : Key} (h : key.name ∉ done.names)
    (span : Span) : d.next? (.header [] key span) = some ⟨done, .table [] key span, []⟩ := by
  have hnone := get?_eq_none h
  have hreopen : Draft.reopen? key done = some (done, []) := by
    rw [Draft.reopen?, hnone]
  simp only [Draft.next?, hclose, Option.bind_some, Entries.descend?, Draft.next?.inside, hreopen,
    Option.map_some, Option.getD_some]

theorem close?_table {done filling : Entries} {key : Key} (h : key.name ∉ done.names) (span : Span) :
    Draft.close? ⟨done, .table [] key span, filling⟩ =
      some (done ++ [(key, .table .header filling (some span))]) :=
  insert?_of_new h _

end

/-- Assignments of new names fill the table that is open. -/
theorem foldlM_assigns {settings : List (List Char × Setting)} {statements : List Statement}
    (h : List.Forall₂ Assigns settings statements) (done filling : Entries) (key : Key) (span : Span)
    (hnew : (filling.names ++ settings.map Prod.fst).Nodup) :
    ∃ entries last, List.Forall₂ Holds settings entries ∧
      statements.foldlM Draft.next? ⟨done, .table [] key span, filling⟩ =
        some ⟨done, .table [] key last, filling ++ entries⟩ := by
  induction h generalizing filling span with
  | nil => exact ⟨[], span, .nil, by rw [List.append_nil]; rfl⟩
  | @cons setting statement settings statements hassigns _ ih =>
    obtain ⟨keySpan, itemSpan, rfl⟩ := hassigns
    have hfresh : setting.1 ∉ filling.names := by
      intro hmem
      exact (List.nodup_append.mp hnew).2.2 _ hmem _ List.mem_cons_self rfl
    have hrest : (Entries.names (filling ++ [(⟨setting.1, keySpan⟩, .scalar setting.2.scalar itemSpan)]) ++
        settings.map Prod.fst).Nodup := by
      rw [Entries.names_append, List.append_assoc]
      exact hnew
    obtain ⟨entries, last, hall, hfold⟩ := ih _ _ hrest
    refine ⟨(⟨setting.1, keySpan⟩, .scalar setting.2.scalar itemSpan) :: entries, last,
      .cons ⟨rfl, itemSpan, rfl⟩ hall, ?_⟩
    rw [List.foldlM_cons, next?_assign hfresh]
    rw [List.append_assoc] at hfold
    exact hfold

/-- The statements of a section with a new name add its table. -/
theorem foldlM_section {s : List Char × List (List Char × Setting)} {statements : List Statement}
    (hs : IsSection s) (h : StatementsOf s statements) {d : Draft} {done : Entries}
    (hclose : d.close? = some done) (hnew : s.1 ∉ done.names) :
    ∃ entry last, HoldsSection s entry ∧ statements.foldlM Draft.next? d = some last ∧
      last.close? = some (done ++ [entry]) := by
  obtain ⟨header, assignments, rfl, ⟨keySpan, span, rfl⟩, hall⟩ := h
  obtain ⟨entries, reached, hholds, hfold⟩ :=
    foldlM_assigns hall done [] ⟨s.1, keySpan⟩ span hs.distinct
  refine ⟨(⟨s.1, keySpan⟩, .table .header entries (some reached)),
    ⟨done, .table [] ⟨s.1, keySpan⟩ reached, entries⟩, ⟨rfl, entries, some reached, rfl, hholds⟩, ?_,
    close?_table hnew reached⟩
  rw [List.foldlM_cons, next?_header hclose hnew]
  exact hfold

theorem foldlM_sections {sections : Sections} {statements : List (List Statement)}
    (hs : ∀ s ∈ sections, IsSection s) (h : List.Forall₂ StatementsOf sections statements) {d : Draft}
    {done : Entries} (hclose : d.close? = some done)
    (hnew : (done.names ++ sections.map Prod.fst).Nodup) :
    ∃ entries, List.Forall₂ HoldsSection sections entries ∧
      (statements.flatten.foldlM Draft.next? d).bind Draft.close? = some (done ++ entries) := by
  induction h generalizing d done with
  | nil => exact ⟨[], .nil, by rw [List.append_nil]; exact hclose⟩
  | @cons s first sections statements hfirst _ ih =>
    have hfresh : s.1 ∉ done.names := by
      intro hmem
      exact (List.nodup_append.mp hnew).2.2 _ hmem _ List.mem_cons_self rfl
    obtain ⟨entry, last, hholds, hfold, hlast⟩ :=
      foldlM_section (hs s List.mem_cons_self) hfirst hclose hfresh
    have hname : Entries.names [entry] = [s.1] := congrArg (fun name => [name]) hholds.1
    have hrest : (Entries.names (done ++ [entry]) ++ sections.map Prod.fst).Nodup := by
      rw [Entries.names_append, List.append_assoc, hname]
      exact hnew
    obtain ⟨entries, hall, hend⟩ := ih (fun t ht => hs t (List.mem_cons_of_mem s ht)) hlast hrest
    refine ⟨entry :: entries, .cons hholds hall, ?_⟩
    rw [List.flatten_cons, List.foldlM_append, hfold]
    rw [List.append_assoc] at hend
    exact hend

theorem dropByteOrderMark_write (sections : Sections) :
    dropByteOrderMark (write sections) = write sections := by
  cases sections with
  | nil => rfl
  | cons s sections =>
    rw [write_cons]
    rfl

/-- A document that is written of sections reads back as them, with blank text before and behind it. -/
theorem read?_write_within {sections : Sections} (hs : ∀ s ∈ sections, IsSection s)
    (hdistinct : (sections.map Prod.fst).Nodup) {before after : List Char}
    (hmark : dropByteOrderMark (before ++ (write sections ++ after)) = before ++ (write sections ++ after))
    (hbefore : skipBlank (before ++ (write sections ++ after)) = skipBlank (write sections ++ after))
    (hafter : skipBlank after = []) :
    ∃ entries, read? (before ++ (write sections ++ after)) = some entries ∧
      List.Forall₂ HoldsSection sections entries := by
  obtain ⟨statements, hall, hread⟩ := statementsOnto_write hs hafter
  have hclose : Draft.empty.close? = some [] := rfl
  obtain ⟨entries, hholds, hbuild⟩ := foldlM_sections hs hall hclose hdistinct
  have hfuel : (before ++ (write sections ++ after)).length + 1 =
      before.length + (write sections).length + after.length - lineCount sections + 1 +
        lineCount sections := by
    have := lineCount_le sections
    rw [List.length_append, List.length_append]
    omega
  refine ⟨entries, ?_, hholds⟩
  rw [read?, hmark, hfuel, statementsOnto_congr hbefore, hread]
  exact hbuild

/-- A document that is written of sections reads back as them. -/
theorem read?_write {sections : Sections} (hs : ∀ s ∈ sections, IsSection s)
    (hdistinct : (sections.map Prod.fst).Nodup) :
    ∃ entries, read? (write sections) = some entries ∧ List.Forall₂ HoldsSection sections entries := by
  have hempty : [] ++ (write sections ++ []) = write sections := List.append_nil _
  have hmark : dropByteOrderMark ([] ++ (write sections ++ [])) = [] ++ (write sections ++ []) := by
    rw [hempty, dropByteOrderMark_write]
  have hread := read?_write_within hs hdistinct hmark rfl rfl
  rw [hempty] at hread
  exact hread

/-- A comment on a line of its own does not count. -/
theorem skipBlank_comment {cs : List Char} (h : ∀ c ∈ cs, isPlain c = true) (rest : List Char) :
    skipBlank ('#' :: cs ++ '\n' :: rest) = skipBlank rest := by
  have hinside : skipBlankFrom true (cs ++ '\n' :: rest) = skipBlank rest := by
    induction cs with
    | nil => rfl
    | cons c cs ih =>
      have hc := h c List.mem_cons_self
      have hfeed : c ≠ '\n' := by
        rintro rfl
        exact absurd hc (by decide)
      have hreturn : c ≠ '\r' := by
        rintro rfl
        exact absurd hc (by decide)
      rw [List.cons_append, skipBlankFrom, if_neg hfeed, if_neg fun hline => hreturn hline.1,
        if_pos rfl, if_pos hc]
      exact ih fun d hd => h d (List.mem_cons_of_mem c hd)
  exact hinside

/-- A document that is written of sections reads back as them below a comment, and with an empty line behind
it. -/
theorem read?_commented {sections : Sections} (hs : ∀ s ∈ sections, IsSection s)
    (hdistinct : (sections.map Prod.fst).Nodup) {comment : List Char} (h : ∀ c ∈ comment, isPlain c = true) :
    ∃ entries, read? ('#' :: comment ++ '\n' :: (write sections ++ ['\n'])) = some entries ∧
      List.Forall₂ HoldsSection sections entries := by
  have hbefore := skipBlank_comment h (write sections ++ ['\n'])
  rw [List.append_cons] at hbefore ⊢
  exact read?_write_within hs hdistinct rfl hbefore rfl

end Handoff.Toml
