import Handoff.Proofs.Toml.Document

/-!
What every document that is read keeps to: a table has each name once, and an integer fits into 64 bits
with a sign. Each change of a table keeps it, and so does each reader, up to the document as a whole.
-/

namespace Handoff.Toml

/-- The integers of an item fit, and its tables have each name once. -/
inductive Item.Sound : Item → Prop
  | scalar {value : Scalar} {span : Span}
      (fits : ∀ n, value = .integer n → n < (Nat.pow 2 63 : Nat)) : Item.Sound (.scalar value span)
  | array {items : List Item} {span : Span} (all : ∀ item ∈ items, item.Sound) :
      Item.Sound (.array items span)
  | table {kind : TableKind} {entries : List (Key × Item)} {span : Option Span}
      (distinct : (Entries.names entries).Nodup) (all : ∀ entry ∈ entries, entry.2.Sound) :
      Item.Sound (.table kind entries span)
  | tables {items : List Item} {span : Option Span} (all : ∀ item ∈ items, item.Sound) :
      Item.Sound (.tables items span)

/-- Each name stands once, for an item that keeps to this itself. -/
structure Entries.Sound (entries : Entries) : Prop where
  distinct : (Entries.names entries).Nodup
  all : ∀ entry ∈ entries, entry.2.Sound

/-- The item of an assignment keeps to it. -/
def Statement.Sound : Statement → Prop
  | assign _ _ item => item.Sound
  | _ => True

structure Draft.Sound (d : Draft) : Prop where
  done : Entries.Sound d.done
  filling : Entries.Sound d.filling

section
variable {entries inner made : Entries} {key : Key} {name : List Char} {item : Item} {items : List Item}
  {kind : TableKind} {span : Option Span} {path : List Key}

/-! Changes of a table. -/

theorem Item.Sound.content (h : Item.Sound (.table kind entries span)) : entries.Sound := by
  cases h with
  | table distinct all => exact ⟨distinct, all⟩

theorem Entries.Sound.table (h : entries.Sound) (kind : TableKind) (span : Option Span) :
    Item.Sound (.table kind entries span) := .table h.distinct h.all

theorem Item.Sound.elements (h : Item.Sound (.tables items span)) : ∀ item ∈ items, item.Sound := by
  cases h with
  | tables all => exact all

namespace Entries

theorem Sound.nil : Sound [] := ⟨List.nodup_nil, fun _ h => by cases h⟩

theorem mem_of_get? (h : entries.get? name = some item) : ∃ key, (key, item) ∈ entries := by
  obtain ⟨⟨key, found⟩, hfind, rfl⟩ := Option.map_eq_some_iff.mp h
  exact ⟨key, List.mem_of_find?_eq_some hfind⟩

theorem notMem_names (h : entries.get? name = none) : name ∉ entries.names := by
  rw [get?, Option.map_eq_none_iff, List.find?_eq_none] at h
  intro hmem
  obtain ⟨entry, hentry, hname⟩ := List.mem_map.mp hmem
  exact h entry hentry (decide_eq_true hname)

theorem Sound.get (h : entries.Sound) (hget : entries.get? name = some item) : item.Sound := by
  obtain ⟨key, hmem⟩ := mem_of_get? hget
  exact h.all _ hmem

theorem Sound.append_new (h : entries.Sound) (hnew : entries.get? key.name = none) (hitem : item.Sound) :
    Sound (entries ++ [(key, item)]) where
  distinct := by
    rw [names_append, List.nodup_append]
    refine ⟨h.distinct, List.pairwise_singleton _ _, ?_⟩
    rintro a ha b hb rfl
    obtain rfl := List.mem_singleton.mp hb
    exact notMem_names hnew ha
  all := by
    intro entry hentry
    rcases List.mem_append.mp hentry with hold | hlast
    · exact h.all entry hold
    · rw [List.mem_singleton.mp hlast]
      exact hitem

theorem Sound.update (h : entries.Sound) (hitem : item.Sound) : Sound (entries.update name fun _ => item) where
  distinct := by
    have hnames : (entries.update name fun _ => item).names = entries.names := by
      rw [names, Entries.update, List.map_map]
      apply List.map_congr_left
      intro entry _
      simp only [Function.comp_apply]
      split
      · rfl
      · rfl
    rw [hnames]
    exact h.distinct
  all := by
    intro entry hentry
    obtain ⟨old, hold, rfl⟩ := List.mem_map.mp hentry
    split
    · exact hitem
    · exact h.all old hold

theorem Sound.erase (h : entries.Sound) (name : List Char) : Sound (entries.erase name) where
  distinct := h.distinct.sublist (List.filter_sublist.map _)
  all := fun entry hentry => h.all entry (List.mem_filter.mp hentry).1

theorem Sound.insert (h : entries.Sound) (hitem : item.Sound) (hmade : entries.insert? key item = some made) :
    made.Sound := by
  rw [insert?] at hmade
  split at hmade
  · cases hmade
  · rename_i hfree
    cases hmade
    exact h.append_new (Option.not_isSome_iff_eq_none.mp hfree) hitem

/-- The last of some tables can be replaced. -/
theorem Sound.replace_last (h : entries.Sound) (hget : entries.get? name = some (.tables items span))
    (hitem : item.Sound) :
    Sound (entries.update name fun _ => .tables (items.dropLast ++ [item]) span) := by
  have hitems := (h.get hget).elements
  apply h.update
  apply Item.Sound.tables
  intro x hx
  rcases List.mem_append.mp hx with hold | hlast
  · exact hitems x (List.dropLast_subset _ hold)
  · rw [List.mem_singleton.mp hlast]
    exact hitem

theorem Sound.last (h : entries.Sound) (hget : entries.get? name = some (.tables items span))
    (hlast : items.getLast? = some item) : item.Sound :=
  (h.get hget).elements item (List.mem_of_getLast? hlast)

theorem Sound.assign (h : entries.Sound) (hitem : item.Sound) {dotted : Bool}
    (hmade : entries.assign? dotted kind key item path = some made) : made.Sound := by
  -- Each part of the path leads one table deeper.
  induction path generalizing dotted kind entries made with
  | nil =>
    rw [assign?] at hmade
    split at hmade
    · exact h.insert hitem hmade
    · cases hmade
  | cons part path ih =>
    rw [assign?] at hmade
    split at hmade
    · rename_i hnone
      obtain ⟨inner, hinner, rfl⟩ := Option.map_eq_some_iff.mp hmade
      exact h.append_new hnone ((ih Sound.nil hinner).table _ _)
    · rename_i hget
      split at hmade
      · obtain ⟨inner, hinner, rfl⟩ := Option.map_eq_some_iff.mp hmade
        exact h.update ((ih (h.get hget).content hinner).table _ _)
      · cases hmade
    · rename_i hget
      split at hmade
      · rename_i hlast
        obtain ⟨inner, hinner, rfl⟩ := Option.map_eq_some_iff.mp hmade
        exact h.replace_last hget ((ih (h.last hget hlast).content hinner).table _ _)
      · cases hmade
    · cases hmade

/-- A change deep in tables keeps what the change itself keeps. -/
theorem Sound.descend (h : entries.Sound) {f : Entries → Option Entries}
    (hf : ∀ before after, before.Sound → f before = some after → after.Sound)
    (hmade : entries.descend? f path = some made) : made.Sound := by
  induction path generalizing entries made with
  | nil => exact hf entries made h hmade
  | cons part path ih =>
    rw [descend?] at hmade
    split at hmade
    · rename_i hnone
      obtain ⟨inner, hinner, rfl⟩ := Option.map_eq_some_iff.mp hmade
      exact h.append_new hnone ((ih Sound.nil hinner).table _ _)
    · rename_i hget
      split at hmade
      · cases hmade
      · obtain ⟨inner, hinner, rfl⟩ := Option.map_eq_some_iff.mp hmade
        exact h.update ((ih (h.get hget).content hinner).table _ _)
    · rename_i hget
      split at hmade
      · rename_i hlast
        obtain ⟨inner, hinner, rfl⟩ := Option.map_eq_some_iff.mp hmade
        exact h.replace_last hget ((ih (h.last hget hlast).content hinner).table _ _)
      · cases hmade
    · cases hmade

end Entries

/-! Drafts. -/

namespace Draft

theorem addElement?_sound (h : entries.Sound) (hitem : item.Sound)
    (hmade : addElement? key item entries = some made) : made.Sound := by
  rw [addElement?] at hmade
  split at hmade
  · rename_i hnone
    cases hmade
    apply h.append_new hnone
    apply Item.Sound.tables
    intro x hx
    rw [List.mem_singleton.mp hx]
    exact hitem
  · rename_i hget
    cases hmade
    have hitems := (h.get hget).elements
    apply h.update
    apply Item.Sound.tables
    intro x hx
    rcases List.mem_append.mp hx with hold | hlast
    · exact hitems x hold
    · rw [List.mem_singleton.mp hlast]
      exact hitem
  · cases hmade

theorem Sound.close {d : Draft} (h : d.Sound) (hmade : d.close? = some made) : made.Sound := by
  rw [close?] at hmade
  split at hmade
  · cases hmade
    exact h.filling
  · exact h.done.descend (fun before after hbefore => hbefore.insert (h.filling.table _ _)) hmade
  · exact h.done.descend (fun before after hbefore => addElement?_sound hbefore (h.filling.table _ _)) hmade

theorem reopen?_sound (h : entries.Sound) {rest : Entries} (hmade : reopen? key entries = some (rest, inner)) :
    rest.Sound ∧ inner.Sound := by
  rw [reopen?] at hmade
  split at hmade
  · cases hmade
    exact ⟨h, .nil⟩
  · rename_i hget
    cases hmade
    exact ⟨h.erase _, (h.get hget).content⟩
  · cases hmade

theorem inside_sound (h : entries.Sound) (hinner : next?.inside entries path = some inner) : inner.Sound := by
  induction path generalizing entries with
  | nil =>
    cases hinner
    exact h
  | cons part path ih =>
    rw [next?.inside] at hinner
    split at hinner
    · rename_i hget
      exact ih (h.get hget).content hinner
    · rename_i hget
      split at hinner
      · rename_i hlast
        exact ih (h.last hget hlast).content hinner
      · cases hinner
    · cases hinner

theorem Sound.next {d d' : Draft} (h : d.Sound) {statement : Statement} (hstatement : statement.Sound)
    (hnext : d.next? statement = some d') : d'.Sound := by
  cases statement with
  | assign path key item =>
    obtain ⟨filling, hfilling, rfl⟩ := Option.map_eq_some_iff.mp hnext
    exact ⟨h.done, h.filling.assign hstatement hfilling⟩
  | header path key span =>
    obtain ⟨done, hclose, hopen⟩ := Option.bind_eq_some_iff.mp hnext
    obtain ⟨rest, hrest, hd⟩ := Option.bind_eq_some_iff.mp hopen
    have hdone := h.close hclose
    cases hd
    constructor
    · refine hdone.descend (fun before after hbefore hafter => ?_) hrest
      obtain ⟨⟨kept, inner⟩, hreopen, rfl⟩ := Option.map_eq_some_iff.mp hafter
      exact (reopen?_sound hbefore hreopen).1
    · cases hreached : (next?.inside done path).bind (reopen? key) with
      | none => exact .nil
      | some found =>
        obtain ⟨inner, hinside, hreopen⟩ := Option.bind_eq_some_iff.mp hreached
        exact (reopen?_sound (inside_sound hdone hinside) hreopen).2
  | arrayHeader path key span =>
    obtain ⟨done, hclose, hopen⟩ := Option.bind_eq_some_iff.mp hnext
    obtain ⟨opened, hopened, rfl⟩ := Option.map_eq_some_iff.mp hopen
    refine ⟨(h.close hclose).descend (fun before after hbefore hafter => ?_) hopened, .nil⟩
    split at hafter
    · rename_i hnone
      cases hafter
      exact hbefore.append_new hnone (.tables fun _ hx => by cases hx)
    · cases hafter
      exact hbefore
    · cases hafter

theorem foldlM_sound {statements : List Statement} (hall : ∀ statement ∈ statements, statement.Sound)
    {d d' : Draft} (h : d.Sound) (hfold : statements.foldlM next? d = some d') : d'.Sound := by
  induction statements generalizing d with
  | nil =>
    cases hfold
    exact h
  | cons statement rest ih =>
    rw [List.foldlM_cons] at hfold
    obtain ⟨between, hnext, hrest⟩ := Option.bind_eq_some_iff.mp hfold
    have hbetween := h.next (hall _ List.mem_cons_self) hnext
    exact ih (fun s hs => hall s (List.mem_cons_of_mem _ hs)) hbetween hrest

theorem build?_sound {statements : List Statement} (hall : ∀ statement ∈ statements, statement.Sound)
    (hbuild : build? statements = some entries) : entries.Sound := by
  obtain ⟨d, hfold, hclose⟩ := Option.bind_eq_some_iff.mp hbuild
  exact (foldlM_sound hall ⟨.nil, .nil⟩ hfold).close hclose

end Draft

end

/-! Readers. -/

/-- A reader of items that reads nothing else. -/
def Reading.Sound (item : Reading Item) : Prop := ∀ cs x rest, item cs = some (x, rest) → x.Sound

section
variable {item : Reading Item} {cs rest : List Char}

theorem integer64?_lt {n m : Int} (h : integer64? n = some m) : m < (Nat.pow 2 63 : Nat) := by
  rw [integer64?] at h
  split at h
  · rename_i hbounds
    cases h
    exact hbounds.2
  · cases h

theorem integer?_lt {n : Int} (h : integer? cs = some (n, rest)) : n < (Nat.pow 2 63 : Nat) := by
  unfold integer? at h
  split at h
  all_goals
    obtain ⟨⟨digits, behind⟩, _, hvalue⟩ := Option.bind_eq_some_iff.mp h
    obtain ⟨m, hm, heq⟩ := Option.map_eq_some_iff.mp hvalue
    cases heq
    exact integer64?_lt hm

theorem number?_fits {value : Scalar} (h : number? cs = some (value, rest)) :
    ∀ n, value = .integer n → n < (Nat.pow 2 63 : Nat) := by
  rintro n rfl
  unfold number? at h
  split at h
  · cases h
  · split at h
    · cases h
    · obtain ⟨⟨m, behind⟩, hm, heq⟩ := Option.map_eq_some_iff.mp h
      cases heq
      exact integer?_lt hm

theorem scalar?_fits {value : Scalar} (h : scalar? cs = some (value, rest)) :
    ∀ n, value = .integer n → n < (Nat.pow 2 63 : Nat) := by
  unfold scalar? at h
  split at h
  · cases h
  split at h
  · obtain ⟨_, _, heq⟩ := Option.map_eq_some_iff.mp h
    cases heq
    intro n hn
    cases hn
  split at h
  · obtain ⟨_, _, heq⟩ := Option.map_eq_some_iff.mp h
    cases heq
    intro n hn
    cases hn
  split at h
  · obtain ⟨_, _, heq⟩ := Option.map_eq_some_iff.mp h
    cases heq
    intro n hn
    cases hn
  · exact number?_fits h

theorem arrayItemsOnto_sound (hitem : item.Sound) {done items : List Item} (hdone : ∀ x ∈ done, x.Sound)
    {fuel : Nat} (h : arrayItemsOnto item done fuel cs = some (items, rest)) : ∀ x ∈ items, x.Sound := by
  induction fuel generalizing done cs with
  | zero => cases h
  | succ fuel ih =>
    rw [arrayItemsOnto] at h
    split at h
    · cases h
      exact fun x hx => hdone x (List.mem_reverse.mp hx)
    · obtain ⟨⟨x, behind⟩, hx, hmore⟩ := Option.bind_eq_some_iff.mp h
      have hgrown : ∀ y ∈ x :: done, y.Sound := by
        intro y hy
        rcases List.mem_cons.mp hy with rfl | hold
        · exact hitem _ _ _ hx
        · exact hdone y hold
      dsimp only at hmore
      split at hmore
      · exact ih hgrown hmore
      · cases hmore
        exact fun y hy => hgrown y (List.mem_reverse.mp hy)
      · cases hmore

theorem pair?_sound (hitem : item.Sound) {path : List Key} {key : Key} {x : Item}
    (h : pair? item cs = some ((path, key, x), rest)) : x.Sound := by
  obtain ⟨⟨⟨readPath, readKey⟩, behind⟩, _, hvalue⟩ := Option.bind_eq_some_iff.mp h
  dsimp only at hvalue
  split at hvalue
  · obtain ⟨⟨y, last⟩, hy, heq⟩ := Option.map_eq_some_iff.mp hvalue
    cases heq
    exact hitem _ _ _ hy
  · cases hvalue

theorem inlinePairsOnto_sound (hitem : item.Sound) {done entries : Entries} (hdone : done.Sound) {fuel : Nat}
    (h : inlinePairsOnto item done fuel cs = some (entries, rest)) : entries.Sound := by
  induction fuel generalizing done cs with
  | zero => cases h
  | succ fuel ih =>
    rw [inlinePairsOnto] at h
    obtain ⟨⟨⟨path, key, x⟩, behind⟩, hpair, hassign⟩ := Option.bind_eq_some_iff.mp h
    obtain ⟨grown, hgrown, hmore⟩ := Option.bind_eq_some_iff.mp hassign
    have hsound := hdone.assign (pair?_sound hitem hpair) hgrown
    split at hmore
    · exact ih hsound hmore
    · cases hmore
      exact hsound
    · cases hmore

theorem itemWith_sound {inner : Option (Reading Item)} (hinner : ∀ item ∈ inner, Reading.Sound item) :
    Reading.Sound (itemWith inner) := by
  intro cs x rest h
  unfold itemWith at h
  split at h
  · obtain ⟨⟨items, behind⟩, hitems, heq⟩ := Option.map_eq_some_iff.mp h
    cases heq
    exact .array (arrayItemsOnto_sound (hinner _ rfl) (fun _ hx => by cases hx) hitems)
  · split at h
    · cases h
      exact Entries.Sound.nil.table _ _
    · obtain ⟨⟨entries, behind⟩, hentries, heq⟩ := Option.map_eq_some_iff.mp h
      cases heq
      exact (inlinePairsOnto_sound (hinner _ rfl) .nil hentries).table _ _
  · cases h
  · cases h
  · obtain ⟨⟨value, behind⟩, hvalue, heq⟩ := Option.map_eq_some_iff.mp h
    cases heq
    exact .scalar (scalar?_fits hvalue)

theorem item?_sound (levels : Nat) : Reading.Sound (item? levels) := by
  induction levels with
  | zero => exact itemWith_sound nofun
  | succ levels ih =>
    apply itemWith_sound
    rintro item ⟨⟩
    exact ih

theorem statement?_sound {statement : Statement} (h : statement? cs = some (statement, rest)) :
    statement.Sound := by
  unfold statement? at h
  split at h
  · obtain ⟨_, _, heq⟩ := Option.map_eq_some_iff.mp h
    cases heq
    trivial
  · obtain ⟨_, _, heq⟩ := Option.map_eq_some_iff.mp h
    cases heq
    trivial
  · obtain ⟨⟨⟨path, key, x⟩, behind⟩, hpair, heq⟩ := Option.map_eq_some_iff.mp h
    cases heq
    exact pair?_sound (item?_sound nestingLimit) hpair

theorem statementsOnto_sound {done statements : List Statement} (hdone : ∀ s ∈ done, s.Sound) {fuel : Nat}
    (h : statementsOnto done fuel cs = some statements) : ∀ s ∈ statements, s.Sound := by
  induction fuel generalizing done cs with
  | zero => cases h
  | succ fuel ih =>
    rw [statementsOnto] at h
    split at h
    · cases h
      exact fun s hs => hdone s (List.mem_reverse.mp hs)
    · obtain ⟨⟨statement, behind⟩, hstatement, hmore⟩ := Option.bind_eq_some_iff.mp h
      have hgrown : ∀ s ∈ statement :: done, s.Sound := by
        intro s hs
        rcases List.mem_cons.mp hs with rfl | hold
        · exact statement?_sound hstatement
        · exact hdone s hold
      dsimp only at hmore
      split at hmore
      · cases hmore
        exact fun s hs => hgrown s (List.mem_reverse.mp hs)
      · obtain ⟨next, _, hnext⟩ := Option.bind_eq_some_iff.mp hmore
        exact ih hgrown hnext

/-- Whatever text is read as a document, its tables have each name once and its integers fit. -/
theorem read?_sound {entries : Entries} (h : read? cs = some entries) : entries.Sound := by
  obtain ⟨statements, hstatements, hbuild⟩ := Option.bind_eq_some_iff.mp h
  exact Draft.build?_sound (statementsOnto_sound (fun _ hs => by cases hs) hstatements) hbuild

end

end Handoff.Toml
