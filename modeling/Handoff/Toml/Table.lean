import Handoff.Toml.Basic

/-!
How the statements of a document fill tables. A key is given once, a table is opened once, and a dotted
key opens no table that has a header.
-/

namespace Handoff.Toml

namespace Entries

def get? (name : List Char) (entries : Entries) : Option Item :=
  (entries.find? (fun entry => entry.1.name = name)).map (·.2)

def update (name : List Char) (f : Item → Item) (entries : Entries) : Entries :=
  entries.map (fun entry => if entry.1.name = name then (entry.1, f entry.2) else entry)

def erase (name : List Char) (entries : Entries) : Entries :=
  entries.filter (fun entry => entry.1.name ≠ name)

def insert? (key : Key) (item : Item) (entries : Entries) : Option Entries :=
  if (entries.get? key.name).isSome then none else some (entries ++ [(key, item)])

/-- Gives the key at the end of a dotted path an item, in entries reached by a dotted key or not. Of tables
in double brackets the last is meant, which a dotted key passes through but does not fill. -/
def assign? (dotted : Bool) (kind : TableKind) (key : Key) (item : Item) :
    List Key → Entries → Option Entries
  | [], entries => if (kind == .dotted) == dotted then entries.insert? key item else none
  | part :: path, entries =>
    match entries.get? part.name with
    | none =>
      (assign? true .dotted key item path []).map (fun inner =>
        entries ++ [(part, .table .dotted inner none)])
    | some (.table kind inner span) =>
      if kind = .implied ∨ kind = .dotted then
        (assign? true kind key item path inner).map (fun inner =>
          entries.update part.name (fun _ => .table kind inner span))
      else none
    | some (.tables items span) =>
      match items.getLast? with
      | some (.table kind inner innerSpan) =>
        (assign? true kind key item path inner).map (fun inner =>
          entries.update part.name (fun _ =>
            .tables (items.dropLast ++ [.table kind inner innerSpan]) span))
      | _ => none
    | some _ => none

/-- The table that a path of a header leads to, changed. Tables that are missing on the way are implied;
of tables in double brackets the last is meant. -/
def descend? (f : Entries → Option Entries) : List Key → Entries → Option Entries
  | [], entries => f entries
  | part :: path, entries =>
    match entries.get? part.name with
    | none => (descend? f path []).map (fun inner => entries ++ [(part, .table .implied inner none)])
    | some (.table kind inner span) =>
      if kind = .inline then none
      else (descend? f path inner).map (fun inner =>
        entries.update part.name (fun _ => .table kind inner span))
    | some (.tables items span) =>
      match items.getLast? with
      | some (.table kind inner innerSpan) =>
        (descend? f path inner).map (fun inner =>
          entries.update part.name (fun _ =>
            .tables (items.dropLast ++ [.table kind inner innerSpan]) span))
      | _ => none
    | some _ => none

end Entries

/-- A statement of a document. -/
inductive Statement
  | assign (path : List Key) (key : Key) (item : Item)
  -- A header between brackets.
  | header (path : List Key) (key : Key) (span : Span)
  -- A header between double brackets.
  | arrayHeader (path : List Key) (key : Key) (span : Span)

/-- Where the statements that follow go. -/
inductive Place
  | root
  | table (path : List Key) (key : Key) (span : Span)
  | element (path : List Key) (key : Key) (span : Span)

/-- The stretch of the table that is being filled reaches to the end of its last value. -/
def Place.reaching (last : Option Span) : Place → Place
  | root => root
  | table path key span => table path key { span with stop := (last.map (·.stop)).getD span.stop }
  | element path key span => element path key { span with stop := (last.map (·.stop)).getD span.stop }

/-- A document in the making: the tables that are complete, and the one that is being filled. -/
structure Draft where
  done : Entries
  place : Place
  filling : Entries

namespace Draft

def empty : Draft := ⟨[], .root, []⟩

/-- The stretch from the first of some tables to the last. -/
def spanOf (items : List Item) : Option Span :=
  match items.head?.bind Item.span?, items.getLast?.bind Item.span? with
  | some first, some last => some ⟨first.start, last.stop⟩
  | _, _ => none

def addElement? (key : Key) (item : Item) (entries : Entries) : Option Entries :=
  match entries.get? key.name with
  | none => some (entries ++ [(key, .tables [item] (spanOf [item]))])
  | some (.tables items _) =>
    some (entries.update key.name (fun _ => .tables (items ++ [item]) (spanOf (items ++ [item]))))
  | some _ => none

/-- Puts the table that is being filled into its place. -/
def close? (d : Draft) : Option Entries :=
  match d.place with
  | .root => some d.filling
  | .table path key span => d.done.descend? (Entries.insert? key (.table .header d.filling (some span))) path
  | .element path key span => d.done.descend? (addElement? key (.table .header d.filling (some span))) path

/-- Takes the table of a header out of those around it. One that was implied keeps what it holds. -/
def reopen? (key : Key) (entries : Entries) : Option (Entries × Entries) :=
  match entries.get? key.name with
  | none => some (entries, [])
  | some (.table .implied inner _) => some (entries.erase key.name, inner)
  | some _ => none

def next? (d : Draft) : Statement → Option Draft
  | .assign path key item =>
    (d.filling.assign? false .header key item path).map (fun filling =>
      { d with place := d.place.reaching item.span?, filling })
  | .header path key span =>
    d.close?.bind fun done =>
    (done.descend? (fun entries => (reopen? key entries).map (·.1)) path).bind fun rest =>
    let inner := (inside done path).bind (reopen? key)
    some ⟨rest, .table path key span, (inner.map (·.2)).getD []⟩
  | .arrayHeader path key span =>
    d.close?.bind fun done =>
    (done.descend? (fun entries => match entries.get? key.name with
      | none => some (entries ++ [(key, .tables [] none)])
      | some (.tables _ _) => some entries
      | some _ => none) path).map fun done => ⟨done, .element path key span, []⟩
where
  -- The entries at a path, if they are there.
  inside (entries : Entries) : List Key → Option Entries
    | [] => some entries
    | part :: path =>
      match entries.get? part.name with
      | some (.table _ inner _) => inside inner path
      | some (.tables items _) =>
        match items.getLast? with
        | some (.table _ inner _) => inside inner path
        | _ => none
      | _ => none

def build? (statements : List Statement) : Option Entries :=
  (statements.foldlM next? empty).bind close?

end Draft

end Handoff.Toml
