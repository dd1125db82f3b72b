import Handoff.Config.Load
import Handoff.Proofs.Toml.WellFormed
import Mathlib.Data.List.Nodup

/-!
The settings of a section as slots of a record. Reading a table fills each slot from the entry of its name
and from nothing else, so that the order of the entries, and entries without a slot, do not matter.
-/

namespace Handoff.Config

open Toml

/-- A setting of a section: its name, how its item is read, and the field that it fills. -/
structure Slot (α : Type) where
  {Value Field : Type}
  name : String
  decode : Item → Except Fault Value
  put : Value → α → α
  get : α → Field
  -- The field that holds a value. A field may also hold none.
  hold : Value → Field

/-- Sets the slot of a name; a name without a slot is passed over. -/
def Slot.set {α : Type} : List (Slot α) → Setter α
  | [] => fun _ _ x => .ok x
  | slot :: slots => fun name item x =>
    if name = slot.name.toList then (slot.decode item).map (slot.put · x) else set slots name item x

/-- The value in the entry of a slot's name, if there is one that can be read. -/
def Slot.given {α : Type} (slot : Slot α) (entries : Entries) : Option slot.Value :=
  (entries.get? slot.name.toList).bind fun item => (slot.decode item).toOption

/-- The entry of a slot's name can be read, if there is one. -/
def Slot.Readable {α : Type} (slot : Slot α) (entries : Entries) : Prop :=
  ∀ item, entries.get? slot.name.toList = some item → ∃ v, slot.decode item = .ok v

/-- Each slot has a name and a field of its own. -/
structure Slot.Independent {α : Type} (slots : List (Slot α)) : Prop where
  distinct : (slots.map Slot.name).Nodup
  get_put : ∀ slot ∈ slots, ∀ v x, slot.get (slot.put v x) = slot.hold v
  get_put_other : ∀ slot ∈ slots, ∀ other ∈ slots, other.name ≠ slot.name →
    ∀ v x, slot.get (other.put v x) = slot.get x

section
variable {α : Type} {slots : List (Slot α)} {slot : Slot α} {entries : Entries} {x y : α} {name : List Char}
  {item : Item}

/-- What is set is either the slot of the name or nothing. -/
theorem Slot.set_cases (h : Slot.set slots name item x = .ok y) :
    (∃ slot ∈ slots, name = slot.name.toList ∧ ∃ v, slot.decode item = .ok v ∧ y = slot.put v x) ∨
      (∀ slot ∈ slots, name ≠ slot.name.toList) ∧ y = x := by
  induction slots with
  | nil =>
    cases h
    exact Or.inr ⟨fun slot hslot => absurd hslot List.not_mem_nil, rfl⟩
  | cons first slots ih =>
    dsimp only [Slot.set] at h
    by_cases hname : name = first.name.toList
    · rw [if_pos hname] at h
      cases hvalue : first.decode item with
      | error fault =>
        rw [hvalue] at h
        cases h
      | ok v =>
        rw [hvalue] at h
        cases h
        exact Or.inl ⟨first, List.mem_cons_self, hname, v, hvalue, rfl⟩
    · rw [if_neg hname] at h
      rcases ih h with ⟨slot, hslot, hvalue⟩ | ⟨hother, heq⟩
      · exact Or.inl ⟨slot, List.mem_cons_of_mem _ hslot, hvalue⟩
      · refine Or.inr ⟨fun slot hslot => ?_, heq⟩
        rcases List.mem_cons.mp hslot with rfl | hlater
        · exact hname
        · exact hother slot hlater

/-- An item is set unless its slot cannot read it. -/
theorem Slot.set_ok (h : ∀ slot ∈ slots, name = slot.name.toList → ∃ v, slot.decode item = .ok v) (x : α) :
    ∃ y, Slot.set slots name item x = .ok y := by
  induction slots with
  | nil => exact ⟨x, rfl⟩
  | cons first slots ih =>
    dsimp only [Slot.set]
    by_cases hname : name = first.name.toList
    · obtain ⟨v, hv⟩ := h first List.mem_cons_self hname
      rw [if_pos hname, hv]
      exact ⟨_, rfl⟩
    · rw [if_neg hname]
      exact ih fun slot hslot => h slot (List.mem_cons_of_mem _ hslot)

theorem decodeEntries_cons {set : Setter α} {key : Key} {rest : Entries}
    (h : decodeEntries set x ((key, item) :: rest) = .ok y) :
    ∃ z, set key.name item x = .ok z ∧ decodeEntries set z rest = .ok y := by
  rw [decodeEntries, List.foldlM_cons] at h
  cases hset : set key.name item x with
  | error fault =>
    simp only [hset] at h
    cases h
  | ok z =>
    simp only [hset] at h
    exact ⟨z, rfl, h⟩

/-- The field of a slot is filled from the entry of its name, or kept if there is none. -/
theorem Slot.Independent.field_eq (hi : Slot.Independent slots) (hslot : slot ∈ slots)
    (hdistinct : entries.names.Nodup) (h : decodeEntries (Slot.set slots) x entries = .ok y) :
    slot.get y = ((slot.given entries).map slot.hold).getD (slot.get x) := by
  induction entries generalizing x with
  | nil =>
    cases h
    rfl
  | cons entry rest ih =>
    obtain ⟨key, item⟩ := entry
    obtain ⟨hnew, hrest⟩ := List.nodup_cons.mp hdistinct
    obtain ⟨z, hset, hdone⟩ := decodeEntries_cons h
    have hlater := ih hrest hdone
    by_cases hname : key.name = slot.name.toList
    -- The entry is the one of the slot, and no other follows.
    · have hhere : Entries.get? slot.name.toList ((key, item) :: rest) = some item := by
        simp [Entries.get?, hname]
      have hnone : Entries.get? slot.name.toList rest = none := get?_eq_none (hname ▸ hnew)
      have hkept : slot.given rest = none := by
        rw [Slot.given, hnone]
        rfl
      rcases Slot.set_cases hset with ⟨other, hother, hkey, v, hv, rfl⟩ | ⟨hnobody, _⟩
      · have hnames : other.name = slot.name := String.toList_inj.mp (hkey.symm.trans hname)
        obtain rfl := List.inj_on_of_nodup_map hi.distinct hother hslot hnames
        have hgiven : other.given ((key, item) :: rest) = some v := by
          rw [Slot.given, hhere, Option.bind_some, hv]
          rfl
        rw [hlater, hkept, hgiven, hi.get_put other hslot]
        rfl
      · exact absurd hname (hnobody slot hslot)
    -- The entry is another one, and leaves the field alone.
    · have hskip : slot.given ((key, item) :: rest) = slot.given rest := by
        simp [Slot.given, Entries.get?, hname]
      rw [hskip, hlater]
      rcases Slot.set_cases hset with ⟨other, hother, hkey, v, _, rfl⟩ | ⟨_, rfl⟩
      · have hnames : other.name ≠ slot.name := fun heq => hname (heq ▸ hkey)
        rw [hi.get_put_other slot hslot other hother hnames]
      · rfl

/-- A table is read if each slot can read its entry, whatever else it holds. -/
theorem decodeEntries_ok (hdistinct : entries.names.Nodup)
    (h : ∀ slot ∈ slots, slot.Readable entries) (x : α) :
    ∃ y, decodeEntries (Slot.set slots) x entries = .ok y := by
  induction entries generalizing x with
  | nil => exact ⟨x, rfl⟩
  | cons entry rest ih =>
    obtain ⟨key, item⟩ := entry
    obtain ⟨hnew, hrest⟩ := List.nodup_cons.mp hdistinct
    have hhere : ∀ slot ∈ slots, key.name = slot.name.toList → ∃ v, slot.decode item = .ok v := by
      intro slot hslot hname
      apply h slot hslot
      simp [Entries.get?, hname]
    have hlater : ∀ slot ∈ slots, slot.Readable rest := by
      intro slot hslot found hfound
      apply h slot hslot
      have hother : key.name ≠ slot.name.toList := by
        intro hname
        rw [← hname, get?_eq_none hnew] at hfound
        cases hfound
      have hskip : Entries.get? slot.name.toList ((key, item) :: rest) =
          Entries.get? slot.name.toList rest := by
        simp [Entries.get?, hother]
      rw [hskip, hfound]
    obtain ⟨z, hz⟩ := Slot.set_ok hhere x
    obtain ⟨y, hy⟩ := ih hrest hlater z
    refine ⟨y, ?_⟩
    rw [decodeEntries, List.foldlM_cons]
    simp only [hz]
    exact hy

/-- Reading a table fills each slot from the entry of its name. -/
theorem Slot.Independent.decodeEntries_fields (hi : Slot.Independent slots) (hdistinct : entries.names.Nodup)
    (h : ∀ slot ∈ slots, slot.Readable entries) (x : α) :
    ∃ y, decodeEntries (Slot.set slots) x entries = .ok y ∧
      ∀ slot ∈ slots, ∀ value, slot.given entries = value →
        slot.get y = (value.map slot.hold).getD (slot.get x) := by
  obtain ⟨y, hy⟩ := decodeEntries_ok hdistinct h x
  refine ⟨y, hy, ?_⟩
  rintro slot hslot value rfl
  exact hi.field_eq hslot hdistinct hy

/-- Whatever holds of a record before, and is kept by each slot, holds of it after a table is read. -/
theorem Slot.set_keeps {P : α → Prop}
    (h : ∀ slot ∈ slots, ∀ v x, slot.decode item = .ok v → P x → P (slot.put v x)) (hx : P x)
    (hset : Slot.set slots name item x = .ok y) : P y := by
  rcases Slot.set_cases hset with ⟨slot, hslot, _, v, hv, rfl⟩ | ⟨_, rfl⟩
  · exact h slot hslot v x hv hx
  · exact hx

end

end Handoff.Config
