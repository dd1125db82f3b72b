import Handoff.Proofs.Config.RoundTrip
import Handoff.Proofs.Config.Schema

/-!
A configuration that was read can be written: its paths were texts, and its numbers were integers of 64 bits
with a sign. The defaults keep to this, and so does each setting that is filled in from a document.
-/

namespace Handoff

open Toml Config

structure WaitfileSection.Writable (s : WaitfileSection) : Prop where
  path : IsText s.path
  pollIntervalMs : s.pollIntervalMs < Nat.pow 2 63

structure ShutdownSection.Writable (s : ShutdownSection) : Prop where
  gracePeriodSecs : s.gracePeriodSecs < Nat.pow 2 63

structure TransmitSection.Writable (s : TransmitSection) : Prop where
  connectTimeoutSecs : s.connectTimeoutSecs < Nat.pow 2 63
  requestTimeoutSecs : s.requestTimeoutSecs < Nat.pow 2 63
  caCertPath : ∀ p ∈ s.caCertPath, IsText p
  clientCertPath : ∀ p ∈ s.clientCertPath, IsText p
  clientKeyPath : ∀ p ∈ s.clientKeyPath, IsText p

namespace Config

/-- A document can hold the paths and the numbers. -/
structure Writable (c : Config) : Prop where
  waitfile : c.waitfile.Writable
  shutdown : c.shutdown.Writable
  transmit : c.transmit.Writable

/-- What is filled in from a document keeps what holds of the record. -/
def Slot.Keeps {α : Type} (P : α → Prop) (slot : Slot α) : Prop :=
  ∀ item v x, item.Sound → slot.decode item = .ok v → P x → P (slot.put v x)

section
variable {α : Type} {P : α → Prop} {slots : List (Slot α)} (hslots : ∀ slot ∈ slots, slot.Keeps P) {x y : α}
include hslots

theorem decodeEntries_keeps {entries : Entries} (hall : ∀ entry ∈ entries, entry.2.Sound) (hx : P x)
    (h : decodeEntries (Slot.set slots) x entries = .ok y) : P y := by
  induction entries generalizing x with
  | nil =>
    cases h
    exact hx
  | cons entry rest ih =>
    obtain ⟨z, hset, hdone⟩ := decodeEntries_cons h
    have hitem : entry.2.Sound := hall entry List.mem_cons_self
    have hz : P z := Slot.set_keeps (fun slot hslot v x hv => hslots slot hslot _ v x hitem hv) hx hset
    exact ih (fun other hother => hall other (List.mem_cons_of_mem entry hother)) hz hdone

theorem decodeItems_keeps {names : List String} {items : List Item} (hall : ∀ item ∈ items, item.Sound)
    (hx : P x) (h : decodeItems (Slot.set slots) names x items = .ok y) : P y := by
  induction names generalizing items x with
  | nil =>
    cases h
    exact hx
  | cons name names ih =>
    cases items with
    | nil =>
      cases h
      exact hx
    | cons item items =>
      rw [decodeItems, List.zip_cons_cons, List.foldlM_cons] at h
      have hitem : item.Sound := hall item List.mem_cons_self
      cases hset : Slot.set slots name.toList item x with
      | error fault =>
        simp only [hset] at h
        cases h
      | ok z =>
        simp only [hset] at h
        have hz : P z := Slot.set_keeps (fun slot hslot v x hv => hslots slot hslot _ v x hitem hv) hx hset
        exact ih (fun other hother => hall other (List.mem_cons_of_mem item hother)) hz h

theorem decodeSection_keeps {names : List String} {expected : String} {item : Item} (hitem : item.Sound)
    (hx : P x) (h : decodeSection (Slot.set slots) names expected x item = .ok y) : P y := by
  unfold decodeSection at h
  split at h
  · exact decodeEntries_keeps hslots hitem.content.all hx h
  · cases hitem with
    | array all => exact decodeItems_keeps hslots all hx h
  · exact decodeItems_keeps hslots hitem.elements hx h
  · cases h
    exact hx
  · cases h

end

/-- A section that keeps what holds of it keeps what holds of the configuration. -/
theorem sectionSlot_keeps {α : Type} {P : α → Prop} {Q : Config → Prop} {name expected : String}
    {slots : List (Slot α)} {start : α} {put : α → Config → Config} {get : Config → α} (hstart : P start)
    (hslots : ∀ slot ∈ slots, slot.Keeps P) (hput : ∀ s c, P s → Q c → Q (put s c)) :
    (sectionSlot name expected slots start put get).Keeps Q := by
  intro item s c hitem hdecode hc
  exact hput s c (decodeSection_keeps hslots hitem hstart hdecode) hc

theorem decodePath_isText {item : Item} {p : Path} (h : decodePath item = .ok p) : IsText p := by
  unfold decodePath at h
  cases htext : decodeText "path string" item with
  | error fault =>
    rw [htext] at h
    cases h
  | ok cs =>
    rw [htext] at h
    cases h
    exact ⟨String.ofList cs, by rw [Path.ofString, String.toList_ofList]⟩

theorem decodeNat_lt {item : Item} {n : Nat} (hitem : item.Sound) (h : decodeNat item = .ok n) :
    n < Nat.pow 2 63 := by
  unfold decodeNat at h
  split at h
  · rename_i m _
    cases hitem with
    | scalar fits =>
      have hm : m < (Nat.pow 2 63 : Nat) := fits m rfl
      split at h
      · cases h
      · obtain rfl := Except.ok.inj h
        omega
  · cases h

theorem isText_some {p : Path} (h : IsText p) : ∀ q ∈ some p, IsText q := by
  rintro _ ⟨⟩
  exact h

theorem waitfileSlots_keep : ∀ slot ∈ waitfileSlots, slot.Keeps WaitfileSection.Writable := by
  simp only [waitfileSlots, List.forall_mem_cons]
  refine ⟨?path, ?interval, List.forall_mem_nil _⟩
  case path => exact fun item path s hitem hdecode hs => { hs with path := decodePath_isText hdecode }
  case interval => exact fun item n s hitem hdecode hs =>
    { hs with pollIntervalMs := decodeNat_lt hitem hdecode }

theorem shutdownSlots_keep : ∀ slot ∈ shutdownSlots, slot.Keeps ShutdownSection.Writable := by
  simp only [shutdownSlots, List.forall_mem_cons]
  exact ⟨fun item n s hitem hdecode hs => ⟨decodeNat_lt hitem hdecode⟩, List.forall_mem_nil _⟩

theorem transmitSlots_keep : ∀ slot ∈ transmitSlots, slot.Keeps TransmitSection.Writable := by
  simp only [transmitSlots, List.forall_mem_cons]
  refine ⟨?connect, ?request, ?ca, ?cert, ?key, List.forall_mem_nil _⟩
  case connect => exact fun item n s hitem hdecode hs =>
    { hs with connectTimeoutSecs := decodeNat_lt hitem hdecode }
  case request => exact fun item n s hitem hdecode hs =>
    { hs with requestTimeoutSecs := decodeNat_lt hitem hdecode }
  case ca => exact fun item p s hitem hdecode hs =>
    { hs with caCertPath := isText_some (decodePath_isText hdecode) }
  case cert =>
    exact fun item p s hitem hdecode hs =>
      { hs with clientCertPath := isText_some (decodePath_isText hdecode) }
  case key =>
    exact fun item p s hitem hdecode hs => { hs with clientKeyPath := isText_some (decodePath_isText hdecode) }

theorem writable_default : Writable {} where
  waitfile := ⟨⟨_, rfl⟩, by decide⟩
  shutdown := ⟨by decide⟩
  transmit := ⟨by decide, by decide, nofun, nofun, nofun⟩

theorem sections_keep : ∀ slot ∈ sections, slot.Keeps Writable := by
  have hdefault := writable_default
  simp only [sections, List.forall_mem_cons]
  refine ⟨?waitfile, ?aggregator, ?shutdown, ?transmit, ?observability, List.forall_mem_nil _⟩
  case waitfile =>
    exact sectionSlot_keeps hdefault.waitfile waitfileSlots_keep fun s c hs hc => { hc with waitfile := hs }
  case aggregator =>
    intro item s c _ _ hc
    exact { hc with }
  case shutdown =>
    exact sectionSlot_keeps hdefault.shutdown shutdownSlots_keep fun s c hs hc => { hc with shutdown := hs }
  case transmit =>
    exact sectionSlot_keeps hdefault.transmit transmitSlots_keep fun s c hs hc => { hc with transmit := hs }
  case observability =>
    intro item s c _ _ hc
    exact { hc with }

/-- What is read from a document can be written as one. -/
theorem parse_writable {text : List Char} {c : Config} (h : parse text = .ok c) : c.Writable := by
  unfold parse at h
  split at h
  · cases h
  · rename_i entries hread
    split at h
    · rename_i hdecode
      obtain rfl := Except.ok.inj h
      rw [decode, setSection_eq] at hdecode
      exact decodeEntries_keeps sections_keep (read?_sound hread).all writable_default hdecode
    · cases h

section
variable {c : Config} (h : c.Writable)
include h

theorem Writable.paths : ∀ p ∈ c.paths, IsText p := by
  obtain ⟨hwaitfile, _, htransmit⟩ := h
  intro p hp
  simp only [Config.paths, List.mem_cons, List.mem_append, Option.mem_toList] at hp
  rcases hp with rfl | (hca | hcert) | hkey
  · exact hwaitfile.path
  · exact htransmit.caCertPath p hca
  · exact htransmit.clientCertPath p hcert
  · exact htransmit.clientKeyPath p hkey

theorem Writable.numbers : ∀ n ∈ c.numbers, n < Nat.pow 2 63 := by
  obtain ⟨hwaitfile, hshutdown, htransmit⟩ := h
  simp only [Config.numbers, List.forall_mem_cons]
  exact ⟨hwaitfile.pollIntervalMs, hshutdown.gracePeriodSecs, htransmit.connectTimeoutSecs,
    htransmit.requestTimeoutSecs, List.forall_mem_nil _⟩

/-- The document that is written reads back as the configuration, below a comment too. -/
theorem Writable.parse_text_commented : ∃ text, c.text = .ok text ∧
    ∀ comment : List Char, (∀ d ∈ comment, isPlain d = true) →
      parse ('#' :: comment ++ '\n' :: (text.toList ++ ['\n'])) = .ok c := by
  have hencode := encode_roundTrips h.paths
  obtain ⟨sections, hsections⟩ := hencode.ok_iff.mpr h.numbers
  refine ⟨String.ofList (write sections), ?_, ?_⟩
  · rw [text, hsections]
    rfl
  · intro comment hcomment
    rw [String.toList_ofList]
    exact (hencode.restores sections hsections).parse_commented (by decide) hcomment

end

end Config

end Handoff
