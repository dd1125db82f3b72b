import Handoff.Proofs.Gather.Script
import Handoff.Proofs.Gather.Trace

/-!
What a run tells but for the shutdown channel itself. Two worlds with the same files to come hand a
result file over alike, whatever is requested meanwhile.
-/

namespace Handoff.Gather

/-- The changes of files among some events, with their instants. -/
def timedChanges (events : List TimedEvent) : List (Nat × FileChange) :=
  events.filterMap fun e => e.event.change?.map fun c => (e.instant, c)

/-- A request that was made, or that nobody is left to make one. -/
def Occurrence.isChannel : Occurrence → Bool
  | .triggered _ => true
  | .logged entry => entry = closedEntry
  | _ => false

/-- What a trace tells but for the shutdown channel itself. -/
def Trace.told (trace : Trace) : Trace := trace.filter fun (_, o) => !o.isChannel

/-- Two runs that differ in nothing but what they tell of the shutdown channel itself. -/
structure Run.Alike (a b : Run) : Prop where
  outcome : a.outcome = b.outcome
  elapsed : a.elapsed = b.elapsed
  told : a.trace.told = b.trace.told

section
variable {events other : List TimedEvent} {now : Nat}

theorem timedChanges_append (a b : List TimedEvent) :
    timedChanges (a ++ b) = timedChanges a ++ timedChanges b := List.filterMap_append

theorem mem_timedChanges {change : Nat × FileChange} (h : change ∈ timedChanges events) :
    ∃ e ∈ events, e.instant = change.1 := by
  obtain ⟨e, he, hchange⟩ := List.mem_filterMap.mp h
  obtain ⟨c, _, rfl⟩ := Option.map_eq_some_iff.mp hchange
  exact ⟨e, he, rfl⟩

theorem changes_eq_map (events : List TimedEvent) :
    changes events = (timedChanges events).map Prod.snd := by
  have hchange (e : TimedEvent) :
      (e.event.change?.map fun c => (e.instant, c)).map Prod.snd = e.event.change? := by
    rw [Option.map_map]
    exact Option.map_id'
  rw [changes, timedChanges, List.map_filterMap]
  simp only [hchange]

/-- The changes that are due are those of the instants up to now, and the others are later. -/
theorem timedChanges_split (hc : Chronological events) (now : Nat) :
    timedChanges (due now events) = (timedChanges events).filter (·.1 ≤ now) ∧
      timedChanges (later now events) = (timedChanges events).filter (now < ·.1) := by
  have hdue : ∀ change ∈ timedChanges (due now events), change.1 ≤ now := by
    intro change hchange
    obtain ⟨e, he, hinstant⟩ := mem_timedChanges hchange
    exact hinstant ▸ (mem_due he).2
  have hlater : ∀ change ∈ timedChanges (later now events), now < change.1 := by
    intro change hchange
    obtain ⟨e, he, hinstant⟩ := mem_timedChanges hchange
    exact hinstant ▸ (mem_later hc he).2
  have hsplit :
      timedChanges events = timedChanges (due now events) ++ timedChanges (later now events) := by
    rw [← timedChanges_append, due_append_later]
  have hkept (changes : List (Nat × FileChange)) (p : Nat × FileChange → Bool)
      (h : ∀ change ∈ changes, p change = true) : changes.filter p = changes :=
        List.filter_eq_self.mpr h
  have hlost (changes : List (Nat × FileChange)) (p : Nat × FileChange → Bool)
      (h : ∀ change ∈ changes, ¬ p change = true) : changes.filter p = [] :=
        List.filter_eq_nil_iff.mpr h
  constructor
  · rw [hsplit, List.filter_append, hkept _ _ fun change h => decide_eq_true (hdue change h),
      hlost (timedChanges (later now events)), List.append_nil]
    intro change hchange
    have hlt := hlater change hchange
    simp only [decide_eq_true_eq]
    omega
  · rw [hsplit, List.filter_append, hkept (timedChanges (later now events)) _ fun change h =>
      decide_eq_true (hlater change h), hlost (timedChanges (due now events)), List.nil_append]
    intro change hchange
    have hle := hdue change hchange
    simp only [decide_eq_true_eq]
    omega

theorem changes_due_eq (hc : Chronological events) (hc' : Chronological other)
    (h : timedChanges events = timedChanges other) (now : Nat) :
    changes (due now events) = changes (due now other) := by
  rw [changes_eq_map, changes_eq_map, (timedChanges_split hc now).1, (timedChanges_split hc' now).1, h]

theorem timedChanges_later_eq (hc : Chronological events) (hc' : Chronological other)
    (h : timedChanges events = timedChanges other) (now : Nat) :
    timedChanges (later now events) = timedChanges (later now other) := by
  rw [(timedChanges_split hc now).2, (timedChanges_split hc' now).2, h]

theorem told_append (a b : Trace) : Trace.told (a ++ b) = a.told ++ b.told := List.filter_append ..

/-- Whatever is met, only the shutdown channel tells of it. -/
theorem told_meetAll (w : World) (events : List TimedEvent) : Trace.told (w.meetAll events).2 = [] := by
  rw [Trace.told, List.filter_eq_nil_iff]
  rintro ⟨now, o⟩ ho
  obtain ⟨n, rfl⟩ := meetAll_heard w events _ ho
  nofun

/-- A view that does not look at the shutdown channel finds all in what is told. -/
theorem filterMap_told {α : Type} (view : Nat × Occurrence → Option α) (trace : Trace)
    (hview : ∀ now o, o.isChannel = true → view (now, o) = none) :
    trace.told.filterMap view = trace.filterMap view := by
  rw [Trace.told, List.filterMap_filter]
  congr 1
  funext ⟨now, o⟩
  cases hchannel : o.isChannel with
  | true => simp [hchannel, hview now o hchannel]
  | false => simp [hchannel]

theorem metrics_told (trace : Trace) : trace.told.metrics = trace.metrics := by
  apply filterMap_told
  intro now o hchannel
  cases o with
  | counted metric => cases hchannel
  | _ => rfl

theorem calls_told (trace : Trace) : trace.told.calls = trace.calls := by
  apply filterMap_told
  intro now o hchannel
  cases o with
  | called call => cases hchannel
  | _ => rfl

/-- The log of what is told lacks the entry that nobody is left to request shutdown. -/
theorem log_told (trace : Trace) : trace.told.log = trace.log.filter (·.2 ≠ closedEntry) := by
  rw [Trace.told, Trace.log, Trace.log, List.filterMap_filter, List.filter_filterMap]
  congr 1
  funext ⟨now, o⟩
  cases o with
  | logged entry =>
    by_cases hclosed : entry = closedEntry
    · simp [Occurrence.isChannel, hclosed, Option.filter]
    · simp [Occurrence.isChannel, hclosed, Option.filter]
  | _ => rfl

theorem Run.Alike.after {a b : Run} (h : a.Alike b) {before before' : Trace}
    (ht : before.told = before'.told) : (a.after before).Alike (b.after before') where
  outcome := h.outcome
  elapsed := h.elapsed
  told := by rw [Run.after, Run.after, told_append, told_append, ht, h.told]

end

section
variable {s : Settings} {t : Transmitter} {limit now : Nat} {w w' : World}
    {events other : List TimedEvent}

/-- What happens while the transmitter waits matters only by the files that it reads then. -/
theorem handOver_alike (hfiles : w.files = w'.files) (hc : Chronological events)
    (hc' : Chronological other) (hchanges : timedChanges events = timedChanges other) (phase : Phase)
    (resultFile : Path) :
    (handOver s t limit now phase w events resultFile).Alike
      (handOver s t limit now phase w' other resultFile) := by
  unfold handOver
  rw [hfiles]
  cases Artifact.openFile w'.files resultFile with
  | error cause => exact ⟨rfl, rfl, rfl⟩
  | ok artifact =>
    dsimp only
    have hread :
        (w.meetAll (if t.delay = 0 then [] else due (min (now + t.delay) limit) events)).1.files =
        (w'.meetAll (if t.delay = 0 then [] else due (min (now + t.delay) limit) other)).1.files := by
      rw [meetAll_files, meetAll_files, hfiles]
      split
      · rfl
      · rw [changes_due_eq hc hc' hchanges]
    have hheard (w : World) (meanwhile : List TimedEvent) (opened answer : Trace) :
        Trace.told (opened ++ (w.meetAll meanwhile).2 ++ answer) = opened.told ++ answer.told := by
      rw [told_append, told_append, told_meetAll, List.append_nil]
    have hleft (w : World) (meanwhile : List TimedEvent) (opened : Trace) :
        Trace.told (opened ++ (w.meetAll meanwhile).2) = opened.told := by
      rw [told_append, told_meetAll, List.append_nil]
    rw [hread]
    split
    · exact ⟨rfl, rfl, by rw [hleft, hleft]⟩
    · split
      · exact ⟨rfl, rfl, by rw [hheard, hheard]⟩
      · exact ⟨rfl, rfl, by rw [hheard, hheard]⟩

/-- A look finds the same in the same files, and what it finds is handed over alike. -/
theorem poll_alike (s : Settings) (t : Transmitter) (limit now : Nat) (hfiles : w.files = w'.files)
    (hc : Chronological events) (hc' : Chronological other)
    (hchanges : timedChanges events = timedChanges other) {standing standing' : Standing}
    (hphase : standing.phase = standing'.phase) :
    (∃ r r', poll s t limit now standing w events = .inl r ∧
        poll s t limit now standing' w' other = .inl r' ∧ r.Alike r') ∨
      ∃ looked, poll s t limit now standing w events = .inr looked ∧
        poll s t limit now standing' w' other = .inr looked := by
  unfold poll
  rw [hfiles, hphase]
  cases Waitfile.inspect w'.files s.waitfile with
  | ready resultFile =>
    exact Or.inl ⟨_, _, rfl, rfl, (handOver_alike hfiles hc hc' hchanges _ resultFile).after rfl⟩
  | missing => exact Or.inr ⟨_, rfl, rfl⟩
  | unreadable cause => exact Or.inr ⟨_, rfl, rfl⟩

end

end Handoff.Gather
