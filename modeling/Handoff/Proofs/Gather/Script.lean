import Handoff.Gather.Run
import Mathlib.Data.List.TakeWhile

/-!
What a script of events amounts to: the files at an instant, the first shutdown request that someone is
there to make, and the world that a run has met when it has passed some of the events.
-/

namespace Handoff.Gather

/-- The events come in the order of their instants. -/
def Chronological (events : List TimedEvent) : Prop :=
  events.Pairwise (fun a b => a.instant ≤ b.instant)

instance : DecidablePred Chronological := fun events =>
  inferInstanceAs (Decidable (events.Pairwise (fun a b => a.instant ≤ b.instant)))

/-- What an event does to files. -/
def Event.change? : Event → Option FileChange
  | .change c => some c
  | _ => none

/-- The changes of files among some events. -/
def changes (events : List TimedEvent) : List FileChange := events.filterMap (·.event.change?)

/-- The files after all events up to an instant. -/
def filesAt (files : FileSystem) (events : List TimedEvent) (now : Nat) : FileSystem :=
  files.applyAll (changes (events.filter (·.instant ≤ now)))

/-- The files that a look at an instant sees. The look at 0 comes before any event. -/
def filesSeen (files : FileSystem) (events : List TimedEvent) (now : Nat) : FileSystem :=
  if now = 0 then files else filesAt files events now

/-- The changes that come after the look at one instant and up to another. -/
def changesBetween (events : List TimedEvent) (look upTo : Nat) : List FileChange :=
  if upTo = 0 then []
  else changes (events.filter fun e => (look = 0 ∨ look < e.instant) ∧ e.instant ≤ upTo)

/-- The instant of the first shutdown request that is made while someone can make it. -/
def firstRequest? : List TimedEvent → Option Nat
  | [] => none
  | ⟨_, .change _⟩ :: rest => firstRequest? rest
  | ⟨instant, .trigger⟩ :: _ => some instant
  | ⟨_, .dropSender⟩ :: _ => none

def dropsSender (events : List TimedEvent) : Bool := events.any (·.event = .dropSender)

def World.initial (files : FileSystem) : World := ⟨files, 0, true⟩

theorem changes_append (a b : List TimedEvent) : changes (a ++ b) = changes a ++ changes b :=
  List.filterMap_append

theorem applyAll_append (fs : FileSystem) (a b : List FileChange) :
    fs.applyAll (a ++ b) = (fs.applyAll a).applyAll b := List.foldl_append

theorem firstRequest?_append (a b : List TimedEvent) :
    firstRequest? (a ++ b) =
      match firstRequest? a with
      | some i => some i
      | none => if dropsSender a then none else firstRequest? b := by
  induction a with
  | nil => rfl
  | cons e rest ih =>
    obtain ⟨i, event⟩ := e
    cases event with
    | change c => simpa [firstRequest?, dropsSender] using ih
    | trigger => rfl
    | dropSender => simp [firstRequest?, dropsSender]

theorem firstRequest?_mem {events : List TimedEvent} {i : Nat} (h : firstRequest? events = some i) :
    ∃ e ∈ events, e.instant = i := by
  induction events with
  | nil => cases h
  | cons e rest ih =>
    obtain ⟨j, event⟩ := e
    cases event with
    | change c =>
      obtain ⟨e, he, hi⟩ := ih h
      exact ⟨e, List.mem_cons_of_mem _ he, hi⟩
    | trigger => exact ⟨_, List.mem_cons_self, by simpa [firstRequest?] using h⟩
    | dropSender => cases h

theorem firstRequest?_append_some {a : List TimedEvent} {i : Nat} (b : List TimedEvent)
    (h : firstRequest? a = some i) : firstRequest? (a ++ b) = some i := by
  rw [firstRequest?_append, h]

theorem firstRequest?_append_later {a b : List TimedEvent} {i : Nat} (ha : firstRequest? a = none)
    (h : firstRequest? (a ++ b) = some i) : ∃ e ∈ b, e.instant = i := by
  rw [firstRequest?_append, ha] at h
  by_cases hd : dropsSender a = true
  · simp [hd] at h
  · exact firstRequest?_mem (by simpa [hd] using h)

theorem meetAll_append (w : World) (a b : List TimedEvent) :
    (w.meetAll (a ++ b)).1 = ((w.meetAll a).1.meetAll b).1 := by
  induction a generalizing w with
  | nil => rfl
  | cons e rest ih => exact ih (w.meet e.event).1

theorem meetAll_files (w : World) (events : List TimedEvent) :
    (w.meetAll events).1.files = w.files.applyAll (changes events) := by
  induction events generalizing w with
  | nil => rfl
  | cons e rest ih =>
    obtain ⟨i, event⟩ := e
    refine (ih (w.meet event).1).trans ?_
    cases event with
    | change c => rfl
    | trigger => simp only [World.meet]; split <;> rfl
    | dropSender => rfl

theorem meetAll_alive (w : World) (events : List TimedEvent) :
    (w.meetAll events).1.alive = (w.alive && !dropsSender events) := by
  induction events generalizing w with
  | nil => simp [World.meetAll, dropsSender]
  | cons e rest ih =>
    obtain ⟨i, event⟩ := e
    refine (ih (w.meet event).1).trans ?_
    cases event with
    | change c => simp [World.meet, dropsSender]
    | trigger => simp only [World.meet]; split <;> simp_all [dropsSender]
    | dropSender => simp [World.meet, dropsSender]

theorem meetAll_requests (w : World) (events : List TimedEvent) :
    w.requests ≤ (w.meetAll events).1.requests ∧
      (w.alive = false → (w.meetAll events).1.requests = w.requests) := by
  induction events generalizing w with
  | nil => exact ⟨Nat.le_refl _, fun _ => rfl⟩
  | cons e rest ih =>
    obtain ⟨i, event⟩ := e
    obtain ⟨hle, heq⟩ := ih (w.meet event).1
    cases event with
    | change c => exact ⟨hle, heq⟩
    | trigger =>
      by_cases ha : w.alive = true
      · have hnext : (w.meet .trigger).1.requests = w.requests + 1 := by simp [World.meet, ha]
        rw [hnext] at hle
        exact ⟨Nat.le_of_succ_le hle, fun h => by simp [ha] at h⟩
      · have hnext : (w.meet .trigger).1 = w := by simp [World.meet, ha]
        rw [hnext] at hle heq
        exact ⟨by simpa only [World.meetAll, hnext] using hle,
          fun h => by simpa only [World.meetAll, hnext] using heq h⟩
    | dropSender => exact ⟨hle, fun _ => heq rfl⟩

theorem meetAll_requests_eq_zero_iff {w : World} (events : List TimedEvent) (ha : w.alive = true)
    (hr : w.requests = 0) :
    (w.meetAll events).1.requests = 0 ↔ firstRequest? events = none := by
  -- The events after the first request or the last leaving can no longer change the answer.
  induction events generalizing w with
  | nil => simpa [World.meetAll, firstRequest?] using hr
  | cons e rest ih =>
    obtain ⟨i, event⟩ := e
    cases event with
    | change c => exact ih (w := (w.meet (.change c)).1) ha hr
    | trigger =>
      have hle := (meetAll_requests (w.meet .trigger).1 rest).1
      have hone : (w.meet .trigger).1.requests = 1 := by simp [World.meet, ha, hr]
      rw [hone] at hle
      constructor
      · intro h
        change ((w.meet .trigger).1.meetAll rest).1.requests = 0 at h
        omega
      · intro h
        cases h
    | dropSender =>
      have heq := (meetAll_requests (w.meet .dropSender).1 rest).2 rfl
      exact ⟨fun _ => rfl, fun _ => heq.trans hr⟩

theorem Chronological.append {a b : List TimedEvent} (h : Chronological (a ++ b)) :
    Chronological b := (List.pairwise_append.mp h).2.1

theorem mem_due {now : Nat} {events : List TimedEvent} {e : TimedEvent} (h : e ∈ due now events) :
    e ∈ events ∧ e.instant ≤ now := by
  exact ⟨List.takeWhile_subset _ h, by simpa using List.mem_takeWhile_imp h⟩

theorem mem_later {now : Nat} {events : List TimedEvent} {e : TimedEvent} (hc : Chronological events)
    (h : e ∈ later now events) : e ∈ events ∧ now < e.instant := by
  induction events with
  | nil => cases h
  | cons first rest ih =>
    by_cases hle : first.instant ≤ now
    · obtain ⟨hmem, hlt⟩ := ih hc.of_cons (by simpa [later, hle] using h)
      exact ⟨List.mem_cons_of_mem _ hmem, hlt⟩
    -- The first event that is left is after `now`, and in an ordered script so are all behind it.
    · have hall : later now (first :: rest) = first :: rest := by simp [later, hle]
      rw [hall] at h
      refine ⟨h, ?_⟩
      rcases List.mem_cons.mp h with rfl | hmem
      · omega
      · have := List.rel_of_pairwise_cons hc hmem
        omega

theorem due_append_later (now : Nat) (events : List TimedEvent) :
    due now events ++ later now events = events := List.takeWhile_append_dropWhile

theorem filesAt_eq {files : FileSystem} {past rest : List TimedEvent} {now : Nat}
    (hpast : ∀ e ∈ past, e.instant ≤ now) (hrest : ∀ e ∈ rest, now < e.instant) :
    filesAt files (past ++ rest) now = ((World.initial files).meetAll past).1.files := by
  have hp : past.filter (·.instant ≤ now) = past :=
    List.filter_eq_self.mpr fun e he => by simpa using hpast e he
  have hr : rest.filter (·.instant ≤ now) = [] :=
    List.filter_eq_nil_iff.mpr fun e he => by simpa using hrest e he
  rw [filesAt, List.filter_append, hp, hr, List.append_nil, meetAll_files]
  rfl

theorem filesSeen_of_no_changes (files : FileSystem) {events : List TimedEvent}
    (h : changes events = []) (now : Nat) : filesSeen files events now = files := by
  have hnone : changes (events.filter (·.instant ≤ now)) = [] := by
    simp only [changes, List.filterMap_eq_nil_iff] at h ⊢
    exact fun e he => h e (List.mem_filter.mp he).1
  unfold filesSeen filesAt
  split
  · rfl
  · rw [hnone]
    rfl

/-- What a later look sees is what an earlier one saw, and the changes between them. -/
theorem filesSeen_later (files : FileSystem) {events : List TimedEvent} (hc : Chronological events)
    {look upTo : Nat} (h : look ≤ upTo) :
    filesSeen files events upTo =
      (filesSeen files events look).applyAll (changesBetween events look upTo) := by
  by_cases hzero : upTo = 0
  · have hlook : look = 0 := by omega
    simp only [filesSeen, changesBetween, hzero, hlook, if_true]
    rfl
  by_cases hfirst : look = 0
  · simp only [filesSeen, changesBetween, hzero, hfirst, if_true, if_false, true_or, true_and]
    rfl
  simp only [filesSeen, changesBetween, hzero, hfirst, if_false, false_or, filesAt]
  rw [← applyAll_append, ← changes_append]
  -- The events up to the first look come before all others.
  have hdue : ∀ e ∈ due look events, e.instant ≤ look := fun e he => (mem_due he).2
  have hlater : ∀ e ∈ later look events, look < e.instant := fun e he => (mem_later hc he).2
  have hearly : ((due look events ++ later look events).filter (·.instant ≤ look)) =
      due look events := by
    rw [List.filter_append, List.filter_eq_self.mpr fun e he => by simpa using hdue e he,
      List.filter_eq_nil_iff.mpr fun e he => by simpa using hlater e he, List.append_nil]
  have hlate : ((due look events ++ later look events).filter
      fun e => look < e.instant ∧ e.instant ≤ upTo) =
        (later look events).filter (·.instant ≤ upTo) := by
    rw [List.filter_append, List.filter_eq_nil_iff.mpr fun e he => by
      have := hdue e he
      simp only [decide_eq_true_eq]
      omega, List.nil_append]
    exact List.filter_congr fun e he => by simp [hlater e he]
  rw [← due_append_later look events, hearly, hlate, List.filter_append,
    List.filter_eq_self.mpr fun e he => by simpa using Nat.le_trans (hdue e he) h]

/-- The files at an instant, met by going on from some events that come before it. -/
theorem files_meanwhile (files : FileSystem) (past : List TimedEvent) {rest : List TimedEvent}
    {now : Nat} (hc : Chronological rest) (hpast : ∀ e ∈ past, e.instant ≤ now) :
    (((World.initial files).meetAll past).1.meetAll (due now rest)).1.files =
      filesAt files (past ++ rest) now := by
  -- What is due joins what is passed.
  have hsplit : past ++ rest = (past ++ due now rest) ++ later now rest := by
    rw [List.append_assoc, due_append_later]
  have hle : ∀ e ∈ past ++ due now rest, e.instant ≤ now := by
    intro e he
    rcases List.mem_append.mp he with h | h
    · exact hpast e h
    · exact (mem_due h).2
  rw [hsplit, filesAt_eq hle fun e he => (mem_later hc he).2, meetAll_append]

end Handoff.Gather
