import Handoff.Proofs.Gather.Script
import Handoff.Proofs.Gather.Serving
import Handoff.Proofs.Gather.Trace

/-!
A run while it waits. `Waits` is what holds between two instants: which events are passed, which
looks were made, and how the run stands to shutdown. `Within` is what holds at an instant when some
of its arms are served.
-/

namespace Handoff.Gather

/-- What a look at an instant finds. -/
def lookAt (s : Settings) (files : FileSystem) (events : List TimedEvent) (now : Nat) :
    WaitfileStatus :=
  Waitfile.inspect (filesSeen files events now) s.waitfile

/-- How a run that has passed some events stands to shutdown. -/
def standingAfter (s : Settings) (past : List TimedEvent) : Standing :=
  match firstRequest? past with
  | some i => .granted (i + s.gracePeriod)
  | none => if dropsSender past then .unreachable else .listening

/-- The first `k` looks, and how they are counted. -/
def firstLooks (s : Settings) (files : FileSystem) (events : List TimedEvent) (k : Nat) :
    List (Nat × PollStatus) :=
  (List.range k).map fun j =>
    (j * s.pollInterval, (lookAt s files events (j * s.pollInterval)).counted)

/-- The first `k` looks, none of which found a result file, are all that a trace tells of looks and
uploads. -/
structure Quiet (s : Settings) (files : FileSystem) (events : List TimedEvent) (k : Nat)
    (trace : Trace) : Prop where
  unready : ∀ j < k, ∀ resultFile, lookAt s files events (j * s.pollInterval) ≠ .ready resultFile
  looks : trace.looks = firstLooks s files events k
  handed : trace.handed = []
  sent : trace.sent = []

/-- The run waits: it has passed the events `past` and made `k` looks, all before `upTo`. -/
structure Waits (s : Settings) (clock : Clock) (limit : Nat) (files : FileSystem)
    (events past : List TimedEvent) (k upTo : Nat) (trace : Trace) (st : State) : Prop where
  split : past ++ st.events = events
  past_lt : ∀ e ∈ past, e.instant < upTo
  events_ge : ∀ e ∈ st.events, upTo ≤ e.instant
  world : st.world = ((World.initial files).meetAll past).1
  standing : st.standing = standingAfter s past
  granted : ∀ i, firstRequest? past = some i →
    clock.shows (i + s.gracePeriod) = true ∧ upTo ≤ i + s.gracePeriod
  nextPoll : st.nextPoll = k * s.pollInterval
  looked : ∀ j < k, j = 0 ∨ j * s.pollInterval < upTo
  upTo_le : upTo ≤ k * s.pollInterval
  upTo_le_limit : upTo ≤ limit + 1
  pos : 0 < k
  quiet : Quiet s files events k trace

/-- The run waits, with some events passed and some looks made. -/
def Waiting (s : Settings) (clock : Clock) (limit : Nat) (files : FileSystem)
    (events : List TimedEvent) (trace : Trace) (st : State) : Prop :=
  ∃ past k upTo, Waits s clock limit files events past k upTo trace st

/-- The look at one instant comes before a request of another is taken. -/
def Schedule.BeforeRequest (schedule : Schedule) (look request : Nat) : Prop :=
  look = 0 ∨ look < request ∨ look = request ∧ schedule request = .beforeRequest

/-- The look at one instant comes before a deadline at another ends the run. -/
def Schedule.BeforeDeadline (schedule : Schedule) (look deadline : Nat) : Prop :=
  look = 0 ∨ look < deadline ∨ look = deadline ∧ schedule deadline ≠ .afterDeadline

/-- The events that a run knows of when it has served some arms: those of its instant count for a
shutdown request only when that is taken. -/
def known (served : List Arm) (past fresh : List TimedEvent) : List TimedEvent :=
  if Arm.request ∈ served then past ++ fresh else past

/-- The run is at the instant `now`. It has met all events up to then, of which `fresh` are new, and
served some arms. -/
structure Within (s : Settings) (clock : Clock) (files : FileSystem)
    (events past fresh : List TimedEvent) (k now : Nat) (served : List Arm) (trace : Trace)
    (st : State) : Prop where
  split : (past ++ fresh) ++ st.events = events
  past_lt : ∀ e ∈ past, e.instant < now
  fresh_eq : ∀ e ∈ fresh, e.instant = now
  rest_gt : ∀ e ∈ st.events, now < e.instant
  world : st.world = ((World.initial files).meetAll (past ++ fresh)).1
  standing : st.standing = standingAfter s (known served past fresh)
  granted : ∀ i, firstRequest? (known served past fresh) = some i →
    clock.shows (i + s.gracePeriod) = true ∧
      (now < i + s.gracePeriod ∨ now = i + s.gracePeriod ∧ Arm.deadline ∉ served)
  nextPoll : st.nextPoll = k * s.pollInterval
  looked : ∀ j, j < k ↔
    j * s.pollInterval = 0 ∨ j * s.pollInterval < now ∨ j * s.pollInterval = now ∧ Arm.look ∈ served
  quiet : Quiet s files events k trace

section
variable {s : Settings} {t : Transmitter} {clock : Clock} {limit : Nat} {files : FileSystem}
  {events past rest : List TimedEvent} {k upTo now : Nat} {trace : Trace} {st : State}

theorem firstLooks_succ (s : Settings) (files : FileSystem) (events : List TimedEvent) (k : Nat) :
    firstLooks s files events (k + 1) = firstLooks s files events k ++
      [(k * s.pollInterval, (lookAt s files events (k * s.pollInterval)).counted)] := by
  rw [firstLooks, List.range_succ, List.map_append]
  rfl

theorem Quiet.append (h : Quiet s files events k trace) {more : Trace} (hm : more.Silent) :
    Quiet s files events k (trace ++ more) where
  unready := h.unready
  looks := by rw [looks_append, h.looks, hm.looks, List.append_nil]
  handed := by rw [handed_append, h.handed, hm.handed]; rfl
  sent := by rw [sent_append, h.sent, hm.sent]; rfl

theorem Quiet.look (h : Quiet s files events k trace) {more : Trace}
    (hu : ∀ resultFile, lookAt s files events (k * s.pollInterval) ≠ .ready resultFile)
    (hl : more.looks =
      [(k * s.pollInterval, (lookAt s files events (k * s.pollInterval)).counted)])
    (hh : more.handed = []) (hs : more.sent = []) : Quiet s files events (k + 1) (trace ++ more) where
  unready := by
    intro j hj
    rcases Nat.lt_succ_iff_lt_or_eq.mp hj with hlt | rfl
    · exact h.unready j hlt
    · exact hu
  looks := by rw [looks_append, h.looks, hl, firstLooks_succ]
  handed := by rw [handed_append, h.handed, hh]; rfl
  sent := by rw [sent_append, h.sent, hs]; rfl

theorem Quiet.handed_found (h : Quiet s files events k trace) (now : Nat) (resultFile : Path)
    (more : Trace) :
    Trace.handed ((trace ++ atInstant now (lookTold s (.ready resultFile))) ++ more) = more.handed := by
  rw [handed_append, handed_append, h.handed]
  rfl

theorem instant_le_nextPoll (st : State) : st.instant ≤ st.nextPoll := by
  unfold State.instant
  split <;> split <;> dsimp only <;> omega

theorem instant_le_deadline {deadline : Nat} (h : st.standing = .granted deadline) :
    st.instant ≤ deadline := by
  unfold State.instant
  rw [h]
  exact Nat.min_le_right _ _

theorem instant_le_event (hc : Chronological st.events) {e : TimedEvent} (he : e ∈ st.events) :
    st.instant ≤ e.instant := by
  obtain ⟨w, standing, nextPoll, events⟩ := st
  cases events with
  | nil => cases he
  | cons first rest =>
    have hfirst : first.instant ≤ e.instant := by
      rcases List.mem_cons.mp he with rfl | hmem
      · exact Nat.le_refl _
      · exact List.rel_of_pairwise_cons hc hmem
    have hmin : State.instant ⟨w, standing, nextPoll, first :: rest⟩ ≤ first.instant := by
      cases standing <;> simp only [State.instant] <;> omega
    exact Nat.le_trans hmin hfirst

theorem le_instant {n : Nat} (hp : n ≤ st.nextPoll) (he : ∀ e ∈ st.events, n ≤ e.instant)
    (hs : ∀ deadline, st.standing = .granted deadline → n ≤ deadline) : n ≤ st.instant := by
  obtain ⟨w, standing, nextPoll, events⟩ := st
  cases events with
  | nil =>
    cases standing with
    | granted deadline => exact Nat.le_min.mpr ⟨hp, hs deadline rfl⟩
    | _ => exact hp
  | cons first rest =>
    have hfirst : n ≤ min nextPoll first.instant :=
      Nat.le_min.mpr ⟨hp, he first List.mem_cons_self⟩
    cases standing with
    | granted deadline => exact Nat.le_min.mpr ⟨hfirst, hs deadline rfl⟩
    | _ => exact hfirst

theorem standingAfter_granted {i : Nat} (h : firstRequest? past = some i) :
    standingAfter s past = .granted (i + s.gracePeriod) := by
  simp only [standingAfter, h]

theorem standingAfter_waiting (h : firstRequest? past = none) :
    standingAfter s past = if dropsSender past then .unreachable else .listening := by
  simp only [standingAfter, h]

theorem request_of_granted {deadline : Nat} (h : standingAfter s past = .granted deadline) :
    ∃ i, firstRequest? past = some i ∧ deadline = i + s.gracePeriod := by
  cases hpast : firstRequest? past with
  | some i =>
    rw [standingAfter_granted hpast] at h
    exact ⟨i, rfl, (Standing.granted.inj h).symm⟩
  | none =>
    rw [standingAfter_waiting hpast] at h
    split at h <;> cases h

def requestTold (s : Settings) : List Occurrence :=
  [.counted .gracePeriodStarted, .logged (requestedEntry s)]

theorem attend_none {w : World} (h : w.requests = 0) :
    attend s clock now w .listening =
      .ok (if w.alive then .listening else .unreachable,
        if w.alive then [] else [.logged closedEntry]) := by
  obtain ⟨files, requests, alive⟩ := w
  subst h
  cases alive <;> rfl

/-- Requests that were made before are one to a run that listens, however many they are. -/
theorem attend_some {w : World} (h : w.requests ≠ 0) :
    attend s clock now w .listening =
      if clock.shows (now + s.gracePeriod) then .ok (.granted (now + s.gracePeriod),
        requestTold s ++ [.logged (changeEntry .waiting .gracePeriod)])
      else .error (.deadlineOverflow, requestTold s) := by
  have hle : ¬ w.requests ≤ 0 := by omega
  -- A receiver that lags behind is told so, and takes that for a request.
  have hreceive : (Shutdown.receive w.requests w.alive 0).1 = .ok ∨
      (Shutdown.receive w.requests w.alive 0).1 = .lagged (w.requests - 0 - 1) := by
    unfold Shutdown.receive
    rw [if_neg hle]
    split
    · exact Or.inl rfl
    · exact Or.inr rfl
  rcases hreceive with hr | hr <;> simp only [attend, hr] <;> rfl

/-- Taking a shutdown request, if one is there, keeps `standingAfter`, unless the clock cannot show the
deadline. The events that are new all belong to the same instant. -/
theorem attend_cases (s : Settings) (clock : Clock) (files : FileSystem) (past : List TimedEvent)
    {fresh : List TimedEvent} {now : Nat} (hfresh : ∀ e ∈ fresh, e.instant = now) :
    let w := ((World.initial files).meetAll (past ++ fresh)).1
    (∃ told, attend s clock now w (standingAfter s past) =
        .ok (standingAfter s (past ++ fresh), told) ∧ Trace.Silent (atInstant now told) ∧
        (firstRequest? past = none → ∀ i, firstRequest? (past ++ fresh) = some i →
          i = now ∧ clock.shows (now + s.gracePeriod) = true)) ∨
      (∃ told, attend s clock now w (standingAfter s past) = .error (.deadlineOverflow, told) ∧
        Trace.Silent (atInstant now told) ∧ firstRequest? past = none ∧
        firstRequest? (past ++ fresh) = some now ∧ clock.shows (now + s.gracePeriod) = false) := by
  intro w
  have halive : w.alive = !dropsSender (past ++ fresh) := meetAll_alive _ _
  have hrequests : w.requests = 0 ↔ firstRequest? (past ++ fresh) = none :=
    meetAll_requests_eq_zero_iff _ rfl rfl
  cases hpast : firstRequest? past with
  | some i =>
    -- The grace period runs, and no later request counts.
    rw [standingAfter_granted hpast, standingAfter_granted (firstRequest?_append_some fresh hpast)]
    exact Or.inl ⟨[], rfl, Trace.Silent.nil, fun h => by cases h⟩
  | none =>
    rw [standingAfter_waiting hpast]
    by_cases hdropped : dropsSender past = true
    -- Nobody is left to request anything.
    · have hnone : firstRequest? (past ++ fresh) = none := by
        rw [firstRequest?_append, hpast]
        simp only [hdropped, if_true]
      have hmore : dropsSender (past ++ fresh) = true := by
        rw [dropsSender, List.any_append, ← dropsSender, hdropped, Bool.true_or]
      rw [standingAfter_waiting hnone, hdropped, hmore]
      exact Or.inl ⟨[], rfl, Trace.Silent.nil, fun _ i h => by rw [hnone] at h; cases h⟩
    -- The run listens, and the new events decide what it hears.
    · rw [if_neg hdropped]
      cases hafter : firstRequest? (past ++ fresh) with
      | none =>
        rw [attend_none (hrequests.mpr hafter), standingAfter_waiting hafter, halive]
        refine Or.inl ⟨if dropsSender (past ++ fresh) then [.logged closedEntry] else [], ?_, ?_,
          fun _ i h => by cases h⟩
        · cases dropsSender (past ++ fresh) <;> rfl
        · cases dropsSender (past ++ fresh) <;> exact ⟨rfl, rfl, rfl⟩
      | some i =>
        have hi : i = now := by
          obtain ⟨e, he, hinstant⟩ := firstRequest?_append_later hpast hafter
          exact hinstant.symm.trans (hfresh e he)
        subst hi
        have hsome : w.requests ≠ 0 := fun h => by rw [hrequests.mp h] at hafter; cases hafter
        rw [attend_some hsome, standingAfter_granted hafter]
        cases hshows : clock.shows (i + s.gracePeriod) with
        | true => exact Or.inl ⟨_, rfl, ⟨rfl, rfl, rfl⟩, fun _ j h => ⟨(Option.some.inj h).symm, rfl⟩⟩
        | false => exact Or.inr ⟨_, rfl, ⟨rfl, rfl, rfl⟩, rfl, rfl, rfl⟩

end

end Handoff.Gather
