import Handoff.Gather.Entries
import Handoff.Shutdown.Receiver

/-!
Gathering results. The waitfile is looked at at fixed intervals until it names a result file, which is
then handed to the transmitter, once. The first shutdown request starts a grace period; when that ends
first, the run gives up. Time is a count of milliseconds, and nothing takes time but waiting.
-/

namespace Handoff.Gather

def due (now : Nat) (events : List TimedEvent) : List TimedEvent :=
  events.takeWhile (fun e => e.instant ≤ now)

def later (now : Nat) (events : List TimedEvent) : List TimedEvent :=
  events.dropWhile (fun e => e.instant ≤ now)

/-- The files, and the sending end of the shutdown channel. -/
structure World where
  files : FileSystem
  -- The number of shutdown requests so far.
  requests : Nat
  -- Whether anyone can still request shutdown.
  alive : Bool

def World.meet (w : World) : Event → World × List Occurrence
  | .change c => ({ w with files := w.files.apply c }, [])
  | .trigger => if w.alive then ({ w with requests := w.requests + 1 }, [.triggered 1]) else (w, [])
  | .dropSender => ({ w with alive := false }, [])

def World.meetAll (w : World) : List TimedEvent → World × Trace
  | [] => (w, [])
  | e :: rest =>
    let (next, occurrences) := w.meet e.event
    let (last, trace) := next.meetAll rest
    (last, atInstant e.instant occurrences ++ trace)

/-- How a run that is waiting stands to shutdown. -/
inductive Standing
  -- It will take a request.
  | listening
  -- Nobody can request it any more.
  | unreachable
  -- It was requested, and the grace period ends then.
  | granted (deadline : Nat)
deriving DecidableEq, Repr

def Standing.phase : Standing → Phase
  | granted _ => .gracePeriod
  | _ => .waiting

def Standing.isOver (now : Nat) : Standing → Bool
  | granted deadline => deadline ≤ now
  | _ => false

/-- The clock of a run: what it shows at the start, in milliseconds. It counts seconds in 63 bits. -/
structure Clock where
  origin : Nat

def Clock.shows (clock : Clock) (instant : Nat) : Bool := (clock.origin + instant) / 1000 < Nat.pow 2 63

def attend (s : Settings) (clock : Clock) (now : Nat) (w : World) :
    Standing → Except (Fault × List Occurrence) (Standing × List Occurrence)
  | .listening =>
    match (Shutdown.receive w.requests w.alive 0).1 with
    | .empty => .ok (.listening, [])
    | .closed => .ok (.unreachable, [.logged closedEntry])
    | .ok | .lagged _ =>
      let told := [Occurrence.counted .gracePeriodStarted, .logged (requestedEntry s)]
      if clock.shows (now + s.gracePeriod) then
        .ok (.granted (now + s.gracePeriod), told ++ [.logged (changeEntry .waiting .gracePeriod)])
      else .error (.deadlineOverflow, told)
  | standing => .ok (standing, [])

/-- Opens the result file and hands it to the transmitter. Events go on while the transmitter waits. -/
def handOver (s : Settings) (t : Transmitter) (limit now : Nat) (phase : Phase) (w : World)
    (events : List TimedEvent) (resultFile : Handoff.Path) : Run :=
  let begun := [Occurrence.logged (detectedEntry resultFile), .logged (changeEntry phase .transmitting)]
  -- The file is opened with the names as they are now, and read when the transmitter has waited.
  let finished := Occurrence.logged (changeEntry .transmitting .done)
  match Artifact.openFile w.files resultFile with
  | .error cause =>
    let failure := Failure.unopened resultFile cause
    ⟨.failed failure, now, atInstant now (begun ++
      [.counted (.transmission .openFailed), .logged (unopenedEntry failure), finished])⟩
  | .ok artifact =>
    let opened := atInstant now (begun ++
      [.logged (openedEntry artifact), .logged (transmittingEntry s artifact), .handed s.url artifact])
    let delivered := now + t.delay
    let meanwhile := if t.delay = 0 then [] else due (min delivered limit) events
    let (w, heard) := w.meetAll meanwhile
    if limit < delivered then ⟨.stillRunning, limit, opened ++ heard⟩
    else
      let call : Call :=
        ⟨s.url, resultFile, artifact.contentType, artifact.size, artifact.readAll w.files⟩
      let delivery := t.deliver call
      let sent := Occurrence.called call :: delivery.entries.map .logged
      match delivery.result with
      | .ok () =>
        ⟨.transmitted resultFile, delivered, opened ++ heard ++ atInstant delivered (sent ++
          [.counted (.transmission .success), .logged (transmittedEntry s), finished])⟩
      | .error cause =>
        ⟨.failed (.upload cause), delivered, opened ++ heard ++ atInstant delivered (sent ++
          [.counted (.transmission .failure), .logged (failedEntry s cause), finished])⟩

/-- What a look at the waitfile tells. -/
def lookTold (s : Settings) (status : WaitfileStatus) : List Occurrence :=
  [.looked status, .counted (.poll status.counted)] ++ match status with
    | .unreadable cause => [.logged (unreadableEntry s cause)]
    | _ => []

/-- Looks at the waitfile, and hands the result file over if it names one. -/
def poll (s : Settings) (t : Transmitter) (limit now : Nat) (standing : Standing) (w : World)
    (events : List TimedEvent) : Run ⊕ List Occurrence :=
  match Waitfile.inspect w.files s.waitfile with
  | .ready resultFile =>
    .inl ((handOver s t limit now standing.phase w events resultFile).after
      (atInstant now (lookTold s (.ready resultFile))))
  | status => .inr (lookTold s status)

/-- A run between two instants, while it waits. -/
structure State where
  world : World
  standing : Standing
  nextPoll : Nat
  events : List TimedEvent

def State.instant (st : State) : Nat :=
  let first := match st.events with
    | e :: _ => min st.nextPoll e.instant
    | [] => st.nextPoll
  match st.standing with
  | .granted deadline => min first deadline
  | _ => first

/-- What a run that waits reacts to. -/
inductive Arm
  -- It is time to look at the waitfile.
  | look
  -- Shutdown is requested, or can no longer be.
  | request
  -- The grace period is over.
  | deadline
deriving DecidableEq, Repr

/-- Where a look comes among all that is ready at its instant. Whatever is ready may be served
first, with no preference. But a grace period ends only when its request was served, and then no
request is, so a look that is due comes before both, between them or after both. -/
inductive Turn
  | beforeRequest
  | afterRequest
  | afterDeadline
deriving DecidableEq, Repr

def Turn.arms : Turn → List Arm
  | beforeRequest => [.look, .request, .deadline]
  | afterRequest => [.request, .look, .deadline]
  | afterDeadline => [.request, .deadline, .look]

/-- The turn of the look at each instant. -/
abbrev Schedule := Nat → Turn

/-- The schedule that never lets a look go before a request, or a deadline before a look. -/
def Schedule.inOrder : Schedule := fun _ => .afterRequest

/-- Serves an arm, if it is ready. -/
def serve (s : Settings) (t : Transmitter) (clock : Clock) (limit now : Nat) (st : State) :
    Arm → Run ⊕ (State × Trace)
  | .look =>
    if st.nextPoll = now then
      match poll s t limit now st.standing st.world st.events with
      | .inl run => .inl run
      | .inr looked =>
        .inr ({ st with nextPoll := st.nextPoll + s.pollInterval }, atInstant now looked)
    else .inr (st, [])
  | .request =>
    match attend s clock now st.world st.standing with
    | .error (fault, told) => .inl ⟨.broken fault, now, atInstant now told⟩
    | .ok (standing, told) => .inr ({ st with standing := standing }, atInstant now told)
  | .deadline =>
    if st.standing.isOver now then
      .inl ⟨.timedOut, now,
        atInstant now [.logged timedOutEntry, .logged (changeEntry .gracePeriod .aborted)]⟩
    else .inr (st, [])

/-- What follows a trace: the end of a run, or a state in which it waits on and what it tells until
then. -/
def following (trace : Trace) : Run ⊕ (State × Trace) → Run ⊕ (State × Trace)
  | .inl run => .inl (run.after trace)
  | .inr (st, more) => .inr (st, trace ++ more)

def serveAll (s : Settings) (t : Transmitter) (clock : Clock) (limit now : Nat) (st : State) :
    List Arm → Run ⊕ (State × Trace)
  | [] => .inr (st, [])
  | arm :: rest =>
    match serve s t clock limit now st arm with
    | .inl run => .inl run
    | .inr (next, trace) => following trace (serveAll s t clock limit now next rest)

/-- A state after the events of an instant, and what they tell. -/
def State.meetDue (now : Nat) (st : State) : State × Trace :=
  let (w, heard) := st.world.meetAll (due now st.events)
  ({ st with world := w, events := later now st.events }, heard)

/-- What a run does at its next instant. The events of an instant have all happened when the run reacts,
and it serves all that is ready, in the order of its schedule, before it waits again. At the instant
`limit` it is left, when it waits. -/
def step (s : Settings) (t : Transmitter) (clock : Clock) (schedule : Schedule) (limit : Nat)
    (st : State) : Run ⊕ (State × Trace) :=
  let now := st.instant
  if limit < now then .inl ⟨.stillRunning, limit, []⟩
  else
    let (reached, heard) := st.meetDue now
    following heard (serveAll s t clock limit now reached (schedule now).arms)

/-- What is left of a run: its events, and the time until `limit`. -/
def State.remaining (limit : Nat) (st : State) : Nat := st.events.length + (limit + 1 - st.nextPoll)

theorem attend_isOver {s : Settings} {clock : Clock} {now : Nat} {w : World} {a b : Standing}
    {told : List Occurrence} (h : attend s clock now w a = .ok (b, told)) (hb : b.isOver now = false) :
    a.isOver now = false := by
  cases a with
  | granted d =>
    simp only [attend, Except.ok.injEq, Prod.mk.injEq] at h
    rw [← h.1] at hb; exact hb
  | _ => rfl

theorem not_isOver_granted {now deadline : Nat} (h : (Standing.granted deadline).isOver now = false) :
    now < deadline := by
  simpa [Standing.isOver] using h

theorem later_length (now : Nat) (events : List TimedEvent) :
    (later now events).length ≤ events.length := by
  induction events with
  | nil => simp [later]
  | cons e rest ih =>
    simp only [later, List.dropWhile] at ih ⊢
    split
    · exact Nat.le_succ_of_le ih
    · simp

/-- If neither a poll nor the deadline is due at the next instant, an event is. -/
theorem later_instant_length {st : State} (hp : st.nextPoll ≠ st.instant)
    (hs : st.standing.isOver st.instant = false) :
    (later st.instant st.events).length < st.events.length := by
  obtain ⟨w, standing, nextPoll, events⟩ := st
  cases events with
  | nil =>
    cases standing with
    | granted deadline =>
      have hd := not_isOver_granted hs
      simp only [State.instant] at hp hd
      omega
    | _ => exact absurd rfl hp
  | cons e rest =>
    have he : e.instant ≤ State.instant ⟨w, standing, nextPoll, e :: rest⟩ := by
      cases standing with
      | granted deadline =>
        have hd := not_isOver_granted hs
        simp only [State.instant] at hp hd ⊢
        omega
      | _ => simp only [State.instant] at hp ⊢; omega
    have := later_length (State.instant ⟨w, standing, nextPoll, e :: rest⟩) rest
    simp only [later, List.dropWhile, he, decide_true, List.length_cons] at this ⊢
    omega

section
variable {s : Settings} {t : Transmitter} {clock : Clock} {schedule : Schedule} {limit now : Nat}
  {st st' : State} {trace : Trace}

/-- What serving an arm changes if the run waits on. -/
theorem serve_inr {arm : Arm} (h : serve s t clock limit now st arm = .inr (st', trace)) :
    match arm with
    | .look => st' =
        { st with nextPoll := if st.nextPoll = now then st.nextPoll + s.pollInterval else st.nextPoll }
    | .request => ∃ standing told, attend s clock now st.world st.standing = .ok (standing, told) ∧
        st' = { st with standing := standing } ∧ trace = atInstant now told
    | .deadline => st.standing.isOver now = false ∧ st' = st ∧ trace = [] := by
  cases arm with
  | look =>
    simp only [serve] at h
    split at h
    · rename_i hnext
      split at h
      · cases h
      · cases h
        simp only [hnext, if_true]
    · rename_i hnext
      cases h
      simp only [hnext, if_false]
  | request =>
    simp only [serve] at h
    split at h
    · cases h
    · rename_i standing told hattend
      cases h
      exact ⟨standing, told, hattend, rfl, rfl⟩
  | deadline =>
    simp only [serve] at h
    split at h
    · cases h
    · rename_i hover
      cases h
      exact ⟨by simpa using hover, rfl, rfl⟩

/-- The first of some arms and the others, if the run waits on after them. -/
theorem serveAll_cons {arm : Arm} {rest : List Arm}
    (h : serveAll s t clock limit now st (arm :: rest) = .inr (st', trace)) :
    ∃ next told more, serve s t clock limit now st arm = .inr (next, told) ∧
      serveAll s t clock limit now next rest = .inr (st', more) ∧ trace = told ++ more := by
  simp only [serveAll] at h
  split at h
  · cases h
  · rename_i next told hserve
    cases hrest : serveAll s t clock limit now next rest with
    | inl run => rw [hrest] at h; cases h
    | inr waiting =>
      obtain ⟨last, more⟩ := waiting
      rw [hrest] at h
      cases h
      exact ⟨next, told, more, hserve, hrest, rfl⟩

theorem serveAll_events {arms : List Arm}
    (h : serveAll s t clock limit now st arms = .inr (st', trace)) : st'.events = st.events := by
  induction arms generalizing st trace with
  | nil => cases h; rfl
  | cons arm rest ih =>
    obtain ⟨next, told, more, hserve, hrest, -⟩ := serveAll_cons h
    rw [ih hrest]
    have hinr := serve_inr hserve
    cases arm with
    | look => rw [hinr]
    | request => obtain ⟨standing, told, -, rfl, -⟩ := hinr; rfl
    | deadline => rw [hinr.2.1]

/-- A run that waits on when the deadline was served was not at its deadline before. -/
theorem serveAll_isOver {arms : List Arm} (hmem : Arm.deadline ∈ arms)
    (h : serveAll s t clock limit now st arms = .inr (st', trace)) :
    st.standing.isOver now = false := by
  induction arms generalizing st trace with
  | nil => cases hmem
  | cons arm rest ih =>
    obtain ⟨next, told, more, hserve, hrest, -⟩ := serveAll_cons h
    have hinr := serve_inr hserve
    cases arm with
    | look =>
      have hnext := ih ((List.mem_cons.mp hmem).resolve_left (by decide)) hrest
      rw [hinr] at hnext
      exact hnext
    | request =>
      obtain ⟨standing, told, hattend, rfl, -⟩ := hinr
      exact attend_isOver hattend (ih ((List.mem_cons.mp hmem).resolve_left (by decide)) hrest)
    | deadline => exact hinr.1

theorem serveAll_nextPoll {arms : List Arm}
    (h : serveAll s t clock limit now st arms = .inr (st', trace)) :
    st.nextPoll ≤ st'.nextPoll ∧ (Arm.look ∈ arms → 0 < s.pollInterval → st.nextPoll = now →
      now < st'.nextPoll) := by
  induction arms generalizing st trace with
  | nil => cases h; exact ⟨Nat.le_refl _, fun hmem => by cases hmem⟩
  | cons arm rest ih =>
    obtain ⟨next, told, more, hserve, hrest, -⟩ := serveAll_cons h
    obtain ⟨hle, hlt⟩ := ih hrest
    have hinr := serve_inr hserve
    cases arm with
    | look =>
      have hnext := congrArg State.nextPoll hinr
      dsimp only at hnext
      refine ⟨?_, fun _ hs hnow => ?_⟩
      · split at hnext <;> omega
      · rw [if_pos hnow] at hnext
        omega
    | request =>
      obtain ⟨standing, told, -, rfl, -⟩ := hinr
      exact ⟨hle, fun hmem => hlt ((List.mem_cons.mp hmem).resolve_left (by decide))⟩
    | deadline =>
      rw [hinr.2.1] at hle hlt
      exact ⟨hle, fun hmem => hlt ((List.mem_cons.mp hmem).resolve_left (by decide))⟩

theorem Turn.mem_arms (turn : Turn) (arm : Arm) : arm ∈ turn.arms := by
  cases turn <;> cases arm <;> decide

/-- Each instant leaves less of a run. -/
theorem step_remaining (hs : 0 < s.pollInterval)
    (h : step s t clock schedule limit st = .inr (st', trace)) :
    st'.remaining limit < st.remaining limit := by
  simp only [step] at h
  split at h
  · cases h
  rename_i hl
  cases hserved : serveAll s t clock limit st.instant (st.meetDue st.instant).1
      (schedule st.instant).arms with
  | inl run => rw [hserved] at h; cases h
  | inr waiting =>
    obtain ⟨last, more⟩ := waiting
    rw [hserved] at h
    cases h
    have hevents : st'.events = later st.instant st.events := serveAll_events hserved
    have hlen := later_length st.instant st.events
    obtain ⟨hle, hlt⟩ := serveAll_nextPoll hserved
    have hle : st.nextPoll ≤ st'.nextPoll := hle
    simp only [State.remaining, hevents]
    by_cases hp : st.nextPoll = st.instant
    · have := hlt (Turn.mem_arms _ _) hs hp
      omega
    · have hover := serveAll_isOver (Turn.mem_arms _ _) hserved
      have := later_instant_length hp hover
      omega

end

def watch (s : Settings) (t : Transmitter) (clock : Clock) (schedule : Schedule) (limit : Nat)
    (hs : 0 < s.pollInterval) (st : State) : Run :=
  match _h : step s t clock schedule limit st with
  | .inl run => run
  | .inr (st', trace) => (watch s t clock schedule limit hs st').after trace
termination_by st.remaining limit
decreasing_by exact step_remaining hs _h

/-- A run from the start up to the instant `limit`. -/
def run (s : Settings) (t : Transmitter) (clock : Clock) (limit : Nat) (files : FileSystem)
    (events : List TimedEvent) (schedule : Schedule := .inOrder) : Run :=
  let begun := atInstant 0 [.logged (waitingEntry s)]
  if hs : 0 < s.pollInterval then
    -- The first look comes before any event.
    let w : World := ⟨files, 0, true⟩
    match poll s t limit 0 .listening w events with
    | .inl run => run.after begun
    | .inr looked =>
      (watch s t clock schedule limit hs ⟨w, .listening, s.pollInterval, events⟩).after
        (begun ++ atInstant 0 looked)
  else ⟨.broken .zeroInterval, 0, begun⟩

end Handoff.Gather
