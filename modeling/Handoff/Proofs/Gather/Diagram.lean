import Handoff.Proofs.Gather.Accounts
import Handoff.Proofs.Gather.GracePeriod

/-!
The changes of state that a run logs are a walk through the diagram of its phases: from `waiting`,
or from `grace_period` after a request, to `transmitting` and `done`, or from `grace_period` to
`aborted` when its time is over. Where the walk ends tells how the run ended; but a run that breaks
has not moved.
-/

namespace Handoff.Gather

/-- A change of state as it is logged. -/
structure Move where
  instant : Nat
  source : String
  target : String
deriving DecidableEq, Repr

def Move.ofEntry? (now : Nat) (entry : Log.Entry) : Option Move :=
  if entry.message = "Worker state change" then
    match entry.fields.lookup "from", entry.fields.lookup "to" with
    | some (.text source), some (.text target) => some ⟨now, source, target⟩
    | _, _ => none
  else none

/-- The changes of state in a run's own log. -/
def Trace.moves (trace : Trace) : List Move :=
  trace.own.filterMap fun (now, entry) => Move.ofEntry? now entry

/-- Where some moves lead from `waiting`. -/
def reached (moves : List Move) : String := (moves.getLast?.map Move.target).getD "waiting"

/-- The clock cannot show the end of the grace period that a request would start, and no look before the
request finds a result file. -/
def Overstrained (s : Settings) (clock : Clock) (schedule : Schedule) (limit : Nat) (files : FileSystem)
    (events : List TimedEvent) : Prop :=
  ∃ i, firstRequest? events = some i ∧ i ≤ limit ∧ clock.shows (i + s.gracePeriod) = false ∧
    ∀ k, schedule.BeforeRequest (k * s.pollInterval) i → ∀ resultFile,
      lookAt s files events (k * s.pollInterval) ≠ .ready resultFile

/-- The moves of a run are a walk through the diagram. -/
structure Legal (s : Settings) (events : List TimedEvent) (moves : List Move) : Prop where
  /-- The first move leads from `waiting`, and each other one from where the one before it led. -/
  connected : moves.map Move.source = ("waiting" :: moves.map Move.target).dropLast
  gracePeriod : ∀ move ∈ moves, move.target = "grace_period" →
    move.source = "waiting" ∧ firstRequest? events = some move.instant
  gracePeriod_once : moves.countP (·.target = "grace_period") ≤ 1
  aborted : ∀ move ∈ moves, move.target = "aborted" → move.source = "grace_period" ∧
    ∃ entered ∈ moves, entered.target = "grace_period" ∧ move.instant = entered.instant + s.gracePeriod
  transmitting : ∀ move ∈ moves, move.target = "transmitting" →
    move.source = "waiting" ∨ move.source = "grace_period"
  transmitting_once : moves.countP (·.target = "transmitting") ≤ 1
  done : ∀ move ∈ moves, move.target = "done" → move.source = "transmitting"
  /-- Nothing follows `done` or `aborted`. -/
  final : ∀ move ∈ moves.dropLast, move.target ≠ "done" ∧ move.target ≠ "aborted"

/-- The moves of a run, and where they lead if the run ends, waits or breaks. -/
structure FollowsDiagram (s : Settings) (t : Transmitter) (clock : Clock) (schedule : Schedule)
    (limit : Nat) (files : FileSystem) (events : List TimedEvent) (r : Run) : Prop where
  /-- The moves are legal, and so are those that a run stopped on the way has made. -/
  legal : ∀ moves, moves <+: r.trace.moves → Legal s events moves
  /-- The moves are all that is logged of changes of state, if the transmitter logs none. -/
  logged : (∀ call, ∀ entry ∈ (t.deliver call).entries, entry.message ≠ "Worker state change") →
    r.trace.log.filterMap (fun (now, entry) => Move.ofEntry? now entry) = r.trace.moves
  timedOut_iff : r.outcome = .timedOut ↔ reached r.trace.moves = "aborted"
  ended_iff : ((∃ resultFile, r.outcome = .transmitted resultFile) ∨
    ∃ cause, r.outcome = .failed cause) ↔
    reached r.trace.moves = "done"
  running_iff : r.outcome = .stillRunning ↔ ¬ Overstrained s clock schedule limit files events ∧
    reached r.trace.moves ∈ ["waiting", "grace_period", "transmitting"]
  /-- A run that the clock breaks has not moved. -/
  broken : Overstrained s clock schedule limit files events →
    r.outcome = .broken .deadlineOverflow ∧ r.trace.moves = []

/-- The walks through the diagram, with the phase that each leads to. -/
inductive Walk (s : Settings) (events : List TimedEvent) : Phase → List Move → Prop
  | waiting : Walk s events .waiting []
  | requested {i : Nat} (request : firstRequest? events = some i) :
      Walk s events .gracePeriod [⟨i, "waiting", "grace_period"⟩]
  | found {phase : Phase} {moves : List Move} (before : Walk s events phase moves)
      (waits : phase = .waiting ∨ phase = .gracePeriod) (now : Nat) :
      Walk s events .transmitting (moves ++ [⟨now, phase.name, "transmitting"⟩])
  | finished {moves : List Move} (before : Walk s events .transmitting moves) (now : Nat) :
      Walk s events .done (moves ++ [⟨now, "transmitting", "done"⟩])
  | aborted {i : Nat} (request : firstRequest? events = some i) :
      Walk s events .aborted [⟨i, "waiting", "grace_period"⟩,
        ⟨i + s.gracePeriod, "grace_period", "aborted"⟩]

/-- The phase of a stage. -/
def Stage.phase : Stage → Phase
  | waiting standing => standing.phase
  | sending _ _ => .transmitting
  | broken => .waiting
  | gaveUp => .aborted
  | unopened _ _ _ => .done
  | concluded _ _ _ => .done

section
variable {s : Settings} {t : Transmitter} {clock : Clock} {schedule : Schedule} {limit : Nat}
  {files : FileSystem} {events : List TimedEvent} {trace : Trace} {stage : Stage} {phase : Phase}
  {moves : List Move}

theorem moves_append {a : Trace} (b : Trace) (ha : a.calls = []) :
    Trace.moves (a ++ b) = a.moves ++ b.moves := by
  rw [Trace.moves, own_append b ha, List.filterMap_append]
  rfl

theorem moves_heard {heard : Trace} (h : ∀ o ∈ heard, ∃ n, o.2 = .triggered n) : heard.moves = [] := by
  rw [Trace.moves, own_heard h]
  rfl

theorem moves_answer (now : Nat) (call : Call) (entries : List Log.Entry) (metric : Metric)
    (told : List Occurrence) :
    Trace.moves (atInstant now ((.called call :: entries.map .logged) ++ .counted metric :: told)) =
      Trace.moves (atInstant now told) := by
  rw [Trace.moves, own_answer]
  rfl

theorem Standing.phase_waits (standing : Standing) :
    standing.phase = .waiting ∨ standing.phase = .gracePeriod := by
  cases standing with
  | listening => exact Or.inl rfl
  | unreachable => exact Or.inl rfl
  | granted deadline => exact Or.inr rfl

/-- A grace period that runs was started by the first request. -/
theorem Story.deadline_eq (h : Story s t clock events stage trace) {deadline : Nat}
    (hstage : stage = .waiting (.granted deadline)) :
    ∃ i, firstRequest? events = some i ∧ deadline = i + s.gracePeriod := by
  induction h with
  | heard before running requests ih => exact ih hstage
  | looked before now unready ih => exact ih hstage
  | granted before request shown ih =>
    cases hstage
    exact ⟨_, request, rfl⟩
  | _ => cases hstage

/-- Every story is a walk through the diagram. -/
theorem Story.walk (h : Story s t clock events stage trace) :
    Walk s events stage.phase trace.moves := by
  -- A run that can go on has called nothing, so what it tells next comes behind its moves so far.
  induction h with
  | begun => exact .waiting
  | heard before running requests ih =>
    rw [moves_append _ (before.calls_eq_nil (Stage.called_of_running running)), moves_heard requests,
      List.append_nil]
    exact ih
  | @looked _ _ before now status unready ih =>
    have hnone : Trace.moves (atInstant now (lookTold s status)) = [] := by
      cases status with
      | ready resultFile => exact absurd rfl (unready resultFile)
      | missing => rfl
      | unreadable cause => rfl
    rw [moves_append _ (before.calls_eq_nil rfl), hnone, List.append_nil]
    exact ih
  | @closed trace before now ih =>
    have hnone : Trace.moves (atInstant now [.logged closedEntry]) = [] := rfl
    rw [moves_append _ (before.calls_eq_nil rfl), hnone, List.append_nil]
    exact ih
  | @granted now trace before request shown ih =>
    have hone :
        Trace.moves (atInstant now (requestTold s ++ [.logged (changeEntry .waiting .gracePeriod)])) =
        [⟨now, "waiting", "grace_period"⟩] := rfl
    rw [moves_append _ (before.calls_eq_nil rfl), hone]
    generalize trace.moves = moves at ih
    cases ih
    exact .requested request
  | @overstrained now trace before request overflow ih =>
    have hnone : Trace.moves (atInstant now (requestTold s)) = [] := rfl
    rw [moves_append _ (before.calls_eq_nil rfl), hnone, List.append_nil]
    exact ih
  | @timedOut deadline trace before ih =>
    have hone : Trace.moves (atInstant deadline
        [.logged timedOutEntry, .logged (changeEntry .gracePeriod .aborted)]) =
          [⟨deadline, "grace_period", "aborted"⟩] := rfl
    rw [moves_append _ (before.calls_eq_nil rfl), hone]
    obtain ⟨i, hi, rfl⟩ := before.deadline_eq rfl
    generalize trace.moves = moves at ih
    cases ih with
    | requested request =>
      obtain rfl := Option.some.inj (hi.symm.trans request)
      exact .aborted request
  | @unopened standing trace before now resultFile cause ih =>
    have htwo : Trace.moves (atInstant now (lookTold s (.ready resultFile)) ++
        atInstant now (foundTold standing.phase resultFile ++ unopenedTold resultFile cause)) =
          [⟨now, standing.phase.name, "transmitting"⟩] ++ [⟨now, "transmitting", "done"⟩] := rfl
    rw [moves_append _ (before.calls_eq_nil rfl), htwo, ← List.append_assoc]
    exact .finished (.found ih standing.phase_waits now) now
  | @handed standing trace before now artifact ih =>
    have hone : Trace.moves (atInstant now (lookTold s (.ready artifact.path)) ++
        atInstant now (foundTold standing.phase artifact.path ++ handedTold s artifact)) =
          [⟨now, standing.phase.name, "transmitting"⟩] := rfl
    rw [moves_append _ (before.calls_eq_nil rfl), hone]
    exact .found ih standing.phase_waits now
  | @answered standing artifact trace before now call ih =>
    have hone : Trace.moves (atInstant now ((.called call :: (t.deliver call).entries.map .logged) ++
        answerTold s (t.deliver call).result)) = [⟨now, "transmitting", "done"⟩] := by
      cases (t.deliver call).result with
      | ok => exact moves_answer now call _ _ _
      | error cause => exact moves_answer now call _ _ _
    rw [moves_append _ (before.calls_eq_nil rfl), hone]
    exact .finished ih now

/-- A walk leads to its phase. -/
theorem Walk.reached_eq (h : Walk s events phase moves) : reached moves = phase.name := by
  cases h with
  | waiting => rfl
  | requested request => rfl
  | found before waits now => simp [reached, Phase.name]
  | finished before now => simp [reached, Phase.name]
  | aborted request => rfl

/-- A walk that is stopped on the way is one. -/
theorem Walk.before (h : Walk s events phase moves) {made : List Move} (hbefore : made <+: moves) :
    ∃ phase, Walk s events phase made := by
  induction h generalizing made with
  | waiting =>
    rw [List.prefix_nil.mp hbefore]
    exact ⟨_, .waiting⟩
  | requested request =>
    rcases List.prefix_cons_iff.mp hbefore with rfl | ⟨rest, rfl, hrest⟩
    · exact ⟨_, .waiting⟩
    · rw [List.prefix_nil.mp hrest]
      exact ⟨_, .requested request⟩
  | found before waits now ih =>
    rcases List.prefix_concat_iff.mp hbefore with rfl | hless
    · exact ⟨_, .found before waits now⟩
    · exact ih hless
  | finished before now ih =>
    rcases List.prefix_concat_iff.mp hbefore with rfl | hless
    · exact ⟨_, .finished before now⟩
    · exact ih hless
  | aborted request =>
    rcases List.prefix_cons_iff.mp hbefore with rfl | ⟨rest, rfl, hrest⟩
    · exact ⟨_, .waiting⟩
    rcases List.prefix_cons_iff.mp hrest with rfl | ⟨after, rfl, hafter⟩
    · exact ⟨_, .requested request⟩
    · rw [List.prefix_nil.mp hafter]
      exact ⟨_, .aborted request⟩

theorem Walk.legal (h : Walk s events phase moves) : Legal s events moves := by
  -- The diagram has no cycle, so the walks are few.
  cases h with
  | waiting => constructor <;> simp
  | requested request => constructor <;> simp [request]
  | aborted request => constructor <;> simp [request]
  | found before waits now =>
    rcases waits with rfl | rfl
    · cases before
      constructor <;> simp [Phase.name]
    · cases before with
      | requested request => constructor <;> simp [Phase.name, request]
  | finished before now =>
    cases before with
    | found before waits now =>
      rcases waits with rfl | rfl
      · cases before
        constructor <;> simp [Phase.name]
      · cases before with
        | requested request => constructor <;> simp [Phase.name, request]

/-- A move is logged as a change of state. -/
theorem filterMap_ofEntry? (log : List (Nat × Log.Entry)) :
    (log.filter (·.2.message = "Worker state change")).filterMap
      (fun (now, entry) => Move.ofEntry? now entry) =
      log.filterMap fun (now, entry) => Move.ofEntry? now entry := by
  rw [List.filterMap_filter]
  congr 1
  funext logged
  obtain ⟨now, entry⟩ := logged
  by_cases hmessage : entry.message = "Worker state change"
  · exact if_pos (decide_eq_true hmessage)
  · have hnone : Move.ofEntry? now entry = none := if_neg hmessage
    dsimp only
    rw [hnone, ite_self]

theorem Story.logged_moves (h : Story s t clock events stage trace)
    (ht : ∀ call, ∀ entry ∈ (t.deliver call).entries, entry.message ≠ "Worker state change") :
    trace.log.filterMap (fun (now, entry) => Move.ofEntry? now entry) = trace.moves := by
  have hforeign : ∀ call, ∀ entry ∈ (t.deliver call).entries,
      decide (entry.message = "Worker state change") = false := by
    intro call entry hentry
    exact decide_eq_false (ht call entry hentry)
  rw [Trace.moves, ← filterMap_ofEntry?, h.own_log hforeign, filterMap_ofEntry?]

/-- The phase of a stage tells how a run has ended, if it has. -/
theorem Stage.phase_iff (stage : Stage) :
    (stage.outcome = .timedOut ↔ stage.phase = .aborted) ∧
      (((∃ resultFile, stage.outcome = .transmitted resultFile) ∨
        ∃ cause, stage.outcome = .failed cause) ↔
        stage.phase = .done) ∧
      (stage.outcome = .stillRunning ↔ (∀ fault, stage.outcome ≠ .broken fault) ∧
        stage.phase ∈ [.waiting, .gracePeriod, .transmitting]) := by
  cases stage with
  | waiting standing => cases standing <;> simp [Stage.outcome, Stage.phase, Standing.phase]
  | sending found artifact => simp [Stage.outcome, Stage.phase]
  | broken => simp [Stage.outcome, Stage.phase]
  | gaveUp => simp [Stage.outcome, Stage.phase]
  | unopened found resultFile cause => simp [Stage.outcome, Stage.phase]
  | concluded found resultFile result => cases result <;> simp [Stage.outcome, Stage.phase, answered]

theorem Phase.name_injective {a b : Phase} (h : a.name = b.name) : a = b := by
  cases a <;> cases b <;> first | rfl | simp [Phase.name] at h

/-- A run that breaks has told of no change of state. -/
theorem Story.unmoved (h : Story s t clock events stage trace) {fault : Fault}
    (hbroken : stage.outcome = .broken fault) : trace.moves = [] := by
  have hphase : stage.phase = .waiting := by
    cases stage with
    | broken => rfl
    | concluded found resultFile result => cases result <;> cases hbroken
    | _ => cases hbroken
  have hwalk := h.walk
  rw [hphase] at hwalk
  generalize trace.moves = moves at hwalk ⊢
  cases hwalk with
  | waiting => rfl

/-- The moves of every run with an interval between its looks follow the diagram, whatever the order
of all that is ready at one instant. -/
theorem run_follows_diagram (s : Settings) (t : Transmitter) (clock : Clock) (schedule : Schedule)
    (limit : Nat) (files : FileSystem) {events : List TimedEvent} (hs : 0 < s.pollInterval)
    (hc : Chronological events) :
    FollowsDiagram s t clock schedule limit files events
      (run s t clock limit files events schedule) := by
  obtain ⟨stage, houtcome, hstory⟩ := run_story s t clock schedule limit files hs hc
  have hends := run_ends s t clock schedule limit files hs hc
  generalize run s t clock limit files events schedule = r at *
  have hwalk := hstory.walk
  have hreached (phase : Phase) : stage.phase = phase ↔ reached r.trace.moves = phase.name := by
    rw [hwalk.reached_eq]
    exact ⟨congrArg Phase.name, Phase.name_injective⟩
  have hbroken : (∃ fault, r.outcome = .broken fault) ↔
      Overstrained s clock schedule limit files events := by
    constructor
    · rintro ⟨fault, hfault⟩
      exact ((hends.broken_iff fault).mp hfault).2
    · intro hover
      exact ⟨_, (hends.broken_iff .deadlineOverflow).mpr ⟨rfl, hover⟩⟩
  obtain ⟨htimedOut, hended, hrunning⟩ := stage.phase_iff
  rw [houtcome] at htimedOut hended hrunning
  exact {
    legal := by
      intro moves hbefore
      obtain ⟨phase, hmade⟩ := hwalk.before hbefore
      exact hmade.legal
    logged := hstory.logged_moves
    timedOut_iff := htimedOut.trans (hreached .aborted)
    ended_iff := hended.trans (hreached .done)
    running_iff := by
      rw [hrunning, ← hbroken, not_exists]
      simp only [List.mem_cons, List.not_mem_nil, or_false, hreached, Phase.name]
    broken := by
      intro hover
      have hfault := (hends.broken_iff .deadlineOverflow).mpr ⟨rfl, hover⟩
      exact ⟨hfault, hstory.unmoved (houtcome.trans hfault)⟩ }

end

/-- A run that gives up has been in the grace period for 1500, from the request at 1200 on. -/
theorem run_follows_diagram_aborted :
    ∃ move ∈ (run (everySecond 1500) (accepting 0) ⟨0⟩ 5000 .empty (requestedAt 1200)).trace.moves,
      move.target = "aborted" ∧ move.instant = 2700 := by
  have hordered : Chronological (requestedAt 1200) := by decide
  have hends := run_ends (everySecond 1500) (accepting 0) ⟨0⟩ .inOrder 5000 .empty (by decide) hordered
  have hended := (hends.timedOut_iff 2700).mpr
    ⟨1200, rfl, by decide, rfl, by decide, fun k _ => unready_of_empty 1500 1200 _⟩
  have hdiagram :=
    run_follows_diagram (everySecond 1500) (accepting 0) ⟨0⟩ .inOrder 5000 .empty (by decide)
    hordered
  have hreached := hdiagram.timedOut_iff.mp hended.1
  rw [reached] at hreached
  cases hlast : (run (everySecond 1500) (accepting 0) ⟨0⟩ 5000 .empty
    (requestedAt 1200)).trace.moves.getLast?
    with
  | none =>
    rw [hlast] at hreached
    revert hreached
    decide
  | some move =>
    have hmem := List.mem_of_getLast? hlast
    rw [hlast] at hreached
    have hlegal := hdiagram.legal _ (List.prefix_refl _)
    obtain ⟨_, entered, hentered, htarget, hinstant⟩ := hlegal.aborted move hmem hreached
    obtain ⟨_, hrequest⟩ := hlegal.gracePeriod entered hentered htarget
    have hat : entered.instant = 1200 := (Option.some.inj hrequest).symm
    rw [hat] at hinstant
    exact ⟨move, hmem, hreached, hinstant⟩

/-- With the longest grace period a request ends the run at once, and its moves have led nowhere. -/
theorem run_stops_in_waiting :
    (run (everySecond longestGracePeriod) (accepting 0) ⟨0⟩ 1000 .empty (requestedAt 500)).outcome ≠
        .stillRunning ∧
      reached (run (everySecond longestGracePeriod) (accepting 0) ⟨0⟩ 1000 .empty
        (requestedAt 500)).trace.moves = "waiting" := by
  have hpos : 0 < (everySecond longestGracePeriod).pollInterval := by decide
  have hordered : Chronological (requestedAt 500) := by decide
  have hends :=
    run_ends (everySecond longestGracePeriod) (accepting 0) ⟨0⟩ .inOrder 1000 .empty hpos hordered
  have hbroken := (hends.broken_iff .deadlineOverflow).mpr
    ⟨rfl, 500, rfl, by decide, by decide, fun k _ => unready_of_empty longestGracePeriod 500 _⟩
  obtain ⟨stage, houtcome, hstory⟩ :=
    run_story (everySecond longestGracePeriod) (accepting 0) ⟨0⟩ .inOrder 1000 .empty hpos hordered
  rw [hbroken] at houtcome ⊢
  rw [hstory.unmoved houtcome]
  exact ⟨nofun, rfl⟩

end Handoff.Gather
