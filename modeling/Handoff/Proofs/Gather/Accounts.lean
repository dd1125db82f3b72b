import Handoff.Proofs.Gather.Delivery
import Handoff.Proofs.Gather.Story
import Handoff.Proofs.Metric

/-!
Metrics, log, calls and outcome of a run tell the same. What a run has counted and called is a
function of the stage of its story, and what it has counted of looks and requests is what it has
logged of them.
-/

namespace Handoff.Gather

/-- What a run counts and calls, but for looks that find nothing. -/
structure Tally where
  found : Nat
  requests : Nat
  transmissions : List TransmissionOutcome
  handed : Nat
  called : Nat

def Tally.add (a b : Tally) : Tally :=
  ⟨a.found + b.found, a.requests + b.requests, a.transmissions ++ b.transmissions, a.handed + b.handed,
    a.called + b.called⟩

def Trace.tally (trace : Trace) : Tally where
  found := (trace.metrics.filterMap Metric.poll?).count .ready
  requests := trace.metrics.count .gracePeriodStarted
  transmissions := trace.metrics.filterMap Metric.transmission?
  handed := trace.handed.length
  called := trace.calls.length

def Standing.requests : Standing → Nat
  | granted _ => 1
  | _ => 0

/-- The transmission that an outcome is counted as. -/
def Outcome.counted? : Outcome → Option TransmissionOutcome
  | transmitted _ => some .success
  | failed (.upload _) => some .failure
  | failed (.unopened _ _) => some .openFailed
  | _ => none

/-- What a run has counted and called by a stage. -/
def Stage.tally : Stage → Tally
  | waiting standing => ⟨0, standing.requests, [], 0, 0⟩
  | sending found _ => ⟨1, found.requests, [], 1, 0⟩
  | broken => ⟨0, 1, [], 0, 0⟩
  | gaveUp => ⟨0, 1, [], 0, 0⟩
  | unopened found _ _ => ⟨1, found.requests, [.openFailed], 0, 0⟩
  | concluded found resultFile result =>
    ⟨1, found.requests, (answered resultFile result).counted?.toList, 1, 1⟩

def unreadableMessage : String := "Waitfile not readable yet"

def requestedMessage : String := "Shutdown requested, still waiting for plugin results"

/-- What a trace has counted of looks, it shows, and what it has counted of unreadable waitfiles and of
requests, the run itself has logged. -/
structure Trace.Agrees (trace : Trace) : Prop where
  looks : trace.metrics.filterMap Metric.poll? = trace.looks.map Prod.snd
  unreadable : (trace.metrics.filterMap Metric.poll?).count .unreadable =
    trace.own.countP fun (_, entry) => entry.message = unreadableMessage
  requested : trace.metrics.count .gracePeriodStarted =
    trace.own.countP fun (_, entry) => entry.message = requestedMessage

/-- The look at one instant is made by a run that ended, or was left, at another. At that instant a
look may come too late for a deadline or for a request that breaks the run, and is made else. -/
def Schedule.MadeBy (schedule : Schedule) (o : Outcome) (look ended : Nat) : Prop :=
  match o with
  | .timedOut => schedule.BeforeDeadline look ended
  | .broken _ => schedule.BeforeRequest look ended
  | _ => look ≤ ended

/-- What is offered of the metrics of a run tells what its looks, its log, its calls and its outcome
tell. -/
structure Accounts (s : Settings) (t : Transmitter) (schedule : Schedule) (files : FileSystem)
    (events : List TimedEvent) (r : Run) : Prop where
  /-- Looks are made at all multiples of the interval, up to the one that finds a result file. -/
  looks : ∃ k, r.trace.looks = firstLooks s files events k ∧
    ∀ j, j < k ↔ schedule.MadeBy r.outcome (j * s.pollInterval) r.elapsed ∧
      ∀ i < j, ∀ resultFile, lookAt s files events (i * s.pollInterval) ≠ .ready resultFile
  polls : Metric.sum r.trace.metrics "worker_waitfile_polls_total" = r.trace.looks.length
  statuses : ∀ status, Metric.total r.trace.metrics (Metric.pollSeries status) =
    r.trace.looks.countP fun look => look.2 = status
  unreadable : Metric.total r.trace.metrics (Metric.pollSeries .unreadable) =
    r.trace.own.countP fun (_, entry) => entry.message = unreadableMessage
  ready_le : Metric.total r.trace.metrics (Metric.pollSeries .ready) ≤ 1
  durations : Metric.sum r.trace.metrics "worker_transmissions_total" =
      Metric.sum r.trace.metrics "worker_transmission_duration_seconds" ∧
    ∀ outcome, Metric.total r.trace.metrics (Metric.transmissionSeries outcome) =
      Metric.total r.trace.metrics (Metric.durationSeries outcome)
  running : r.outcome = .stillRunning → Metric.sum r.trace.metrics "worker_transmissions_total" = 0
  returned : r.outcome ≠ .stillRunning → Metric.sum r.trace.metrics "worker_transmissions_total" =
    Metric.total r.trace.metrics (Metric.pollSeries .ready)
  success_iff : Metric.total r.trace.metrics (Metric.transmissionSeries .success) = 1 ↔
    ∃ resultFile, r.outcome = .transmitted resultFile
  failure_iff : Metric.total r.trace.metrics (Metric.transmissionSeries .failure) = 1 ↔
    ∃ cause, r.outcome = .failed (.upload cause)
  openFailed_iff : Metric.total r.trace.metrics (Metric.transmissionSeries .openFailed) = 1 ↔
    ∃ resultFile cause, r.outcome = .failed (.unopened resultFile cause)
  /-- An upload that succeeded or failed is one that the transmitter was called for, once. -/
  called : (∃ resultFile, r.outcome = .transmitted resultFile) ∨
      (∃ cause, r.outcome = .failed (.upload cause)) →
    r.trace.handed.length = 1 ∧ r.trace.calls.length = 1
  uncalled : (∃ resultFile cause, r.outcome = .failed (.unopened resultFile cause)) →
    r.trace.handed = [] ∧ r.trace.calls = []
  request_iff : Metric.total r.trace.metrics Metric.gracePeriodSeries = 1 ↔
    ∃ now entry, (now, entry) ∈ r.trace.own ∧ entry.message = requestedMessage
  request_le : Metric.total r.trace.metrics Metric.gracePeriodSeries ≤ 1
  /-- If the transmitter does not speak for the run, the run's own log is what is logged as such. -/
  own : (∀ call, ∀ entry ∈ (t.deliver call).entries, entry.source ≠ .gather) →
    r.trace.log.filter (·.2.source = .gather) = r.trace.own.filter (·.2.source = .gather)

section
variable {s : Settings} {t : Transmitter} {clock : Clock} {schedule : Schedule} {limit : Nat}
  {files : FileSystem} {events : List TimedEvent} {trace heard : Trace} {stage : Stage} {r : Run}

theorem tally_append (a b : Trace) : Trace.tally (a ++ b) = (Trace.tally a).add (Trace.tally b) := by
  simp only [Trace.tally, Tally.add, metrics_append, handed_append, calls_append, List.count_append,
    List.filterMap_append, List.length_append]

theorem Tally.add_zero (a : Tally) : a.add ⟨0, 0, [], 0, 0⟩ = a := by
  rw [Tally.add, List.append_nil]
  rfl

theorem tally_heard (h : ∀ o ∈ heard, ∃ n, o.2 = .triggered n) : heard.tally = ⟨0, 0, [], 0, 0⟩ := by
  have hmetrics : heard.metrics = [] := filterMap_heard _ (fun _ _ => rfl) h
  have hhanded : heard.handed = [] := filterMap_heard _ (fun _ _ => rfl) h
  have hcalls : heard.calls = [] := filterMap_heard _ (fun _ _ => rfl) h
  rw [Trace.tally, hmetrics, hhanded, hcalls]
  rfl

theorem metrics_answer (now : Nat) (call : Call) (entries : List Log.Entry) (told : List Occurrence) :
    Trace.metrics (atInstant now ((.called call :: entries.map .logged) ++ told)) =
      Trace.metrics (atInstant now told) :=
  filterMap_spoken _ (fun _ _ => rfl) now entries told

/-- An answer counts as a call, and what is told of it behind counts. -/
theorem tally_answer (now : Nat) (call : Call) (entries : List Log.Entry) (told : List Occurrence) :
    Trace.tally (atInstant now ((.called call :: entries.map .logged) ++ told)) =
      Tally.add ⟨0, 0, [], 0, 1⟩ (Trace.tally (atInstant now told)) := by
  have hhanded : Trace.handed (atInstant now ((.called call :: entries.map .logged) ++ told)) =
      Trace.handed (atInstant now told) := filterMap_spoken _ (fun _ _ => rfl) now entries told
  have hcalls : Trace.calls (atInstant now ((.called call :: entries.map .logged) ++ told)) =
      call :: Trace.calls (atInstant now told) :=
    congrArg (List.cons call) (filterMap_spoken _ (fun _ _ => rfl) now entries told)
  rw [Trace.tally, metrics_answer, hhanded, hcalls]
  simp only [Tally.add, Trace.tally, Nat.zero_add, List.nil_append, List.length_cons, Nat.add_comm 1]

/-- By each stage a run has counted and called what belongs to it. -/
theorem Story.tally_eq (h : Story s t clock events stage trace) : trace.tally = stage.tally := by
  induction h with
  | begun => rfl
  | heard before running requests ih => rw [tally_append, ih, tally_heard requests, Tally.add_zero]
  | @looked _ _ before now status unready ih =>
    rw [tally_append, ih]
    cases status with
    | ready resultFile => exact absurd rfl (unready resultFile)
    | missing => rfl
    | unreadable cause => rfl
  | closed before now ih =>
    rw [tally_append, ih]
    rfl
  | granted before request shown ih =>
    rw [tally_append, ih]
    rfl
  | overstrained before request overflow ih =>
    rw [tally_append, ih]
    rfl
  | timedOut before ih =>
    rw [tally_append, ih]
    rfl
  | unopened before now resultFile cause ih =>
    rw [tally_append, ih]
    rfl
  | handed before now artifact ih =>
    rw [tally_append, ih]
    rfl
  | answered before now call ih =>
    rw [tally_append, ih, tally_answer]
    cases (t.deliver call).result with
    | ok => rfl
    | error cause => rfl

/-- Only a run that the transmitter has answered has called it. -/
theorem Story.calls_eq_nil (h : Story s t clock events stage trace) (hstage : stage.tally.called = 0) :
    trace.calls = [] := by
  have hcalled := congrArg Tally.called h.tally_eq
  exact List.length_eq_zero_iff.mp (hcalled.trans hstage)

theorem Stage.called_of_running (h : stage.outcome = .stillRunning) : stage.tally.called = 0 := by
  cases stage with
  | waiting standing => rfl
  | sending found artifact => rfl
  | broken => rfl
  | gaveUp => rfl
  | unopened found resultFile cause => rfl
  | concluded found resultFile result => cases result <;> cases h

theorem Trace.Agrees.append {a b : Trace} (ha : a.Agrees) (hcalls : a.calls = []) (hb : b.Agrees) :
    Trace.Agrees (a ++ b) where
  looks := by
    rw [metrics_append, List.filterMap_append, looks_append, List.map_append, ha.looks, hb.looks]
  unreadable := by
    rw [metrics_append, List.filterMap_append, List.count_append, own_append b hcalls,
      List.countP_append, ha.unreadable, hb.unreadable]
  requested := by
    rw [metrics_append, List.count_append, own_append b hcalls, List.countP_append, ha.requested,
      hb.requested]

theorem agrees_heard (h : ∀ o ∈ heard, ∃ n, o.2 = .triggered n) : heard.Agrees := by
  have hmetrics : heard.metrics = [] := filterMap_heard _ (fun _ _ => rfl) h
  have hown : heard.own = [] := own_heard h
  constructor
  · have hlooks : heard.looks = [] := filterMap_heard _ (fun _ _ => rfl) h
    rw [hmetrics, hlooks]
    rfl
  · rw [hmetrics, hown]
    rfl
  · rw [hmetrics, hown]
    rfl

theorem agrees_answer (now : Nat) (call : Call) (entries : List Log.Entry) {metric : Metric}
    {told : List Occurrence} (h : Trace.Agrees (atInstant now (.counted metric :: told))) :
    Trace.Agrees
      (atInstant now ((.called call :: entries.map .logged) ++ .counted metric :: told)) := by
  have hown : Trace.own (atInstant now (.counted metric :: told)) =
      Trace.own (atInstant now told) := rfl
  constructor
  · have hlooks : Trace.looks (atInstant now
        ((.called call :: entries.map .logged) ++ .counted metric :: told)) =
          Trace.looks (atInstant now (.counted metric :: told)) :=
      filterMap_spoken _ (fun _ _ => rfl) now entries _
    rw [metrics_answer, hlooks, h.looks]
  · rw [metrics_answer, own_answer, h.unreadable, hown]
  · rw [metrics_answer, own_answer, h.requested, hown]

/-- At each stage what is counted agrees with what is logged. -/
theorem Story.agrees (h : Story s t clock events stage trace) : trace.Agrees := by
  induction h with
  | begun => exact ⟨rfl, rfl, rfl⟩
  | heard before running requests ih =>
    exact ih.append (before.calls_eq_nil (Stage.called_of_running running)) (agrees_heard requests)
  | @looked _ _ before now status unready ih =>
    apply ih.append (before.calls_eq_nil rfl)
    cases status with
    | ready resultFile => exact absurd rfl (unready resultFile)
    | missing => exact ⟨rfl, rfl, rfl⟩
    | unreadable cause => exact ⟨rfl, rfl, rfl⟩
  | closed before now ih => exact ih.append (before.calls_eq_nil rfl) ⟨rfl, rfl, rfl⟩
  | granted before request shown ih => exact ih.append (before.calls_eq_nil rfl) ⟨rfl, rfl, rfl⟩
  | overstrained before request overflow ih => exact ih.append (before.calls_eq_nil rfl) ⟨rfl, rfl, rfl⟩
  | timedOut before ih => exact ih.append (before.calls_eq_nil rfl) ⟨rfl, rfl, rfl⟩
  | unopened before now resultFile cause ih => exact ih.append (before.calls_eq_nil rfl) ⟨rfl, rfl, rfl⟩
  | handed before now artifact ih => exact ih.append (before.calls_eq_nil rfl) ⟨rfl, rfl, rfl⟩
  | answered before now call ih =>
    apply ih.append (before.calls_eq_nil rfl)
    cases (t.deliver call).result with
    | ok => exact agrees_answer now call _ ⟨rfl, rfl, rfl⟩
    | error cause => exact agrees_answer now call _ ⟨rfl, rfl, rfl⟩

/-- Of the entries that the transmitter does not log, the run's own log has all. -/
theorem own_log_answer (now : Nat) (call : Call) {entries : List Log.Entry} {p : Log.Entry → Bool}
    (hforeign : ∀ entry ∈ entries, p entry = false) {metric : Metric} {told : List Occurrence}
    (hcalls : Trace.calls (atInstant now told) = []) :
    (Trace.log
      (atInstant now ((.called call :: entries.map .logged) ++ .counted metric :: told))).filter
        (p ·.2) =
      (Trace.own
        (atInstant now ((.called call :: entries.map .logged) ++ .counted metric :: told))).filter
        (p ·.2) := by
  rw [own_answer, own_eq_log hcalls]
  have hspoken :
      (Trace.log (atInstant now (entries.map .logged ++ .counted metric :: told))).filter (p ·.2) =
      (Trace.log (atInstant now told)).filter (p ·.2) := by
    induction entries with
    | nil => rfl
    | cons entry rest ih =>
      have hfirst : ¬ p entry = true := Bool.eq_false_iff.mp (hforeign entry List.mem_cons_self)
      have hsplit : Trace.log (atInstant now ((entry :: rest).map .logged ++ .counted metric :: told)) =
          (now, entry) :: Trace.log (atInstant now (rest.map .logged ++ .counted metric :: told)) := rfl
      rw [hsplit, List.filter_cons, if_neg hfirst]
      apply ih
      intro other hother
      exact hforeign other (List.mem_cons_of_mem entry hother)
  exact hspoken

theorem Story.own_log (h : Story s t clock events stage trace) {p : Log.Entry → Bool}
    (ht : ∀ call, ∀ entry ∈ (t.deliver call).entries, p entry = false) :
    trace.log.filter (p ·.2) = trace.own.filter (p ·.2) := by
  by_cases hstage : stage.tally.called = 0
  · rw [own_eq_log (h.calls_eq_nil hstage)]
  cases h with
  | heard before running requests => exact absurd (Stage.called_of_running running) hstage
  | answered before now call =>
    have hbefore := before.calls_eq_nil rfl
    rw [log_append, own_append _ hbefore, List.filter_append, List.filter_append, own_eq_log hbefore]
    congr 1
    cases (t.deliver call).result with
    | ok => exact own_log_answer now call (ht call) rfl
    | error cause => exact own_log_answer now call (ht call) rfl
  | _ => exact absurd rfl hstage

/-- A run in which a result file is found goes on until then, or longer. -/
theorem le_elapsed_handOver (s : Settings) (t : Transmitter) {now : Nat} (phase : Phase) (w : World)
    (rest : List TimedEvent) (resultFile : Path) (le_limit : now ≤ limit) :
    now ≤ (handOver s t limit now phase w rest resultFile).elapsed := by
  cases hopen : Artifact.openFile w.files resultFile with
  | error cause => exact (handOver_unopened hopen).2.1.ge
  | ok artifact =>
    by_cases hl : now + t.delay ≤ limit
    · rw [(handOver_answered hopen hl).2.1]
      exact Nat.le_add_right now t.delay
    · rw [(handOver_left hopen (Nat.lt_of_not_le hl)).2.1]
      exact le_limit

theorem Schedule.madeBy_iff {o : Outcome} (htimedOut : o ≠ .timedOut)
    (hbroken : ∀ fault, o ≠ .broken fault) {look ended : Nat} :
    schedule.MadeBy o look ended ↔ look ≤ ended := by
  cases o with
  | timedOut => exact absurd rfl htimedOut
  | broken fault => exact absurd rfl (hbroken fault)
  | _ => exact Iff.rfl

/-- How far the looks of a run have come. -/
theorem Ends.looked (h : Ends s t clock schedule limit files events r) :
    ∃ k, r.trace.looks = firstLooks s files events k ∧
      ∀ j, j < k ↔ schedule.MadeBy r.outcome (j * s.pollInterval) r.elapsed ∧
        ∀ i < j, ∀ resultFile, lookAt s files events (i * s.pollInterval) ≠ .ready resultFile := by
  have hwaited {k : Nat} {trace : Trace} {made : Nat → Prop} (hlooked : ∀ j, j < k ↔ made j)
      (hquiet : Quiet s files events k trace) (j : Nat) : j < k ↔ made j ∧
        ∀ i < j, ∀ resultFile, lookAt s files events (i * s.pollInterval) ≠ .ready resultFile := by
    constructor
    · intro hj
      exact ⟨(hlooked j).mp hj, fun i hi => hquiet.unready i (Nat.lt_trans hi hj)⟩
    · intro hj
      exact (hlooked j).mpr hj.1
  cases h with
  | left looked patient quiet => exact ⟨_, quiet.looks, hwaited looked quiet⟩
  | broken request le_limit overflow looked quiet => exact ⟨_, quiet.looks, hwaited looked quiet⟩
  | gaveUp request shown le_limit looked quiet => exact ⟨_, quiet.looks, hwaited looked quiet⟩
  | @handed k resultFile phase w rest trace le_limit ready patient seen meanwhile quiet =>
    obtain ⟨hended, hlooks, _⟩ := handOver_concludes s t phase resultFile le_limit seen meanwhile
    have hreached := le_elapsed_handOver s t phase w rest resultFile le_limit
    obtain ⟨htimedOut, hbroken⟩ :=
      seenBy_conclusion s t limit files events (k * s.pollInterval) resultFile
    rw [← hended] at htimedOut hbroken
    refine ⟨k + 1, ?_, fun j => ?_⟩
    · simp only [Run.after, looks_append, hlooks, List.append_nil, quiet.looks, firstLooks_succ, ready]
      rfl
    -- The look that found the file is the last one, and the run went on until it or longer.
    · refine Iff.trans ?_ (and_congr_left' (Schedule.madeBy_iff htimedOut hbroken).symm)
      constructor
      · intro hj
        have hj : j ≤ k := Nat.le_of_lt_succ hj
        refine ⟨(Nat.mul_le_mul_right _ hj).trans hreached, ?_⟩
        intro i hi
        exact quiet.unready i (Nat.lt_of_lt_of_le hi hj)
      · rintro ⟨_, hunready⟩
        apply Nat.lt_succ_of_le
        by_contra hlt
        exact hunready k (Nat.lt_of_not_le hlt) resultFile ready

theorem counted?_eq (o : Outcome) :
    (o.counted? = some .success ↔ ∃ resultFile, o = .transmitted resultFile) ∧
      (o.counted? = some .failure ↔ ∃ cause, o = .failed (.upload cause)) ∧
      (o.counted? = some .openFailed ↔
        ∃ resultFile cause, o = .failed (.unopened resultFile cause)) := by
  rcases o with resultFile | _ | (⟨resultFile, cause⟩ | cause) | _ | fault <;>
    simp [Outcome.counted?]

/-- What a stage has counted is what its outcome is counted as. -/
theorem Stage.transmissions_eq (stage : Stage) :
    stage.tally.transmissions = stage.outcome.counted?.toList := by
  cases stage with
  | _ => rfl

theorem Standing.requests_le : ∀ standing : Standing, standing.requests ≤ 1
  | granted _ => Nat.le_refl 1
  | listening => Nat.zero_le 1
  | unreachable => Nat.zero_le 1

/-- A result file is found once at most, and shutdown is requested once at most. -/
theorem Stage.tally_le (stage : Stage) : stage.tally.found ≤ 1 ∧ stage.tally.requests ≤ 1 := by
  cases stage with
  | waiting standing => exact ⟨Nat.zero_le 1, standing.requests_le⟩
  | sending found artifact => exact ⟨Nat.le_refl 1, found.requests_le⟩
  | broken => exact ⟨Nat.zero_le 1, Nat.le_refl 1⟩
  | gaveUp => exact ⟨Nat.zero_le 1, Nat.le_refl 1⟩
  | unopened found resultFile cause => exact ⟨Nat.le_refl 1, found.requests_le⟩
  | concluded found resultFile result => exact ⟨Nat.le_refl 1, found.requests_le⟩

/-- When a run has ended, the result file that it found has been counted as transmitted or not. -/
theorem Stage.counted_of_ended (h : stage.outcome ≠ .stillRunning) :
    stage.outcome.counted?.toList.length = stage.tally.found := by
  cases stage with
  | waiting standing => exact absurd rfl h
  | sending found artifact => exact absurd rfl h
  | broken => rfl
  | gaveUp => rfl
  | unopened found resultFile cause => rfl
  | concluded found resultFile result =>
    cases result with
    | ok => rfl
    | error cause => rfl

/-- What is counted as an upload was one call, and what could not be opened was none. -/
theorem Stage.uploads_eq (stage : Stage) :
    (stage.outcome.counted? = some .openFailed → stage.tally.handed = 0 ∧ stage.tally.called = 0) ∧
      (stage.outcome.counted? = some .success ∨ stage.outcome.counted? = some .failure →
        stage.tally.handed = 1 ∧ stage.tally.called = 1) := by
  cases stage with
  | concluded found resultFile result =>
    refine ⟨?_, fun _ => ⟨rfl, rfl⟩⟩
    intro hopen
    cases result <;> cases hopen
  | unopened found resultFile cause => exact ⟨fun _ => ⟨rfl, rfl⟩, by rintro (h | h) <;> cases h⟩
  | _ => exact ⟨nofun, by rintro (h | h) <;> cases h⟩

/-- The accounts of every run with an interval between its looks agree, whatever the order of all
that is ready at one instant. -/
theorem run_accounts (s : Settings) (t : Transmitter) (clock : Clock) (schedule : Schedule)
    (limit : Nat) (files : FileSystem) {events : List TimedEvent} (hs : 0 < s.pollInterval)
    (hc : Chronological events) :
    Accounts s t schedule files events (run s t clock limit files events schedule) := by
  obtain ⟨stage, houtcome, hstory⟩ := run_story s t clock schedule limit files hs hc
  have hlooked := (run_ends s t clock schedule limit files hs hc).looked
  generalize run s t clock limit files events schedule = r at *
  have htally := hstory.tally_eq
  have hpolls := hstory.agrees.looks
  -- What is counted of a transmission is what the outcome says of it.
  have htransmissions : r.trace.metrics.filterMap Metric.transmission? = r.outcome.counted?.toList := by
    rw [← houtcome, ← stage.transmissions_eq, ← htally]
    rfl
  have hfound : (r.trace.metrics.filterMap Metric.poll?).count .ready = stage.tally.found :=
    congrArg Tally.found htally
  have hrequests : r.trace.metrics.count .gracePeriodStarted = stage.tally.requests :=
    congrArg Tally.requests htally
  have hlabel (outcome : TransmissionOutcome) :
      Metric.total r.trace.metrics (Metric.transmissionSeries outcome) = 1 ↔
        r.outcome.counted? = some outcome := by
    rw [Metric.total_transmission, htransmissions]
    cases r.outcome.counted? with
    | none => simp
    | some other => simp [List.count_singleton]
  exact {
    looks := hlooked
    polls := by rw [Metric.sum_polls, hpolls, List.length_map]
    statuses := by
      intro status
      rw [Metric.total_poll, hpolls, List.count_eq_countP, List.countP_map]
      rfl
    unreadable := by rw [Metric.total_poll, hstory.agrees.unreadable]
    ready_le := by
      rw [Metric.total_poll, hfound]
      exact stage.tally_le.1
    durations := by
      refine ⟨by rw [Metric.sum_transmissions, Metric.sum_durations], ?_⟩
      intro outcome
      rw [Metric.total_transmission, Metric.total_duration]
    running := by
      intro hrunning
      rw [Metric.sum_transmissions, htransmissions, hrunning]
      rfl
    returned := by
      intro hreturned
      rw [Metric.sum_transmissions, htransmissions, Metric.total_poll, hfound, ← houtcome]
      exact Stage.counted_of_ended (houtcome ▸ hreturned)
    success_iff := (hlabel _).trans (counted?_eq _).1
    failure_iff := (hlabel _).trans (counted?_eq _).2.1
    openFailed_iff := (hlabel _).trans (counted?_eq _).2.2
    called := by
      intro huploaded
      rw [← (counted?_eq _).1, ← (counted?_eq _).2.1, ← houtcome] at huploaded
      obtain ⟨hhanded, hcalled⟩ := stage.uploads_eq.2 huploaded
      exact ⟨(congrArg Tally.handed htally).trans hhanded, (congrArg Tally.called htally).trans hcalled⟩
    uncalled := by
      intro hunopened
      rw [← (counted?_eq _).2.2, ← houtcome] at hunopened
      obtain ⟨hhanded, hcalled⟩ := stage.uploads_eq.1 hunopened
      exact ⟨List.length_eq_zero_iff.mp ((congrArg Tally.handed htally).trans hhanded),
        List.length_eq_zero_iff.mp ((congrArg Tally.called htally).trans hcalled)⟩
    request_iff := by
      have hle := hrequests.le.trans stage.tally_le.2
      have hpos : r.trace.metrics.count .gracePeriodStarted = 1 ↔
          0 < r.trace.metrics.count .gracePeriodStarted := by omega
      rw [Metric.total_gracePeriod, hpos, hstory.agrees.requested, List.countP_pos_iff]
      constructor
      · rintro ⟨⟨now, entry⟩, hmem, hmessage⟩
        exact ⟨now, entry, hmem, of_decide_eq_true hmessage⟩
      · rintro ⟨now, entry, hmem, hmessage⟩
        exact ⟨(now, entry), hmem, decide_eq_true hmessage⟩
    request_le := by
      rw [Metric.total_gracePeriod, hrequests]
      exact stage.tally_le.2
    own := by
      intro hforeign
      have hother : ∀ call, ∀ entry ∈ (t.deliver call).entries,
          decide (entry.source = .gather) = false := by
        intro call entry hentry
        exact decide_eq_false (hforeign call entry hentry)
      exact hstory.own_log hother }

end

/-- A waitfile that is a directory at first, and names a result file when shutdown was requested. -/
def directoryFirst : List TimedEvent :=
  [⟨500, .change (.makeDirectory (.ofString "done"))⟩, ⟨1500, .trigger⟩,
    ⟨1600, .change (.remove (.ofString "done"))⟩, written 1700 "results.json" "[]",
    written 1800 "done" "results.json"]

/-- The third look finds the result file, and the one before could not read the waitfile. And where
a deadline at 2000 comes before the look at that instant, there are two looks. -/
theorem run_accounts_directory_first :
    let ms := (run (everySecond 3000) (accepting 300) ⟨0⟩ 9000 .empty directoryFirst).trace.metrics
    (Metric.sum ms "worker_waitfile_polls_total" = 3 ∧
      Metric.total ms (Metric.pollSeries .unreadable) = 1 ∧
      Metric.sum ms "worker_transmissions_total" = 1 ∧
      Metric.total ms (Metric.transmissionSeries .success) = 1) ∧
    Metric.sum (run (everySecond 2000) (accepting 0) ⟨0⟩ 9000 .empty (requestedAt 0)
      fun _ => .afterDeadline).trace.metrics "worker_waitfile_polls_total" = 2 := by
  constructor
  · have hordered : Chronological directoryFirst := by decide
    have hmissing : lookAt (everySecond 3000) .empty directoryFirst 0 = .missing := by decide +kernel
    have hunreadable : (lookAt (everySecond 3000) .empty directoryFirst 1000).counted =
        .unreadable := by
      decide +kernel
    have hready : lookAt (everySecond 3000) .empty directoryFirst 2000 =
        .ready (.ofString "results.json") := by decide +kernel
    have hunready : ∀ i < 2, ∀ other,
        lookAt (everySecond 3000) .empty directoryFirst (i * 1000) ≠ .ready other := by
      intro i hi other hother
      rcases Nat.le_one_iff_eq_zero_or_eq_one.mp (Nat.le_of_lt_succ hi) with rfl | rfl
      · cases hmissing.symm.trans hother
      · rw [Nat.one_mul] at hother
        rw [hother] at hunreadable
        cases hunreadable
    have hends :=
      run_ends (everySecond 3000) (accepting 300) ⟨0⟩ .inOrder 9000 .empty (by decide) hordered
    have hinTime : InTime (everySecond 3000) ⟨0⟩ directoryFirst 2000 := by
      refine Or.inr fun i hi => ?_
      cases hi
      decide
    obtain ⟨hended, hlooks, _⟩ := hends.found (by decide) ⟨hready, hunready⟩ hinTime
    have hended := Prod.mk.inj (hended.trans
      (show _ = (.transmitted (.ofString "results.json"), 2300) by decide +kernel))
    have haccounts := run_accounts (everySecond 3000) (accepting 300) ⟨0⟩ .inOrder 9000 .empty
      (by decide) hordered
    have hpolls := haccounts.polls
    have hstatuses := haccounts.statuses
    rw [hlooks] at hpolls hstatuses
    refine ⟨hpolls, (hstatuses .unreadable).trans (by decide +kernel), ?_,
      haccounts.success_iff.mpr ⟨_, hended.1⟩⟩
    rw [haccounts.returned (by rw [hended.1]; nofun), hstatuses .ready]
    decide +kernel
  · have hends := run_ends (everySecond 2000) (accepting 0) ⟨0⟩ (fun _ => .afterDeadline) 9000 .empty
      (by decide) (show Chronological (requestedAt 0) by decide)
    have hended := (hends.timedOut_iff 2000).mpr
      ⟨0, rfl, by decide, rfl, by decide, fun k _ => unready_of_empty 2000 0 _⟩
    have haccounts := run_accounts (everySecond 2000) (accepting 0) ⟨0⟩ (fun _ => .afterDeadline) 9000
      .empty (by decide) (show Chronological (requestedAt 0) by decide)
    obtain ⟨k, hlooks, hmade⟩ := haccounts.looks
    rw [hended.1, hended.2] at hmade
    have htwo : k = 2 := by
      have hfirst := (hmade 1).mpr ⟨Or.inr (Or.inl (by decide)), fun i _ => unready_of_empty 2000 0 _⟩
      have hlast : ¬ 2 < k := fun h => by
        rcases ((hmade 2).mp h).1 with hzero | hlt | ⟨_, hturn⟩
        · cases hzero
        · exact absurd hlt (by decide)
        · exact hturn rfl
      omega
    rw [haccounts.polls, hlooks, htwo]
    rfl

end Handoff.Gather
