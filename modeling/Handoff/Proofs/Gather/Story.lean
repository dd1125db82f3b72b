import Handoff.Proofs.Gather.Ending

/-!
The story of a run. `Story` lists what a run can do next at each stage, with all that it tells as it
does so; every run tells such a story, up to the stage at which it ended or was left. What metrics,
log and calls have to do with each other is then proved by induction on the story.
-/

namespace Handoff.Gather

/-- What a run itself logs. From a call until it is counted how that went, the transmitter speaks. -/
def Trace.ownFrom : Bool → Trace → List (Nat × Log.Entry)
  | _, [] => []
  | speaks, (now, .logged entry) :: rest =>
    if speaks then Trace.ownFrom speaks rest else (now, entry) :: Trace.ownFrom speaks rest
  | _, (_, .called _) :: rest => Trace.ownFrom true rest
  | _, (_, .counted _) :: rest => Trace.ownFrom false rest
  | speaks, _ :: rest => Trace.ownFrom speaks rest

def Trace.own (trace : Trace) : List (Nat × Log.Entry) := Trace.ownFrom false trace

/-- Where the story of a run is. -/
inductive Stage
  | waiting (standing : Standing)
  /-- The transmitter has been given the result file that was found. -/
  | sending (found : Standing) (artifact : Artifact)
  /-- The clock was overstrained. -/
  | broken
  | gaveUp
  | unopened (found : Standing) (resultFile : Path) (cause : FileError)
  | concluded (found : Standing) (resultFile : Path) (result : Except Upload.Error Unit)

def Stage.outcome : Stage → Outcome
  | waiting _ => .stillRunning
  | sending _ _ => .stillRunning
  | broken => .broken .deadlineOverflow
  | gaveUp => .timedOut
  | unopened _ resultFile cause => .failed (.unopened resultFile cause)
  | concluded _ resultFile result => answered resultFile result

/-- What is told before a result file is opened. -/
def foundTold (phase : Phase) (resultFile : Path) : List Occurrence :=
  [.logged (detectedEntry resultFile), .logged (changeEntry phase .transmitting)]

def handedTold (s : Settings) (artifact : Artifact) : List Occurrence :=
  [.logged (openedEntry artifact), .logged (transmittingEntry s artifact), .handed s.url artifact]

def unopenedTold (resultFile : Path) (cause : FileError) : List Occurrence :=
  [.counted (.transmission .openFailed), .logged (unopenedEntry (.unopened resultFile cause)),
    .logged (changeEntry .transmitting .done)]

/-- What is told when the transmitter has answered. -/
def answerTold (s : Settings) : Except Upload.Error Unit → List Occurrence
  | .ok () => [.counted (.transmission .success), .logged (transmittedEntry s),
      .logged (changeEntry .transmitting .done)]
  | .error cause => [.counted (.transmission .failure), .logged (failedEntry s cause),
      .logged (changeEntry .transmitting .done)]

/-- What a run can do at each stage. -/
inductive Story (s : Settings) (t : Transmitter) (clock : Clock) (events : List TimedEvent) :
    Stage → Trace → Prop
  | begun : Story s t clock events (.waiting .listening) (atInstant 0 [.logged (waitingEntry s)])
  /-- Shutdown is requested, or files change, which nothing tells of. -/
  | heard {stage : Stage} {trace heard : Trace} (before : Story s t clock events stage trace)
      (running : stage.outcome = .stillRunning) (requests : ∀ o ∈ heard, ∃ n, o.2 = .triggered n) :
      Story s t clock events stage (trace ++ heard)
  | looked {standing : Standing} {trace : Trace}
    (before : Story s t clock events (.waiting standing) trace)
      (now : Nat) {status : WaitfileStatus} (unready : ∀ resultFile, status ≠ .ready resultFile) :
      Story s t clock events (.waiting standing) (trace ++ atInstant now (lookTold s status))
  | closed {trace : Trace} (before : Story s t clock events (.waiting .listening) trace) (now : Nat) :
      Story s t clock events (.waiting .unreachable) (trace ++ atInstant now [.logged closedEntry])
  | granted {now : Nat} {trace : Trace} (before : Story s t clock events (.waiting .listening) trace)
      (request : firstRequest? events = some now) (shown : clock.shows (now + s.gracePeriod) = true) :
      Story s t clock events (.waiting (.granted (now + s.gracePeriod)))
        (trace ++ atInstant now (requestTold s ++ [.logged (changeEntry .waiting .gracePeriod)]))
  | overstrained {now : Nat} {trace : Trace}
    (before : Story s t clock events (.waiting .listening) trace)
      (request : firstRequest? events = some now)
      (overflow : clock.shows (now + s.gracePeriod) = false) :
      Story s t clock events .broken (trace ++ atInstant now (requestTold s))
  | timedOut {deadline : Nat} {trace : Trace}
      (before : Story s t clock events (.waiting (.granted deadline)) trace) :
      Story s t clock events .gaveUp (trace ++ atInstant deadline
        [.logged timedOutEntry, .logged (changeEntry .gracePeriod .aborted)])
  | unopened {standing : Standing} {trace : Trace}
      (before : Story s t clock events (.waiting standing) trace) (now : Nat) (resultFile : Path)
      (cause : FileError) :
      Story s t clock events (.unopened standing resultFile cause)
        (trace ++ (atInstant now (lookTold s (.ready resultFile)) ++
          atInstant now (foundTold standing.phase resultFile ++ unopenedTold resultFile cause)))
  | handed {standing : Standing} {trace : Trace}
    (before : Story s t clock events (.waiting standing) trace)
      (now : Nat) (artifact : Artifact) :
      Story s t clock events (.sending standing artifact)
        (trace ++ (atInstant now (lookTold s (.ready artifact.path)) ++
          atInstant now (foundTold standing.phase artifact.path ++ handedTold s artifact)))
  | answered {standing : Standing} {artifact : Artifact} {trace : Trace}
      (before : Story s t clock events (.sending standing artifact) trace) (now : Nat) (call : Call) :
      Story s t clock events (.concluded standing artifact.path (t.deliver call).result)
        (trace ++ atInstant now ((.called call :: (t.deliver call).entries.map .logged) ++
          answerTold s (t.deliver call).result))

/-- The run tells a story that comes to its outcome. -/
def Tells (s : Settings) (t : Transmitter) (clock : Clock) (events : List TimedEvent) (r : Run) :
    Prop :=
  ∃ stage, stage.outcome = r.outcome ∧ Story s t clock events stage r.trace

/-- The run waits, and so does its story. -/
def WaitsTelling (s : Settings) (t : Transmitter) (clock : Clock) (limit : Nat) (files : FileSystem)
    (events : List TimedEvent) (trace : Trace) (st : State) : Prop :=
  Waiting s clock limit files events trace st ∧ Story s t clock events (.waiting st.standing) trace

section
variable {s : Settings} {t : Transmitter} {clock : Clock} {schedule : Schedule} {limit : Nat}
  {files : FileSystem} {events past fresh : List TimedEvent} {k upTo now : Nat} {served : List Arm}
  {trace : Trace} {st : State} {stage : Stage} {standing : Standing}

/-- Without a call a run logs all itself. -/
theorem own_eq_log (h : trace.calls = []) : trace.own = trace.log := by
  unfold Trace.own
  induction trace with
  | nil => rfl
  | cons first rest ih =>
    obtain ⟨now, occurrence⟩ := first
    cases occurrence with
    | logged entry => exact congrArg (List.cons (now, entry)) (ih h)
    | called call => cases h
    | counted metric => exact ih h
    | looked status => exact ih h
    | handed url artifact => exact ih h
    | triggered n => exact ih h

theorem own_append {a : Trace} (b : Trace) (ha : a.calls = []) :
    Trace.own (a ++ b) = Trace.own a ++ Trace.own b := by
  unfold Trace.own
  -- Nothing in `a` lets the transmitter speak, so `b` is read as if it came first.
  induction a with
  | nil => rfl
  | cons first rest ih =>
    obtain ⟨now, occurrence⟩ := first
    cases occurrence with
    | logged entry => exact congrArg (List.cons (now, entry)) (ih ha)
    | called call => cases ha
    | counted metric => exact ih ha
    | looked status => exact ih ha
    | handed url artifact => exact ih ha
    | triggered n => exact ih ha

/-- What is heard from outside, a run does not log. -/
theorem own_heard {heard : Trace} (h : ∀ o ∈ heard, ∃ n, o.2 = .triggered n) : heard.own = [] := by
  have hcalls : heard.calls = [] := filterMap_heard _ (fun _ _ => rfl) h
  rw [own_eq_log hcalls]
  exact filterMap_heard _ (fun _ _ => rfl) h

/-- Nothing that the transmitter logs is taken for the run's own. -/
theorem own_answer (now : Nat) (call : Call) (entries : List Log.Entry) (metric : Metric)
    (told : List Occurrence) :
    Trace.own (atInstant now ((.called call :: entries.map .logged) ++ .counted metric :: told)) =
      Trace.own (atInstant now told) := by
  have hspoken : Trace.ownFrom true (atInstant now (entries.map .logged ++ .counted metric :: told)) =
      Trace.own (atInstant now told) := by
    induction entries with
    | nil => rfl
    | cons entry rest ih => exact ih
  exact hspoken

theorem request_of_listening (h : standingAfter s past = .listening) : firstRequest? past = none := by
  cases hpast : firstRequest? past with
  | some i =>
    rw [standingAfter_granted hpast] at h
    cases h
  | none => rfl

theorem Story.told_nothing (h : Story s t clock events stage trace) (now : Nat) :
    Story s t clock events stage (trace ++ atInstant now []) := by
  rw [atInstant, List.map_nil, List.append_nil]
  exact h

/-- Taking a shutdown request, if one is there, goes on with the story. -/
theorem Within.attend_story (hin : Within s clock files events past fresh k now served trace st)
    (h : Story s t clock events (.waiting st.standing) trace)
    (hserved : (schedule now).Served .request served) :
    match attend s clock now st.world st.standing with
    | .error (fault, more) => fault = .deadlineOverflow ∧
      Story s t clock events .broken (trace ++ atInstant now more)
    | .ok (standing, more) =>
      Story s t clock events (.waiting standing) (trace ++ atInstant now more) := by
  have hsame := h.told_nothing now
  cases hst : st.standing with
  | unreachable =>
    rw [hst] at hsame
    exact hsame
  | granted deadline =>
    rw [hst] at hsame
    exact hsame
  | listening =>
    rw [hst] at h hsame
    have hknown : known served past fresh = past := if_neg hserved.new
    have hnone := request_of_listening (hknown ▸ hin.standing.symm.trans hst)
    have hrequests := meetAll_requests_eq_zero_iff (w := World.initial files) (past ++ fresh) rfl rfl
    rw [← hin.world] at hrequests
    by_cases hzero : st.world.requests = 0
    · rw [attend_none hzero]
      cases st.world.alive with
      | true => exact hsame
      | false => exact .closed h now
    -- Some event of this instant is the first request of all.
    · obtain ⟨i, hi⟩ := Option.ne_none_iff_exists'.mp (mt hrequests.mpr hzero)
      obtain ⟨e, he, hinstant⟩ := firstRequest?_append_later hnone hi
      obtain rfl : i = now := hinstant.symm.trans (hin.fresh_eq e he)
      have hrequest : firstRequest? events = some i := hin.split ▸ firstRequest?_append_some _ hi
      rw [attend_some hzero]
      cases hshows : clock.shows (i + s.gracePeriod) with
      | true => exact .granted h hrequest hshows
      | false => exact ⟨rfl, .overstrained h hrequest hshows⟩

/-- Handing a result file over goes on with the story, up to its end or to where the run is left. -/
theorem handOver_story (h : Story s t clock events (.waiting standing) trace) (limit now : Nat)
    (w : World) (rest : List TimedEvent) (resultFile : Path) :
    ∃ stage, stage.outcome = (handOver s t limit now standing.phase w rest resultFile).outcome ∧
      Story s t clock events stage (trace ++ (atInstant now (lookTold s (.ready resultFile)) ++
        (handOver s t limit now standing.phase w rest resultFile).trace)) := by
  unfold handOver
  cases hopen : Artifact.openFile w.files resultFile with
  | error cause => exact ⟨.unopened standing resultFile cause, rfl, .unopened h now resultFile cause⟩
  | ok artifact =>
    have hpath : artifact.path = resultFile := (openFile_path hopen).1
    have hhanded := Story.handed h now artifact
    rw [hpath] at hhanded
    dsimp only
    generalize hmet : w.meetAll (if t.delay = 0 then [] else due (min (now + t.delay) limit) rest) = met
    have hrequests : ∀ o ∈ met.2, ∃ n, o.2 = .triggered n := by
      rw [← hmet]
      exact meetAll_heard w _
    have hheard := Story.heard hhanded rfl hrequests
    -- The run is left before the transmitter has waited, or the transmitter answers.
    split
    · refine ⟨.sending standing artifact, rfl, ?_⟩
      rw [List.append_assoc, List.append_assoc] at hheard
      exact hheard
    · generalize (⟨s.url, resultFile, artifact.contentType, artifact.size,
        artifact.readAll met.1.files⟩ : Call) = call
      have hanswered := Story.answered hheard (now + t.delay) call
      rw [hpath] at hanswered
      simp only [List.append_assoc] at hanswered ⊢
      refine ⟨.concluded standing resultFile (t.deliver call).result, ?_, ?_⟩
      · cases hresult : (t.deliver call).result with
        | ok => rfl
        | error cause => rfl
      · cases hresult : (t.deliver call).result with
        | ok =>
          rw [hresult] at hanswered
          exact hanswered
        | error cause =>
          rw [hresult] at hanswered
          exact hanswered

/-- A look goes on with the story. -/
theorem poll_story (h : Story s t clock events (.waiting standing) trace) (limit now : Nat) (w : World)
    (rest : List TimedEvent) :
    match poll s t limit now standing w rest with
    | .inl r => ∃ stage, stage.outcome = r.outcome ∧ Story s t clock events stage (trace ++ r.trace)
    | .inr looked => Story s t clock events (.waiting standing) (trace ++ atInstant now looked) := by
  unfold poll
  cases Waitfile.inspect w.files s.waitfile with
  | ready resultFile => exact handOver_story h limit now w rest resultFile
  | missing =>
    have hunready : ∀ resultFile, WaitfileStatus.missing ≠ .ready resultFile := nofun
    exact .looked h now hunready
  | unreadable cause =>
    have hunready : ∀ resultFile, WaitfileStatus.unreadable cause ≠ .ready resultFile := nofun
    exact .looked h now hunready

/-- Serving an arm in its turn goes on with the story. -/
theorem Within.serve_story (hin : Within s clock files events past fresh k now served trace st)
    (h : Story s t clock events (.waiting st.standing) trace) {arm : Arm}
    (hserved : (schedule now).Served arm served) :
    Leads (Tells s t clock events) (fun trace st => Story s t clock events (.waiting st.standing) trace)
      trace (serve s t clock limit now st arm) := by
  cases arm with
  | look =>
    rw [serve]
    by_cases hp : st.nextPoll = now
    · have hpolled := poll_story h limit now st.world st.events
      rw [if_pos hp]
      cases hpoll : poll s t limit now st.standing st.world st.events with
      | inl r =>
        rw [hpoll] at hpolled
        exact hpolled
      | inr looked =>
        rw [hpoll] at hpolled
        exact hpolled
    · rw [if_neg hp]
      exact h.told_nothing now
  | request =>
    have hattend := hin.attend_story h hserved
    rw [serve]
    cases hattended : attend s clock now st.world st.standing with
    | error broken =>
      rw [hattended] at hattend
      exact ⟨.broken, congrArg Outcome.broken hattend.1.symm, hattend.2⟩
    | ok attended =>
      rw [hattended] at hattend
      exact hattend
  | deadline =>
    rw [serve]
    by_cases hover : st.standing.isOver now = true
    · obtain ⟨_, _, _, _, hstanding⟩ := hin.deadline_of_isOver (hserved.request.mpr (Or.inr rfl)) hover
      rw [hstanding] at h
      rw [if_pos hover]
      exact ⟨.gaveUp, rfl, h.timedOut⟩
    · rw [if_neg hover]
      exact h.told_nothing now

/-- One instant goes on with the story. -/
theorem step_story (hs : 0 < s.pollInterval) (hc : Chronological events)
    (hw : Waits s clock limit files events past k upTo trace st)
    (h : Story s t clock events (.waiting st.standing) trace) :
    Leads (Tells s t clock events) (WaitsTelling s t clock limit files events) trace
      (step s t clock schedule limit st) := by
  refine step_leads (fun served trace st' => st.instant ≤ limit ∧ (∃ k, Within s clock files events
    past (due st.instant st.events) k st.instant served trace st') ∧
      Story s t clock events (.waiting st'.standing) trace) (fun _ => ⟨.waiting st.standing, rfl, h⟩)
    (fun hl => ?_) ?_ ?_
  · exact ⟨Nat.le_of_not_lt hl, ⟨k, hw.meet hs hc⟩, h.heard rfl (meetAll_heard st.world _)⟩
  · rintro served arm hserved trace st' ⟨hl, ⟨k', hin⟩, h⟩
    exact ((hin.serve_ends hs hc hl hserved).and (hin.serve_story h hserved)).imp
      (fun _ hended => hended.2) fun _ _ hwaits => ⟨hl, hwaits⟩
  · rintro trace st' ⟨hl, ⟨k', hin⟩, h⟩
    exact ⟨⟨_, _, _, hin.waits hs hl (Turn.mem_arms _)⟩, h⟩

/-- From a state in which it waits, a run goes on with its story. -/
theorem watch_story (hs : 0 < s.pollInterval) (hc : Chronological events)
    (hw : Waits s clock limit files events past k upTo trace st)
    (h : Story s t clock events (.waiting st.standing) trace) :
    Tells s t clock events ((watch s t clock schedule limit hs st).after trace) := by
  have hstep (trace : Trace) (st : State) (h : WaitsTelling s t clock limit files events trace st) :
      Leads (Tells s t clock events) (WaitsTelling s t clock limit files events) trace
        (step s t clock schedule limit st) := by
    obtain ⟨⟨past, k, upTo, hw⟩, hstory⟩ := h
    exact step_story hs hc hw hstory
  exact watch_leads hs hstep ⟨⟨past, k, upTo, hw⟩, h⟩

/-- Every run with an interval between its looks tells a story that comes to its outcome. -/
theorem run_story (s : Settings) (t : Transmitter) (clock : Clock) (schedule : Schedule) (limit : Nat)
    (files : FileSystem) {events : List TimedEvent} (hs : 0 < s.pollInterval)
    (hc : Chronological events) :
    Tells s t clock events (run s t clock limit files events schedule) := by
  have hbegun : Story s t clock events (.waiting .listening) (atInstant 0 [.logged (waitingEntry s)]) :=
    .begun
  have hfirst := poll_story hbegun limit 0 (World.initial files) events
  by_cases hready : ∃ resultFile, lookAt s files events 0 = .ready resultFile
  · obtain ⟨resultFile, hready⟩ := hready
    rw [run_ready t clock schedule limit hs hready]
    obtain ⟨stage, houtcome, hstory⟩ :=
      handOver_story hbegun limit 0 (World.initial files) events resultFile
    refine ⟨stage, houtcome, ?_⟩
    rw [← List.append_assoc] at hstory
    exact hstory
  · have hunready : ∀ resultFile, lookAt s files events 0 ≠ .ready resultFile :=
      fun resultFile h => hready ⟨resultFile, h⟩
    obtain ⟨looked, hpoll, hlooks, hhanded, hsent⟩ :=
      poll_unready t limit 0 .listening events (w := World.initial files) hunready
    rw [hpoll] at hfirst
    simp only [World.initial] at hpoll
    simp only [run, hs, dif_pos, hpoll]
    exact watch_story hs hc (initial_waits hunready hlooks hhanded hsent) hfirst

end

end Handoff.Gather
