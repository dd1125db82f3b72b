import Handoff.CommandLine.Program
import Handoff.Proofs.Except
import Handoff.Proofs.Gather.Delivery
import Handoff.Proofs.Gather.GracePeriod
import Handoff.Proofs.Upload.Exchange
import Handoff.Proofs.Worker.Deadline

/-!
What the exit status of a worker tells. Status 0 means that the result file was taken, or that there was
none when the grace period was over; an upload that is not taken, or cannot begin, makes status 1.
-/

namespace Handoff

theorem Config.valid_of_resolve {fs : FileSystem} {path : Option Path} {overrides : Overrides}
    {c : Config} (h : Config.resolve fs path overrides = .ok c) : c.issues = [] := by
  unfold Config.resolve at h
  split at h
  · cases h
  · unfold Config.validate at h
    split at h
    · rename_i hvalid
      obtain rfl := Except.ok.inj h
      exact hvalid
    · cases h

theorem Gather.calls_eq_sent (trace : Gather.Trace) : trace.calls = trace.sent.map Prod.snd := by
  induction trace with
  | nil => rfl
  | cons first rest ih =>
    obtain ⟨now, occurrence⟩ := first
    cases occurrence with
    | called call => exact congrArg (List.cons call) ih
    | _ => exact ih

namespace Worker
open Gather

section
variable {s : Surroundings} {c : Config} {url : Url} {schedule : Schedule}

theorem events_chronological (s : Surroundings) : Chronological s.events := by
  unfold Surroundings.events
  cases s.signal with
  | none => exact List.Pairwise.nil
  | some signal => exact List.pairwise_singleton _ _

theorem events_changes (s : Surroundings) : changes s.events = [] := by
  unfold Surroundings.events
  cases s.signal <;> rfl

theorem firstRequest?_events (s : Surroundings) : firstRequest? s.events = s.signal.map Prod.fst := by
  unfold Surroundings.events
  cases s.signal <;> rfl

theorem prepare_route {told : List Log.Entry} (h : prepare s c = (.ok url, told)) :
    Route.resolve c.aggregator = .ok url := by
  unfold prepare at h
  split at h
  · cases h
  · split at h
    · cases h
    · rename_i found hroute
      dsimp only at h
      split at h
      · cases h
      · obtain rfl := Except.ok.inj (Prod.mk.inj h).1
        exact hroute

/-- The worker gave up: a signal came, and the grace period after it went by. -/
def GaveUp (s : Surroundings) (c : Config) (elapsed : Nat) : Prop :=
  ∃ instant signal, s.signal = some (instant, signal) ∧
    elapsed = instant + c.shutdown.gracePeriodSecs * 1000

/-- The upload of the result file at a path, with what it holds while the worker runs. -/
def uploadOf (s : Surroundings) (c : Config) (url : Url) (artifact : Artifact) : Call :=
  uploadFrom (settings c url) artifact s.files

theorem filesSeen_events (s : Surroundings) (now : Nat) : filesSeen s.files s.events now = s.files :=
  filesSeen_of_no_changes s.files (events_changes s) now

/-- Each look at the waitfile sees the same. -/
theorem lookAt_events (s : Surroundings) (c : Config) (url : Url) (now : Nat) :
    lookAt (settings c url) s.files s.events now = Waitfile.inspect s.files c.waitfile.path := by
  rw [lookAt, filesSeen_events]
  rfl

theorem gather_ends (valid : c.issues = []) :
    Ends (settings c url) (Upload.transmitter s.network c.transmit c.aggregator.method) s.clock
      schedule (s.horizon (settings c url)) s.files s.events (gather s c url schedule) :=
  run_ends _ _ _ _ _ _ (Config.pollInterval_pos valid) (events_chronological s)

/-- Without a result that was taken, the only good end is that of the grace period. -/
theorem gaveUp_of_finished (valid : c.issues = [])
    (htransmitted : ∀ resultFile, (gather s c url schedule).outcome ≠ .transmitted resultFile)
    (hfinished : Ending.ofOutcome (gather s c url schedule).outcome = .finished) :
    GaveUp s c (gather s c url schedule).elapsed := by
  have houtcome : (gather s c url schedule).outcome = .timedOut := by
    cases h : (gather s c url schedule).outcome with
    | transmitted resultFile => exact absurd h (htransmitted resultFile)
    | timedOut => rfl
    | _ => simp [h, Ending.ofOutcome] at hfinished
  obtain ⟨i, hi, _, helapsed, _⟩ := ((gather_ends valid).timedOut_iff _).mp ⟨houtcome, rfl⟩
  rw [firstRequest?_events, Option.map_eq_some_iff] at hi
  obtain ⟨⟨_, signal⟩, hsignal, rfl⟩ := hi
  exact ⟨_, signal, hsignal, helapsed⟩

/-- How gathering ends while files stay as they are: there is no result file, it cannot be opened,
or the upload decides. -/
theorem gather_cases (valid : c.issues = []) :
    (gather s c url schedule).trace.calls = [] ∧
      (∀ resultFile, ¬ Waitfile.Names s.files c.waitfile.path resultFile) ∧
      (Ending.ofOutcome (gather s c url schedule).outcome = .finished →
        GaveUp s c (gather s c url schedule).elapsed) ∨
    ∃ resultFile, Waitfile.Names s.files c.waitfile.path resultFile ∧
      ((∃ cause, Artifact.openFile s.files resultFile = .error cause ∧
        (gather s c url schedule).trace.calls = [] ∧
        (gather s c url schedule).outcome = .failed (.unopened resultFile cause)) ∨
      ∃ artifact, Artifact.openFile s.files resultFile = .ok artifact ∧
        (gather s c url schedule).trace.calls = [uploadOf s c url artifact] ∧
        (gather s c url schedule).outcome = answered resultFile (Upload.exchange s.network c.transmit
          c.aggregator.method (uploadOf s c url artifact)).result) := by
  rw [calls_eq_sent]
  rcases (gather_ends valid).quiet_or_finds with
    ⟨⟨k, hpos, hquiet⟩, htransmitted, _⟩ | ⟨look, resultFile, hfinds⟩
  · refine Or.inl ⟨congrArg _ hquiet.sent, ?_, gaveUp_of_finished valid htransmitted⟩
    intro resultFile hnames
    apply hquiet.unready 0 hpos resultFile
    rw [lookAt_events]
    exact Waitfile.inspect_eq_ready_iff.mpr hnames
  · have hready := hfinds.ready
    rw [lookAt_events] at hready
    refine Or.inr ⟨resultFile, Waitfile.inspect_eq_ready_iff.mp hready, ?_⟩
    have hsent := hfinds.sent
    have hcases := hfinds.outcome_cases
    unfold uploads at hsent
    simp only [filesSeen_events] at hsent hcases
    rcases hcases with ⟨cause, hopen, houtcome⟩ | ⟨artifact, hopen, houtcome⟩
    · rw [hopen] at hsent
      exact Or.inl ⟨cause, hopen, congrArg _ hsent, houtcome⟩
    -- The transmitter does not wait, so its answer comes in time.
    · have hle : look + (Upload.transmitter s.network c.transmit c.aggregator.method).delay ≤
          s.horizon (settings c url) := hfinds.le_limit
      rw [if_pos hle] at houtcome
      rw [hopen] at hsent
      exact Or.inr ⟨artifact, hopen, congrArg _ (hsent.trans (if_pos hle)), houtcome⟩

theorem read_of_openFile {fs : FileSystem} {resultFile : Path} {artifact : Artifact}
    (h : Artifact.openFile fs resultFile = .ok artifact) :
    fs.read resultFile = artifact.readAll fs := by
  rw [FileSystem.read, (openFile_path h).2.2]
  rfl

/-- What gathering causes while files stay as they are: no request without a result file, or without an
upload that can begin, and else one request, whose answer decides. -/
theorem gather_tells (valid : c.issues = []) :
    (s.requests c (gather s c url schedule).trace = [] ∧
      (∀ resultFile, ¬ Waitfile.Names s.files c.waitfile.path resultFile) ∧
      (Ending.ofOutcome (gather s c url schedule).outcome = .finished →
        GaveUp s c (gather s c url schedule).elapsed)) ∨
    (s.requests c (gather s c url schedule).trace = [] ∧
      ∃ cause, Ending.ofOutcome (gather s c url schedule).outcome = .failed cause) ∨
    ∃ resultFile artifact answer request, Waitfile.Names s.files c.waitfile.path resultFile ∧
      Artifact.openFile s.files resultFile = .ok artifact ∧ s.network url = some answer ∧
      s.requests c (gather s c url schedule).trace = [request] ∧ request.method = c.aggregator.method ∧
      request.target = url.target ∧ s.files.read resultFile = .ok request.body ∧
      (gather s c url schedule).outcome = answered resultFile (Upload.judge url answer) := by
  unfold Surroundings.requests
  rcases gather_cases valid with ⟨hcalls, hnone, hgaveUp⟩ | ⟨resultFile, hnames, hcases⟩
  · rw [hcalls]
    exact Or.inl ⟨rfl, hnone, hgaveUp⟩
  · right
    rcases hcases with ⟨cause, _, hcalls, houtcome⟩ | ⟨artifact, hopen, hcalls, houtcome⟩
    · rw [hcalls, houtcome]
      exact Or.inl ⟨rfl, _, rfl⟩
    · rw [hcalls, houtcome]
      rcases Upload.exchange_cases s.network c.transmit c.aggregator.method
        (uploadOf s c url artifact) with
        ⟨e, hexchange⟩ | ⟨answer, body, hanswer, hbody, hexchange⟩
      · rw [List.filterMap_cons, hexchange]
        exact Or.inl ⟨rfl, _, rfl⟩
      · rw [List.filterMap_cons, hexchange]
        exact Or.inr ⟨resultFile, artifact, answer, _, hnames, hopen, hanswer, rfl, rfl, rfl,
          (read_of_openFile hopen).trans hbody, rfl⟩

/-- The ways in which a worker fares: it fails before it waits, or it gathers. -/
theorem run_cases (s : Surroundings) (a : CommandLine.Arguments) (schedule : Schedule) :
    ((∃ cause, (run s a schedule).ending = .failed cause) ∧ (run s a schedule).requests = []) ∨
    ∃ c url told, Config.resolve s.files a.config a.overrides = .ok c ∧ prepare s c = (.ok url, told) ∧
      (run s a schedule).ending = Ending.ofOutcome (gather s c url schedule).outcome ∧
      (run s a schedule).requests = s.requests c (gather s c url schedule).trace ∧
      (run s a schedule).elapsed = (gather s c url schedule).elapsed := by
  unfold run
  cases hresolve : Config.resolve s.files a.config a.overrides with
  | error cause => exact Or.inl ⟨⟨_, rfl⟩, rfl⟩
  | ok c =>
    dsimp only [work]
    cases hprepare : prepare s c with
    | mk result told =>
      cases result with
      | error cause => exact Or.inl ⟨⟨_, rfl⟩, rfl⟩
      | ok url => exact Or.inr ⟨c, url, told, rfl, hprepare, rfl, rfl, rfl⟩

end

end Worker

namespace CommandLine

/-- A request carried the result file to where it belongs, and was accepted. -/
structure Uploads (s : Worker.Surroundings) (c : Config) (request : Upload.Request) : Prop where
  method_eq : request.method = c.aggregator.method
  accepted : ∃ url answer, Route.resolve c.aggregator = .ok url ∧ request.target = url.target ∧
    s.network url = some answer ∧ answer.accepts = true
  body_eq : ∃ resultFile, Waitfile.Names s.files c.waitfile.path resultFile ∧
    s.files.read resultFile = .ok request.body

/-- What the exit status of a run tells of its requests. -/
structure StatusTells (s : Worker.Surroundings) (a : Arguments) (schedule : Gather.Schedule)
    (e : Execution) : Prop where
  requests_le : e.requests.length ≤ 1
  zero : e.status? = some 0 → ∃ c, Config.resolve s.files a.config a.overrides = .ok c ∧
    ((∃ request, e.requests = [request] ∧ Uploads s c request) ∨
      e.requests = [] ∧ Worker.GaveUp s c (Worker.run s a schedule).elapsed)
  refused : ∀ c url answer, Config.resolve s.files a.config a.overrides = .ok c →
    Route.resolve c.aggregator = .ok url → s.network url = some answer → answer.accepts = false →
    e.requests ≠ [] → e.status? = some 1
  unopened : ∀ c url told resultFile cause, Config.resolve s.files a.config a.overrides = .ok c →
    Worker.prepare s c = (.ok url, told) → Waitfile.Names s.files c.waitfile.path resultFile →
    Artifact.openFile s.files resultFile = .error cause → e.status? = some 1

section
variable {s : Worker.Surroundings} {a : Arguments} {schedule : Gather.Schedule} {e : Execution}

theorem tells_of_failed (hrequests : e.requests = []) (hstatus : e.status? = some 1) :
    StatusTells s a schedule e where
  requests_le := by
    rw [hrequests]
    exact Nat.zero_le 1
  zero := by
    intro h
    rw [hstatus] at h
    cases h
  refused := fun _ _ _ _ _ _ _ _ => hstatus
  unopened := fun _ _ _ _ _ _ _ _ _ => hstatus

theorem finished_of_status {ending : Worker.Ending} (h : ending.status? = some 0) :
    ending = .finished := by
  cases ending with
  | finished => rfl
  | _ => cases h

theorem names_unique {fs : FileSystem} {waitfile path other : Path}
    (h : Waitfile.Names fs waitfile path) (h' : Waitfile.Names fs waitfile other) : path = other :=
  WaitfileStatus.ready.inj ((Waitfile.inspect_eq_ready_iff.mpr h).symm.trans
    (Waitfile.inspect_eq_ready_iff.mpr h'))

/-- Without a result file nothing is sent, and only the end of the grace period is a good end. -/
theorem tells_of_unnamed {c : Config} (hresolve : Config.resolve s.files a.config a.overrides = .ok c)
    (hunnamed : ∀ resultFile, ¬ Waitfile.Names s.files c.waitfile.path resultFile)
    (hrequests : e.requests = [])
    (hzero : e.status? = some 0 → Worker.GaveUp s c (Worker.run s a schedule).elapsed) :
    StatusTells s a schedule e where
  requests_le := by
    rw [hrequests]
    exact Nat.zero_le 1
  zero := fun h => ⟨c, hresolve, Or.inr ⟨hrequests, hzero h⟩⟩
  refused := fun _ _ _ _ _ _ _ hsome => absurd hrequests hsome
  unopened := by
    intro other _ _ path _ hother _ hnames _
    obtain rfl := Except.ok.inj (hresolve.symm.trans hother)
    exact absurd hnames (hunnamed path)

/-- After a request its answer decides the status. -/
theorem tells_of_answered {c : Config} {url : Url} {resultFile : Path} {artifact : Artifact}
    {answer : Upload.Answer} {request : Upload.Request}
    (hresolve : Config.resolve s.files a.config a.overrides = .ok c)
    (hroute : Route.resolve c.aggregator = .ok url) (hanswer : s.network url = some answer)
    (hnames : Waitfile.Names s.files c.waitfile.path resultFile)
    (hopen : Artifact.openFile s.files resultFile = .ok artifact) (hrequests : e.requests = [request])
    (hstatus : e.status? = some (if answer.accepts then 0 else 1))
    (hmethod : request.method = c.aggregator.method) (htarget : request.target = url.target)
    (hbody : s.files.read resultFile = .ok request.body) : StatusTells s a schedule e where
  requests_le := by
    rw [hrequests]
    exact Nat.le_refl 1
  zero := by
    intro hzero
    have haccepts : answer.accepts = true := by
      cases h : answer.accepts with
      | true => rfl
      | false =>
        rw [hstatus, h] at hzero
        cases hzero
    exact ⟨c, hresolve, Or.inl ⟨request, hrequests, hmethod,
      ⟨url, answer, hroute, htarget, hanswer, haccepts⟩, resultFile, hnames, hbody⟩⟩
  refused := by
    intro other found told hother hfound htold hrefuses _
    obtain rfl := Except.ok.inj (hresolve.symm.trans hother)
    obtain rfl := Except.ok.inj (hroute.symm.trans hfound)
    obtain rfl := Option.some.inj (hanswer.symm.trans htold)
    rw [hstatus, hrefuses]
    rfl
  unopened := by
    intro other _ _ path cause hother _ hnames' hopen'
    obtain rfl := Except.ok.inj (hresolve.symm.trans hother)
    obtain rfl := names_unique hnames hnames'
    cases hopen.symm.trans hopen'

theorem status_of_answered (url : Url) (resultFile : Path) (answer : Upload.Answer) :
    (Worker.Ending.ofOutcome (Gather.answered resultFile (Upload.judge url answer))).status? =
      some (if answer.accepts then 0 else 1) := by
  have hjudge := Upload.judge_ok_iff url answer
  cases hresult : Upload.judge url answer with
  | ok =>
    rw [hjudge.mp hresult]
    rfl
  | error e =>
    have hrefuses : answer.accepts = false := by
      rw [← Bool.not_eq_true, ← hjudge, hresult]
      nofun
    rw [hrefuses]
    rfl

theorem runWorker_tells (s : Worker.Surroundings) (environment : Environment) (a : Arguments)
    (schedule : Gather.Schedule) : StatusTells s a schedule (runWorker s environment a schedule) := by
  have hstatus : (runWorker s environment a schedule).status? =
      (Worker.run s a schedule).ending.status? := rfl
  have hrequests : (runWorker s environment a schedule).requests =
      (Worker.run s a schedule).requests := rfl
  rcases Worker.run_cases s a schedule with ⟨⟨cause, hending⟩, hnone⟩ |
    ⟨c, url, told, hresolve, hprepare, hending, hall, helapsed⟩
  · exact tells_of_failed (hrequests.trans hnone) (by rw [hstatus, hending]; rfl)
  rw [hending] at hstatus
  rw [hall] at hrequests
  rcases Worker.gather_tells (Config.valid_of_resolve hresolve) with
    ⟨hnone, hunnamed, hgaveUp⟩ | ⟨hnone, cause, hfailed⟩ |
      ⟨resultFile, artifact, answer, request, hnames, hopen, hanswer, hone, hmethod, htarget, hbody,
        houtcome⟩
  · refine tells_of_unnamed hresolve hunnamed (hrequests.trans hnone) fun hzero => ?_
    rw [helapsed]
    exact hgaveUp (finished_of_status (hstatus.symm.trans hzero))
  · rw [hfailed] at hstatus
    exact tells_of_failed (hrequests.trans hnone) hstatus
  · rw [houtcome, status_of_answered] at hstatus
    exact tells_of_answered hresolve (Worker.prepare_route hprepare) hanswer hnames hopen
      (hrequests.trans hone) hstatus hmethod htarget hbody

end

/-- A command line that asks for a run. -/
theorem execute_run_tells (s : Worker.Surroundings) {environment : Environment}
    {arguments : List String} {a : Arguments}
    (hread : Invocation.read environment arguments = .ok (.run a)) (schedule : Gather.Schedule) :
    StatusTells s a schedule (execute s environment arguments schedule) := by
  unfold execute
  rw [hread]
  exact runWorker_tells s environment a schedule

/-- Surroundings in which the plugin is done before the worker starts. -/
def pluginDone (status : Nat) : Worker.Surroundings where
  files := (FileSystem.empty.apply (.write (.ofString "results.json") (Text.encode "[]".toList))).apply
    (.write (.ofString "done") (Text.encode "results.json\n".toList))
  network := fun _ => some (.response ⟨status⟩ [])
  canListen := fun _ => true
  clock := ⟨0⟩
  signal := none

def runArguments : List String :=
  ["run", "--waitfile", "done", "--url", "http://agg", "--plugin", "e2e"]

/-- The settings that the arguments of the run above give. -/
def runSettings : Arguments where
  overrides := { waitfile := some (.ofString "done"), url := some "http://agg", plugin := some "e2e" }

/-- A run that ends well has sent what the plugin left. -/
theorem execute_run_sends_results :
    (execute (pluginDone 201) [] runArguments).status? = some 0 ∧
      ∃ request, (execute (pluginDone 201) [] runArguments).requests = [request] ∧
        request.method = .put ∧ request.body = Text.encode "[]".toList := by
  have hread : Invocation.read [] runArguments = .ok (.run runSettings) := by decide +kernel
  have htells := execute_run_tells (pluginDone 201) hread .inOrder
  have hstatus : (execute (pluginDone 201) [] runArguments).status? = some 0 := by decide +kernel
  have hresolve : Config.resolve (pluginDone 201).files none runSettings.overrides =
      .ok (runSettings.overrides.apply {}) := if_pos (by decide +kernel)
  have hready : Waitfile.inspect (pluginDone 201).files (.ofString "done") =
      .ready (.ofString "results.json") := by decide +kernel
  have hcontent : (pluginDone 201).files.read (.ofString "results.json") =
      .ok (Text.encode "[]".toList) := by decide +kernel
  obtain ⟨c, hc, ⟨request, hrequests, hupload⟩ | ⟨_, _, _, hsignal, _⟩⟩ := htells.zero hstatus
  · obtain rfl := Except.ok.inj (hresolve.symm.trans hc)
    obtain ⟨resultFile, hnames, hbody⟩ := hupload.body_eq
    obtain rfl := names_unique (Waitfile.inspect_eq_ready_iff.mp hready) hnames
    exact ⟨hstatus, request, hrequests, hupload.method_eq,
      (Except.ok.inj (hcontent.symm.trans hbody)).symm⟩
  · cases hsignal

end CommandLine

end Handoff
