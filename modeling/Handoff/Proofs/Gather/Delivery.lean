import Handoff.Proofs.FileSystem.Held
import Handoff.Proofs.Gather.Timing

/-!
What is handed over. A run gives the transmitter at most one result file, the one that its last look
found, and the upload holds what that object came to hold.
-/

namespace Handoff

namespace Waitfile

/-- The waitfile holds the path of a result file, with nothing but blanks around it. -/
def Names (fs : FileSystem) (waitfile resultFile : Path) : Prop :=
  ∃ bytes content, fs.read waitfile = .ok bytes ∧ Text.decode bytes = .ok content ∧
    Text.trim content ≠ [] ∧ resultFile = ⟨Text.encode (Text.trim content)⟩

theorem reference?_eq_some_iff (content : List Char) (resultFile : Path) :
    reference? content = some resultFile ↔
      Text.trim content ≠ [] ∧ resultFile = ⟨Text.encode (Text.trim content)⟩ := by
  unfold reference?
  cases Text.trim content with
  | nil => simp
  | cons c rest => simp [eq_comm]

theorem inspect_eq_ready_iff {fs : FileSystem} {waitfile resultFile : Path} :
    inspect fs waitfile = .ready resultFile ↔ Names fs waitfile resultFile := by
  unfold inspect Names
  cases hread : fs.read waitfile with
  | error cause => cases cause <;> simp [status]
  | ok bytes =>
    cases hdecode : Text.decode bytes with
    | error fault => simp [status, hdecode]
    | ok content =>
      have hreference := reference?_eq_some_iff content resultFile
      cases h : reference? content <;> simp_all [status]

end Waitfile

namespace Gather

/-- A call carries the result file that a look at `look` found, under the settings' URL, with the
content type of its name and what the object found there came to hold. -/
def Carries (s : Settings) (files : FileSystem) (events : List TimedEvent) (look reading : Nat)
    (resultFile : Path) (call : Call) : Prop :=
  call.url = s.url ∧ call.path = resultFile ∧ call.contentType = ContentType.ofPath? resultFile ∧
    ∃ id, (filesSeen files events look).find resultFile = .ok id ∧
      ∀ bytes, (filesSeen files events look).content id = .ok bytes →
        call.body = .ok (FileSystem.held id (filesSeen files events look) bytes
          (changesBetween events look reading))

/-- A run hands over at most one result file: the one that its last look found, if that could be opened
then. The outcome tells of that upload, and of no other. -/
structure HandsOverOnce (s : Settings) (t : Transmitter) (limit : Nat) (files : FileSystem)
    (events : List TimedEvent) (r : Run) : Prop where
  looks_eq : ∃ k, 0 < k ∧ r.trace.looks = firstLooks s files events k
  last_look : ∀ now, (now, .ready) ∈ r.trace.looks →
    ∃ before, r.trace.looks = before ++ [(now, .ready)] ∧ ∀ look ∈ before, look.2 ≠ .ready
  given_once : r.trace.handed.length ≤ 1
  given_iff : ∀ now url artifact, (now, url, artifact) ∈ r.trace.handed ↔
    url = s.url ∧ (now, .ready) ∈ r.trace.looks ∧
      ∃ resultFile, Waitfile.Names (filesSeen files events now) s.waitfile resultFile ∧
        Artifact.openFile (filesSeen files events now) resultFile = .ok artifact
  sent_once : r.trace.sent.length ≤ 1
  sent_iff : ∀ reading, (∃ call, (reading, call) ∈ r.trace.sent) ↔
    reading ≤ limit ∧
      ∃ now url artifact, (now, url, artifact) ∈ r.trace.handed ∧ reading = now + t.delay
  carries : ∀ reading call, (reading, call) ∈ r.trace.sent → ∃ now resultFile,
    (now, .ready) ∈ r.trace.looks ∧ reading = now + t.delay ∧
      Waitfile.Names (filesSeen files events now) s.waitfile resultFile ∧
      Carries s files events now reading resultFile call
  transmitted_iff : ∀ resultFile, r.outcome = .transmitted resultFile ↔
    ∃ reading call, (reading, call) ∈ r.trace.sent ∧ call.path = resultFile ∧
      (t.deliver call).result = .ok ()
  refused_iff : ∀ cause, r.outcome = .failed (.upload cause) ↔
    ∃ reading call, (reading, call) ∈ r.trace.sent ∧ (t.deliver call).result = .error cause
  unopened_iff : ∀ resultFile cause, r.outcome = .failed (.unopened resultFile cause) ↔
    ∃ now, (now, .ready) ∈ r.trace.looks ∧
      Waitfile.Names (filesSeen files events now) s.waitfile resultFile ∧
      Artifact.openFile (filesSeen files events now) resultFile = .error cause

section
variable {s : Settings} {t : Transmitter} {clock : Clock} {schedule : Schedule} {limit : Nat}
  {files : FileSystem} {events : List TimedEvent} {k : Nat} {trace : Trace} {r : Run}

theorem counted_eq_ready_iff {status : WaitfileStatus} :
    status.counted = .ready ↔ ∃ resultFile, status = .ready resultFile := by
  cases status <;> simp [WaitfileStatus.counted]

theorem firstLooks_not_ready
    (unready : ∀ j < k, ∀ resultFile, lookAt s files events (j * s.pollInterval) ≠ .ready resultFile)
    {look : Nat × PollStatus} (hl : look ∈ firstLooks s files events k) : look.2 ≠ .ready := by
  obtain ⟨j, hj, rfl⟩ := List.mem_map.mp hl
  intro hready
  obtain ⟨resultFile, hresult⟩ := counted_eq_ready_iff.mp hready
  exact unready j (List.mem_range.mp hj) resultFile hresult

theorem Quiet.handsOverOnce (h : Quiet s files events k r.trace) (pos : 0 < k)
    (transmitted : ∀ resultFile, r.outcome ≠ .transmitted resultFile)
    (failed : ∀ cause, r.outcome ≠ .failed cause) : HandsOverOnce s t limit files events r := by
  have hready (now : Nat) : (now, .ready) ∉ r.trace.looks := fun hl =>
    firstLooks_not_ready h.unready (h.looks ▸ hl) rfl
  have hhanded := h.handed
  have hsent := h.sent
  exact {
    looks_eq := ⟨k, pos, h.looks⟩
    last_look := fun now hl => absurd hl (hready now)
    given_once := by simp [hhanded]
    given_iff := by simp [hhanded, hready]
    sent_once := by simp [hsent]
    sent_iff := by simp [hhanded, hsent]
    carries := by simp [hsent]
    transmitted_iff := by simp [transmitted, hsent]
    refused_iff := by simp [failed, hsent]
    unopened_iff := by simp [failed, hready] }

/-- A run whose look at `look` finds a result file, which decides all that is left of it. -/
structure Finds (s : Settings) (t : Transmitter) (limit : Nat) (files : FileSystem)
    (events : List TimedEvent) (look : Nat) (resultFile : Path) (r : Run) : Prop where
  le_limit : look ≤ limit
  ready : lookAt s files events look = .ready resultFile
  looks : ∃ k, look = k * s.pollInterval ∧ r.trace.looks = firstLooks s files events (k + 1) ∧
    ∀ j < k, ∀ other, lookAt s files events (j * s.pollInterval) ≠ .ready other
  ended : (r.outcome, r.elapsed) = seenBy limit (conclusion s t files events look resultFile)
  handed : r.trace.handed = given s files events look resultFile
  sent : r.trace.sent = uploads s t limit files events look resultFile

/-- A run finds no result file, or its last look does. -/
theorem Ends.quiet_or_finds (h : Ends s t clock schedule limit files events r) :
    ((∃ k, 0 < k ∧ Quiet s files events k r.trace) ∧
      (∀ resultFile, r.outcome ≠ .transmitted resultFile) ∧
      ∀ cause, r.outcome ≠ .failed cause) ∨
    ∃ look resultFile, Finds s t limit files events look resultFile r := by
  cases h with
  | left looked _ quiet =>
    exact Or.inl ⟨⟨_, (looked 0).mpr (by omega), quiet⟩, by simp, by simp⟩
  | broken _ _ _ looked quiet =>
    exact Or.inl ⟨⟨_, (looked 0).mpr (Or.inl (Nat.zero_mul _)), quiet⟩, by simp, by simp⟩
  | gaveUp _ _ _ looked quiet =>
    exact Or.inl ⟨⟨_, (looked 0).mpr (Or.inl (Nat.zero_mul _)), quiet⟩, by simp, by simp⟩
  | @handed k resultFile phase w rest trace le_limit ready patient seen meanwhile quiet =>
    obtain ⟨hended, hlooks, hgiven, hsent⟩ :=
      handOver_concludes s t phase resultFile le_limit seen meanwhile
    refine Or.inr ⟨_, resultFile, le_limit, ready, ⟨k, rfl, ?_, quiet.unready⟩, hended, ?_, ?_⟩
    · simp only [Run.after, looks_append, hlooks, List.append_nil, quiet.looks, firstLooks_succ, ready]
      rfl
    · simp only [Run.after, handed_append, quiet.handed, hgiven]
      rfl
    · simp only [Run.after, sent_append, quiet.sent, hsent]
      rfl

section
variable {look : Nat} {resultFile : Path}

theorem Finds.last_look (h : Finds s t limit files events look resultFile r) :
    ∃ before, r.trace.looks = before ++ [(look, .ready)] ∧ ∀ other ∈ before, other.2 ≠ .ready := by
  obtain ⟨k, hlook, hlooks, hunready⟩ := h.looks
  refine ⟨firstLooks s files events k, ?_, fun other ho => firstLooks_not_ready hunready ho⟩
  rw [hlooks, firstLooks_succ, ← hlook, h.ready]
  rfl

theorem Finds.mem_ready (h : Finds s t limit files events look resultFile r) (now : Nat) :
    (now, .ready) ∈ r.trace.looks ↔ now = look := by
  obtain ⟨before, hlooks, hbefore⟩ := h.last_look
  rw [hlooks]
  constructor
  · intro hmem
    rcases List.mem_append.mp hmem with hearly | hlast
    · exact absurd rfl (hbefore _ hearly)
    · exact congrArg Prod.fst (List.mem_singleton.mp hlast)
  · rintro rfl
    exact List.mem_append_right _ List.mem_cons_self

theorem Finds.names_iff (h : Finds s t limit files events look resultFile r) (other : Path) :
    Waitfile.Names (filesSeen files events look) s.waitfile other ↔ other = resultFile := by
  have hready := h.ready
  rw [← Waitfile.inspect_eq_ready_iff, ← lookAt, hready, WaitfileStatus.ready.injEq, eq_comm]

theorem uploadFrom_carries (hc : Chronological events) {artifact : Artifact}
    (hopen : Artifact.openFile (filesSeen files events look) resultFile = .ok artifact) (delay : Nat) :
    Carries s files events look (look + delay) resultFile
      (uploadFrom s artifact (filesSeen files events (look + delay))) := by
  obtain ⟨hpath, htype, hfind⟩ := openFile_path hopen
  refine ⟨rfl, hpath, htype, artifact.file, hfind, fun bytes hbytes => ?_⟩
  change (filesSeen files events (look + delay)).content artifact.file = _
  rw [filesSeen_later files hc (Nat.le_add_right look delay)]
  exact FileSystem.content_applyAll hbytes _

theorem Finds.mem_handed (h : Finds s t limit files events look resultFile r) {now : Nat} {url : Url}
    {artifact : Artifact} : (now, url, artifact) ∈ r.trace.handed ↔
      now = look ∧ url = s.url ∧
        Artifact.openFile (filesSeen files events look) resultFile = .ok artifact := by
  rw [h.handed, given]
  cases Artifact.openFile (filesSeen files events look) resultFile with
  | error cause => simp
  | ok opened => simp [eq_comm (a := opened)]

theorem Finds.mem_sent (h : Finds s t limit files events look resultFile r) {reading : Nat}
    {call : Call} : (reading, call) ∈ r.trace.sent ↔
      reading ≤ limit ∧ reading = look + t.delay ∧ ∃ artifact,
        Artifact.openFile (filesSeen files events look) resultFile = .ok artifact ∧
        call = uploadFrom s artifact (filesSeen files events reading) := by
  rw [h.sent, uploads]
  cases Artifact.openFile (filesSeen files events look) resultFile with
  | error cause => simp
  | ok opened =>
    dsimp only
    split
    · rename_i hle
      constructor
      · intro hmem
        obtain ⟨rfl, rfl⟩ := Prod.mk.inj (List.mem_singleton.mp hmem)
        exact ⟨hle, rfl, opened, rfl, rfl⟩
      · rintro ⟨_, rfl, _, ⟨⟩, rfl⟩
        exact List.mem_singleton.mpr rfl
    · rename_i hlt
      constructor
      · intro hmem
        cases hmem
      · rintro ⟨hle, rfl, _⟩
        exact absurd hle hlt

/-- The outcome tells whether the file was opened, and if so, whether the upload is still under way. -/
theorem Finds.outcome_cases (h : Finds s t limit files events look resultFile r) :
    (∃ cause, Artifact.openFile (filesSeen files events look) resultFile = .error cause ∧
      r.outcome = .failed (.unopened resultFile cause)) ∨
    ∃ artifact, Artifact.openFile (filesSeen files events look) resultFile = .ok artifact ∧
      if look + t.delay ≤ limit then r.outcome = answered resultFile (t.deliver
          (uploadFrom s artifact (filesSeen files events (look + t.delay)))).result
      else r.outcome = .stillRunning := by
  have hended := h.ended
  unfold conclusion at hended
  cases hopen : Artifact.openFile (filesSeen files events look) resultFile with
  | error cause =>
    rw [hopen, seenBy_of_le h.le_limit] at hended
    exact Or.inl ⟨cause, rfl, congrArg Prod.fst hended⟩
  | ok artifact =>
    rw [hopen] at hended
    refine Or.inr ⟨artifact, rfl, ?_⟩
    split
    · rename_i hle
      rw [seenBy_of_le hle] at hended
      exact congrArg Prod.fst hended
    · rename_i hlt
      rw [seenBy_of_lt (Nat.lt_of_not_le hlt)] at hended
      exact congrArg Prod.fst hended

theorem answered_eq_transmitted_iff {result : Except Upload.Error Unit} {other : Path} :
    answered resultFile result = .transmitted other ↔ resultFile = other ∧ result = .ok () := by
  cases result <;> simp [answered]

theorem answered_eq_failed_iff {result : Except Upload.Error Unit} {cause : Failure} :
    answered resultFile result = .failed cause ↔ ∃ e, cause = .upload e ∧ result = .error e := by
  cases result <;> simp [answered, eq_comm]

theorem Finds.answer_iff (h : Finds s t limit files events look resultFile r) {o : Outcome}
    {P : Path → Except Upload.Error Unit → Prop} (hrunning : o ≠ .stillRunning)
    (hunopened : ∀ path cause, o ≠ .failed (.unopened path cause))
    (hanswered : ∀ result, answered resultFile result = o ↔ P resultFile result) :
    r.outcome = o ↔ ∃ reading call, (reading, call) ∈ r.trace.sent ∧
      P call.path (t.deliver call).result := by
  rcases h.outcome_cases with ⟨cause, hopen, houtcome⟩ | ⟨artifact, hopen, houtcome⟩
  -- Nothing was opened, so nothing was sent.
  · refine ⟨fun ho => absurd (ho.symm.trans houtcome) (hunopened _ _), ?_⟩
    rintro ⟨reading, call, hsent, _⟩
    obtain ⟨_, _, artifact, hok, _⟩ := h.mem_sent.mp hsent
    rw [hopen] at hok
    cases hok
  · have hpath : ∀ read, (uploadFrom s artifact read).path = resultFile :=
      fun _ => (openFile_path hopen).1
    by_cases hle : look + t.delay ≤ limit
    -- The one call that was sent is answered by the outcome.
    · rw [if_pos hle] at houtcome
      rw [houtcome, hanswered]
      constructor
      · intro hp
        have hsent := h.mem_sent.mpr ⟨hle, rfl, artifact, hopen, rfl⟩
        exact ⟨_, _, hsent, (hpath _).symm ▸ hp⟩
      · rintro ⟨reading, call, hsent, hp⟩
        obtain ⟨_, rfl, other, hok, rfl⟩ := h.mem_sent.mp hsent
        cases hopen.symm.trans hok
        exact hpath _ ▸ hp
    -- The run was left before the transmitter read the file.
    · rw [if_neg hle] at houtcome
      refine ⟨fun ho => absurd (ho.symm.trans houtcome) hrunning, ?_⟩
      rintro ⟨reading, call, hsent, _⟩
      obtain ⟨hreading, rfl, _⟩ := h.mem_sent.mp hsent
      exact absurd hreading hle

/-- A run that finds a result file hands over that file, once. -/
theorem Finds.handsOverOnce (h : Finds s t limit files events look resultFile r)
    (hc : Chronological events) : HandsOverOnce s t limit files events r where
  looks_eq := by
    obtain ⟨k, _, hlooks, _⟩ := h.looks
    exact ⟨k + 1, Nat.succ_pos k, hlooks⟩
  last_look := by
    intro now hl
    obtain rfl := (h.mem_ready now).mp hl
    exact h.last_look
  given_once := by
    rw [h.handed, given]
    split <;> simp
  given_iff := by
    intro now url artifact
    rw [h.mem_handed, h.mem_ready]
    constructor
    · rintro ⟨rfl, rfl, hopen⟩
      exact ⟨rfl, rfl, resultFile, (h.names_iff _).mpr rfl, hopen⟩
    · rintro ⟨rfl, rfl, other, hnames, hopen⟩
      obtain rfl := (h.names_iff _).mp hnames
      exact ⟨rfl, rfl, hopen⟩
  sent_once := by
    rw [h.sent, uploads]
    split
    · simp
    · split <;> simp
  sent_iff := by
    intro reading
    simp only [h.mem_sent, h.mem_handed]
    constructor
    · rintro ⟨call, hle, rfl, artifact, hopen, rfl⟩
      exact ⟨hle, look, s.url, artifact, ⟨rfl, rfl, hopen⟩, rfl⟩
    · rintro ⟨hle, now, url, artifact, ⟨rfl, rfl, hopen⟩, rfl⟩
      exact ⟨_, hle, rfl, artifact, hopen, rfl⟩
  carries := by
    intro reading call hsent
    obtain ⟨_, rfl, artifact, hopen, rfl⟩ := h.mem_sent.mp hsent
    exact ⟨look, resultFile, (h.mem_ready look).mpr rfl, rfl, (h.names_iff _).mpr rfl,
      uploadFrom_carries hc hopen t.delay⟩
  transmitted_iff := fun other =>
    h.answer_iff (P := fun path result => path = other ∧ result = .ok ()) (by simp) (by simp)
      fun _ => answered_eq_transmitted_iff
  refused_iff := by
    intro cause
    have hanswer (result : Except Upload.Error Unit) :
        answered resultFile result = .failed (.upload cause) ↔ result = .error cause := by
      simp [answered_eq_failed_iff]
    exact h.answer_iff (P := fun _ result => result = .error cause) (by simp) (by simp) hanswer
  unopened_iff := by
    intro other cause
    constructor
    · intro ho
      rcases h.outcome_cases with ⟨_, hopen, houtcome⟩ | ⟨artifact, _, houtcome⟩
      · cases ho.symm.trans houtcome
        exact ⟨look, (h.mem_ready look).mpr rfl, (h.names_iff _).mpr rfl, hopen⟩
      · split at houtcome
        · simp [houtcome, answered_eq_failed_iff] at ho
        · simp [houtcome] at ho
    · rintro ⟨now, hl, hnames, hopen⟩
      obtain rfl := (h.mem_ready now).mp hl
      obtain rfl := (h.names_iff _).mp hnames
      rcases h.outcome_cases with ⟨_, herror, houtcome⟩ | ⟨artifact, hok, _⟩
      · cases hopen.symm.trans herror
        exact houtcome
      · cases hopen.symm.trans hok

end

/-- A run hands over at most one result file, and what it sends is what became of that file,
whatever the order of all that is ready at one instant. -/
theorem run_hands_over_once (s : Settings) (t : Transmitter) (clock : Clock) (schedule : Schedule)
    (limit : Nat) (files : FileSystem) {events : List TimedEvent} (hs : 0 < s.pollInterval)
    (hc : Chronological events) :
    HandsOverOnce s t limit files events (run s t clock limit files events schedule) := by
  rcases (run_ends s t clock schedule limit files hs hc).quiet_or_finds with
    ⟨⟨k, hpos, hquiet⟩, htransmitted, hfailed⟩ | ⟨look, resultFile, hfinds⟩
  · exact hquiet.handsOverOnce hpos htransmitted hfailed
  · exact hfinds.handsOverOnce hc

end

/-- A result file that gets another name, and is extended under it, while another file takes its
place. -/
def replacedMeanwhile : List TimedEvent :=
  [written 200 "results.json" "one", written 400 "done" " results.json\n",
    ⟨1100, .change (.rename (.ofString "results.json") (.ofString "old.json"))⟩,
    written 1200 "results.json" "two",
    ⟨1300, .change (.append (.ofString "old.json") (Text.encode " more".toList))⟩,
    ⟨1350, .change (.remove (.ofString "done"))⟩]

/-- The upload holds the extended file, and goes by the name that the look at 1000 found. -/
theorem run_hands_over_renamed_file :
    ∃ call, (1500, call) ∈
        (run (everySecond 0) (accepting 500) ⟨0⟩ 3000 .empty replacedMeanwhile).trace.sent ∧
      call.path = .ofString "results.json" ∧ call.body = .ok (Text.encode "one more".toList) ∧
      (run (everySecond 0) (accepting 500) ⟨0⟩ 3000 .empty replacedMeanwhile).outcome =
        .transmitted (.ofString "results.json") := by
  have hordered : Chronological replacedMeanwhile := by decide
  have hready : lookAt (everySecond 0) .empty replacedMeanwhile 1000 =
      .ready (.ofString "results.json") := by decide +kernel
  have hopened :
      Artifact.openFile (filesSeen .empty replacedMeanwhile 1000) (.ofString "results.json") =
      .ok ⟨.ofString "results.json", ContentType.ofPath? (.ofString "results.json"), 3, 3⟩ := by
    decide +kernel
  -- Object 3 is the file that is called `results.json` at 1000.
  have honce := run_hands_over_once (everySecond 0) (accepting 500) ⟨0⟩ .inOrder 3000 .empty (by decide)
    hordered
  have hlook : (1000, .ready) ∈
      (run (everySecond 0) (accepting 500) ⟨0⟩ 3000 .empty replacedMeanwhile).trace.looks := by
    have hmissing : lookAt (everySecond 0) .empty replacedMeanwhile 0 = .missing := by decide +kernel
    have hfirst : FirstReady (everySecond 0) .empty replacedMeanwhile 1 (.ofString "results.json") := by
      refine ⟨hready, fun j hj other hother => ?_⟩
      obtain rfl : j = 0 := by omega
      cases hmissing.symm.trans hother
    have hends := run_ends (everySecond 0) (accepting 500) ⟨0⟩ .inOrder 3000 .empty (by decide) hordered
    rw [(hends.found (by decide) hfirst (Or.inr nofun)).2.1]
    decide +kernel
  have hnames := Waitfile.inspect_eq_ready_iff.mp hready
  have hgiven := (honce.given_iff 1000 _ _).mpr ⟨rfl, hlook, _, hnames, hopened⟩
  obtain ⟨call, hsent⟩ := (honce.sent_iff 1500).mpr ⟨by decide, 1000, _, _, hgiven, rfl⟩
  obtain ⟨look, resultFile, _, hreading, hnamed, hcarries⟩ := honce.carries 1500 call hsent
  obtain rfl : look = 1000 := by
    change 1500 = look + 500 at hreading
    omega
  obtain rfl : resultFile = .ofString "results.json" := WaitfileStatus.ready.inj
    ((Waitfile.inspect_eq_ready_iff.mpr hnamed).symm.trans hready)
  obtain ⟨_, hpath, _, id, hfind, hbody⟩ := hcarries
  obtain rfl : 3 = id := Except.ok.inj ((openFile_path hopened).2.2.symm.trans hfind)
  have hread := hbody (Text.encode "one".toList) (by decide +kernel)
  refine ⟨call, hsent, hpath, hread.trans (by decide +kernel), ?_⟩
  exact (honce.transmitted_iff _).mpr ⟨1500, call, hsent, hpath, rfl⟩

end Gather

end Handoff
