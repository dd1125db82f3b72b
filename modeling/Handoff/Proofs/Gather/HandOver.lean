import Handoff.Proofs.Gather.Ending

/-!
What handing a result file over comes to, told by the script: the file is opened in the files of the
look that found it, and read in those of the instant at which the transmitter has waited.
-/

namespace Handoff.Gather

/-- The outcome of a result file found at `now`, and its instant. -/
def conclusion (s : Settings) (t : Transmitter) (files : FileSystem) (events : List TimedEvent)
    (now : Nat) (resultFile : Path) : Outcome × Nat :=
  match Artifact.openFile (filesSeen files events now) resultFile with
  | .error cause => (.failed (.unopened resultFile cause), now)
  | .ok artifact =>
    let call := uploadFrom s artifact (filesSeen files events (now + t.delay))
    (answered resultFile (t.deliver call).result, now + t.delay)

/-- What the transmitter is given of a result file found at `now`. -/
def given (s : Settings) (files : FileSystem) (events : List TimedEvent) (now : Nat)
    (resultFile : Path) : List (Nat × Url × Artifact) :=
  match Artifact.openFile (filesSeen files events now) resultFile with
  | .error _ => []
  | .ok artifact => [(now, s.url, artifact)]

/-- What the transmitter has answered up to `limit` of a result file found at `now`. -/
def uploads (s : Settings) (t : Transmitter) (limit : Nat) (files : FileSystem)
    (events : List TimedEvent) (now : Nat) (resultFile : Path) : List (Nat × Call) :=
  match Artifact.openFile (filesSeen files events now) resultFile with
  | .error _ => []
  | .ok artifact =>
    if now + t.delay ≤ limit then
      [(now + t.delay, uploadFrom s artifact (filesSeen files events (now + t.delay)))]
    else []

/-- An ending, as far as it is seen when the run is left at `limit`. -/
def seenBy (limit : Nat) (ending : Outcome × Nat) : Outcome × Nat :=
  if ending.2 ≤ limit then ending else (.stillRunning, limit)

theorem seenBy_of_le {limit : Nat} {ending : Outcome × Nat} (h : ending.2 ≤ limit) :
    seenBy limit ending = ending := if_pos h

theorem seenBy_of_lt {limit : Nat} {ending : Outcome × Nat} (h : limit < ending.2) :
    seenBy limit ending = (.stillRunning, limit) := if_neg (Nat.not_le.mpr h)

section
variable {s : Settings} {limit now : Nat} {w : World} {files : FileSystem}
  {events rest : List TimedEvent}

theorem files_read (seen : w.files = filesSeen files events now)
    (meanwhile : ∀ reading, now ≤ reading → 0 < reading →
      (w.meetAll (due reading rest)).1.files = filesAt files events reading) (delay : Nat) :
    (w.meetAll (if delay = 0 then [] else due (now + delay) rest)).1.files =
      filesSeen files events (now + delay) := by
  by_cases hd : delay = 0
  · rw [if_pos hd, hd, Nat.add_zero]
    exact seen
  · have hpos : 0 < now + delay := by omega
    rw [if_neg hd, meanwhile _ (Nat.le_add_right _ _) hpos, filesSeen, if_neg (by omega)]

theorem handOver_concludes (s : Settings) (t : Transmitter) (phase : Phase) (resultFile : Path)
    (le_limit : now ≤ limit) (seen : w.files = filesSeen files events now)
    (meanwhile : ∀ reading, now ≤ reading → 0 < reading →
      (w.meetAll (due reading rest)).1.files = filesAt files events reading) :
    let r := handOver s t limit now phase w rest resultFile
    (r.outcome, r.elapsed) = seenBy limit (conclusion s t files events now resultFile) ∧
      r.trace.looks = [] ∧ r.trace.handed = given s files events now resultFile ∧
      r.trace.sent = uploads s t limit files events now resultFile := by
  intro r
  unfold conclusion given uploads
  cases hopen : Artifact.openFile (filesSeen files events now) resultFile with
  | error cause =>
    rw [← seen] at hopen
    obtain ⟨houtcome, helapsed, hsilent⟩ :
        r.outcome = .failed (.unopened resultFile cause) ∧ r.elapsed = now ∧ r.trace.Silent :=
      handOver_unopened hopen
    exact ⟨by rw [seenBy_of_le le_limit, houtcome, helapsed], hsilent.looks, hsilent.handed,
      hsilent.sent⟩
  | ok artifact =>
    rw [← seen] at hopen
    by_cases hl : now + t.delay ≤ limit
    · have hread := files_read seen meanwhile t.delay
      obtain ⟨houtcome, helapsed, hlooks, hhanded, hsent⟩ := handOver_answered hopen hl
      rw [hread] at houtcome hsent
      refine ⟨?_, hlooks, hhanded, ?_⟩
      · rw [seenBy_of_le hl, houtcome, helapsed]
      · rw [hsent]
        simp only [hl, if_true]
    · have hlt : limit < now + t.delay := Nat.lt_of_not_le hl
      obtain ⟨houtcome, helapsed, hlooks, hhanded, hsent⟩ := handOver_left hopen hlt
      refine ⟨?_, hlooks, hhanded, ?_⟩
      · rw [seenBy_of_lt hlt, houtcome, helapsed]
      · rw [hsent]
        simp only [hl, if_false]

theorem seenBy_conclusion (s : Settings) (t : Transmitter) (limit : Nat) (files : FileSystem)
    (events : List TimedEvent) (now : Nat) (resultFile : Path) :
    let o := (seenBy limit (conclusion s t files events now resultFile)).1
    o ≠ .timedOut ∧ ∀ fault, o ≠ .broken fault := by
  have hended : (conclusion s t files events now resultFile).1 ≠ .timedOut ∧
      ∀ fault, (conclusion s t files events now resultFile).1 ≠ .broken fault := by
    unfold conclusion
    split
    · simp
    · dsimp only [answered]
      split <;> simp
  dsimp only [seenBy]
  split
  · exact hended
  · simp

end

/-! Concrete settings and events, for the runs that show a theorem at work. -/

/-- Settings to look at `done` once a second. -/
def everySecond (gracePeriod : Nat) : Settings where
  waitfile := .ofString "done"
  url := ⟨"http".toList, some ⟨[], [], .name "agg".toList, some 8080⟩, .segments ["results".toList],
    none, none⟩
  pollInterval := 1000
  gracePeriod := gracePeriod

/-- A transmitter that accepts whatever it reads after a delay. -/
def accepting (delay : Nat) : Transmitter := ⟨delay, fun _ => ⟨.ok (), []⟩⟩

def written (instant : Nat) (path content : String) : TimedEvent :=
  ⟨instant, .change (.write (.ofString path) (Text.encode content.toList))⟩

def requestedAt (instant : Nat) : List TimedEvent := [⟨instant, .trigger⟩]

/-- A plugin that finishes once shutdown was requested. -/
def finishing (request finished : Nat) : List TimedEvent :=
  [⟨request, .trigger⟩, written finished "done" "results.json"]

/-- Where there are no files, no look finds a result file. -/
theorem unready_of_empty (gracePeriod request now : Nat) (resultFile : Path) :
    lookAt (everySecond gracePeriod) .empty (requestedAt request) now ≠ .ready resultFile := by
  have hmissing : Waitfile.inspect .empty (.ofString "done") = .missing := by decide +kernel
  have hlook : lookAt (everySecond gracePeriod) .empty (requestedAt request) now = .missing := by
    rw [lookAt, filesSeen_of_no_changes .empty rfl]
    exact hmissing
  rw [hlook]
  intro hready
  cases hready

end Handoff.Gather
