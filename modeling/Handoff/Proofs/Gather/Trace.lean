import Handoff.Gather.Run

/-!
What a trace shows of looks and uploads, and what handing a result file over leaves in it.
-/

namespace Handoff.Gather

/-- The looks at the waitfile in a trace, with their instants. -/
def Trace.looks (trace : Trace) : List (Nat × PollStatus) :=
  trace.filterMap (fun (now, o) => match o with
    | .looked status => some (now, status.counted)
    | _ => none)

/-- What the transmitter was given in a trace, with the instants. -/
def Trace.handed (trace : Trace) : List (Nat × Url × Artifact) :=
  trace.filterMap (fun (now, o) => match o with
    | .handed url artifact => some (now, url, artifact)
    | _ => none)

/-- The uploads that the transmitter answered in a trace, with the instants at which it read the
file. -/
def Trace.sent (trace : Trace) : List (Nat × Call) :=
  trace.filterMap (fun (now, o) => match o with
    | .called call => some (now, call)
    | _ => none)

@[simp] theorem looks_append (a b : Trace) : Trace.looks (a ++ b) = a.looks ++ b.looks :=
  List.filterMap_append

@[simp] theorem handed_append (a b : Trace) : Trace.handed (a ++ b) = a.handed ++ b.handed :=
  List.filterMap_append

@[simp] theorem sent_append (a b : Trace) : Trace.sent (a ++ b) = a.sent ++ b.sent :=
  List.filterMap_append

theorem calls_append (a b : Trace) : Trace.calls (a ++ b) = a.calls ++ b.calls := List.filterMap_append

theorem log_append (a b : Trace) : Trace.log (a ++ b) = a.log ++ b.log := List.filterMap_append

@[simp] theorem metrics_append (a b : Trace) : Trace.metrics (a ++ b) = a.metrics ++ b.metrics :=
  List.filterMap_append

/-- A trace that tells neither of looks nor of uploads. -/
structure Trace.Silent (trace : Trace) : Prop where
  looks : trace.looks = []
  handed : trace.handed = []
  sent : trace.sent = []

theorem Trace.Silent.nil : Trace.Silent [] := ⟨rfl, rfl, rfl⟩

theorem Trace.Silent.append {a b : Trace} (ha : a.Silent) (hb : b.Silent) : Trace.Silent (a ++ b) :=
  ⟨by simp [ha.looks, hb.looks], by simp [ha.handed, hb.handed], by simp [ha.sent, hb.sent]⟩

theorem silent_logged (now : Nat) (entries : List Log.Entry) :
    Trace.Silent (atInstant now (entries.map .logged)) := by
  constructor <;>
    simp [Trace.looks, Trace.handed, Trace.sent, atInstant, List.filterMap_map, Function.comp_def]

theorem answer_views (now : Nat) (call : Call) (entries : List Log.Entry) {rest : List Occurrence}
    (h : Trace.Silent (atInstant now rest)) :
    let trace := atInstant now (.called call :: entries.map .logged ++ rest)
    trace.looks = [] ∧ trace.handed = [] ∧ trace.sent = [(now, call)] := by
  -- Whatever the transmitter logs, and whatever is told after it, the upload is the one call.
  have hsplit : atInstant now (.called call :: entries.map .logged ++ rest) =
      (now, .called call) :: (atInstant now (entries.map .logged) ++ atInstant now rest) := by
    simp [atInstant]
  have hrest := (silent_logged now entries).append h
  rw [hsplit]
  exact ⟨hrest.looks, hrest.handed, congrArg (List.cons (now, call)) hrest.sent⟩

/-- All that is heard from outside is that shutdown was requested. -/
theorem meetAll_heard (w : World) (events : List TimedEvent) :
    ∀ o ∈ (w.meetAll events).2, ∃ n, o.2 = .triggered n := by
  induction events generalizing w with
  | nil =>
    intro o ho
    cases ho
  | cons e rest ih =>
    intro o ho
    rcases List.mem_append.mp ho with hfirst | hrest
    · obtain ⟨told, htold, rfl⟩ := List.mem_map.mp hfirst
      cases hevent : e.event with
      | change c =>
        rw [hevent] at htold
        cases htold
      | trigger =>
        rw [hevent] at htold
        by_cases halive : w.alive = true
        · simp only [halive, if_true, List.mem_singleton] at htold
          exact ⟨1, htold⟩
        · simp only [halive] at htold
          cases htold
      | dropSender =>
        rw [hevent] at htold
        cases htold
    · exact ih _ o hrest

/-- A view that does not look at requests finds nothing in what is heard. -/
theorem filterMap_heard {α : Type} (view : Nat × Occurrence → Option α)
    (hview : ∀ now n, view (now, .triggered n) = none) {heard : Trace}
    (h : ∀ o ∈ heard, ∃ n, o.2 = .triggered n) : heard.filterMap view = [] := by
  rw [List.filterMap_eq_nil_iff]
  rintro ⟨now, o⟩ ho
  obtain ⟨n, rfl⟩ := h _ ho
  exact hview now n

/-- A view that does not look at the log finds nothing in what the transmitter logs. -/
theorem filterMap_spoken {α : Type} (view : Nat × Occurrence → Option α)
    (hview : ∀ now entry, view (now, .logged entry) = none) (now : Nat) (entries : List Log.Entry)
    (told : List Occurrence) :
    (atInstant now (entries.map .logged ++ told)).filterMap view =
      (atInstant now told).filterMap view := by
  have hspoken : (atInstant now (entries.map .logged)).filterMap view = [] := by
    rw [List.filterMap_eq_nil_iff]
    intro o ho
    obtain ⟨spoken, hmem, rfl⟩ := List.mem_map.mp ho
    obtain ⟨entry, _, rfl⟩ := List.mem_map.mp hmem
    exact hview now entry
  have hsplit : atInstant now (entries.map .logged ++ told) =
      atInstant now (entries.map .logged) ++ atInstant now told := List.map_append
  rw [hsplit, List.filterMap_append, hspoken, List.nil_append]

theorem silent_meetAll (w : World) (events : List TimedEvent) : Trace.Silent (w.meetAll events).2 where
  looks := filterMap_heard _ (fun _ _ => rfl) (meetAll_heard w events)
  handed := filterMap_heard _ (fun _ _ => rfl) (meetAll_heard w events)
  sent := filterMap_heard _ (fun _ _ => rfl) (meetAll_heard w events)

/-- The upload of an opened result file that is read from some files. -/
def uploadFrom (s : Settings) (artifact : Artifact) (files : FileSystem) : Call :=
  ⟨s.url, artifact.path, artifact.contentType, artifact.size, artifact.readAll files⟩

/-- What a run comes to when the transmitter has answered. -/
def answered (resultFile : Path) : Except Upload.Error Unit → Outcome
  | .ok () => .transmitted resultFile
  | .error cause => .failed (.upload cause)

section
variable {s : Settings} {t : Transmitter} {limit now : Nat} {phase : Phase} {w : World}
  {events : List TimedEvent} {resultFile : Path}

/-- A result file that cannot be opened ends a run at once, and the transmitter is given nothing. -/
theorem handOver_unopened {cause : FileError}
    (h : Artifact.openFile w.files resultFile = .error cause) :
    let r := handOver s t limit now phase w events resultFile
    r.outcome = .failed (.unopened resultFile cause) ∧ r.elapsed = now ∧ r.trace.Silent := by
  simp only [handOver, h]
  exact ⟨trivial, trivial, rfl, rfl, rfl⟩

theorem openFile_path {fs : FileSystem} {artifact : Artifact}
    (h : Artifact.openFile fs resultFile = .ok artifact) :
    artifact.path = resultFile ∧ artifact.contentType = ContentType.ofPath? resultFile ∧
      fs.find resultFile = .ok artifact.file := by
  unfold Artifact.openFile at h
  split at h
  · cases h
    exact ⟨rfl, rfl, ‹_›⟩
  · cases h

/-- What is told up to the upload shows that the transmitter was given the opened file. -/
theorem opened_views (s : Settings) (now : Nat) (phase : Phase) (resultFile : Path)
    (artifact : Artifact) {more : Trace} (hlooks : more.looks = [])
    (hhanded : more.handed = []) :
    let opened := atInstant now ([.logged (detectedEntry resultFile),
      .logged (changeEntry phase .transmitting)] ++ [.logged (openedEntry artifact),
      .logged (transmittingEntry s artifact), .handed s.url artifact])
    Trace.looks (opened ++ more) = [] ∧ Trace.handed (opened ++ more) = [(now, s.url, artifact)] ∧
      Trace.sent (opened ++ more) = more.sent := by
  refine ⟨?_, ?_, ?_⟩
  · rw [looks_append, hlooks]
    rfl
  · rw [handed_append, hhanded]
    rfl
  · rw [sent_append]
    rfl

theorem opened_answer_views (artifact : Artifact) (delivered : Nat) (call : Call)
    (entries : List Log.Entry) {heard : Trace} {rest : List Occurrence} (hheard : heard.Silent)
    (hrest : Trace.Silent (atInstant delivered rest)) :
    let trace := atInstant now ([.logged (detectedEntry resultFile),
      .logged (changeEntry phase .transmitting)] ++ [.logged (openedEntry artifact),
      .logged (transmittingEntry s artifact), .handed s.url artifact]) ++ heard ++
      atInstant delivered (.called call :: entries.map .logged ++ rest)
    trace.looks = [] ∧ trace.handed = [(now, s.url, artifact)] ∧ trace.sent = [(delivered, call)] := by
  obtain ⟨hlooks, hhanded, hsent⟩ := answer_views delivered call entries hrest
  -- From here only the views of the answer matter.
  generalize atInstant delivered (.called call :: entries.map .logged ++ rest) = answer at *
  have hl : Trace.looks (heard ++ answer) = [] := by rw [looks_append, hheard.looks, hlooks]; rfl
  have hh : Trace.handed (heard ++ answer) = [] := by rw [handed_append, hheard.handed, hhanded]; rfl
  have hs : Trace.sent (heard ++ answer) = [(delivered, call)] := by
    rw [sent_append, hheard.sent, hsent, List.nil_append]
  dsimp only
  rw [List.append_assoc, ← hs]
  exact opened_views s now phase resultFile artifact hl hh

/-- A run that is left while the transmitter waits has given it the opened file, and no more. -/
theorem handOver_left {artifact : Artifact} (h : Artifact.openFile w.files resultFile = .ok artifact)
    (hl : limit < now + t.delay) :
    let r := handOver s t limit now phase w events resultFile
    r.outcome = .stillRunning ∧ r.elapsed = limit ∧ r.trace.looks = [] ∧
      r.trace.handed = [(now, s.url, artifact)] ∧ r.trace.sent = [] := by
  have hheard := silent_meetAll w (if t.delay = 0 then [] else due (min (now + t.delay) limit) events)
  obtain ⟨hlooks, hhanded, hsent⟩ :=
    opened_views s now phase resultFile artifact hheard.looks hheard.handed
  simp only [handOver, h, hl, if_true]
  exact ⟨trivial, trivial, hlooks, hhanded, hsent.trans hheard.sent⟩

/-- The transmitter reads the file when it has waited, and its answer ends the run. -/
theorem handOver_answered {artifact : Artifact}
    (h : Artifact.openFile w.files resultFile = .ok artifact) (hl : now + t.delay ≤ limit) :
    let r := handOver s t limit now phase w events resultFile
    let read := (w.meetAll (if t.delay = 0 then [] else due (now + t.delay) events)).1.files
    r.outcome = answered resultFile (t.deliver (uploadFrom s artifact read)).result ∧
      r.elapsed = now + t.delay ∧ r.trace.looks = [] ∧ r.trace.handed = [(now, s.url, artifact)] ∧
      r.trace.sent = [(now + t.delay, uploadFrom s artifact read)] := by
  have hheard := silent_meetAll w (if t.delay = 0 then [] else due (now + t.delay) events)
  have hcall (files : FileSystem) : (⟨s.url, resultFile, artifact.contentType, artifact.size,
      artifact.readAll files⟩ : Call) = uploadFrom s artifact files := by
    rw [uploadFrom, (openFile_path h).1]
  simp only [handOver, h, Nat.not_lt.mpr hl, if_false, Nat.min_eq_left hl, hcall]
  generalize hread : (w.meetAll (if t.delay = 0 then [] else due (now + t.delay) events)).1.files = read
  -- Either answer leaves the same trace but for what is told at the very end.
  split <;> rename_i hresult <;> simp only [hresult, answered]
  · exact ⟨trivial, trivial, opened_answer_views artifact _ _ _ hheard ⟨rfl, rfl, rfl⟩⟩
  · exact ⟨trivial, trivial, opened_answer_views artifact _ _ _ hheard ⟨rfl, rfl, rfl⟩⟩

end

end Handoff.Gather
