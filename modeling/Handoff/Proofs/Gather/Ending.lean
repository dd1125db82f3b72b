import Handoff.Proofs.Gather.Waiting

/-!
How runs end. `Ends` lists the ways with what each takes, and every run ends in one of them,
whatever the order of all that is ready at one instant: an arm that is served keeps `Within` or ends
the run, so an instant keeps `Waits` or ends it, and from that a whole run is followed by induction.
-/

namespace Handoff.Gather

/-- The ways a run can end or be left, each with what it takes. -/
inductive Ends (s : Settings) (t : Transmitter) (clock : Clock) (schedule : Schedule) (limit : Nat)
    (files : FileSystem) (events : List TimedEvent) : Run → Prop
  /-- Neither a result file nor a deadline came up to the instant at which the run is left. -/
  | left {k : Nat} {trace : Trace}
      (looked : ∀ j, j < k ↔ j * s.pollInterval ≤ limit)
      (patient : ∀ i, firstRequest? events = some i →
        limit < i ∨ clock.shows (i + s.gracePeriod) = true ∧ limit < i + s.gracePeriod)
      (quiet : Quiet s files events k trace) :
      Ends s t clock schedule limit files events ⟨.stillRunning, limit, trace⟩
  /-- Shutdown was requested, and the clock cannot show the deadline. -/
  | broken {i k : Nat} {trace : Trace}
      (request : firstRequest? events = some i) (le_limit : i ≤ limit)
      (overflow : clock.shows (i + s.gracePeriod) = false)
      (looked : ∀ j, j < k ↔ schedule.BeforeRequest (j * s.pollInterval) i)
      (quiet : Quiet s files events k trace) :
      Ends s t clock schedule limit files events ⟨.broken .deadlineOverflow, i, trace⟩
  /-- The grace period went by. -/
  | gaveUp {i k : Nat} {trace : Trace}
      (request : firstRequest? events = some i)
      (shown : clock.shows (i + s.gracePeriod) = true) (le_limit : i + s.gracePeriod ≤ limit)
      (looked : ∀ j, j < k ↔ schedule.BeforeDeadline (j * s.pollInterval) (i + s.gracePeriod))
      (quiet : Quiet s files events k trace) :
      Ends s t clock schedule limit files events ⟨.timedOut, i + s.gracePeriod, trace⟩
  /-- A look found a result file, which is handed over with the files as that look saw them. -/
  | handed {k : Nat} {resultFile : Path} {phase : Phase} {w : World} {rest : List TimedEvent}
      {trace : Trace}
      (le_limit : k * s.pollInterval ≤ limit)
      (ready : lookAt s files events (k * s.pollInterval) = .ready resultFile)
      (patient : ∀ i, firstRequest? events = some i →
        schedule.BeforeRequest (k * s.pollInterval) i ∨ clock.shows (i + s.gracePeriod) = true ∧
          schedule.BeforeDeadline (k * s.pollInterval) (i + s.gracePeriod))
      (seen : w.files = filesSeen files events (k * s.pollInterval))
      (meanwhile : ∀ reading, k * s.pollInterval ≤ reading → 0 < reading →
        (w.meetAll (due reading rest)).1.files = filesAt files events reading)
      (quiet : Quiet s files events k trace) :
      Ends s t clock schedule limit files events
        ((handOver s t limit (k * s.pollInterval) phase w rest resultFile).after
          (trace ++ atInstant (k * s.pollInterval) (lookTold s (.ready resultFile))))

section
variable {s : Settings} {t : Transmitter} {clock : Clock} {schedule : Schedule} {limit : Nat}
  {files : FileSystem} {events past fresh rest : List TimedEvent} {k upTo now : Nat} {served : List Arm}
  {trace : Trace} {st : State}

theorem Waits.upTo_le_instant (hw : Waits s clock limit files events past k upTo trace st) :
    upTo ≤ st.instant := by
  refine le_instant (hw.nextPoll ▸ hw.upTo_le) hw.events_ge ?_
  intro deadline h
  obtain ⟨i, hi, rfl⟩ := request_of_granted (hw.standing ▸ h)
  exact (hw.granted i hi).2

theorem Waits.instant_le_look (hw : Waits s clock limit files events past k upTo trace st) :
    st.instant ≤ k * s.pollInterval := hw.nextPoll ▸ instant_le_nextPoll st

theorem request_later (hsplit : past ++ rest = events) (hrest : ∀ e ∈ rest, now < e.instant)
    (hnone : firstRequest? past = none) {i : Nat} (hi : firstRequest? events = some i) : now < i := by
  rw [← hsplit] at hi
  obtain ⟨e, he, rfl⟩ := firstRequest?_append_later hnone hi
  exact hrest e he

theorem request_cases (hsplit : past ++ rest = events) (hrest : ∀ e ∈ rest, now < e.instant) {i : Nat}
    (hi : firstRequest? events = some i) : firstRequest? past = some i ∨ now < i := by
  cases hpast : firstRequest? past with
  | some j =>
    have hj := firstRequest?_append_some rest hpast
    rw [hsplit, hi] at hj
    exact Or.inl hj.symm
  | none => exact Or.inr (request_later hsplit hrest hpast hi)

theorem Waits.left (hw : Waits s clock limit files events past k upTo trace st)
    (hc : Chronological events) (hl : limit < st.instant) :
    Ends s t clock schedule limit files events ⟨.stillRunning, limit, trace⟩ := by
  have hcs : Chronological st.events := Chronological.append (hw.split ▸ hc)
  have hlook := hw.instant_le_look
  -- The next look, event and deadline all lie after `limit`.
  refine .left (fun j => ⟨fun hj => ?_, fun hj => ?_⟩) (fun i hi => ?_) hw.quiet
  · have := hw.upTo_le_limit
    rcases hw.looked j hj with rfl | hlt <;> omega
  · exact Nat.lt_of_mul_lt_mul_right (a := s.pollInterval) (by omega)
  · have hlater : ∀ e ∈ st.events, limit < e.instant := fun e he =>
      Nat.lt_of_lt_of_le hl (instant_le_event hcs he)
    rcases request_cases hw.split hlater hi with hpast | hlt
    · have hle := instant_le_deadline (hw.standing.trans (standingAfter_granted hpast))
      exact Or.inr ⟨(hw.granted i hpast).1, Nat.lt_of_lt_of_le hl hle⟩
    · exact Or.inl hlt

theorem poll_ready (t : Transmitter) (limit now : Nat) (standing : Standing)
    (rest : List TimedEvent) {w : World} {resultFile : Path}
    (h : Waitfile.inspect w.files s.waitfile = .ready resultFile) :
    poll s t limit now standing w rest =
      .inl ((handOver s t limit now standing.phase w rest resultFile).after
        (atInstant now (lookTold s (.ready resultFile)))) := by
  simp only [poll, h]

theorem poll_unready (t : Transmitter) (limit now : Nat) (standing : Standing)
    (rest : List TimedEvent) {w : World}
    (h : ∀ resultFile, Waitfile.inspect w.files s.waitfile ≠ .ready resultFile) :
    ∃ looked, poll s t limit now standing w rest = .inr looked ∧
      Trace.looks (atInstant now looked) =
        [(now, (Waitfile.inspect w.files s.waitfile).counted)] ∧
      Trace.handed (atInstant now looked) = [] ∧ Trace.sent (atInstant now looked) = [] := by
  cases hstatus : Waitfile.inspect w.files s.waitfile with
  | ready resultFile => exact absurd hstatus (h resultFile)
  | _ =>
    simp only [poll, hstatus]
    exact ⟨_, rfl, rfl, rfl, rfl⟩

theorem Waits.meet (hw : Waits s clock limit files events past k upTo trace st)
    (hs : 0 < s.pollInterval) (hc : Chronological events) :
    Within s clock files events past (due st.instant st.events) k st.instant []
      (trace ++ (st.meetDue st.instant).2) (st.meetDue st.instant).1 := by
  have hcs : Chronological st.events := Chronological.append (hw.split ▸ hc)
  have hge := hw.upTo_le_instant
  have hle := hw.instant_le_look
  have hpos : 0 < k * s.pollInterval := Nat.mul_pos hw.pos hs
  exact {
    split := by rw [← hw.split, List.append_assoc, State.meetDue, due_append_later]
    past_lt := fun e he => Nat.lt_of_lt_of_le (hw.past_lt e he) hge
    fresh_eq := by
      intro e he
      obtain ⟨hmem, hinstant⟩ := mem_due he
      exact Nat.le_antisymm hinstant (instant_le_event hcs hmem)
    rest_gt := fun e he => (mem_later hcs he).2
    world := by rw [State.meetDue, hw.world, meetAll_append]
    standing := hw.standing
    granted := by
      intro i hi
      have hdeadline := instant_le_deadline (hw.standing.trans (standingAfter_granted hi))
      refine ⟨(hw.granted i hi).1, ?_⟩
      exact (Nat.lt_or_eq_of_le hdeadline).imp_right fun heq => ⟨heq, List.not_mem_nil⟩
    nextPoll := hw.nextPoll
    looked := by
      intro j
      constructor
      · intro hj
        rcases hw.looked j hj with rfl | hlt
        · exact Or.inl (Nat.zero_mul _)
        · exact Or.inr (Or.inl (by omega))
      · rintro (hzero | hlt | ⟨_, hmem⟩)
        · exact Nat.lt_of_mul_lt_mul_right (a := s.pollInterval) (by omega)
        · exact Nat.lt_of_mul_lt_mul_right (a := s.pollInterval) (by omega)
        · cases hmem
    quiet := hw.quiet.append (silent_meetAll st.world (due st.instant st.events)) }

/-- A request is known, or has still to be taken. -/
theorem Within.request_cases (h : Within s clock files events past fresh k now served trace st)
    {i : Nat} (hi : firstRequest? events = some i) :
    firstRequest? (known served past fresh) = some i ∨ now < i ∨ now = i ∧ Arm.request ∉ served := by
  by_cases hserved : Arm.request ∈ served
  · rw [known, if_pos hserved]
    exact (Gather.request_cases h.split h.rest_gt hi).imp_right Or.inl
  · rw [known, if_neg hserved]
    cases hpast : firstRequest? past with
    | some j =>
      have hj := firstRequest?_append_some (fresh ++ st.events) hpast
      rw [← List.append_assoc, h.split, hi] at hj
      exact Or.inl hj.symm
    | none =>
      rw [← h.split, List.append_assoc] at hi
      obtain ⟨e, he, rfl⟩ := firstRequest?_append_later hpast hi
      rcases List.mem_append.mp he with hfresh | hrest
      · exact Or.inr (Or.inr ⟨(h.fresh_eq e hfresh).symm, hserved⟩)
      · exact Or.inr (Or.inl (h.rest_gt e hrest))

theorem Within.past_le (h : Within s clock files events past fresh k now served trace st) :
    ∀ e ∈ past ++ fresh, e.instant ≤ now := by
  intro e he
  rcases List.mem_append.mp he with hpast | hfresh
  · exact Nat.le_of_lt (h.past_lt e hpast)
  · exact Nat.le_of_eq (h.fresh_eq e hfresh)

/-- The next look is neither at 0 nor behind the run. -/
theorem Within.next_look (h : Within s clock files events past fresh k now served trace st) :
    0 < k * s.pollInterval ∧ now ≤ k * s.pollInterval := by
  have hnext := (h.looked k).not.mp (Nat.lt_irrefl k)
  simp only [not_or] at hnext
  omega

theorem Within.files_eq (h : Within s clock files events past fresh k now served trace st)
    (hpos : 0 < now) : st.world.files = filesSeen files events now := by
  rw [h.world, filesSeen, if_neg (by omega), ← h.split]
  exact (filesAt_eq h.past_le h.rest_gt).symm

theorem Within.files_meanwhile (h : Within s clock files events past fresh k now served trace st)
    (hc : Chronological events) (reading : Nat) (hle : now ≤ reading) :
    (st.world.meetAll (due reading st.events)).1.files = filesAt files events reading := by
  have hcs : Chronological st.events := Chronological.append (h.split ▸ hc)
  rw [h.world, Gather.files_meanwhile files _ hcs fun e he => Nat.le_trans (h.past_le e he) hle,
    h.split]

/-- The look of an instant is done, whether one was due or not. -/
theorem Within.looked_on (h : Within s clock files events past fresh k now served trace st)
    {k' nextPoll : Nat} {more : Trace} (hnext : nextPoll = k' * s.pollInterval)
    (hlooked : ∀ j, j < k' ↔
      j * s.pollInterval = 0 ∨ j * s.pollInterval < now ∨ j * s.pollInterval = now)
    (hquiet : Quiet s files events k' (trace ++ more)) :
    Within s clock files events past fresh k' now (served ++ [.look]) (trace ++ more)
      { st with nextPoll := nextPoll } := by
  have hknown : known (served ++ [.look]) past fresh = known served past fresh := by
    simp [known]
  exact { h with
    standing := hknown ▸ h.standing
    granted := by
      rw [hknown]
      simpa using h.granted
    nextPoll := hnext
    looked := by simpa using hlooked
    quiet := hquiet }

/-- A look that is served now comes in time for every request. -/
theorem Within.patient (h : Within s clock files events past fresh k now served trace st)
    (hserved : (schedule now).Served .look served) {i : Nat} (hi : firstRequest? events = some i) :
    schedule.BeforeRequest now i ∨
      clock.shows (i + s.gracePeriod) = true ∧ schedule.BeforeDeadline now (i + s.gracePeriod) := by
  rcases h.request_cases hi with hknown | hlt | ⟨rfl, hnot⟩
  · obtain ⟨hshows, hdeadline⟩ := h.granted i hknown
    refine Or.inr ⟨hshows, Or.inr (hdeadline.imp_right ?_)⟩
    rintro ⟨hnow, hnot⟩
    rw [hserved.deadline] at hnot
    exact ⟨hnow, fun hturn => hnot ⟨rfl, hnow ▸ hturn⟩⟩
  · exact Or.inl (Or.inr (Or.inl hlt))
  · rw [hserved.request] at hnot
    exact Or.inl (Or.inr (Or.inr ⟨rfl, by simpa using hnot⟩))

theorem Within.serve_look (h : Within s clock files events past fresh k now served trace st)
    (hs : 0 < s.pollInterval) (hc : Chronological events) (hl : now ≤ limit)
    (hserved : (schedule now).Served .look served) :
    Leads (Ends s t clock schedule limit files events)
      (fun trace st => ∃ k, Within s clock files events past fresh k now (served ++ [.look]) trace st)
      trace (serve s t clock limit now st .look) := by
  obtain ⟨hpos, hle⟩ := h.next_look
  have hlooked := h.looked
  simp only [hserved.new, and_false, or_false] at hlooked
  by_cases hp : st.nextPoll = now
  -- A look is due, and finds a result file or not.
  · have hnow : now = k * s.pollInterval := hp.symm.trans h.nextPoll
    have hseen := h.files_eq (hnow ▸ hpos)
    have hlook : Waitfile.inspect st.world.files s.waitfile = lookAt s files events now := by
      rw [hseen, lookAt]
    rw [serve, if_pos hp]
    by_cases hready : ∃ resultFile, lookAt s files events now = .ready resultFile
    · obtain ⟨resultFile, hready⟩ := hready
      rw [poll_ready t limit now _ _ (hlook.trans hready)]
      have hpatient (i : Nat) (hi : firstRequest? events = some i) := h.patient hserved hi
      have hmeanwhile := h.files_meanwhile hc
      simp only [Leads, after_after]
      rw [hnow] at hready hpatient hseen hmeanwhile hl ⊢
      exact .handed hl hready hpatient hseen (fun reading hle _ => hmeanwhile reading hle) h.quiet
    · have hunready : ∀ resultFile, lookAt s files events now ≠ .ready resultFile :=
        fun resultFile h => hready ⟨resultFile, h⟩
      obtain ⟨looked, hpoll, hlooks, hhanded, hsent⟩ := poll_unready t limit now st.standing st.events
        (hlook ▸ hunready)
      rw [hpoll]
      rw [hlook] at hlooks
      rw [hnow] at hunready hlooks
      refine ⟨k + 1, h.looked_on (by rw [h.nextPoll, Nat.succ_mul]) (fun j => ?_)
        (h.quiet.look hunready (hnow ▸ hlooks) hhanded hsent)⟩
      have hcount : j < k + 1 ↔ j * s.pollInterval ≤ now := by
        rw [hnow, Nat.mul_le_mul_right_iff hs, Nat.lt_succ_iff]
      omega
  -- Only events or the deadline brought the run here.
  · have hlt : now < k * s.pollInterval := by
      have := h.nextPoll
      omega
    rw [serve, if_neg hp]
    refine ⟨k, h.looked_on h.nextPoll (fun j => ?_) (h.quiet.append Trace.Silent.nil)⟩
    rw [hlooked]
    refine ⟨fun hj => hj.imp_right Or.inl, ?_⟩
    rintro (hzero | hlt | heq)
    · exact Or.inl hzero
    · exact Or.inr hlt
    · exact (hlooked j).mp (Nat.lt_of_mul_lt_mul_right (a := s.pollInterval) (by omega))

theorem Within.serve_request (h : Within s clock files events past fresh k now served trace st)
    (hl : now ≤ limit) (hserved : (schedule now).Served .request served) :
    Leads (Ends s t clock schedule limit files events)
      (fun trace st => ∃ k,
        Within s clock files events past fresh k now (served ++ [.request]) trace st)
      trace (serve s t clock limit now st .request) := by
  have hattend := attend_cases s clock files past h.fresh_eq
  have hbefore : known served past fresh = past := if_neg hserved.new
  have hafter : known (served ++ [.request]) past fresh = past ++ fresh := if_pos (by simp)
  have hdeadline : Arm.deadline ∉ served := by simp [hserved.deadline]
  have hstanding := h.standing
  have hgranted := h.granted
  rw [hbefore] at hstanding hgranted
  rw [serve, hstanding, h.world]
  rcases hattend with ⟨told, hattend, htold, hnew⟩ | ⟨told, hattend, htold, _, hsome, hshows⟩
  · rw [hattend]
    refine ⟨k, ?_⟩
    exact { h with
      world := rfl
      standing := by rw [hafter]
      granted := by
        rw [hafter]
        intro i hi
        cases hpast : firstRequest? past with
        | some j =>
          rw [firstRequest?_append_some _ hpast] at hi
          cases hi
          simpa using hgranted i hpast
        | none =>
          obtain ⟨rfl, hshows⟩ := hnew hpast i hi
          refine ⟨hshows, (Nat.lt_or_eq_of_le (Nat.le_add_right i _)).imp_right fun heq => ⟨heq, ?_⟩⟩
          simpa using hdeadline
      looked := by simpa using h.looked
      quiet := h.quiet.append htold }
  -- There is no instant for the deadline.
  · rw [hattend]
    have hrequest : firstRequest? events = some now := h.split ▸ firstRequest?_append_some _ hsome
    refine .broken hrequest hl hshows (fun j => ?_) (h.quiet.append htold)
    rw [h.looked, hserved.look, Schedule.BeforeRequest]
    simp

/-- A deadline that is over was granted to a request, and is now. -/
theorem Within.deadline_of_isOver (h : Within s clock files events past fresh k now served trace st)
    (hmem : Arm.request ∈ served) (hover : st.standing.isOver now = true) :
    ∃ i, firstRequest? events = some i ∧ clock.shows (i + s.gracePeriod) = true ∧
      now = i + s.gracePeriod ∧ st.standing = .granted now := by
  have hknown : known served past fresh = past ++ fresh := if_pos hmem
  have hstanding := h.standing
  have hgranted := h.granted
  rw [hknown] at hstanding hgranted
  cases hsome : firstRequest? (past ++ fresh) with
  | none =>
    rw [hstanding, standingAfter_waiting hsome] at hover
    split at hover <;> cases hover
  | some i =>
    obtain ⟨hshows, hdeadline⟩ := hgranted i hsome
    rw [hstanding, standingAfter_granted hsome] at hover
    have hle : i + s.gracePeriod ≤ now := of_decide_eq_true hover
    have hnow : now = i + s.gracePeriod := by omega
    refine ⟨i, h.split ▸ firstRequest?_append_some _ hsome, hshows, hnow, ?_⟩
    rw [hstanding, standingAfter_granted hsome, hnow]

theorem Within.serve_deadline (h : Within s clock files events past fresh k now served trace st)
    (hl : now ≤ limit) (hserved : (schedule now).Served .deadline served) :
    Leads (Ends s t clock schedule limit files events)
      (fun trace st => ∃ k,
        Within s clock files events past fresh k now (served ++ [.deadline]) trace st)
      trace (serve s t clock limit now st .deadline) := by
  have hmem : Arm.request ∈ served := hserved.request.mpr (Or.inr rfl)
  rw [serve]
  by_cases hover : st.standing.isOver now = true
  -- The deadline is now.
  · obtain ⟨i, hrequest, hshows, rfl, _⟩ := h.deadline_of_isOver hmem hover
    rw [if_pos hover]
    refine .gaveUp hrequest hshows hl (fun j => ?_) (h.quiet.append ⟨rfl, rfl, rfl⟩)
    rw [h.looked, hserved.look, Schedule.BeforeDeadline]
    simp
  · have hbefore : known served past fresh = past ++ fresh := if_pos hmem
    have hafter : known (served ++ [.deadline]) past fresh = past ++ fresh := if_pos (by simp [hmem])
    have hstanding := h.standing
    have hgranted := h.granted
    rw [hbefore] at hstanding hgranted
    rw [if_neg hover]
    refine ⟨k, ?_⟩
    rw [List.append_nil]
    exact { h with
      standing := by rw [hafter, hstanding]
      granted := by
        rw [hafter]
        intro i hi
        refine ⟨(hgranted i hi).1, Or.inl ?_⟩
        rw [hstanding, standingAfter_granted hi] at hover
        exact not_isOver_granted (by simpa using hover)
      looked := by simpa using h.looked }

/-- Serving an arm in its turn ends the run in one of the ways, or keeps what holds at an instant. -/
theorem Within.serve_ends (h : Within s clock files events past fresh k now served trace st)
    (hs : 0 < s.pollInterval) (hc : Chronological events) (hl : now ≤ limit) {arm : Arm}
    (hserved : (schedule now).Served arm served) :
    Leads (Ends s t clock schedule limit files events)
      (fun trace st => ∃ k, Within s clock files events past fresh k now (served ++ [arm]) trace st)
      trace (serve s t clock limit now st arm) := by
  cases arm with
  | look => exact h.serve_look hs hc hl hserved
  | request => exact h.serve_request hl hserved
  | deadline => exact h.serve_deadline hl hserved

/-- When all arms are served the run waits on, and all that is passed is before the next millisecond. -/
theorem Within.waits (h : Within s clock files events past fresh k now served trace st)
    (hs : 0 < s.pollInterval) (hl : now ≤ limit) (hall : ∀ arm, arm ∈ served) :
    Waits s clock limit files events (past ++ fresh) k (now + 1) trace st := by
  have hknown : known served past fresh = past ++ fresh := if_pos (hall .request)
  have hgranted := h.granted
  rw [hknown] at hgranted
  have hzero : ∀ j, j * s.pollInterval = 0 → j = 0 := fun j hj =>
    (Nat.mul_eq_zero.mp hj).resolve_right (by omega)
  have hnext := (h.looked k).not.mp (Nat.lt_irrefl k)
  simp only [hall, and_true, not_or] at hnext
  exact {
    split := h.split
    past_lt := fun e he => Nat.lt_succ_of_le (h.past_le e he)
    events_ge := h.rest_gt
    world := h.world
    standing := hknown ▸ h.standing
    granted := by
      intro i hi
      obtain ⟨hshows, hlt | ⟨_, hnot⟩⟩ := hgranted i hi
      · exact ⟨hshows, hlt⟩
      · exact absurd (hall .deadline) hnot
    nextPoll := h.nextPoll
    looked := by
      intro j hj
      rcases (h.looked j).mp hj with hj | hlt | ⟨heq, _⟩
      · exact Or.inl (hzero j hj)
      · exact Or.inr (by omega)
      · exact Or.inr (by omega)
    upTo_le := by omega
    upTo_le_limit := Nat.succ_le_succ hl
    pos := (h.looked 0).mpr (Or.inl (Nat.zero_mul _))
    quiet := h.quiet }

/-- One instant: the run ends in one of the ways, or waits on. -/
theorem step_ends (hs : 0 < s.pollInterval) (hc : Chronological events)
    (hw : Waits s clock limit files events past k upTo trace st) :
    Leads (Ends s t clock schedule limit files events) (Waiting s clock limit files events) trace
      (step s t clock schedule limit st) := by
  refine step_leads (fun served trace st' => st.instant ≤ limit ∧ ∃ k, Within s clock files events
    past (due st.instant st.events) k st.instant served trace st') (hw.left hc)
    (fun hl => ⟨Nat.le_of_not_lt hl, k, hw.meet hs hc⟩) ?_ ?_
  · rintro served arm hserved trace st' ⟨hl, k', h⟩
    exact (h.serve_ends hs hc hl hserved).imp (fun _ hended => hended) fun _ _ h => ⟨hl, h⟩
  · rintro trace st' ⟨hl, k', h⟩
    exact ⟨_, _, _, h.waits hs hl (Turn.mem_arms _)⟩

/-- From a state in which it waits, a run ends in one of the ways. -/
theorem watch_ends (hs : 0 < s.pollInterval) (hc : Chronological events)
    (hw : Waits s clock limit files events past k upTo trace st) :
    Ends s t clock schedule limit files events
      ((watch s t clock schedule limit hs st).after trace) := by
  have hstep (trace : Trace) (st : State) (h : Waiting s clock limit files events trace st) :
      Leads (Ends s t clock schedule limit files events) (Waiting s clock limit files events) trace
        (step s t clock schedule limit st) := by
    obtain ⟨past, k, upTo, hw⟩ := h
    exact step_ends hs hc hw
  exact watch_leads hs hstep ⟨past, k, upTo, hw⟩

theorem initial_waits (hu : ∀ resultFile, lookAt s files events 0 ≠ .ready resultFile)
    {looked : Trace} (hl : looked.looks = [(0, (lookAt s files events 0).counted)])
    (hh : looked.handed = []) (hsent : looked.sent = []) :
    Waits s clock limit files events [] 1 0 (atInstant 0 [.logged (waitingEntry s)] ++ looked)
      ⟨World.initial files, .listening, s.pollInterval, events⟩ where
  split := rfl
  past_lt := fun e he => by cases he
  events_ge := fun _ _ => Nat.zero_le _
  world := rfl
  standing := rfl
  granted := fun i hi => by cases hi
  nextPoll := (Nat.one_mul _).symm
  looked := fun j hj => Or.inl (by omega)
  upTo_le := Nat.zero_le _
  upTo_le_limit := Nat.zero_le _
  pos := Nat.one_pos
  quiet := by
    have hbegun : Quiet s files events 0 (atInstant 0 [.logged (waitingEntry s)]) :=
      ⟨fun j hj => absurd hj (Nat.not_lt_zero j), rfl, rfl, rfl⟩
    refine hbegun.look ?_ ?_ hh hsent <;> rw [Nat.zero_mul]
    · exact hu
    · exact hl

theorem run_ready (t : Transmitter) (clock : Clock) (schedule : Schedule) (limit : Nat)
    (hs : 0 < s.pollInterval)
    {resultFile : Path} (h : lookAt s files events 0 = .ready resultFile) :
    run s t clock limit files events schedule =
      (handOver s t limit 0 .waiting (World.initial files) events resultFile).after
        (atInstant 0 [.logged (waitingEntry s)] ++ atInstant 0 (lookTold s (.ready resultFile))) := by
  have hpoll := poll_ready t limit 0 .listening events (w := World.initial files) h
  simp only [World.initial] at hpoll
  simp only [run, hs, dif_pos, hpoll, after_after]
  rfl

theorem run_unready (t : Transmitter) (clock : Clock) (schedule : Schedule) (limit : Nat)
    (hs : 0 < s.pollInterval)
    (h : ∀ resultFile, lookAt s files events 0 ≠ .ready resultFile) :
    ∃ looked : Trace, looked.looks = [(0, (lookAt s files events 0).counted)] ∧
      looked.handed = [] ∧ looked.sent = [] ∧
      run s t clock limit files events schedule = (watch s t clock schedule limit hs
        ⟨World.initial files, .listening, s.pollInterval, events⟩).after
          (atInstant 0 [.logged (waitingEntry s)] ++ looked) := by
  obtain ⟨looked, hpoll, hlooks, hhanded, hsent⟩ :=
    poll_unready t limit 0 .listening events (w := World.initial files) h
  refine ⟨atInstant 0 looked, hlooks, hhanded, hsent, ?_⟩
  simp only [World.initial] at hpoll
  simp only [run, hs, dif_pos, hpoll]
  rfl

/-- Every run with an interval between its looks ends in one of the ways, or is left before. -/
theorem run_ends (s : Settings) (t : Transmitter) (clock : Clock) (schedule : Schedule) (limit : Nat)
    (files : FileSystem) {events : List TimedEvent} (hs : 0 < s.pollInterval)
    (hc : Chronological events) :
    Ends s t clock schedule limit files events (run s t clock limit files events schedule) := by
  by_cases hready : ∃ resultFile, lookAt s files events 0 = .ready resultFile
  -- The look at 0 comes before all events, so the world is still the initial one.
  · obtain ⟨resultFile, hready⟩ := hready
    have hquiet : Quiet s files events 0 (atInstant 0 [.logged (waitingEntry s)]) :=
      ⟨fun j hj => absurd hj (Nat.not_lt_zero j), rfl, rfl, rfl⟩
    have hmeanwhile : ∀ reading, 0 * s.pollInterval ≤ reading → 0 < reading →
        ((World.initial files).meetAll (due reading events)).1.files =
          filesAt files events reading :=
      fun reading _ _ => files_meanwhile files [] hc fun e he => by cases he
    have hzero : 0 = 0 * s.pollInterval := (Nat.zero_mul _).symm
    have hends : Ends s t clock schedule limit files events
        ((handOver s t limit (0 * s.pollInterval) .waiting (World.initial files) events
          resultFile).after (atInstant 0 [.logged (waitingEntry s)] ++
            atInstant (0 * s.pollInterval) (lookTold s (.ready resultFile)))) :=
      .handed (by omega) (hzero ▸ hready) (fun _ _ => Or.inl (Or.inl hzero.symm)) (by rw [← hzero]; rfl)
        hmeanwhile hquiet
    rw [← hzero] at hends
    rw [run_ready t clock schedule limit hs hready]
    exact hends
  · have hunready : ∀ resultFile, lookAt s files events 0 ≠ .ready resultFile :=
      fun resultFile h => hready ⟨resultFile, h⟩
    obtain ⟨looked, hlooks, hhanded, hsent, hrun⟩ := run_unready t clock schedule limit hs hunready
    rw [hrun]
    exact watch_ends hs hc (initial_waits hunready hlooks hhanded hsent)

end

end Handoff.Gather
