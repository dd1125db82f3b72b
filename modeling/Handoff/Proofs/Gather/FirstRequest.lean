import Handoff.Proofs.Gather.Accounts
import Handoff.Proofs.Gather.Told

/-!
Two runs whose scripts agree on files and on the first shutdown request. Whichever comes to its next
instant first does nothing there that matters, and at an instant of both they do the same.
-/

namespace Handoff.Gather

/-- The end of the grace period, once it runs. -/
def Standing.deadline? : Standing → Option Nat
  | granted deadline => some deadline
  | _ => none

/-- The instant of the request that a run will take. -/
def Standing.request? : Standing → List TimedEvent → Option Nat
  | listening, events => firstRequest? events
  | _, _ => none

/-- The script is in order, and a run that listens has not missed anything. -/
structure State.Sound (st : State) : Prop where
  chronological : Chronological st.events
  unheard : st.standing = .listening → st.world.alive = true ∧ st.world.requests = 0

/-- Two runs that have the same ahead of them, but for what is done to the shutdown channel after the
first request. -/
structure State.Alike (a b : State) : Prop where
  files : a.world.files = b.world.files
  nextPoll : a.nextPoll = b.nextPoll
  changes : timedChanges a.events = timedChanges b.events
  deadline : a.standing.deadline? = b.standing.deadline?
  request : a.standing.request? a.events = b.standing.request? b.events

/-- Two pieces of runs are alike: both end alike, or both wait on in related states. -/
inductive DoAlike (related : State → State → Prop) :
    Run ⊕ (State × Trace) → Run ⊕ (State × Trace) → Prop
  | ended {r r' : Run} (alike : r.Alike r') : DoAlike related (.inl r) (.inl r')
  | waits {a b : State} {trace trace' : Trace} (told : trace.told = trace'.told) (next : related a b) :
    DoAlike related (.inr (a, trace)) (.inr (b, trace'))

/-- What a run takes from the shutdown channel when there is a request. -/
def granting (s : Settings) (clock : Clock) (now : Nat) :
    Except (Fault × List Occurrence) (Standing × List Occurrence) :=
  if clock.shows (now + s.gracePeriod) then .ok (.granted (now + s.gracePeriod),
    requestTold s ++ [.logged (changeEntry .waiting .gracePeriod)])
  else .error (.deadlineOverflow, requestTold s)

/-- A run that attends to the shutdown channel now finds no request there, and `request` is still to
come. -/
def HearsNothing (s : Settings) (clock : Clock) (now : Nat) (request : Option Nat) (st : State) :
    Prop :=
  ∃ standing told, attend s clock now st.world st.standing = .ok (standing, told) ∧
    Trace.told (atInstant now told) = [] ∧ State.Sound { st with standing := standing } ∧
    standing.deadline? = st.standing.deadline? ∧ standing.request? st.events = request

/-- Two runs find the same in the shutdown channel, as far as it matters. -/
inductive HearAlike (s : Settings) (clock : Clock) (now : Nat) (a b : State) : Prop
  | request (ha : attend s clock now a.world a.standing = granting s clock now)
      (hb : attend s clock now b.world b.standing = granting s clock now)
  | nothing {request : Option Nat} (ha : HearsNothing s clock now request a)
      (hb : HearsNothing s clock now request b)

/-- Two runs at an instant of both have the same ahead of them. What they find in the shutdown
channel counts until they serve it, and then what they took from it. -/
structure Abreast (s : Settings) (clock : Clock) (now : Nat) (served : List Arm) (a b : State) :
    Prop where
  files : a.world.files = b.world.files
  nextPoll : a.nextPoll = b.nextPoll
  changes : timedChanges a.events = timedChanges b.events
  deadline : a.standing.deadline? = b.standing.deadline?
  chronological : Chronological a.events
  chronological' : Chronological b.events
  unheard : Arm.request ∉ served → HearAlike s clock now a b
  heard : Arm.request ∈ served → a.Sound ∧ b.Sound ∧
    a.standing.request? a.events = b.standing.request? b.events

/-- A run at an instant that comes before any of `b` has the same ahead of it. -/
structure Ahead (s : Settings) (clock : Clock) (now : Nat) (b : State) (served : List Arm)
    (st : State) : Prop where
  files : st.world.files = b.world.files
  nextPoll : st.nextPoll = b.nextPoll
  changes : timedChanges st.events = timedChanges b.events
  deadline : st.standing.deadline? = b.standing.deadline?
  unheard : Arm.request ∉ served →
    HearsNothing s clock now (b.standing.request? b.events) st
  heard : Arm.request ∈ served → st.Sound ∧
    st.standing.request? st.events = b.standing.request? b.events

section
variable {s : Settings} {t : Transmitter} {clock : Clock} {schedule : Schedule} {limit now : Nat}
  {a b st : State} {served : List Arm} {standing standing' : Standing}

theorem phase_eq_of_deadline (h : standing.deadline? = standing'.deadline?) :
    standing.phase = standing'.phase := by
  cases standing <;> cases standing' <;> first | rfl | cases h

theorem isOver_eq_of_deadline (h : standing.deadline? = standing'.deadline?) (now : Nat) :
    standing.isOver now = standing'.isOver now := by
  cases standing <;> cases standing' <;> cases h <;> rfl

theorem isOver_iff_deadline :
    standing.isOver now = true ↔ ∃ d, standing.deadline? = some d ∧ d ≤ now := by
  cases standing <;> simp [Standing.isOver, Standing.deadline?]

theorem State.Alike.symm (h : a.Alike b) : b.Alike a where
  files := h.files.symm
  nextPoll := h.nextPoll.symm
  changes := h.changes.symm
  deadline := h.deadline.symm
  request := h.request.symm

theorem State.Sound.ahead (h : st.Sound) : Chronological (later st.instant st.events) := by
  have hsplit := due_append_later st.instant st.events
  exact Chronological.append (hsplit ▸ h.chronological)

theorem instant_le_request (h : st.Sound) {i : Nat} (hi : st.standing.request? st.events = some i) :
    st.instant ≤ i := by
  cases hstanding : st.standing with
  | listening =>
    rw [hstanding] at hi
    obtain ⟨e, he, rfl⟩ := firstRequest?_mem hi
    exact instant_le_event h.chronological he
  | unreachable =>
    rw [hstanding] at hi
    cases hi
  | granted deadline =>
    rw [hstanding] at hi
    cases hi

theorem instant_le_deadline? {d : Nat} (h : st.standing.deadline? = some d) : st.instant ≤ d := by
  cases hstanding : st.standing with
  | granted deadline =>
    rw [hstanding] at h
    cases h
    exact instant_le_deadline hstanding
  | listening =>
    rw [hstanding] at h
    cases h
  | unreachable =>
    rw [hstanding] at h
    cases h

/-- A run that listens takes the request of its instant, whatever else was done to the channel then. -/
theorem attend_request (s : Settings) (clock : Clock) (h : st.Sound)
    (hi : st.standing.request? st.events = some st.instant) :
    attend s clock st.instant (st.world.meetAll (due st.instant st.events)).1 st.standing =
      granting s clock st.instant := by
  cases hstanding : st.standing with
  | listening =>
    obtain ⟨halive, hrequests⟩ := h.unheard hstanding
    rw [hstanding] at hi
    have hdue : firstRequest? (due st.instant st.events) ≠ none := by
      intro hnone
      have hall : firstRequest? (due st.instant st.events ++ later st.instant st.events) =
          some st.instant := by
        rw [due_append_later]
        exact hi
      obtain ⟨e, he, hinstant⟩ := firstRequest?_append_later hnone hall
      have hlt := (mem_later h.chronological he).2
      omega
    apply attend_some
    intro hnone
    exact hdue ((meetAll_requests_eq_zero_iff _ halive hrequests).mp hnone)
  | unreachable =>
    rw [hstanding] at hi
    cases hi
  | granted deadline =>
    rw [hstanding] at hi
    cases hi

/-- As long as the request is still to come, nothing that is done to the channel matters. -/
theorem attend_unrequested (s : Settings) (clock : Clock) (h : st.Sound)
    (hlater : ∀ i, st.standing.request? st.events = some i → st.instant < i) :
    HearsNothing s clock st.instant (st.standing.request? st.events) (st.meetDue st.instant).1 := by
  cases hstanding : st.standing with
  | unreachable =>
    refine ⟨.unreachable, [], ?_, rfl, ⟨h.ahead, fun hlistening => by cases hlistening⟩, ?_, rfl⟩
    · rw [State.meetDue, hstanding]
      rfl
    · rw [State.meetDue, hstanding]
  | granted deadline =>
    refine ⟨.granted deadline, [], ?_, rfl, ⟨h.ahead, fun hlistening => by cases hlistening⟩, ?_, rfl⟩
    · rw [State.meetDue, hstanding]
      rfl
    · rw [State.meetDue, hstanding]
  | listening =>
    obtain ⟨halive, hrequests⟩ := h.unheard hstanding
    rw [hstanding] at hlater
    have hnone : firstRequest? (due st.instant st.events) = none := by
      cases hdue : firstRequest? (due st.instant st.events) with
      | none => rfl
      | some i =>
        obtain ⟨e, he, rfl⟩ := firstRequest?_mem hdue
        have hall := firstRequest?_append_some (later st.instant st.events) hdue
        rw [due_append_later] at hall
        have hle := (mem_due he).2
        have hlt := hlater e.instant hall
        omega
    have hzero := (meetAll_requests_eq_zero_iff (due st.instant st.events) halive hrequests).mpr hnone
    have hkept : (st.world.meetAll (due st.instant st.events)).1.alive =
        !dropsSender (due st.instant st.events) := by
      rw [meetAll_alive, halive, Bool.true_and]
    have hrequest : firstRequest? st.events =
        if dropsSender (due st.instant st.events) then none
        else firstRequest? (later st.instant st.events) := by
      have happend := firstRequest?_append (due st.instant st.events) (later st.instant st.events)
      rw [due_append_later, hnone] at happend
      exact happend
    unfold HearsNothing State.meetDue
    rw [hstanding, attend_none hzero]
    refine ⟨_, _, rfl, ?_⟩
    rw [Standing.request?, hrequest, hkept]
    cases hdrops : dropsSender (due st.instant st.events) with
    | true => exact ⟨rfl, ⟨h.ahead, fun hlistening => by cases hlistening⟩, rfl, rfl⟩
    | false => exact ⟨rfl, ⟨h.ahead, fun _ => ⟨by rw [hkept, hdrops]; rfl, hzero⟩⟩, rfl, rfl⟩

theorem Ahead.serve_silent (t : Transmitter) (limit : Nat) (h : Ahead s clock now b served st)
    (hpoll : now < b.nextPoll) (hdeadline : ∀ d, b.standing.deadline? = some d → now < d) {arm : Arm}
    (hserved : (schedule now).Served arm served) :
    ∃ st' told, serve s t clock limit now st arm = .inr (st', told) ∧ Trace.told told = [] ∧
      Ahead s clock now b (served ++ [arm]) st' := by
  cases arm with
  | look =>
    have hnot : st.nextPoll ≠ now := by
      have := h.nextPoll
      omega
    refine ⟨st, [], by rw [serve, if_neg hnot], rfl, ?_⟩
    exact { h with
      unheard := fun hmem => h.unheard (by simpa using hmem)
      heard := fun hmem => h.heard (by simpa using hmem) }
  | request =>
    obtain ⟨standing, told, hattend, hsilent, hsound, hsame, hrequest⟩ := h.unheard hserved.new
    refine ⟨{ st with standing := standing }, atInstant now told, by rw [serve, hattend], hsilent, ?_⟩
    exact { h with
      deadline := hsame.trans h.deadline
      unheard := fun hmem => absurd (by simp) hmem
      heard := fun _ => ⟨hsound, hrequest⟩ }
  | deadline =>
    have hgoing : ¬ st.standing.isOver now = true := by
      rw [isOver_iff_deadline]
      rintro ⟨d, hd, hle⟩
      have hlt := hdeadline d (h.deadline ▸ hd)
      omega
    refine ⟨st, [], by rw [serve, if_neg hgoing], rfl, ?_⟩
    exact { h with
      unheard := fun hmem => h.unheard (by simpa using hmem)
      heard := fun hmem => h.heard (by simpa using hmem) }

/-- A run whose next instant comes before that of another does nothing there that matters. -/
theorem step_ahead (t : Transmitter) (schedule : Schedule) (hab : a.Alike b) (ha : a.Sound)
    (hb : b.Sound) (hlt : a.instant < b.instant) (hlimit : a.instant ≤ limit) :
    ∃ a' trace, step s t clock schedule limit a = .inr (a', trace) ∧ trace.told = [] ∧ a'.Sound ∧
      a'.Alike b := by
  have hpoll : a.instant < b.nextPoll := Nat.lt_of_lt_of_le hlt (instant_le_nextPoll b)
  have hrequest : ∀ i, a.standing.request? a.events = some i → a.instant < i := by
    intro i hi
    rw [hab.request] at hi
    exact Nat.lt_of_lt_of_le hlt (instant_le_request hb hi)
  have hdeadline : ∀ d, b.standing.deadline? = some d → a.instant < d := fun d hd =>
    Nat.lt_of_lt_of_le hlt (instant_le_deadline? hd)
  -- All changes of files are still to come.
  have hlater : ∀ change ∈ timedChanges a.events, a.instant < change.1 := by
    intro change hchange
    rw [hab.changes] at hchange
    obtain ⟨e, he, hinstant⟩ := mem_timedChanges hchange
    exact Nat.lt_of_lt_of_le hlt (hinstant ▸ instant_le_event hb.chronological he)
  obtain ⟨hdue, hrest⟩ := timedChanges_split ha.chronological a.instant
  have hnone : changes (due a.instant a.events) = [] := by
    rw [changes_eq_map, hdue, List.map_eq_nil_iff, List.filter_eq_nil_iff]
    intro change hchange
    have hgt := hlater change hchange
    simp only [decide_eq_true_eq]
    omega
  have hall : timedChanges (later a.instant a.events) = timedChanges a.events := by
    rw [hrest, List.filter_eq_self]
    exact fun change hchange => decide_eq_true (hlater change hchange)
  have hmet : Ahead s clock a.instant b [] (a.meetDue a.instant).1 := {
    files := by
      rw [← hab.files]
      change (a.world.meetAll (due a.instant a.events)).1.files = _
      rw [meetAll_files, hnone]
      rfl
    nextPoll := hab.nextPoll
    changes := hall.trans hab.changes
    deadline := hab.deadline
    unheard := fun _ => hab.request ▸ attend_unrequested s clock ha hrequest
    heard := fun hmem => by cases hmem }
  have hleads : Leads (fun _ => False) (fun trace st => trace.told = [] ∧ st.Sound ∧ st.Alike b) []
      (step s t clock schedule limit a) := by
    refine step_leads (fun served trace st => trace.told = [] ∧ Ahead s clock a.instant b served st)
      (fun hl => absurd hl (Nat.not_lt.mpr hlimit)) (fun _ => ⟨told_meetAll _ _, hmet⟩) ?_ ?_
    · rintro served arm hserved trace st ⟨htold, h⟩
      obtain ⟨st', told, hserve, hsilent, hnext⟩ := h.serve_silent t limit hpoll hdeadline hserved
      rw [hserve]
      exact ⟨by rw [told_append, htold, hsilent]; rfl, hnext⟩
    · rintro trace st ⟨htold, h⟩
      obtain ⟨hsound, hsame⟩ := h.heard (Turn.mem_arms _ _)
      exact ⟨htold, hsound, h.files, h.nextPoll, h.changes, h.deadline, hsame⟩
  cases hstep : step s t clock schedule limit a with
  | inl r =>
    rw [hstep] at hleads
    exact hleads.elim
  | inr next =>
    rw [hstep] at hleads
    exact ⟨_, _, rfl, hleads⟩

theorem DoAlike.imp {related related' : State → State → Prop} {next next' : Run ⊕ (State × Trace)}
    (h : DoAlike related next next') (himp : ∀ a b, related a b → related' a b) :
    DoAlike related' next next' := by
  cases h with
  | ended alike => exact .ended alike
  | waits told next => exact .waits told (himp _ _ next)

theorem DoAlike.following {related : State → State → Prop} {next next' : Run ⊕ (State × Trace)}
    (h : DoAlike related next next') {trace trace' : Trace} (htold : trace.told = trace'.told) :
    DoAlike related (following trace next) (following trace' next') := by
  cases h with
  | ended alike => exact .ended (alike.after htold)
  | waits told next => exact .waits (by rw [told_append, told_append, htold, told]) next

theorem HearsNothing.looked {request : Option Nat} (h : HearsNothing s clock now request st)
    (nextPoll : Nat) : HearsNothing s clock now request { st with nextPoll := nextPoll } := by
  obtain ⟨standing, told, hattend, hsilent, hsound, hsame, hrequest⟩ := h
  exact ⟨standing, told, hattend, hsilent, ⟨hsound.chronological, hsound.unheard⟩, hsame, hrequest⟩

/-- Looks leave the shutdown channel as it is. -/
theorem Abreast.looked (h : Abreast s clock now served a b) {nextPoll nextPoll' : Nat}
    (hnext : nextPoll = nextPoll') :
    Abreast s clock now (served ++ [.look]) { a with nextPoll := nextPoll }
      { b with nextPoll := nextPoll' } where
  files := h.files
  nextPoll := hnext
  changes := h.changes
  deadline := h.deadline
  chronological := h.chronological
  chronological' := h.chronological'
  unheard := by
    intro hmem
    cases h.unheard (by simpa using hmem) with
    | request ha hb => exact .request ha hb
    | nothing ha hb => exact .nothing (ha.looked nextPoll) (hb.looked nextPoll')
  heard := by
    intro hmem
    obtain ⟨ha, hb, hrequest⟩ := h.heard (by simpa using hmem)
    exact ⟨⟨ha.chronological, ha.unheard⟩, ⟨hb.chronological, hb.unheard⟩, hrequest⟩

theorem Abreast.serve_look (t : Transmitter) (limit : Nat) (h : Abreast s clock now served a b) :
    DoAlike (Abreast s clock now (served ++ [.look])) (serve s t clock limit now a .look)
      (serve s t clock limit now b .look) := by
  rw [serve, serve, h.nextPoll]
  by_cases hpoll : b.nextPoll = now
  · rw [if_pos hpoll, if_pos hpoll]
    rcases poll_alike s t limit now h.files h.chronological h.chronological' h.changes
        (phase_eq_of_deadline h.deadline) with ⟨r, r', hr, hr', halike⟩ | ⟨looked, hl, hl'⟩
    · rw [hr, hr']
      exact .ended halike
    · rw [hl, hl']
      exact .waits rfl (h.looked rfl)
  · rw [if_neg hpoll, if_neg hpoll]
    exact .waits rfl (h.looked h.nextPoll)

theorem Abreast.serve_request (t : Transmitter) (limit : Nat) (h : Abreast s clock now served a b)
    (hnew : Arm.request ∉ served) :
    DoAlike (Abreast s clock now (served ++ [.request])) (serve s t clock limit now a .request)
      (serve s t clock limit now b .request) := by
  have hserved : Arm.request ∈ served ++ [.request] := by simp
  rw [serve, serve]
  cases h.unheard hnew with
  -- Both take a request now, or break on it.
  | request ha hb =>
    rw [ha, hb, granting]
    split
    · rename_i fault told hsplit
      exact .ended ⟨rfl, rfl, rfl⟩
    · rename_i standing told hsplit
      have hgranted : standing = .granted (now + s.gracePeriod) := by
        split at hsplit
        · cases hsplit
          rfl
        · cases hsplit
      subst hgranted
      exact .waits rfl { h with
        deadline := rfl
        unheard := fun hmem => absurd hserved hmem
        heard := fun _ => ⟨⟨h.chronological, fun hlistening => by cases hlistening⟩,
          ⟨h.chronological', fun hlistening => by cases hlistening⟩, rfl⟩ }
  -- Neither takes a request now.
  | nothing ha hb =>
    obtain ⟨standing, told, hattend, hsilent, hsound, hsame, hrequest⟩ := ha
    obtain ⟨standing', told', hattend', hsilent', hsound', hsame', hrequest'⟩ := hb
    rw [hattend, hattend']
    exact .waits (hsilent.trans hsilent'.symm) { h with
      deadline := hsame.trans (h.deadline.trans hsame'.symm)
      unheard := fun hmem => absurd hserved hmem
      heard := fun _ => ⟨hsound, hsound', hrequest.trans hrequest'.symm⟩ }

/-- Two runs do alike as they serve an arm in its turn. -/
theorem Abreast.serve_alike (t : Transmitter) (limit : Nat) (h : Abreast s clock now served a b)
    {arm : Arm} (hserved : (schedule now).Served arm served) :
    DoAlike (Abreast s clock now (served ++ [arm])) (serve s t clock limit now a arm)
      (serve s t clock limit now b arm) := by
  cases arm with
  | look => exact h.serve_look t limit
  | request => exact h.serve_request t limit hserved.new
  | deadline =>
    rw [serve, serve, isOver_eq_of_deadline h.deadline now]
    split
    · exact .ended ⟨rfl, rfl, rfl⟩
    · exact .waits rfl { h with
        unheard := fun hmem => h.unheard (by simpa using hmem)
        heard := fun hmem => h.heard (by simpa using hmem) }

/-- Arms that are served alike one by one are served alike in a row. -/
theorem serveAll_alike {related : List Arm → State → State → Prop} {all served rest : List Arm}
    (hall : all = served ++ rest)
    (harm : ∀ served arm rest, all = served ++ arm :: rest → ∀ a b, related served a b →
      DoAlike (related (served ++ [arm])) (serve s t clock limit now a arm)
        (serve s t clock limit now b arm))
    (h : related served a b) :
    DoAlike (related all) (serveAll s t clock limit now a rest)
      (serveAll s t clock limit now b rest) := by
  induction rest generalizing served a b with
  | nil =>
    rw [List.append_nil] at hall
    subst hall
    exact .waits rfl h
  | cons arm rest ih =>
    have hserve := harm served arm rest hall a b h
    rw [serveAll, serveAll]
    generalize serve s t clock limit now a arm = doneA at hserve
    generalize serve s t clock limit now b arm = doneB at hserve
    cases hserve with
    | ended alike => exact .ended alike
    | waits told next => exact (ih (by rw [hall, List.append_assoc]; rfl) next).following told

theorem State.Alike.abreast (hab : a.Alike b) (ha : a.Sound) (hb : b.Sound)
    (hnow : a.instant = b.instant) :
    Abreast s clock a.instant [] (a.meetDue a.instant).1 (b.meetDue a.instant).1 where
  files := by
    change (a.world.meetAll (due a.instant a.events)).1.files =
      (b.world.meetAll (due a.instant b.events)).1.files
    rw [meetAll_files, meetAll_files, hab.files,
      changes_due_eq ha.chronological hb.chronological hab.changes]
  nextPoll := hab.nextPoll
  changes := timedChanges_later_eq ha.chronological hb.chronological hab.changes a.instant
  deadline := hab.deadline
  chronological := ha.ahead
  chronological' := hnow ▸ hb.ahead
  unheard := by
    intro _
    by_cases hnew : a.standing.request? a.events = some a.instant
    · have hnew' : b.standing.request? b.events = some b.instant := by
        rw [← hab.request, hnew, hnow]
      have hrequest := attend_request s clock hb hnew'
      rw [← hnow] at hrequest
      exact .request (attend_request s clock ha hnew) hrequest
    · have hlater : ∀ i, a.standing.request? a.events = some i → a.instant < i := by
        intro i hi
        apply Nat.lt_of_le_of_ne (instant_le_request ha hi)
        rintro rfl
        exact hnew hi
      have hnothing := attend_unrequested s clock hb (by rw [← hab.request, ← hnow]; exact hlater)
      rw [← hnow] at hnothing
      exact .nothing (attend_unrequested s clock ha hlater) (hab.request ▸ hnothing)
  heard := fun hmem => by cases hmem

/-- Two runs do alike at an instant of both. -/
theorem step_together (s : Settings) (t : Transmitter) (clock : Clock) (schedule : Schedule)
    (limit : Nat) (hab : a.Alike b) (ha : a.Sound) (hb : b.Sound) (hnow : a.instant = b.instant) :
    DoAlike (fun a b => a.Sound ∧ b.Sound ∧ a.Alike b) (step s t clock schedule limit a)
      (step s t clock schedule limit b) := by
  rw [step, step, ← hnow]
  dsimp only
  split
  · exact .ended ⟨rfl, rfl, rfl⟩
  have hserved : DoAlike (Abreast s clock a.instant (schedule a.instant).arms)
      (serveAll s t clock limit a.instant (a.meetDue a.instant).1 (schedule a.instant).arms)
      (serveAll s t clock limit a.instant (b.meetDue a.instant).1 (schedule a.instant).arms) :=
    serveAll_alike (List.nil_append _).symm
      (fun served arm rest hsplit _ _ h => h.serve_alike t limit (Turn.served hsplit))
      (hab.abreast ha hb hnow)
  refine (hserved.imp fun a b h => ?_).following ((told_meetAll _ _).trans (told_meetAll _ _).symm)
  obtain ⟨hsound, hsound', hrequest⟩ := h.heard (Turn.mem_arms _ _)
  exact ⟨hsound, hsound', h.files, h.nextPoll, h.changes, h.deadline, hrequest⟩

theorem watch_of_ended {hs : 0 < s.pollInterval} {r : Run}
    (h : step s t clock schedule limit st = .inl r) : watch s t clock schedule limit hs st = r := by
  rw [watch]
  split
  · rename_i hr
    exact (Sum.inl.inj (h.symm.trans hr)).symm
  · rename_i hr
    cases h.symm.trans hr

theorem watch_of_waits {hs : 0 < s.pollInterval} {st' : State} {trace : Trace}
    (h : step s t clock schedule limit st = .inr (st', trace)) :
    watch s t clock schedule limit hs st = (watch s t clock schedule limit hs st').after trace := by
  rw [watch]
  split
  · rename_i hr
    cases h.symm.trans hr
  · rename_i hr
    cases h.symm.trans hr
    rfl

/-- Two runs that have the same ahead of them end alike. -/
theorem watch_alike (t : Transmitter) (clock : Clock) (schedule : Schedule) (limit : Nat)
    (hs : 0 < s.pollInterval) (hab : a.Alike b) (ha : a.Sound) (hb : b.Sound) :
    (watch s t clock schedule limit hs a).Alike (watch s t clock schedule limit hs b) := by
  -- A step of either leaves less of the two together.
  induction hn : a.remaining limit + b.remaining limit using Nat.strong_induction_on generalizing a b with
  | h n ih =>
    -- The one whose instant comes first goes ahead, unless both are left before.
    have hahead {a b : State} (hab : a.Alike b) (ha : a.Sound) (hb : b.Sound)
        (hsum : a.remaining limit + b.remaining limit = n) (hlt : a.instant < b.instant) :
        (watch s t clock schedule limit hs a).Alike (watch s t clock schedule limit hs b) := by
      by_cases hlimit : limit < a.instant
      · have hleft {st : State} (h : limit < st.instant) :
            watch s t clock schedule limit hs st = ⟨.stillRunning, limit, []⟩ := by
          apply watch_of_ended
          unfold step
          exact if_pos h
        rw [hleft hlimit, hleft (Nat.lt_trans hlimit hlt)]
        exact ⟨rfl, rfl, rfl⟩
      · obtain ⟨a', trace, hstep, htold, ha', hab'⟩ :=
          step_ahead t schedule hab ha hb hlt (Nat.not_lt.mp hlimit)
        have hless := step_remaining hs hstep
        have hrest := ih _ (by omega) hab' ha' hb rfl
        rw [watch_of_waits hstep]
        exact ⟨hrest.outcome, hrest.elapsed, by rw [Run.after, told_append, htold, hrest.told]; rfl⟩
    rcases Nat.lt_trichotomy a.instant b.instant with hlt | hnow | hgt
    · exact hahead hab ha hb hn hlt
    · have htogether := step_together s t clock schedule limit hab ha hb hnow
      generalize hstepA : step s t clock schedule limit a = doneA at htogether
      generalize hstepB : step s t clock schedule limit b = doneB at htogether
      cases htogether with
      | ended alike =>
        rw [watch_of_ended hstepA, watch_of_ended hstepB]
        exact alike
      | waits told next =>
        obtain ⟨soundA, soundB, alike⟩ := next
        have hlessA := step_remaining hs hstepA
        have hlessB := step_remaining hs hstepB
        rw [watch_of_waits hstepA, watch_of_waits hstepB]
        exact (ih _ (by omega) alike soundA soundB rfl).after told
    · have hsym := hahead hab.symm hb ha (by omega) hgt
      exact ⟨hsym.outcome.symm, hsym.elapsed.symm, hsym.told.symm⟩

end

section
variable {s : Settings} {t : Transmitter} {clock : Clock} {schedule : Schedule} {limit : Nat}
  {files : FileSystem} {events other : List TimedEvent} {stage : Stage} {trace : Trace} {st : State}

/-! A run that nobody asks to shut down. -/

/-- A run that nobody asks to shut down has no grace period, and looks until it finds a result file. -/
structure Unasked (s : Settings) (limit : Nat) (files : FileSystem) (events : List TimedEvent)
    (r : Run) :
    Prop where
  ungranted : Metric.gracePeriodStarted ∉ r.trace.metrics
  patient : r.outcome ≠ .timedOut
  looks : ∀ j, j * s.pollInterval ≤ limit →
    (∀ i < j, ∀ resultFile, lookAt s files events (i * s.pollInterval) ≠ .ready resultFile) →
    (j * s.pollInterval, (lookAt s files events (j * s.pollInterval)).counted) ∈ r.trace.looks

/-- Only a request that is made is counted. -/
theorem Story.requests_eq_zero (h : Story s t clock events stage trace)
    (hrequest : firstRequest? events = none) : stage.tally.requests = 0 := by
  induction h with
  | granted before request shown ih => cases hrequest.symm.trans request
  | overstrained before request overflow ih => cases hrequest.symm.trans request
  | timedOut before ih => cases ih
  | begun => rfl
  | closed before now ih => rfl
  | heard before running requests ih => exact ih
  | looked before now unready ih => exact ih
  | unopened before now resultFile cause ih => exact ih
  | handed before now artifact ih => exact ih
  | answered before now call ih => exact ih

/-- Without a request a run goes on as long as no look finds a result file. -/
theorem run_unasked (s : Settings) (t : Transmitter) (clock : Clock) (schedule : Schedule) (limit : Nat)
    (files : FileSystem) (hs : 0 < s.pollInterval) (hc : Chronological events)
    (hrequest : firstRequest? events = none) :
    Unasked s limit files events (run s t clock limit files events schedule) where
  ungranted := by
    obtain ⟨stage, _, hstory⟩ := run_story s t clock schedule limit files hs hc
    have hcount := congrArg Tally.requests hstory.tally_eq
    rw [hstory.requests_eq_zero hrequest] at hcount
    exact List.count_eq_zero.mp hcount
  patient := by
    intro htimedOut
    have hends := run_ends s t clock schedule limit files hs hc
    obtain ⟨i, hi, _⟩ := (hends.timedOut_iff _).mp ⟨htimedOut, rfl⟩
    rw [hrequest] at hi
    cases hi
  looks := by
    intro j hj hunready
    have hends := run_ends s t clock schedule limit files hs hc
    have hmem (upTo : Nat) (hle : j * s.pollInterval ≤ upTo) :
        (j * s.pollInterval, (lookAt s files events (j * s.pollInterval)).counted) ∈
          looksUpTo s files events upTo := by
      have hlt : j < upTo / s.pollInterval + 1 := by
        rw [Nat.lt_succ_iff, Nat.le_div_iff_mul_le hs]
        exact hle
      exact List.mem_map.mpr ⟨j, List.mem_range.mpr hlt, rfl⟩
    by_cases hfound : ∃ k resultFile, FirstReady s files events k resultFile
    · obtain ⟨k, resultFile, hfirst⟩ := hfound
      have hle : j ≤ k := Nat.le_of_not_lt fun hlt => hunready k hlt resultFile hfirst.ready
      have hintime : InTime s clock events (k * s.pollInterval) := by
        refine Or.inr fun i hi => ?_
        rw [hrequest] at hi
        cases hi
      rw [(hends.found hs hfirst hintime).2.1]
      exact hmem _ (Nat.le_min.mpr ⟨hj, Nat.mul_le_mul_right _ hle⟩)
    · have hnone : ∀ k resultFile, ¬ FirstReady s files events k resultFile :=
        fun k resultFile h => hfound ⟨k, resultFile, h⟩
      rw [(hends.waits hs hnone hrequest).2.1]
      exact hmem limit hj

/-! Two runs. -/

/-- Runs whose scripts agree on files and on the first request differ at most in what they tell of the
shutdown channel itself. -/
theorem run_alike (s : Settings) (t : Transmitter) (clock : Clock) (schedule : Schedule) (limit : Nat)
    (files : FileSystem) (hs : 0 < s.pollInterval) (hc : Chronological events)
    (hc' : Chronological other) (hchanges : timedChanges events = timedChanges other)
    (hrequest : firstRequest? events = firstRequest? other) :
    (run s t clock limit files events schedule).Alike (run s t clock limit files other schedule) := by
  have hfiles : (World.initial files).files = (World.initial files).files := rfl
  have hphase : Standing.listening.phase = Standing.listening.phase := rfl
  have hfresh {script : List TimedEvent} (h : Chronological script) :
      State.Sound ⟨World.initial files, .listening, s.pollInterval, script⟩ := ⟨h, fun _ => ⟨rfl, rfl⟩⟩
  have hahead : State.Alike ⟨World.initial files, .listening, s.pollInterval, events⟩
      ⟨World.initial files, .listening, s.pollInterval, other⟩ := ⟨rfl, rfl, hchanges, rfl, hrequest⟩
  unfold run
  rw [dif_pos hs, dif_pos hs]
  rcases poll_alike s t limit 0 hfiles hc hc' hchanges hphase with
    ⟨r, r', hr, hr', halike⟩ | ⟨looked, hl, hl'⟩
  · rw [World.initial] at hr hr'
    simp only [hr, hr']
    exact halike.after rfl
  · rw [World.initial] at hl hl'
    simp only [hl, hl']
    exact (watch_alike t clock schedule limit hs hahead (hfresh hc) (hfresh hc')).after rfl

/-- Only the first shutdown request that someone is there to make matters to a run: later ones, and the
end of the channel, leave no trace but a log entry that it is closed. -/
theorem run_first_request (s : Settings) (t : Transmitter) (clock : Clock) (schedule : Schedule)
    (limit : Nat) (files : FileSystem) {events other : List TimedEvent} (hs : 0 < s.pollInterval)
    (hc : Chronological events) (hc' : Chronological other)
    (hchanges : timedChanges events = timedChanges other)
    (hrequest : firstRequest? events = firstRequest? other) :
    let a := run s t clock limit files events schedule
    let b := run s t clock limit files other schedule
    a.outcome = b.outcome ∧ a.elapsed = b.elapsed ∧ a.trace.calls = b.trace.calls ∧
      a.trace.metrics = b.trace.metrics ∧
      a.trace.log.filter (·.2 ≠ closedEntry) = b.trace.log.filter (·.2 ≠ closedEntry) ∧
      (firstRequest? events = none → Unasked s limit files events a) := by
  intro a b
  have halike : a.Alike b := run_alike s t clock schedule limit files hs hc hc' hchanges hrequest
  have hcalls : a.trace.calls = b.trace.calls := by
    rw [← calls_told, halike.told, calls_told]
  have hmetrics : a.trace.metrics = b.trace.metrics := by
    rw [← metrics_told, halike.told, metrics_told]
  have hlog : a.trace.log.filter (·.2 ≠ closedEntry) = b.trace.log.filter (·.2 ≠ closedEntry) := by
    rw [← log_told, halike.told, log_told]
  exact ⟨halike.outcome, halike.elapsed, hcalls, hmetrics, hlog,
    run_unasked s t clock schedule limit files hs hc⟩

end

/-- A plugin that finishes while impatient hands ask for shutdown again and again, and then leave. -/
def requestedAgain : List TimedEvent :=
  [written 200 "results.json" "one", ⟨1200, .trigger⟩, ⟨1200, .trigger⟩, ⟨1800, .trigger⟩,
    written 2400 "done" "results.json", ⟨2600, .dropSender⟩, ⟨3200, .trigger⟩]

/-- The same plugin, with one request. -/
def requestedOnce : List TimedEvent :=
  [written 200 "results.json" "one", ⟨1200, .trigger⟩, written 2400 "done" "results.json"]

theorem run_first_request_again :
    firstRequest? requestedAgain = some 1200 ∧
      (run (everySecond 2500) (accepting 500) ⟨0⟩ 5000 .empty requestedAgain).outcome =
        (run (everySecond 2500) (accepting 500) ⟨0⟩ 5000 .empty requestedOnce).outcome := by
  have hs : 0 < (everySecond 2500).pollInterval := by decide
  have hagain : Chronological requestedAgain := by decide
  have honce : Chronological requestedOnce := by decide
  have hchanges : timedChanges requestedAgain = timedChanges requestedOnce := by decide
  have hrequest : firstRequest? requestedAgain = firstRequest? requestedOnce := by decide
  have hsame := run_first_request (everySecond 2500) (accepting 500) ⟨0⟩ .inOrder 5000 .empty hs hagain
    honce hchanges hrequest
  exact ⟨rfl, hsame.1⟩

end Handoff.Gather
