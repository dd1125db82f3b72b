import Handoff.Proofs.Gather.GracePeriod

/-!
When a run ends, and how. Looks are made at 0 and at every multiple of the interval until the run stops;
the first one that finds a result file decides, unless the grace period is over before it.
-/

namespace Handoff.Gather

/-- The look `k` is the first one that finds a result file. -/
structure FirstReady (s : Settings) (files : FileSystem) (events : List TimedEvent) (k : Nat)
    (resultFile : Path) : Prop where
  ready : lookAt s files events (k * s.pollInterval) = .ready resultFile
  first : ∀ j < k, ∀ other, lookAt s files events (j * s.pollInterval) ≠ .ready other

/-- No event and no deadline comes at the instant of a look, but at 0, where the look comes first. -/
structure Untied (s : Settings) (events : List TimedEvent) : Prop where
  event : ∀ e ∈ events, 0 < e.instant → ¬ s.pollInterval ∣ e.instant
  deadline : ∀ i, firstRequest? events = some i → 0 < i + s.gracePeriod →
    ¬ s.pollInterval ∣ i + s.gracePeriod

/-- No shutdown request ends a run before its look at `now`. -/
def InTime (s : Settings) (clock : Clock) (events : List TimedEvent) (now : Nat) : Prop :=
  now = 0 ∨ ∀ i, firstRequest? events = some i →
    now < i ∨ clock.shows (i + s.gracePeriod) = true ∧ now < i + s.gracePeriod

/-- All looks up to an instant. -/
def looksUpTo (s : Settings) (files : FileSystem) (events : List TimedEvent) (upTo : Nat) :
    List (Nat × PollStatus) :=
  firstLooks s files events (upTo / s.pollInterval + 1)

/-- The ending of a run that finds no result file in time after a shutdown request at `i`. -/
def expiry (s : Settings) (clock : Clock) (i : Nat) : Outcome × Nat :=
  if clock.shows (i + s.gracePeriod) then (.timedOut, i + s.gracePeriod)
  else (.broken .deadlineOverflow, i)

/-- What decides a run, as far as it is seen at `limit`: the first result file, if it is found in
time; else the first shutdown request; and with neither it goes on. -/
structure Timed (s : Settings) (t : Transmitter) (clock : Clock) (limit : Nat) (files : FileSystem)
    (events : List TimedEvent) (r : Run) : Prop where
  found : ∀ k resultFile, FirstReady s files events k resultFile →
    InTime s clock events (k * s.pollInterval) →
      (r.outcome, r.elapsed) =
        seenBy limit (conclusion s t files events (k * s.pollInterval) resultFile) ∧
      r.trace.looks = looksUpTo s files events (min limit (k * s.pollInterval)) ∧
      r.trace.handed = if k * s.pollInterval ≤ limit
        then given s files events (k * s.pollInterval) resultFile else []
  requested : (∀ k resultFile, FirstReady s files events k resultFile →
      ¬ InTime s clock events (k * s.pollInterval)) →
    ∀ i, firstRequest? events = some i →
      (r.outcome, r.elapsed) = seenBy limit (expiry s clock i) ∧
      r.trace.looks = looksUpTo s files events (min limit (expiry s clock i).2) ∧
      r.trace.handed = []
  waits : (∀ k resultFile, ¬ FirstReady s files events k resultFile) → firstRequest? events = none →
    (r.outcome, r.elapsed) = (.stillRunning, limit) ∧
      r.trace.looks = looksUpTo s files events limit ∧ r.trace.handed = []

section
variable {s : Settings} {t : Transmitter} {clock : Clock} {schedule : Schedule} {limit : Nat}
  {files : FileSystem} {events : List TimedEvent} {k upTo : Nat} {trace : Trace} {resultFile : Path}
  {r : Run}

theorem looks_count (hs : 0 < s.pollInterval) (h : ∀ j, j < k ↔ j * s.pollInterval ≤ upTo) :
    k = upTo / s.pollInterval + 1 := by
  have hcount (j : Nat) : j < k ↔ j ≤ upTo / s.pollInterval := by
    rw [h, Nat.le_div_iff_mul_le hs]
  have hlast := (hcount (upTo / s.pollInterval)).mpr (Nat.le_refl _)
  have hnext := (hcount (upTo / s.pollInterval + 1)).not.mpr (Nat.not_succ_le_self _)
  omega

theorem Quiet.looks_upTo (h : Quiet s files events k trace) (hs : 0 < s.pollInterval)
    (hk : ∀ j, j < k ↔ j * s.pollInterval ≤ upTo) :
    trace.looks = looksUpTo s files events upTo := by
  rw [h.looks, looks_count hs hk]
  rfl

theorem Quiet.le_first (h : Quiet s files events k trace) {n : Nat}
    (hf : FirstReady s files events n resultFile) : k ≤ n :=
  Nat.le_of_not_lt fun hlt => h.unready n hlt resultFile hf.ready

theorem Untied.beforeRequest_iff (hu : Untied s events) {i : Nat}
    (request : firstRequest? events = some i) (k : Nat) :
    schedule.BeforeRequest (k * s.pollInterval) i ↔ k * s.pollInterval ≤ i := by
  constructor
  · rintro (hzero | hlt | ⟨heq, _⟩) <;> omega
  · intro hle
    rcases Nat.lt_or_eq_of_le hle with hlt | heq
    · exact Or.inr (Or.inl hlt)
    -- The request is an event, and events tie with looks at 0 at most.
    · obtain ⟨e, he, hi⟩ := firstRequest?_mem request
      have htie : s.pollInterval ∣ e.instant := hi ▸ heq ▸ Nat.dvd_mul_left _ _
      have hzero : e.instant = 0 := Nat.eq_zero_of_not_pos fun hpos => hu.event e he hpos htie
      exact Or.inl (heq.trans (hi.symm.trans hzero))

theorem Untied.beforeDeadline_iff (hu : Untied s events) {i : Nat}
    (request : firstRequest? events = some i) (k : Nat) :
    schedule.BeforeDeadline (k * s.pollInterval) (i + s.gracePeriod) ↔
      k * s.pollInterval ≤ i + s.gracePeriod := by
  constructor
  · rintro (hzero | hlt | ⟨heq, _⟩) <;> omega
  · intro hle
    rcases Nat.lt_or_eq_of_le hle with hlt | heq
    · exact Or.inr (Or.inl hlt)
    · refine Or.inl (Nat.eq_zero_of_not_pos fun hpos => ?_)
      exact hu.deadline i request (heq ▸ hpos) (heq ▸ Nat.dvd_mul_left _ _)

theorem Untied.inTime (hu : Untied s events)
    (patient : ∀ i, firstRequest? events = some i →
      schedule.BeforeRequest (k * s.pollInterval) i ∨ clock.shows (i + s.gracePeriod) = true ∧
        schedule.BeforeDeadline (k * s.pollInterval) (i + s.gracePeriod)) :
    InTime s clock events (k * s.pollInterval) := by
  by_cases hzero : k * s.pollInterval = 0
  · exact Or.inl hzero
  refine Or.inr fun i hi => ?_
  rcases patient i hi with hrequest | ⟨hshows, hdeadline⟩
  · have hle := (hu.beforeRequest_iff hi k).mp hrequest
    refine Or.inl (Nat.lt_of_le_of_ne hle fun heq => ?_)
    obtain ⟨e, he, hinstant⟩ := firstRequest?_mem hi
    exact hu.event e he (by omega) (hinstant ▸ heq ▸ Nat.dvd_mul_left _ _)
  · have hle := (hu.beforeDeadline_iff hi k).mp hdeadline
    have hne : k * s.pollInterval ≠ i + s.gracePeriod := fun heq =>
      hu.deadline i hi (by omega) (heq ▸ Nat.dvd_mul_left _ _)
    exact Or.inr ⟨hshows, by omega⟩

theorem le_conclusion (s : Settings) (t : Transmitter) (files : FileSystem) (events : List TimedEvent)
    (now : Nat) (resultFile : Path) : now ≤ (conclusion s t files events now resultFile).2 := by
  unfold conclusion
  split
  · exact Nat.le_refl _
  · exact Nat.le_add_right _ _

theorem Quiet.looks_found (h : Quiet s files events k trace) (hs : 0 < s.pollInterval)
    (ready : lookAt s files events (k * s.pollInterval) = .ready resultFile) {more : Trace}
    (hm : more.looks = []) :
    Trace.looks ((trace ++ atInstant (k * s.pollInterval) (lookTold s (.ready resultFile))) ++ more) =
      looksUpTo s files events (k * s.pollInterval) := by
  rw [looks_append, looks_append, hm, List.append_nil, h.looks, looksUpTo, Nat.mul_div_cancel k hs,
    firstLooks_succ, ready]
  rfl

theorem Ends.found (h : Ends s t clock schedule limit files events r) (hs : 0 < s.pollInterval)
    {n : Nat} (hf : FirstReady s files events n resultFile)
    (hn : InTime s clock events (n * s.pollInterval)) :
    (r.outcome, r.elapsed) =
        seenBy limit (conclusion s t files events (n * s.pollInterval) resultFile) ∧
      r.trace.looks = looksUpTo s files events (min limit (n * s.pollInterval)) ∧
      r.trace.handed = if n * s.pollInterval ≤ limit
        then given s files events (n * s.pollInterval) resultFile else [] := by
  -- A run that ends in any other way has made its look `n`, and cannot be quiet after that.
  cases h with
  | left looked patient quiet =>
    have hlt : limit < n * s.pollInterval :=
      Nat.lt_of_not_le fun hle => Nat.not_lt.mpr (quiet.le_first hf) ((looked n).mpr hle)
    have hend := Nat.lt_of_lt_of_le hlt (le_conclusion s t files events _ resultFile)
    rw [seenBy_of_lt hend, if_neg (Nat.not_le.mpr hlt), Nat.min_eq_left (Nat.le_of_lt hlt)]
    exact ⟨rfl, quiet.looks_upTo hs looked, quiet.handed⟩
  | broken request le_limit overflow looked quiet =>
    refine absurd ((looked n).mpr ?_) (Nat.not_lt.mpr (quiet.le_first hf))
    refine hn.imp_right fun h => ?_
    rcases h _ request with hlt | ⟨hshows, _⟩
    · exact Or.inl hlt
    · rw [overflow] at hshows
      cases hshows
  | gaveUp request shown le_limit looked quiet =>
    refine absurd ((looked n).mpr ?_) (Nat.not_lt.mpr (quiet.le_first hf))
    refine hn.imp_right fun h => ?_
    rcases h _ request with hlt | ⟨_, hlt⟩
    · exact Or.inl (by omega)
    · exact Or.inl hlt
  | @handed k found phase w rest trace le_limit ready patient seen meanwhile quiet =>
    -- The look that found the file is the first one that can.
    have hk : k = n := Nat.le_antisymm (quiet.le_first hf) (Nat.le_of_not_lt fun hlt =>
      hf.first k hlt found ready)
    subst hk
    have hfound : resultFile = found := WaitfileStatus.ready.inj (hf.ready.symm.trans ready)
    subst hfound
    obtain ⟨hended, hlooks, hgiven, _⟩ :=
      handOver_concludes s t phase resultFile le_limit seen meanwhile
    refine ⟨hended, ?_, ?_⟩
    · rw [Nat.min_eq_right le_limit]
      exact quiet.looks_found hs ready hlooks
    · rw [if_pos le_limit, ← hgiven]
      exact quiet.handed_found _ _ _

theorem Ends.requested (h : Ends s t clock schedule limit files events r) (hs : 0 < s.pollInterval)
    (hu : Untied s events)
    (hnone : ∀ k resultFile, FirstReady s files events k resultFile →
      ¬ InTime s clock events (k * s.pollInterval)) {i : Nat} (hi : firstRequest? events = some i) :
    (r.outcome, r.elapsed) = seenBy limit (expiry s clock i) ∧
      r.trace.looks = looksUpTo s files events (min limit (expiry s clock i).2) ∧
      r.trace.handed = [] := by
  cases h with
  | left looked patient quiet =>
    have hlt : limit < (expiry s clock i).2 := by
      unfold expiry
      rcases patient i hi with hlt | ⟨hshows, hlt⟩
      · split <;> dsimp only <;> omega
      · rw [if_pos hshows]
        exact hlt
    rw [seenBy_of_lt hlt, Nat.min_eq_left (Nat.le_of_lt hlt)]
    exact ⟨rfl, quiet.looks_upTo hs looked, quiet.handed⟩
  | broken request le_limit overflow looked quiet =>
    cases hi.symm.trans request
    have hexpiry : expiry s clock i = (.broken .deadlineOverflow, i) := by
      rw [expiry, overflow]
      rfl
    rw [hexpiry, seenBy_of_le le_limit, Nat.min_eq_right le_limit]
    exact ⟨rfl, quiet.looks_upTo hs fun j => (looked j).trans (hu.beforeRequest_iff hi j), quiet.handed⟩
  | gaveUp request shown le_limit looked quiet =>
    cases hi.symm.trans request
    have hexpiry : expiry s clock i = (.timedOut, i + s.gracePeriod) := if_pos shown
    rw [hexpiry, seenBy_of_le le_limit, Nat.min_eq_right le_limit]
    exact ⟨rfl, quiet.looks_upTo hs fun j => (looked j).trans (hu.beforeDeadline_iff hi j),
      quiet.handed⟩
  | @handed k resultFile _ _ _ _ le_limit ready patient seen meanwhile quiet =>
    exact absurd (hu.inTime patient) (hnone k resultFile ⟨ready, quiet.unready⟩)

theorem Ends.waits (h : Ends s t clock schedule limit files events r) (hs : 0 < s.pollInterval)
    (hnone : ∀ k resultFile, ¬ FirstReady s files events k resultFile)
    (hrequest : firstRequest? events = none) :
    (r.outcome, r.elapsed) = (.stillRunning, limit) ∧
      r.trace.looks = looksUpTo s files events limit ∧ r.trace.handed = [] := by
  cases h with
  | left looked patient quiet => exact ⟨rfl, quiet.looks_upTo hs looked, quiet.handed⟩
  | broken request =>
    rw [hrequest] at request
    cases request
  | gaveUp request =>
    rw [hrequest] at request
    cases request
  | @handed k resultFile _ _ _ _ le_limit ready patient seen meanwhile quiet =>
    exact absurd ⟨ready, quiet.unready⟩ (hnone k resultFile)

/-- What decides a run, and when. -/
theorem run_timed (s : Settings) (t : Transmitter) (clock : Clock) (schedule : Schedule) (limit : Nat)
    (files : FileSystem) {events : List TimedEvent} (hs : 0 < s.pollInterval)
    (hc : Chronological events) (hu : Untied s events) :
    Timed s t clock limit files events (run s t clock limit files events schedule) := by
  have h := run_ends s t clock schedule limit files hs hc
  exact {
    found := fun k resultFile hf hk => h.found hs hf hk
    requested := fun hnone i hi => h.requested hs hu hnone hi
    waits := h.waits hs }

end

/-- A result file that is there in time, with requests before and during its upload. -/
def requestedTwice : List TimedEvent :=
  [⟨1500, .trigger⟩, ⟨1500, .trigger⟩, written 2200 "results.json" "{}",
    written 3200 "done" "results.json\n", ⟨4300, .trigger⟩, ⟨4400, .dropSender⟩]

/-- The look at 4000 is before the deadline at 4500, and the upload goes on past that. -/
theorem run_timed_past_deadline :
    ((run (everySecond 3000) (accepting 700) ⟨0⟩ 9000 .empty requestedTwice).outcome,
        (run (everySecond 3000) (accepting 700) ⟨0⟩ 9000 .empty requestedTwice).elapsed) =
      (.transmitted (.ofString "results.json"), 4700) ∧
    (run (everySecond 3000) (accepting 700) ⟨0⟩ 9000 .empty requestedTwice).trace.looks =
      [(0, .missing), (1000, .missing), (2000, .missing), (3000, .missing), (4000, .ready)] := by
  have huntied : Untied (everySecond 3000) requestedTwice := by
    refine ⟨by decide, fun i hi _ => ?_⟩
    cases hi
    decide
  have hmissing : ∀ j < 4,
      lookAt (everySecond 3000) .empty requestedTwice (j * 1000) = .missing := by
    decide +kernel
  have hfirst : FirstReady (everySecond 3000) .empty requestedTwice 4 (.ofString "results.json") := by
    refine ⟨by decide +kernel, fun j hj other hready => ?_⟩
    cases (hmissing j hj).symm.trans hready
  have hinTime : InTime (everySecond 3000) ⟨0⟩ requestedTwice 4000 := by
    refine Or.inr fun i hi => ?_
    cases hi
    decide
  obtain ⟨hended, hlooks, _⟩ := (run_timed (everySecond 3000) (accepting 700) ⟨0⟩ .inOrder 9000 .empty
    (by decide) (by decide) huntied).found 4 _ hfirst hinTime
  exact ⟨hended.trans (by decide +kernel), hlooks.trans (by decide +kernel)⟩

/-- The most milliseconds that a grace period in seconds of 64 bits can have. -/
def longestGracePeriod : Nat := (Nat.pow 2 64 - 1) * 1000

/-- With that grace period a request ends the run at once, where there is never a result file and the
deadline is not the instant of a look. -/
theorem run_breaks_before_deadline :
    Untied (everySecond longestGracePeriod) (requestedAt 500) ∧
      firstRequest? (requestedAt 500) = some 500 ∧
      (∀ k resultFile,
        ¬ FirstReady (everySecond longestGracePeriod) .empty (requestedAt 500) k resultFile) ∧
      (run (everySecond longestGracePeriod) (accepting 0) ⟨0⟩ (500 + longestGracePeriod) .empty
        (requestedAt 500)).outcome = .broken .deadlineOverflow := by
  have hends := run_ends (everySecond longestGracePeriod) (accepting 0) ⟨0⟩ .inOrder
    (500 + longestGracePeriod) .empty (by decide) (show Chronological (requestedAt 500) by decide)
  refine ⟨⟨by decide, fun i hi _ => ?_⟩, rfl, fun k resultFile hf =>
    unready_of_empty longestGracePeriod 500 _ _ hf.ready, ?_⟩
  · cases hi
    decide
  · refine (hends.broken_iff _).mpr ⟨rfl, 500, rfl, Nat.le_add_right _ _, by decide, ?_⟩
    exact fun k _ => unready_of_empty longestGracePeriod 500 _

end Handoff.Gather
