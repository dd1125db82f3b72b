import Handoff.Proofs.Gather.HandOver

/-!
How a shutdown request ends a run: the grace period goes by, or the clock has no instant for its end. In
either case no look before that found a result file; but between the last look and the end of the grace
period nobody looks, and a look at its very end may come too late.
-/

namespace Handoff.Gather

section
variable {s : Settings} {t : Transmitter} {clock : Clock} {schedule : Schedule} {limit : Nat}
  {files : FileSystem} {events : List TimedEvent} {r : Run}

theorem Schedule.BeforeRequest.beforeDeadline {look request : Nat}
    (h : schedule.BeforeRequest look request) (gracePeriod : Nat) :
    schedule.BeforeDeadline look (request + gracePeriod) := by
  rcases h with hzero | hlt | ⟨rfl, hturn⟩
  · exact Or.inl hzero
  · exact Or.inr (Or.inl (by omega))
  · rcases Nat.eq_zero_or_pos gracePeriod with rfl | hpos
    · exact Or.inr (Or.inr ⟨rfl, fun hlate => by cases hturn.symm.trans hlate⟩)
    · exact Or.inr (Or.inl (by omega))

/-- A run times out at the end of the grace period, if no look before that found a result file. -/
theorem Ends.timedOut_iff (h : Ends s t clock schedule limit files events r) (n : Nat) :
    r.outcome = .timedOut ∧ r.elapsed = n ↔ ∃ i, firstRequest? events = some i ∧
      clock.shows n = true ∧ n = i + s.gracePeriod ∧ n ≤ limit ∧
      ∀ k, schedule.BeforeDeadline (k * s.pollInterval) n → ∀ resultFile,
        lookAt s files events (k * s.pollInterval) ≠ .ready resultFile := by
  cases h with
  | left looked patient quiet =>
    refine ⟨nofun, ?_⟩
    rintro ⟨i, hi, _, rfl, hle, _⟩
    rcases patient i hi with hlt | ⟨_, hlt⟩
    · exact absurd (Nat.le_trans (Nat.le_add_right i _) hle) (Nat.not_le.mpr hlt)
    · exact absurd hle (Nat.not_le.mpr hlt)
  | broken request le_limit overflow looked quiet =>
    refine ⟨nofun, ?_⟩
    rintro ⟨i, hi, hshown, rfl, _⟩
    cases hi.symm.trans request
    rw [overflow] at hshown
    cases hshown
  -- The one way to time out, with the one first request.
  | @gaveUp i _ _ request shown le_limit looked quiet =>
    constructor
    · rintro ⟨_, rfl⟩
      exact ⟨i, request, shown, rfl, le_limit, fun j hj => quiet.unready j ((looked j).mpr hj)⟩
    · rintro ⟨j, hj, _, rfl, _⟩
      cases hj.symm.trans request
      exact ⟨rfl, rfl⟩
  | @handed k resultFile phase w rest trace le_limit ready patient seen meanwhile quiet =>
    obtain ⟨hended, _⟩ := handOver_concludes s t phase resultFile le_limit seen meanwhile
    have hne := (seenBy_conclusion s t limit files events (k * s.pollInterval) resultFile).1
    rw [← hended] at hne
    refine ⟨fun ho => absurd ho.1 hne, ?_⟩
    rintro ⟨i, hi, _, rfl, _, hunready⟩
    refine absurd ready (hunready k ?_ resultFile)
    rcases patient i hi with hrequest | ⟨_, hdeadline⟩
    · exact hrequest.beforeDeadline s.gracePeriod
    · exact hdeadline

/-- Only a deadline that the clock cannot show breaks a run. -/
theorem Ends.broken_iff (h : Ends s t clock schedule limit files events r) (fault : Fault) :
    r.outcome = .broken fault ↔ fault = .deadlineOverflow ∧ ∃ i, firstRequest? events = some i ∧
      i ≤ limit ∧ clock.shows (i + s.gracePeriod) = false ∧
      ∀ k, schedule.BeforeRequest (k * s.pollInterval) i → ∀ resultFile,
        lookAt s files events (k * s.pollInterval) ≠ .ready resultFile := by
  cases h with
  | left looked patient quiet =>
    refine ⟨nofun, ?_⟩
    rintro ⟨_, i, hi, hle, hshows, _⟩
    rcases patient i hi with hlt | ⟨hshown, _⟩
    · exact absurd hle (Nat.not_le.mpr hlt)
    · rw [hshows] at hshown
      cases hshown
  | @broken i _ _ request le_limit overflow looked quiet =>
    constructor
    · rintro ⟨⟩
      exact ⟨rfl, i, request, le_limit, overflow, fun j hj => quiet.unready j ((looked j).mpr hj)⟩
    · rintro ⟨rfl, _⟩
      rfl
  | gaveUp request shown le_limit looked quiet =>
    refine ⟨nofun, ?_⟩
    rintro ⟨_, i, hi, _, hshows, _⟩
    cases hi.symm.trans request
    rw [hshows] at shown
    cases shown
  | @handed k resultFile phase w rest trace le_limit ready patient seen meanwhile quiet =>
    obtain ⟨hended, _⟩ := handOver_concludes s t phase resultFile le_limit seen meanwhile
    have hne := (seenBy_conclusion s t limit files events (k * s.pollInterval) resultFile).2 fault
    rw [← hended] at hne
    refine ⟨fun ho => absurd ho hne, ?_⟩
    rintro ⟨_, i, hi, _, hshows, hunready⟩
    refine absurd ready (hunready k ?_ resultFile)
    refine (patient i hi).resolve_right ?_
    rintro ⟨hshown, _⟩
    rw [hshows] at hshown
    cases hshown

end

/-- The run gives up at an instant on a waitfile that is ready by then. -/
structure AbandonsAt (s : Settings) (files : FileSystem) (events : List TimedEvent) (r : Run)
    (n : Nat) : Prop where
  outcome : r.outcome = .timedOut
  elapsed : r.elapsed = n
  ready : ∃ resultFile, Waitfile.inspect (filesAt files events n) s.waitfile = .ready resultFile

/-- The grace period ends at an instant at which the waitfile is ready, and was not for any of some
looks. -/
structure ReadyTooLate (s : Settings) (clock : Clock) (limit : Nat) (files : FileSystem)
    (events : List TimedEvent) (looked : Nat → Prop) (n : Nat) : Prop where
  request : ∃ i, firstRequest? events = some i ∧ n = i + s.gracePeriod
  shown : clock.shows n = true
  le_limit : n ≤ limit
  unready : ∀ k, looked k → ∀ resultFile,
    lookAt s files events (k * s.pollInterval) ≠ .ready resultFile
  ready : ∃ resultFile, Waitfile.inspect (filesAt files events n) s.waitfile = .ready resultFile

/-- A run gives up on a waitfile that is ready by then, exactly if no look that comes before the end
of the grace period finds it ready. The looks before that instant do come first, and one at that
instant need not: there is an order in which it does not. -/
theorem run_abandons_iff (s : Settings) (t : Transmitter) (clock : Clock) (limit : Nat)
    (files : FileSystem) {events : List TimedEvent} (hs : 0 < s.pollInterval)
    (hc : Chronological events) (n : Nat) :
    (∀ schedule, AbandonsAt s files events (run s t clock limit files events schedule) n ↔
      ReadyTooLate s clock limit files events
        (fun k => schedule.BeforeDeadline (k * s.pollInterval) n) n) ∧
    ((∃ schedule, AbandonsAt s files events (run s t clock limit files events schedule) n) ↔
      ReadyTooLate s clock limit files events (fun k => k = 0 ∨ k * s.pollInterval < n) n) := by
  have hiff (schedule : Schedule) :
      AbandonsAt s files events (run s t clock limit files events schedule) n ↔
        ReadyTooLate s clock limit files events
          (fun k => schedule.BeforeDeadline (k * s.pollInterval) n) n := by
    have htimedOut := (run_ends s t clock schedule limit files hs hc).timedOut_iff n
    constructor
    · rintro ⟨houtcome, helapsed, hready⟩
      obtain ⟨i, hi, hshows, hn, hle, hunready⟩ := htimedOut.mp ⟨houtcome, helapsed⟩
      exact ⟨⟨i, hi, hn⟩, hshows, hle, hunready, hready⟩
    · rintro ⟨⟨i, hi, hn⟩, hshows, hle, hunready, hready⟩
      obtain ⟨houtcome, helapsed⟩ := htimedOut.mpr ⟨i, hi, hshows, hn, hle, hunready⟩
      exact ⟨houtcome, helapsed, hready⟩
  refine ⟨hiff, ?_, ?_⟩
  · rintro ⟨schedule, habandons⟩
    have hlate := (hiff schedule).mp habandons
    refine { hlate with unready := fun k hk => hlate.unready k ?_ }
    rcases hk with rfl | hlt
    · exact Or.inl (Nat.zero_mul _)
    · exact Or.inr (Or.inl hlt)
  · intro hlate
    -- The deadline goes first wherever it can.
    refine ⟨fun _ => .afterDeadline, (hiff _).mpr { hlate with unready := fun k hk => ?_ }⟩
    refine hlate.unready k (hk.imp (fun hzero => ?_) fun htied => ?_)
    · exact (Nat.mul_eq_zero.mp hzero).resolve_right (by omega)
    · exact htied.resolve_right fun hlast => hlast.2 rfl

/-- The deadline at 2700 comes after the look at 2000, and the waitfile of 2500 between them. A
deadline at 3000, with a look at that instant, can come before it. -/
theorem run_abandons_between_looks :
    (∀ schedule, AbandonsAt (everySecond 1500) .empty (finishing 1200 2500)
      (run (everySecond 1500) (accepting 0) ⟨0⟩ 5000 .empty (finishing 1200 2500) schedule) 2700) ∧
    ∃ schedule, AbandonsAt (everySecond 2000) .empty (finishing 1000 2500)
      (run (everySecond 2000) (accepting 0) ⟨0⟩ 5000 .empty (finishing 1000 2500) schedule) 3000 := by
  have hmissing : ∀ k ≤ 2,
      lookAt (everySecond 1500) .empty (finishing 1200 2500) (k * 1000) = .missing ∧
        lookAt (everySecond 2000) .empty (finishing 1000 2500) (k * 1000) = .missing := by
    decide +kernel
  have hready : Waitfile.inspect (filesAt .empty (finishing 1200 2500) 2700)
      (everySecond 1500).waitfile = .ready (.ofString "results.json") := by
    decide +kernel
  have hready' : Waitfile.inspect (filesAt .empty (finishing 1000 2500) 3000)
      (everySecond 2000).waitfile = .ready (.ofString "results.json") := by
    decide +kernel
  constructor
  · intro schedule
    refine ((run_abandons_iff (everySecond 1500) (accepting 0) ⟨0⟩ 5000 .empty (by decide) (by decide)
      2700).1 schedule).mpr ⟨⟨1200, rfl, rfl⟩, by decide, by decide, fun k hk resultFile hfound => ?_,
        _, hready⟩
    have hle : k * 1000 = 0 ∨ k * 1000 < 2700 ∨ k * 1000 = 2700 :=
      hk.imp_right fun h => h.imp_right And.left
    cases (hmissing k (by omega)).1.symm.trans hfound
  · refine (run_abandons_iff (everySecond 2000) (accepting 0) ⟨0⟩ 5000 .empty (by decide) (by decide)
      3000).2.mpr ⟨⟨1000, rfl, rfl⟩, by decide, by decide, fun k hk resultFile hfound => ?_, _, hready'⟩
    have hlt : k = 0 ∨ k * 1000 < 3000 := hk
    cases (hmissing k (by omega)).2.symm.trans hfound

/-- The grace period from 1200 to 1700 has no look in it, and the waitfile of 1400 is not seen. -/
theorem run_abandons_within_grace_period :
    (run (everySecond 500) (accepting 0) ⟨0⟩ 5000 .empty (finishing 1200 1400)).outcome = .timedOut ∧
      (run (everySecond 500) (accepting 0) ⟨0⟩ 5000 .empty (finishing 1200 1400)).elapsed = 1700 ∧
      Waitfile.inspect (filesAt .empty (finishing 1200 1400) 1700) (everySecond 500).waitfile =
        .ready (.ofString "results.json") := by
  have hmissing : ∀ k ≤ 1,
      lookAt (everySecond 500) .empty (finishing 1200 1400) (k * 1000) = .missing := by
    decide +kernel
  have hordered : Chronological (finishing 1200 1400) := by decide
  have hends := run_ends (everySecond 500) (accepting 0) ⟨0⟩ .inOrder 5000 .empty (by decide) hordered
  have hended := (hends.timedOut_iff 1700).mpr ⟨1200, rfl, rfl, rfl, by decide, by
    intro k hk resultFile hfound
    have hle : k * 1000 = 0 ∨ k * 1000 < 1700 ∨ k * 1000 = 1700 :=
      hk.imp_right fun h => h.imp_right And.left
    cases (hmissing k (by omega)).symm.trans hfound⟩
  exact ⟨hended.1, hended.2, by decide +kernel⟩

end Handoff.Gather
