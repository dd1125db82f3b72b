import Handoff.Proofs.Gather.GracePeriod
import Handoff.Worker.Run

/-!
What can break a worker that runs on a valid configuration. Its looks have an interval; but nothing
bounds its grace period, and the end of that can lie past the last instant of the clock.
-/

namespace Handoff

theorem Config.eq_nil_of_issueIf {condition : Bool} {issue : Config.Issue}
    (h : Config.issueIf condition issue = []) : condition = false := by
  cases condition with
  | false => rfl
  | true => cases h

/-- A valid configuration has an interval between looks. -/
theorem Config.pollInterval_pos {c : Config} (valid : c.issues = []) :
    0 < c.waitfile.pollIntervalMs := by
  have hwaitfile : Config.waitfileIssues c.waitfile = [] := by
    simp only [Config.issues, List.append_eq_nil_iff] at valid
    exact valid.1.1.1
  have hzero := Config.eq_nil_of_issueIf (List.append_eq_nil_iff.mp hwaitfile).2
  exact Nat.pos_of_ne_zero (beq_eq_false_iff_ne.mp hzero)

namespace Gather

/-- The end of a grace period of whole seconds, on a clock that counts seconds in 63 bits. -/
theorem Clock.shows_seconds (clock : Clock) (instant seconds : Nat) :
    clock.shows (instant + seconds * 1000) = false ↔
      Nat.pow 2 63 ≤ (clock.origin + instant) / 1000 + seconds := by
  rw [Clock.shows, ← Nat.add_assoc, Nat.add_mul_div_right _ _ (by decide), decide_eq_false_iff_not,
    Nat.not_lt]

end Gather

namespace Worker
open Gather

/-- A shutdown request comes whose grace period the clock cannot show the end of, and no look that is
before the request finds a result file. -/
structure Overruns (c : Config) (url : Url) (clock : Clock) (limit : Nat) (files : FileSystem)
    (events : List TimedEvent) (before : Nat → Nat → Prop) (i : Nat) : Prop where
  request : firstRequest? events = some i
  le_limit : i ≤ limit
  overflow : Nat.pow 2 63 ≤ (clock.origin + i) / 1000 + c.shutdown.gracePeriodSecs
  unready : ∀ k, before (k * c.waitfile.pollIntervalMs) i → ∀ resultFile,
    lookAt (settings c url) files events (k * c.waitfile.pollIntervalMs) ≠ .ready resultFile

/-- A worker with a valid configuration breaks exactly if a request comes, before any result file is
found, whose grace period the clock cannot show the end of. A look at the instant of the request
need not come before it: there is an order in which it does not. -/
theorem gather_broken_iff {c : Config} (valid : c.issues = []) (url : Url) (t : Transmitter)
    (clock : Clock) (limit : Nat) (files : FileSystem) {events : List TimedEvent}
    (hc : Chronological events) (fault : Fault) :
    (∀ schedule : Schedule,
      (Gather.run (settings c url) t clock limit files events schedule).outcome = .broken fault ↔
        fault = .deadlineOverflow ∧
          ∃ i, Overruns c url clock limit files events schedule.BeforeRequest i) ∧
    ((∃ schedule,
      (Gather.run (settings c url) t clock limit files events schedule).outcome = .broken fault) ↔
        fault = .deadlineOverflow ∧
          ∃ i, Overruns c url clock limit files events (fun look i => look = 0 ∨ look < i) i) := by
  have hs : 0 < (settings c url).pollInterval := Config.pollInterval_pos valid
  have hshows (i : Nat) : clock.shows (i + (settings c url).gracePeriod) = false ↔
      Nat.pow 2 63 ≤ (clock.origin + i) / 1000 + c.shutdown.gracePeriodSecs :=
    clock.shows_seconds i c.shutdown.gracePeriodSecs
  have hiff (schedule : Schedule) :
      (Gather.run (settings c url) t clock limit files events schedule).outcome = .broken fault ↔
        fault = .deadlineOverflow ∧
          ∃ i, Overruns c url clock limit files events schedule.BeforeRequest i := by
    rw [(run_ends (settings c url) t clock schedule limit files hs hc).broken_iff fault]
    refine and_congr_right fun _ => exists_congr fun i => ?_
    constructor
    · rintro ⟨hi, hle, hoverflow, hunready⟩
      exact ⟨hi, hle, (hshows i).mp hoverflow, hunready⟩
    · rintro ⟨hi, hle, hoverflow, hunready⟩
      exact ⟨hi, hle, (hshows i).mpr hoverflow, hunready⟩
  refine ⟨hiff, ?_, ?_⟩
  · rintro ⟨schedule, hbroken⟩
    obtain ⟨hfault, i, hoverruns⟩ := (hiff schedule).mp hbroken
    refine ⟨hfault, i, { hoverruns with unready := fun k hk => ?_ }⟩
    exact hoverruns.unready k (hk.imp_right Or.inl)
  · rintro ⟨hfault, i, hoverruns⟩
    -- The request goes first wherever it can, as it does in order.
    refine ⟨.inOrder, (hiff _).mpr ⟨hfault, i, { hoverruns with unready := fun k hk => ?_ }⟩⟩
    refine hoverruns.unready k (hk.imp_right fun htied => htied.resolve_right ?_)
    rintro ⟨_, hturn⟩
    cases hturn

/-- A worker for the plugin `e2e` with a grace period, and the values that hold where nothing is set. -/
def withGracePeriod (seconds : Nat) : Config where
  aggregator := { plugin := some "e2e" }
  shutdown := { gracePeriodSecs := seconds }

/-- A minute is no grace period to break on, on a clock that has run for an hour. -/
theorem gather_not_broken_in_a_minute :
    ¬ ∃ schedule, (Gather.run (settings (withGracePeriod 60) (everySecond 0).url) (accepting 0)
      ⟨3600000⟩ 100000 .empty (requestedAt 1500) schedule).outcome = .broken .deadlineOverflow := by
  have hvalid : (withGracePeriod 60).issues = [] := by decide +kernel
  have hordered : Chronological (requestedAt 1500) := by decide
  intro hbroken
  obtain ⟨_, i, hoverruns⟩ := (gather_broken_iff hvalid (everySecond 0).url (accepting 0) ⟨3600000⟩
    100000 .empty hordered .deadlineOverflow).2.mp hbroken
  cases hoverruns.request
  exact absurd hoverruns.overflow (by decide)

/-- The longest grace period is valid, and a request breaks the run that is told it. -/
theorem valid_config_breaks :
    (withGracePeriod (Nat.pow 2 64 - 1)).issues = [] ∧
      (Gather.run (settings (withGracePeriod (Nat.pow 2 64 - 1)) (everySecond 0).url) (accepting 0)
        ⟨3600000⟩ 2000 .empty (requestedAt 1500)).outcome = .broken .deadlineOverflow := by
  have hvalid : (withGracePeriod (Nat.pow 2 64 - 1)).issues = [] := by decide +kernel
  have hmissing : Waitfile.inspect .empty (withGracePeriod 0).waitfile.path = .missing := by
    decide +kernel
  have hends :=
    run_ends (settings (withGracePeriod (Nat.pow 2 64 - 1)) (everySecond 0).url) (accepting 0)
    ⟨3600000⟩ .inOrder 2000 .empty (by decide) (show Chronological (requestedAt 1500) by decide)
  refine ⟨hvalid,
    (hends.broken_iff _).mpr ⟨rfl, 1500, rfl, by decide, by decide, fun k _ resultFile => ?_⟩⟩
  rw [lookAt, filesSeen_of_no_changes .empty rfl]
  intro hready
  cases hmissing.symm.trans hready

end Worker

end Handoff
