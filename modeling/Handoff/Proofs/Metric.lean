import Handoff.Metric
import Mathlib.Algebra.BigOperators.Group.List.Lemmas
import Mathlib.Data.List.Dedup

/-!
What the totals tell that are offered of some counted events: the total of a series, and the sum over all
series of one name, are numbers of events.
-/

namespace Handoff

/-- The first occurrences in a list are all different. -/
theorem nodup_eraseDups {α : Type} [DecidableEq α] : ∀ l : List α, l.eraseDups.Nodup
  | [] => List.nodup_nil
  | a :: rest => by
    rw [List.eraseDups_cons, List.nodup_cons]
    refine ⟨?_, nodup_eraseDups (rest.filter fun b => !b == a)⟩
    -- What follows the first occurrence has lost all others of it.
    intro hmem
    have hkept := (List.mem_filter.mp (List.mem_eraseDups.mp hmem)).2
    simp at hkept
termination_by l => l.length
decreasing_by exact Nat.lt_succ_of_le (List.length_filter_le _ _)

theorem eraseDups_perm_dedup {α : Type} [DecidableEq α] (l : List α) : l.eraseDups.Perm l.dedup := by
  rw [List.perm_ext_iff_of_nodup (nodup_eraseDups l) (List.nodup_dedup l)]
  intro a
  rw [List.mem_eraseDups, List.mem_dedup]

namespace Metric

/-- The total that is offered of a series; one that is not offered counts for 0. -/
def total (ms : List Metric) (s : Series) : Nat := ((totals ms).lookup s).getD 0

/-- The sum over all series of a name. -/
def sum (ms : List Metric) (name : String) : Nat :=
  (((totals ms).filter (fun (s, _) => s.name = name)).map Prod.snd).foldr (· + ·) 0

theorem total_eq_count (ms : List Metric) (s : Series) : total ms s = (ms.flatMap series).count s := by
  unfold total totals
  dsimp only
  by_cases hs : s ∈ ms.flatMap series
  · rw [List.lookup_graph _ (List.mem_eraseDups.mpr hs)]
    rfl
  -- A series that no event adds to is not among those that are offered.
  · have hmissing : (((ms.flatMap series).eraseDups.map fun s =>
        (s, (ms.flatMap series).count s)).lookup s) = none := by
      rw [List.lookup_eq_none_iff]
      intro entry hentry
      obtain ⟨other, hother, rfl⟩ := List.mem_map.mp hentry
      have hmem := List.mem_eraseDups.mp hother
      exact bne_iff_ne.mpr fun heq => hs (heq ▸ hmem)
    rw [hmissing, List.count_eq_zero.mpr hs]
    rfl

theorem sum_eq_countP (ms : List Metric) (name : String) :
    sum ms name = (ms.flatMap series).countP (·.name = name) := by
  have hcounts : sum ms name = (((ms.flatMap series).eraseDups.filter (·.name = name)).map
      fun s => (ms.flatMap series).count s).sum := by
    unfold sum totals
    rw [List.filter_map, List.map_map]
    rfl
  rw [hcounts, ← List.sum_map_count_dedup_filter_eq_countP]
  exact (((eraseDups_perm_dedup _).filter _).map _).sum_eq

/-- Series are counted by the events that add to one of them. -/
theorem countP_series {p : Series → Bool} {q : Metric → Bool}
    (h : ∀ m, m.series.countP p = if q m then 1 else 0) (ms : List Metric) :
    (ms.flatMap series).countP p = ms.countP q := by
  induction ms with
  | nil => rfl
  | cons m rest ih => rw [List.flatMap_cons, List.countP_append, h, ih, List.countP_cons, Nat.add_comm]

/-- The counter of the looks that end in a status. -/
def pollSeries (status : PollStatus) : Series :=
  ⟨"worker_waitfile_polls_total", some ("status", status.label)⟩

/-- The counter of the transmissions that end in an outcome. -/
def transmissionSeries (outcome : TransmissionOutcome) : Series :=
  ⟨"worker_transmissions_total", some ("outcome", outcome.label)⟩

/-- The durations of the transmissions that end in an outcome. -/
def durationSeries (outcome : TransmissionOutcome) : Series :=
  ⟨"worker_transmission_duration_seconds", some ("outcome", outcome.label)⟩

def gracePeriodSeries : Series := ⟨"worker_grace_period_started_total", none⟩

def poll? : Metric → Option PollStatus
  | poll status => some status
  | _ => none

def transmission? : Metric → Option TransmissionOutcome
  | transmission outcome => some outcome
  | _ => none

/-- What is true of all of the few events that are counted. -/
theorem forall_of_each {P : Metric → Prop}
    (hpolls : ∀ status ∈ [.missing, .unreadable, .ready], P (.poll status)) (hgrace : P .gracePeriodStarted)
    (htransmissions : ∀ outcome ∈ [.success, .failure, .openFailed], P (.transmission outcome)) : ∀ m, P m
  | poll status => hpolls status (by cases status <;> decide)
  | gracePeriodStarted => hgrace
  | transmission outcome => htransmissions outcome (by cases outcome <;> decide)

section
variable (ms : List Metric)

theorem total_poll (status : PollStatus) :
    total ms (pollSeries status) = (ms.filterMap poll?).count status := by
  rw [total_eq_count, List.count_filterMap]
  apply countP_series
  cases status <;> exact forall_of_each (by decide) (by decide) (by decide)

theorem total_transmission (outcome : TransmissionOutcome) :
    total ms (transmissionSeries outcome) = (ms.filterMap transmission?).count outcome := by
  rw [total_eq_count, List.count_filterMap]
  apply countP_series
  cases outcome <;> exact forall_of_each (by decide) (by decide) (by decide)

theorem total_duration (outcome : TransmissionOutcome) :
    total ms (durationSeries outcome) = (ms.filterMap transmission?).count outcome := by
  rw [total_eq_count, List.count_filterMap]
  apply countP_series
  cases outcome <;> exact forall_of_each (by decide) (by decide) (by decide)

theorem total_gracePeriod : total ms gracePeriodSeries = ms.count .gracePeriodStarted := by
  rw [total_eq_count]
  apply countP_series
  exact forall_of_each (by decide) (by decide) (by decide)

theorem sum_polls : sum ms "worker_waitfile_polls_total" = (ms.filterMap poll?).length := by
  rw [sum_eq_countP, List.length_filterMap_eq_countP]
  apply countP_series
  exact forall_of_each (by decide) (by decide) (by decide)

theorem sum_transmissions :
    sum ms "worker_transmissions_total" = (ms.filterMap transmission?).length := by
  rw [sum_eq_countP, List.length_filterMap_eq_countP]
  apply countP_series
  exact forall_of_each (by decide) (by decide) (by decide)

theorem sum_durations :
    sum ms "worker_transmission_duration_seconds" = (ms.filterMap transmission?).length := by
  rw [sum_eq_countP, List.length_filterMap_eq_countP]
  apply countP_series
  exact forall_of_each (by decide) (by decide) (by decide)

end

end Metric

end Handoff
