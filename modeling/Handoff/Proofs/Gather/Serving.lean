import Handoff.Gather.Run

/-!
Reasoning about a run instant by instant, and about an instant arm by arm. `Leads` is what a piece
of a run comes to: the run ends, or it waits on in a state of which something holds. What every arm
keeps, in the order of any turn, an instant keeps, and then the whole run.
-/

namespace Handoff.Gather

/-- A run that told `trace` before ends as `ended` says, or waits on as `waits` says. -/
def Leads (ended : Run → Prop) (waits : Trace → State → Prop) (trace : Trace) :
    Run ⊕ (State × Trace) → Prop
  | .inl run => ended (run.after trace)
  | .inr (st, more) => waits (trace ++ more) st

/-- What a turn has the run serve before an arm. -/
structure Turn.Served (turn : Turn) (arm : Arm) (served : List Arm) : Prop where
  new : arm ∉ served
  look : Arm.look ∈ served ↔
    arm = .request ∧ turn = .beforeRequest ∨ arm = .deadline ∧ turn ≠ .afterDeadline
  request : Arm.request ∈ served ↔ arm = .look ∧ turn ≠ .beforeRequest ∨ arm = .deadline
  deadline : Arm.deadline ∈ served ↔ arm = .look ∧ turn = .afterDeadline

section
variable {s : Settings} {t : Transmitter} {clock : Clock} {schedule : Schedule} {limit now : Nat}
  {trace : Trace} {st : State} {ended : Run → Prop} {waits : Trace → State → Prop}

theorem after_after (a b : Trace) (r : Run) : (r.after b).after a = r.after (a ++ b) := by
  simp only [Run.after, List.append_assoc]

theorem Leads.following {more : Trace} {next : Run ⊕ (State × Trace)}
    (h : Leads ended waits (trace ++ more) next) : Leads ended waits trace (following more next) := by
  cases next with
  | inl run => exact (congrArg ended (after_after trace more run)).mpr h
  | inr waiting => exact (congrArg (waits · waiting.1) (List.append_assoc trace more waiting.2)).mp h

theorem Leads.imp {ended' : Run → Prop} {waits' : Trace → State → Prop} {next : Run ⊕ (State × Trace)}
    (h : Leads ended waits trace next) (hended : ∀ run, ended run → ended' run)
    (hwaits : ∀ trace st, waits trace st → waits' trace st) : Leads ended' waits' trace next := by
  cases next with
  | inl run => exact hended _ h
  | inr waiting => exact hwaits _ _ h

theorem Leads.and {ended' : Run → Prop} {waits' : Trace → State → Prop} {next : Run ⊕ (State × Trace)}
    (h : Leads ended waits trace next) (h' : Leads ended' waits' trace next) :
    Leads (fun run => ended run ∧ ended' run) (fun trace st => waits trace st ∧ waits' trace st) trace
      next := by
  cases next with
  | inl run => exact ⟨h, h'⟩
  | inr waiting => exact ⟨h, h'⟩

theorem Turn.arms_nodup (turn : Turn) : turn.arms.Nodup := by
  cases turn <;> decide

theorem Turn.served {turn : Turn} {served rest : List Arm} {arm : Arm}
    (h : turn.arms = served ++ arm :: rest) : turn.Served arm served := by
  have hnew : arm ∉ served := by
    have hnodup := turn.arms_nodup
    rw [h] at hnodup
    intro hmem
    exact (List.nodup_append.mp hnodup).2.2 arm hmem arm List.mem_cons_self rfl
  -- No arm comes twice, so an arm tells what stands before it.
  have hserved : served = turn.arms.takeWhile (· ≠ arm) := by
    rw [h, List.takeWhile_append_of_pos fun a ha => by
      simpa using fun heq : a = arm => hnew (heq ▸ ha)]
    simp
  subst hserved
  constructor <;> cases turn <;> cases arm <;> decide

/-- Arms are served one after the other, each as the ones before it left the run. -/
theorem serveAll_leads {inv : List Arm → Trace → State → Prop} {all served rest : List Arm}
    (hall : all = served ++ rest)
    (harm : ∀ served arm rest, all = served ++ arm :: rest → ∀ trace st, inv served trace st →
      Leads ended (inv (served ++ [arm])) trace (serve s t clock limit now st arm))
    (h : inv served trace st) :
    Leads ended (inv all) trace (serveAll s t clock limit now st rest) := by
  induction rest generalizing served trace st with
  | nil =>
    rw [List.append_nil] at hall
    subst hall
    simpa only [serveAll, Leads, List.append_nil] using h
  | cons arm rest ih =>
    have hserve := harm served arm rest hall trace st h
    rw [serveAll]
    cases hserved : serve s t clock limit now st arm with
    | inl run =>
      rw [hserved] at hserve
      exact hserve
    | inr waiting =>
      rw [hserved] at hserve
      exact Leads.following (ih (by rw [hall, List.append_assoc]; rfl) hserve)

/-- An instant: the run is left before it, or meets its events and serves every arm in some order. -/
theorem step_leads (inv : List Arm → Trace → State → Prop)
    (hleft : limit < st.instant → ended ⟨.stillRunning, limit, trace⟩)
    (hmet : ¬ limit < st.instant →
      inv [] (trace ++ (st.meetDue st.instant).2) (st.meetDue st.instant).1)
    (harm : ∀ served arm, (schedule st.instant).Served arm served → ∀ trace st', inv served trace st' →
      Leads ended (inv (served ++ [arm])) trace (serve s t clock limit st.instant st' arm))
    (hwaits : ∀ trace st', inv (schedule st.instant).arms trace st' → waits trace st') :
    Leads ended waits trace (step s t clock schedule limit st) := by
  rw [step]
  by_cases hl : limit < st.instant
  · simp only [hl, if_true, Leads, Run.after, List.append_nil]
    exact hleft hl
  · simp only [hl, if_false]
    have hserved := serveAll_leads (List.nil_append (schedule st.instant).arms).symm
      (fun served arm rest h => harm served arm (Turn.served h)) (hmet hl)
    exact (hserved.imp (fun _ hended => hended) hwaits).following

/-- What every instant keeps while the run waits leads to what holds of its end. -/
theorem watch_leads (hs : 0 < s.pollInterval)
    (hstep : ∀ trace st, waits trace st →
      Leads ended waits trace (step s t clock schedule limit st))
    (h : waits trace st) : ended ((watch s t clock schedule limit hs st).after trace) := by
  -- Each instant leaves less of the run.
  induction hn : st.remaining limit using Nat.strongRecOn generalizing st trace with
  | ind n ih =>
    have hnext := hstep trace st h
    rw [watch]
    split
    · rename_i run hrun
      rw [hrun] at hnext
      exact hnext
    · rename_i st' more hrun
      rw [hrun] at hnext
      rw [after_after]
      exact ih _ (hn ▸ step_remaining hs hrun) hnext rfl

end

end Handoff.Gather
