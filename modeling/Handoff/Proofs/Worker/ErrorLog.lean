import Handoff.Proofs.Route.Agreement
import Handoff.Proofs.Worker.ExitStatus

/-!
What the log of a failed worker tells of the failure. A configuration that cannot be had, and a
result file that cannot be opened or uploaded, are told in the last entry. A worker that cannot
offer its metrics or set up its client fails without a word.
-/

namespace Handoff

/-- A filter that has a level for everything admits whatever is an error. -/
theorem Log.Filter.admits_error {f : Log.Filter} {level : Log.Level}
    (h : f.statics = [{ threshold := some level }]) {e : Log.Entry} (he : e.level = .error) :
    f.admits e = true := by
  have hrank : level.rank ≤ Log.Level.error.rank := by cases level <;> decide
  have hfind : f.statics.find? (fun d => d.concerns e) = some { threshold := some level } := by
    rw [h]
    exact List.find?_cons_of_pos rfl
  rw [admits, hfind, he]
  exact decide_eq_true hrank

namespace Worker

/-- An entry that tells a failure as an error. -/
def Names (cause : Failure) (e : Log.Entry) : Prop :=
  e.level = .error ∧ ("error", Log.Value.text cause.message) ∈ e.fields

/-- Metrics are asked for at an address that cannot be listened on, or the client cannot be set up. -/
def Stuck (s : Surroundings) (c : Config) : Prop :=
  (c.observability.metricsEnabled = true ∧
    ∀ address, SocketAddress.ofText? c.observability.metricsAddress.toList = some address →
      s.canListen address = false) ∨
  ∃ cause, (Tls.setUp s.files c.transmit).1 = .error cause

section
variable {s : Surroundings} {c : Config} {told : List Log.Entry}

/-- Metrics are offered unless the address is one that cannot be listened on. -/
theorem offerMetrics_cases (s : Surroundings) (o : ObservabilitySection) :
    ((∃ cause, offerMetrics s o = .error cause) ∧ o.metricsEnabled = true ∧
      ∀ address, SocketAddress.ofText? o.metricsAddress.toList = some address →
        s.canListen address = false) ∨
    ∃ offered, offerMetrics s o = .ok offered ∧ (∀ e ∈ offered, e.level ≠ .error) ∧
      ¬ (o.metricsEnabled = true ∧
        ∀ address, SocketAddress.ofText? o.metricsAddress.toList = some address →
          s.canListen address = false) := by
  unfold offerMetrics
  by_cases henabled : o.metricsEnabled = true
  · rw [if_pos henabled]
    cases haddress : SocketAddress.ofText? o.metricsAddress.toList with
    | none => exact Or.inl ⟨⟨_, rfl⟩, henabled, nofun⟩
    | some address =>
      dsimp only
      cases hlisten : s.canListen address with
      | false =>
        refine Or.inl ⟨⟨_, rfl⟩, henabled, ?_⟩
        intro other hother
        obtain rfl := Option.some.inj hother
        exact hlisten
      | true =>
        refine Or.inr ⟨_, rfl, ?_, ?_⟩
        · intro e he
          rw [List.mem_singleton.mp he]
          nofun
        · rintro ⟨_, hdeaf⟩
          cases (hdeaf address rfl).symm.trans hlisten
  · rw [if_neg henabled]
    exact Or.inr ⟨[], rfl, nofun, fun h => henabled h.1⟩

/-- The entries of the client's set-up tell what was loaded. -/
theorem setUp_entries (fs : FileSystem) (t : TransmitSection) :
    ∀ e ∈ (Tls.setUp fs t).2, e.level ≠ .error := by
  have hloaded (what : String) (path : Path) : (Tls.loadedEntry what path).level ≠ .error := nofun
  have hbundle : ∀ e ∈ (t.caCertPath.map (Tls.loadedEntry "aggregator CA bundle")).toList,
      e.level ≠ .error := by
    intro e he
    obtain ⟨path, _, rfl⟩ := Option.map_eq_some_iff.mp (Option.mem_toList.mp he)
    exact hloaded _ _
  unfold Tls.setUp
  split
  · nofun
  · dsimp only
    split
    · exact hbundle
    · split
      · exact hbundle
      · split
        · exact hbundle
        · intro e he
          rcases List.mem_append.mp he with h | h
          · exact hbundle e h
          · rw [List.mem_singleton.mp h]
            exact hloaded _ _

/-- A worker with a valid configuration gets to wait exactly if it is not stuck, and tells no error
until then. -/
theorem prepare_quiet (valid : c.issues = []) (s : Surroundings) :
    (∀ e ∈ (prepare s c).2, e.level ≠ .error) ∧
      ((∃ cause, (prepare s c).1 = .error cause) ↔ Stuck s c) := by
  have hstarting : startingEntry.level ≠ .error := nofun
  obtain ⟨url, hroute, _⟩ := Config.resolve_of_valid valid
  unfold prepare Stuck
  rcases offerMetrics_cases s c.observability with
    ⟨⟨cause, hoffer⟩, hdeaf⟩ | ⟨offered, hoffer, hoffered, hheard⟩
  · rw [hoffer]
    refine ⟨?_, fun _ => Or.inl hdeaf, fun _ => ⟨cause, rfl⟩⟩
    intro e he
    rw [List.mem_singleton.mp he]
    exact hstarting
  · have htold :
        ∀ e ∈ startingEntry :: offered ++ [loadedEntry c url] ++ (Tls.setUp s.files c.transmit).2,
        e.level ≠ .error := by
      intro e he
      simp only [List.cons_append, List.mem_cons, List.mem_append, List.not_mem_nil, or_false] at he
      rcases he with rfl | (h | rfl) | h
      · exact hstarting
      · exact hoffered e h
      · nofun
      · exact setUp_entries _ _ e h
    rw [hoffer, hroute]
    dsimp only
    cases hsetUp : Tls.setUp s.files c.transmit with
    | mk result more =>
      rw [hsetUp] at htold
      cases result with
      | error cause => exact ⟨htold, fun _ => Or.inr ⟨cause, rfl⟩, fun _ => ⟨_, rfl⟩⟩
      | ok =>
        refine ⟨htold, ?_, ?_⟩
        · rintro ⟨_, herror⟩
          cases herror
        · rintro (hdeaf | ⟨_, herror⟩)
          · exact absurd hdeaf hheard
          · cases herror

/-- A failure of gathering is told by the entry that closes the log. -/
theorem closing_of_failed {outcome : Gather.Outcome} {cause : Failure}
    (h : Ending.ofOutcome outcome = .failed cause) :
    ∃ e, closing? outcome = some e ∧ Names cause e := by
  cases outcome with
  | failed why =>
    obtain rfl := Ending.failed.inj h
    exact ⟨_, rfl, rfl, List.mem_singleton_self _⟩
  | _ => cases h

end

/-- What the log of a worker tells of the failure that ended it. -/
structure Explains (s : Surroundings) (a : CommandLine.Arguments) (schedule : Gather.Schedule)
    (cause : Failure) (log : List Log.Entry) : Prop where
  ended : (run s a schedule).ending = .failed cause
  /-- The last entry is an error that names the failure. -/
  told : (∀ c, Config.resolve s.files a.config a.overrides = .ok c → ¬ Stuck s c) →
    ∃ e, log.getLast? = some e ∧ Names cause e
  /-- A worker that got stuck tells no error at all. -/
  silent : ∀ c, Config.resolve s.files a.config a.overrides = .ok c → Stuck s c →
    ∀ e ∈ log, e.level ≠ .error

/-- A worker that fails without getting stuck tells of its failure last. -/
theorem run_names (s : Surroundings) (a : CommandLine.Arguments) (schedule : Gather.Schedule)
    {cause : Failure} (hfailed : (run s a schedule).ending = .failed cause)
    (hfree : ∀ c, Config.resolve s.files a.config a.overrides = .ok c → ¬ Stuck s c) :
    ∃ before e, (run s a schedule).log = before ++ [e] ∧ Names cause e := by
  unfold run at hfailed ⊢
  cases hresolve : Config.resolve s.files a.config a.overrides with
  | error why =>
    rw [hresolve] at hfailed
    obtain rfl := Ending.failed.inj hfailed
    exact ⟨[], invalidEntry why, rfl, rfl, List.mem_singleton_self _⟩
  | ok c =>
    rw [hresolve] at hfailed
    have hreach := (prepare_quiet (Config.valid_of_resolve hresolve) s).2
    dsimp only [work] at hfailed ⊢
    cases hprepare : prepare s c with
    | mk result told =>
      rw [hprepare] at hreach hfailed
      cases result with
      | error why =>
        -- Only a worker that is stuck fails before it waits.
        have hstuck : Stuck s c := hreach.mp ⟨why, rfl⟩
        exact absurd hstuck (hfree c hresolve)
      | ok url =>
        obtain ⟨e, hclosing, hnames⟩ := closing_of_failed hfailed
        dsimp only
        rw [hclosing]
        exact ⟨_, e, rfl, hnames⟩

/-- A worker that is stuck tells no error. -/
theorem run_silent (s : Surroundings) (a : CommandLine.Arguments) (schedule : Gather.Schedule)
    {c : Config} (hresolve : Config.resolve s.files a.config a.overrides = .ok c) (hstuck : Stuck s c) :
    ∀ e ∈ (run s a schedule).log, e.level ≠ .error := by
  obtain ⟨hquiet, hreach⟩ := prepare_quiet (Config.valid_of_resolve hresolve) s
  obtain ⟨why, hwhy⟩ := hreach.mpr hstuck
  have hlog : (run s a schedule).log = (prepare s c).2 := by
    unfold run
    rw [hresolve]
    dsimp only [work]
    cases hprepare : prepare s c with
    | mk result told =>
      rw [hprepare] at hwhy
      obtain rfl : result = .error why := hwhy
      rfl
  rw [hlog]
  exact hquiet

/-- A failed worker explains its failure in its log, as far as the errors of that are told. -/
theorem run_explains (s : Surroundings) (a : CommandLine.Arguments) (schedule : Gather.Schedule)
    {cause : Failure} (hfailed : (run s a schedule).ending = .failed cause) {admits : Log.Entry → Bool}
    (hadmits : ∀ e : Log.Entry, e.level = .error → admits e = true) :
    Explains s a schedule cause ((run s a schedule).log.filter admits) where
  ended := hfailed
  told := by
    intro hfree
    obtain ⟨before, e, hlog, hnames⟩ := run_names s a schedule hfailed hfree
    -- The last entry is an error, so the filter keeps it.
    have hkept : [e].filter admits = [e] := List.filter_cons_of_pos (hadmits e hnames.1)
    refine ⟨e, ?_, hnames⟩
    rw [hlog, List.filter_append, hkept, List.getLast?_concat]
  silent := by
    intro c hresolve hstuck e he
    exact run_silent s a schedule hresolve hstuck e (List.mem_filter.mp he).1

end Worker

namespace CommandLine

/-- The filter of a run's log lets errors through. -/
def AdmitsErrors (s : Worker.Surroundings) (environment : Environment) (a : Arguments)
    (schedule : Gather.Schedule) : Prop :=
  ∀ e : Log.Entry, e.level = .error →
    (Log.Filter.choose (environment.lookup "RUST_LOG")
      (Worker.run s a schedule).observability.logLevel).admits e = true

theorem failed_of_status {ending : Worker.Ending} (h : ending.status? = some 1) :
    ∃ cause, ending = .failed cause := by
  cases ending with
  | failed cause => exact ⟨cause, rfl⟩
  | _ => cases h

/-- A run with exit status 1 explains it, unless metrics or the client kept the worker from its work. -/
theorem execute_explains (s : Worker.Surroundings) {environment : Environment} {arguments : List String}
    {a : Arguments} (hread : Invocation.read environment arguments = .ok (.run a))
    (schedule : Gather.Schedule) (hadmits : AdmitsErrors s environment a schedule)
    (hstatus : (execute s environment arguments schedule).status? = some 1) :
    ∃ cause, Worker.Explains s a schedule cause (execute s environment arguments schedule).log := by
  unfold execute at hstatus ⊢
  rw [hread] at hstatus ⊢
  obtain ⟨cause, hfailed⟩ := failed_of_status hstatus
  exact ⟨cause, Worker.run_explains s a schedule hfailed hadmits⟩

/-- An aggregator that refuses the results is told of. -/
theorem execute_explains_refusal :
    ∃ e, (execute (pluginDone 500) [] runArguments).log.getLast? = some e ∧ e.level = .error := by
  have hread : Invocation.read [] runArguments = .ok (.run runSettings) := by decide +kernel
  have hresolve : Config.resolve (pluginDone 500).files none runSettings.overrides =
      .ok (runSettings.overrides.apply {}) := if_pos (by decide +kernel)
  have hfilter : (Log.Filter.choose none
      (Worker.run (pluginDone 500) runSettings .inOrder).observability.logLevel).statics =
        [{ threshold := some .info }] := by decide +kernel
  have hadmits : AdmitsErrors (pluginDone 500) [] runSettings .inOrder := fun _ =>
    Log.Filter.admits_error hfilter
  have hstatus : (execute (pluginDone 500) [] runArguments).status? = some 1 := by decide +kernel
  obtain ⟨cause, hexplains⟩ := execute_explains (pluginDone 500) hread .inOrder hadmits hstatus
  have hfree : ∀ c, Config.resolve (pluginDone 500).files none runSettings.overrides = .ok c →
      ¬ Worker.Stuck (pluginDone 500) c := by
    intro c hc
    obtain rfl := Except.ok.inj (hresolve.symm.trans hc)
    rintro (⟨henabled, _⟩ | ⟨_, herror⟩)
    · cases henabled
    · cases herror
  obtain ⟨e, hlast, hlevel, _⟩ := hexplains.told hfree
  exact ⟨e, hlast, hlevel⟩

/-- Surroundings in which the configuration file names a bundle of authorities that is not there. -/
def bundleGone : Worker.Surroundings where
  files := (pluginDone 200).files.apply (.write (.ofString "w.toml")
    (Text.encode ("[waitfile]\npath = \"done\"\n[aggregator]\nurl = \"http://agg/x\"\n".toList ++
      "[transmit]\nca_cert_path = \"gone.pem\"\n".toList)))
  network := fun _ => some (.response ⟨200⟩ [])
  canListen := fun _ => true
  clock := ⟨0⟩
  signal := none

/-- Such a run fails, and its log holds no error, though errors are let through. -/
theorem execute_fails_silently :
    Invocation.read [] ["run", "-c", "w.toml"] = .ok (.run { config := some (.ofString "w.toml") }) ∧
      AdmitsErrors bundleGone [] { config := some (.ofString "w.toml") } .inOrder ∧
      (execute bundleGone [] ["run", "-c", "w.toml"]).status? = some 1 ∧
      ∀ e ∈ (execute bundleGone [] ["run", "-c", "w.toml"]).log, e.level ≠ .error := by
  have hfilter : (Log.Filter.choose none
      (Worker.run bundleGone { config := some (.ofString "w.toml") }
        .inOrder).observability.logLevel).statics = [{ threshold := some .info }] := by decide +kernel
  exact ⟨by decide +kernel, fun _ => Log.Filter.admits_error hfilter, by decide +kernel,
    by decide +kernel⟩

end CommandLine

end Handoff
