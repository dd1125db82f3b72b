import Handoff.Config.Load
import Handoff.Proofs.Route.Agreement
import Handoff.Proofs.Text.Blank
import Mathlib.Data.List.Nodup

/-!
What the checks of a configuration report. A field is reported exactly if its check fails, once and in a
fixed order, and the issues of a section come from that section alone.
-/

namespace Handoff.Config

/-- The sections of a configuration. -/
inductive Section
  | waitfile
  | aggregator
  | shutdown
  | transmit
  | observability
deriving DecidableEq, Repr

/-- The checks of a configuration, one for each field that can be reported. -/
inductive Check
  | waitfilePath
  | pollInterval
  | url
  | plugin
  | connectTimeout
  | requestTimeout
  | clientCertificate
  | metricsAddress
deriving DecidableEq, Repr

/-- The checks in the order in which they report. -/
def Check.all : List Check :=
  [waitfilePath, pollInterval, url, plugin, connectTimeout, requestTimeout, clientCertificate,
    metricsAddress]

def Check.field : Check → String
  | waitfilePath => "waitfile.path"
  | pollInterval => "waitfile.poll_interval_ms"
  | url => "aggregator.url"
  | plugin => "aggregator.plugin"
  | connectTimeout => "transmit.connect_timeout_secs"
  | requestTimeout => "transmit.request_timeout_secs"
  | clientCertificate => "transmit.client_cert_path"
  | metricsAddress => "observability.metrics_address"

/-- The section that a check looks at. -/
def Check.home : Check → Section
  | waitfilePath | pollInterval => .waitfile
  | url | plugin => .aggregator
  | connectTimeout | requestTimeout | clientCertificate => .transmit
  | metricsAddress => .observability

/-- What each check finds fault with. -/
def Check.Fails (c : Config) : Check → Prop
  | waitfilePath => c.waitfile.path.bytes = []
  | pollInterval => c.waitfile.pollIntervalMs = 0
  | url => (∃ cause, Url.parse c.aggregator.url.toList = .error cause) ∨
      ∃ url, Url.parse c.aggregator.url.toList = .ok url ∧
        url.scheme ≠ "http".toList ∧ url.scheme ≠ "https".toList
  | plugin => ∃ url, Url.parse c.aggregator.url.toList = .ok url ∧
      (url.path.text = [] ∨ url.path.text = ['/']) ∧
      ∀ name, c.aggregator.plugin = some name → Text.IsBlankText name.toList
  | connectTimeout => c.transmit.connectTimeoutSecs = 0
  | requestTimeout => c.transmit.requestTimeoutSecs = 0
  | clientCertificate => c.transmit.clientCertPath.isSome ≠ c.transmit.clientKeyPath.isSome
  | metricsAddress => c.observability.metricsEnabled = true ∧
      SocketAddress.ofText? c.observability.metricsAddress.toList = none

namespace Section

def name : Section → String
  | waitfile => "waitfile"
  | aggregator => "aggregator"
  | shutdown => "shutdown"
  | transmit => "transmit"
  | observability => "observability"

/-- Whether a field belongs to a section, as its name tells. -/
def owns (s : Section) (field : String) : Bool := (s.name ++ ".").toList.isPrefixOf field.toList

/-- Two configurations are the same in a section. -/
def Agrees (c d : Config) : Section → Prop
  | waitfile => c.waitfile = d.waitfile
  | aggregator => c.aggregator = d.aggregator
  | shutdown => c.shutdown = d.shutdown
  | transmit => c.transmit = d.transmit
  | observability => c.observability = d.observability

/-- The configuration `c` with a section of `d` in place of its own. -/
def replace (c d : Config) : Section → Config
  | waitfile => { c with waitfile := d.waitfile }
  | aggregator => { c with aggregator := d.aggregator }
  | shutdown => { c with shutdown := d.shutdown }
  | transmit => { c with transmit := d.transmit }
  | observability => { c with observability := d.observability }

/-- The issues that the checks of a section find. -/
def issues (c : Config) : Section → List Issue
  | waitfile => waitfileIssues c.waitfile
  | aggregator => aggregatorIssues c.aggregator
  | shutdown => []
  | transmit => transmitIssues c.transmit
  | observability => observabilityIssues c.observability

/-- The checks of a section, in order. -/
def checks (s : Section) : List Check := Check.all.filter fun check => check.home = s

end Section

/-- The issues of a configuration that lie in a section. -/
def issuesIn (c : Config) (s : Section) : List Issue := c.issues.filter fun issue => s.owns issue.field

/-- The issues of a configuration tell all that is wrong with it, once and in order, section by
section. -/
structure TellsFailures (c : Config) : Prop where
  in_order : (c.issues.map Issue.field).Sublist (Check.all.map Check.field)
  once : (c.issues.map Issue.field).Nodup
  reported_iff : ∀ check : Check, check.field ∈ c.issues.map Issue.field ↔ check.Fails c
  same_in_section : ∀ (s : Section) (d : Config), s.Agrees c d → c.issuesIn s = d.issuesIn s
  -- A section without failures in place of the own one takes the issues of that section away, and
  -- no other.
  without_section : ∀ (s : Section) (d : Config),
    (∀ check : Check, s.owns check.field = true → ¬ check.Fails d) →
      (s.replace c d).issues = c.issues.filter fun issue => !s.owns issue.field
  accepted_iff : validate c = .ok c ↔ ∀ check : Check, ¬ check.Fails c
  rejected : ∀ check : Check, check.Fails c → validate c = .error (.invalid c.issues)

theorem Check.mem_all (check : Check) : check ∈ all := by
  cases check <;> decide

theorem issueIf_fields (condition : Bool) (issue : Issue) :
    ((issueIf condition issue).map Issue.field).Sublist [issue.field] := by
  cases condition with
  | true => exact List.Sublist.refl _
  | false => exact List.nil_sublist _

/-- A section reports fields of its own checks, in order. -/
theorem Section.issues_fields (s : Section) (c : Config) :
    ((s.issues c).map Issue.field).Sublist (s.checks.map Check.field) := by
  cases s with
  | waitfile =>
    rw [Section.issues, waitfileIssues, List.map_append]
    exact (issueIf_fields _ _).append (issueIf_fields _ _)
  | aggregator =>
    rw [Section.issues, aggregatorIssues]
    cases Url.parse c.aggregator.url.toList with
    | ok url =>
      dsimp only
      rw [List.map_append]
      exact (issueIf_fields _ _).append (issueIf_fields _ _)
    | error cause => exact List.sublist_append_left ["aggregator.url"] ["aggregator.plugin"]
  | shutdown => exact List.nil_sublist _
  | transmit =>
    rw [Section.issues, transmitIssues, List.map_append, List.map_append]
    exact ((issueIf_fields _ _).append (issueIf_fields _ _)).append (issueIf_fields _ _)
  | observability => exact issueIf_fields _ _

/-- A field belongs to the section of its check alone. -/
theorem Section.owns_field (s : Section) (check : Check) :
    s.owns check.field = decide (s = check.home) := by
  cases s <;> cases check <;> decide +kernel

theorem Section.check_of_mem {s : Section} {c : Config} {issue : Issue} (h : issue ∈ s.issues c) :
    ∃ check : Check, check.home = s ∧ check.field = issue.field := by
  have hfield := (s.issues_fields c).subset (List.mem_map_of_mem h)
  obtain ⟨check, hcheck, hissue⟩ := List.mem_map.mp hfield
  exact ⟨check, of_decide_eq_true (List.mem_filter.mp hcheck).2, hissue⟩

theorem Section.owns_issue {s other : Section} {c : Config} {issue : Issue}
    (h : issue ∈ other.issues c) :
    s.owns issue.field = decide (s = other) := by
  obtain ⟨check, rfl, hfield⟩ := check_of_mem h
  rw [← hfield]
  exact s.owns_field check

theorem issues_eq (c : Config) :
    c.issues = Section.waitfile.issues c ++ Section.aggregator.issues c ++ Section.transmit.issues c ++
      Section.observability.issues c := rfl

theorem Section.filter_issues (s other : Section) (c : Config) :
    (other.issues c).filter (fun issue => s.owns issue.field) =
      if s = other then other.issues c else [] := by
  by_cases h : s = other
  · rw [if_pos h, List.filter_eq_self]
    intro issue hmem
    rw [owns_issue hmem]
    exact decide_eq_true h
  · rw [if_neg h, List.filter_eq_nil_iff]
    intro issue hmem
    rw [owns_issue hmem]
    exact fun howns => h (of_decide_eq_true howns)

theorem Section.filter_other_issues (s other : Section) (c : Config) :
    (other.issues c).filter (fun issue => !s.owns issue.field) =
      if s = other then [] else other.issues c := by
  by_cases h : s = other
  · rw [if_pos h, List.filter_eq_nil_iff]
    intro issue hmem
    rw [owns_issue hmem, decide_eq_true h]
    exact Bool.false_ne_true
  · rw [if_neg h, List.filter_eq_self]
    intro issue hmem
    rw [owns_issue hmem, decide_eq_false h]
    rfl

theorem issuesIn_eq (c : Config) (s : Section) : c.issuesIn s = s.issues c := by
  rw [issuesIn, issues_eq, List.filter_append, List.filter_append, List.filter_append,
    Section.filter_issues, Section.filter_issues, Section.filter_issues, Section.filter_issues]
  cases s <;> simp [Section.issues]

theorem Section.issues_replace (s other : Section) (c d : Config) :
    other.issues (s.replace c d) = if s = other then other.issues d else other.issues c := by
  cases s <;> cases other <;> rfl

theorem isUploadScheme_eq_false_iff {scheme : List Char} :
    isUploadScheme scheme = false ↔ scheme ≠ "http".toList ∧ scheme ≠ "https".toList := by
  rw [← Bool.not_eq_true, isUploadScheme_iff, not_or]

theorem hasRoute_eq_false_iff {url : Url} :
    hasRoute url = false ↔ url.path.text = [] ∨ url.path.text = ['/'] := by
  rw [hasRoute, Bool.and_eq_false_iff, decide_eq_false_iff_not, decide_eq_false_iff_not, not_not,
    not_not, or_comm]

theorem hasPlugin_eq_false_iff {s : AggregatorSection} :
    hasPlugin s = false ↔ ∀ text, s.plugin = some text → Text.IsBlankText text.toList := by
  rw [hasPlugin]
  cases s.plugin with
  | none => simp
  | some text => simp [Text.trim_eq_nil_iff]

theorem mem_issueIf_fields {condition : Bool} {issue : Issue} {field : String} :
    field ∈ (issueIf condition issue).map Issue.field ↔ condition = true ∧ field = issue.field := by
  cases condition <;> simp [issueIf]

/-- The field is the one of a check that fails. -/
def Check.Tells (c : Config) (field : String) (check : Check) : Prop :=
  check.Fails c ∧ field = check.field

section
variable {c : Config} {field : String}

theorem waitfile_fields : field ∈ (Section.waitfile.issues c).map Issue.field ↔
    Check.waitfilePath.Tells c field ∨ Check.pollInterval.Tells c field := by
  rw [Section.issues, waitfileIssues, List.map_append, List.mem_append, mem_issueIf_fields,
    mem_issueIf_fields, decide_eq_true_iff, beq_iff_eq]
  rfl

theorem aggregator_fields : field ∈ (Section.aggregator.issues c).map Issue.field ↔
    Check.url.Tells c field ∨ Check.plugin.Tells c field := by
  rw [Section.issues, aggregatorIssues, Check.Tells, Check.Tells, Check.Fails, Check.Fails]
  -- Both checks look at the same URL. One that cannot be read has no path, so only the first check
  -- fails.
  cases Url.parse c.aggregator.url.toList with
  | error cause => simp [Issue.field, Check.field]
  | ok url =>
    dsimp only
    rw [List.map_append, List.mem_append, mem_issueIf_fields, mem_issueIf_fields, Bool.and_eq_true,
      Bool.not_eq_true', Bool.not_eq_true', Bool.not_eq_true', isUploadScheme_eq_false_iff,
      hasRoute_eq_false_iff, hasPlugin_eq_false_iff]
    simp [Issue.field, Check.field]

theorem transmit_fields : field ∈ (Section.transmit.issues c).map Issue.field ↔
    (Check.connectTimeout.Tells c field ∨ Check.requestTimeout.Tells c field) ∨
      Check.clientCertificate.Tells c field := by
  rw [Section.issues, transmitIssues, List.map_append, List.map_append, List.mem_append,
    List.mem_append, mem_issueIf_fields, mem_issueIf_fields, mem_issueIf_fields, beq_iff_eq, beq_iff_eq,
    bne_iff_ne]
  rfl

theorem observability_fields : field ∈ (Section.observability.issues c).map Issue.field ↔
    Check.metricsAddress.Tells c field := by
  rw [Section.issues, observabilityIssues, mem_issueIf_fields, Bool.and_eq_true,
    Option.isNone_iff_eq_none]
  rfl

theorem mem_fields_iff : field ∈ c.issues.map Issue.field ↔ ∃ check : Check, check.Tells c field := by
  rw [issues_eq, List.map_append, List.map_append, List.map_append, List.mem_append, List.mem_append,
    List.mem_append, waitfile_fields, aggregator_fields, transmit_fields, observability_fields]
  -- One alternative for each check, in the order of the sections.
  constructor
  · rintro ((((h | h) | (h | h)) | ((h | h) | h)) | h) <;> exact ⟨_, h⟩
  · rintro ⟨check, h⟩
    cases check <;> simp [h]

end

theorem nodup_fields : (Check.all.map Check.field).Nodup := by
  decide +kernel

/-- A field is reported exactly if its check fails. -/
theorem reported_iff (c : Config) (check : Check) :
    check.field ∈ c.issues.map Issue.field ↔ check.Fails c := by
  rw [mem_fields_iff]
  constructor
  · rintro ⟨other, hfails, hfield⟩
    rwa [List.inj_on_of_nodup_map nodup_fields check.mem_all other.mem_all hfield]
  · intro hfails
    exact ⟨check, hfails, rfl⟩

theorem issues_in_order (c : Config) :
    (c.issues.map Issue.field).Sublist (Check.all.map Check.field) := by
  have hall : Check.all = Section.waitfile.checks ++ Section.aggregator.checks ++
      Section.transmit.checks ++ Section.observability.checks := rfl
  rw [hall, issues_eq]
  simp only [List.map_append]
  exact (((Section.issues_fields _ c).append (Section.issues_fields _ c)).append
    (Section.issues_fields _ c)).append (Section.issues_fields _ c)

theorem validate_eq_ok_iff {c : Config} : validate c = .ok c ↔ c.issues = [] := by
  unfold validate
  by_cases h : c.issues = []
  · rw [if_pos h]
    exact ⟨fun _ => h, fun _ => rfl⟩
  · rw [if_neg h]
    exact ⟨nofun, fun hvalid => absurd hvalid h⟩

theorem issues_eq_nil_iff {c : Config} : c.issues = [] ↔ ∀ check : Check, ¬ check.Fails c := by
  constructor
  · intro h check hfails
    have hreported := (reported_iff c check).mpr hfails
    rw [h] at hreported
    exact absurd hreported List.not_mem_nil
  · intro h
    rw [← List.map_eq_nil_iff (f := Issue.field), List.eq_nil_iff_forall_not_mem]
    intro field hmem
    obtain ⟨check, hfails, _⟩ := mem_fields_iff.mp hmem
    exact h check hfails

/-- A section in which no check fails has no issues. -/
theorem Section.issues_eq_nil {s : Section} {c : Config}
    (h : ∀ check : Check, s.owns check.field = true → ¬ check.Fails c) : s.issues c = [] := by
  rw [List.eq_nil_iff_forall_not_mem]
  intro issue hmem
  obtain ⟨check, rfl, hfield⟩ := check_of_mem hmem
  have howns : check.home.owns check.field = true := by
    rw [owns_field]
    exact decide_eq_true rfl
  have hreported : check.field ∈ c.issues.map Issue.field := by
    rw [hfield]
    rw [← issuesIn_eq] at hmem
    exact List.mem_map_of_mem (List.mem_filter.mp hmem).1
  exact h check howns ((reported_iff c check).mp hreported)

/-- The issues of a configuration tell all that is wrong with it. -/
theorem issues_tell_failures (c : Config) : TellsFailures c where
  in_order := issues_in_order c
  once := (issues_in_order c).nodup nodup_fields
  reported_iff := reported_iff c
  same_in_section := by
    intro s d hagrees
    rw [issuesIn_eq, issuesIn_eq]
    cases s with
    | waitfile => exact congrArg waitfileIssues hagrees
    | aggregator => exact congrArg aggregatorIssues hagrees
    | shutdown => rfl
    | transmit => exact congrArg transmitIssues hagrees
    | observability => exact congrArg observabilityIssues hagrees
  without_section := by
    intro s d hvalid
    have hnone := Section.issues_eq_nil hvalid
    -- What is left is the other sections' issues on both sides.
    simp only [issues_eq, List.filter_append, Section.issues_replace, Section.filter_other_issues]
    cases s <;> simp [hnone]
  accepted_iff := validate_eq_ok_iff.trans issues_eq_nil_iff
  rejected := by
    intro check hfails
    rw [validate, if_neg fun hnone => issues_eq_nil_iff.mp hnone check hfails]

end Handoff.Config
