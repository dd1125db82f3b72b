import Handoff.Config.Validation
import Handoff.Proofs.Url.Form
import Handoff.Route

/-!
The checks of a configuration and the route that is made of it find the same faults in an aggregator. A
configuration without issues has a route.
-/

namespace Handoff

namespace Config

/-- A check of a configuration reports a field with a message. -/
def Reports (c : Config) (field message : String) : Prop :=
  ∃ issue ∈ c.issues, issue.field = field ∧ issue.message = message

theorem mem_issueIf {condition : Bool} {issue other : Issue} :
    issue ∈ issueIf condition other ↔ condition = true ∧ issue = other := by
  cases condition <;> simp [issueIf]

theorem isUploadScheme_iff {scheme : List Char} :
    isUploadScheme scheme = true ↔ scheme = "http".toList ∨ scheme = "https".toList := by
  rw [isUploadScheme, Bool.or_eq_true, decide_eq_true_eq, decide_eq_true_eq]

theorem ofScheme_of_upload {scheme : List Char} (h : isUploadScheme scheme = true) :
    Url.SchemeKind.ofScheme scheme = .web := by
  rcases isUploadScheme_iff.mp h with rfl | rfl <;> decide

/-- A URL that the checks take for a route is one that results are uploaded to as it is. -/
theorem hasRoute_eq (url : Url) : hasRoute url = Route.isComplete url := Bool.and_comm _ _

/-- A plugin that the checks take for named has a name to make a route of. -/
theorem hasPlugin_eq (s : AggregatorSection) : hasPlugin s = (Route.named? s.plugin).isSome := by
  rw [hasPlugin]
  cases s.plugin with
  | none => rfl
  | some plugin =>
    rw [Route.named?, Option.any_some]
    split
    · rename_i hblank
      exact decide_eq_false (not_not_intro hblank)
    · rename_i hnamed
      exact decide_eq_true hnamed

section
variable {c : Config}

/-- What is wrong with an aggregator is found by the checks of its section. -/
theorem mem_issues_aggregator {issue : Issue}
    (h : issue.field = "aggregator.url" ∨ issue.field = "aggregator.plugin") :
    issue ∈ c.issues ↔ issue ∈ aggregatorIssues c.aggregator := by
  have hwaitfile : issue ∉ waitfileIssues c.waitfile := by
    rw [waitfileIssues, List.mem_append, mem_issueIf, mem_issueIf]
    rintro (⟨_, rfl⟩ | ⟨_, rfl⟩) <;> simp [Issue.field] at h
  have htransmit : issue ∉ transmitIssues c.transmit := by
    rw [transmitIssues, List.mem_append, List.mem_append, mem_issueIf, mem_issueIf, mem_issueIf]
    rintro ((⟨_, rfl⟩ | ⟨_, rfl⟩) | ⟨_, rfl⟩) <;> simp [Issue.field] at h
  have hobservability : issue ∉ observabilityIssues c.observability := by
    rw [observabilityIssues, mem_issueIf]
    rintro ⟨_, rfl⟩
    simp [Issue.field] at h
  rw [issues, List.mem_append, List.mem_append, List.mem_append]
  simp only [hwaitfile, htransmit, hobservability, false_or, or_false]

theorem mem_issues_invalidUrl {url : String} {cause : Url.ParseError} :
    .invalidUrl url cause ∈ c.issues ↔
      url = c.aggregator.url ∧ Url.parse c.aggregator.url.toList = .error cause := by
  rw [mem_issues_aggregator (Or.inl rfl), aggregatorIssues]
  cases hparse : Url.parse c.aggregator.url.toList with
  | ok parsed => simp [mem_issueIf]
  | error found => simp [eq_comm (a := found)]

theorem mem_issues_unsupportedScheme {scheme : String} :
    .unsupportedScheme scheme ∈ c.issues ↔
      ∃ url, Url.parse c.aggregator.url.toList = .ok url ∧ isUploadScheme url.scheme = false ∧
        scheme = String.ofList url.scheme := by
  rw [mem_issues_aggregator (Or.inl rfl), aggregatorIssues]
  cases hparse : Url.parse c.aggregator.url.toList with
  | ok parsed => simp [mem_issueIf]
  | error found => simp

theorem mem_issues_missingPlugin :
    .missingPlugin ∈ c.issues ↔
      ∃ url, Url.parse c.aggregator.url.toList = .ok url ∧ Route.isComplete url = false ∧
        Route.named? c.aggregator.plugin = none := by
  rw [mem_issues_aggregator (Or.inr rfl), aggregatorIssues]
  cases hparse : Url.parse c.aggregator.url.toList with
  | ok parsed => simp [mem_issueIf, hasRoute_eq, hasPlugin_eq]
  | error found => simp

/-- The field of the URL is reported for two reasons: the URL cannot be read, or it has a scheme that
results cannot be uploaded by. -/
theorem reports_url_iff {message : String} :
    c.Reports "aggregator.url" message ↔
      (∃ cause, Url.parse c.aggregator.url.toList = .error cause ∧
        (Issue.invalidUrl c.aggregator.url cause).message = message) ∨
      ∃ url, Url.parse c.aggregator.url.toList = .ok url ∧ isUploadScheme url.scheme = false ∧
        (Issue.unsupportedScheme (String.ofList url.scheme)).message = message := by
  constructor
  · rintro ⟨issue, hmem, hfield, rfl⟩
    cases issue with
    | invalidUrl url cause =>
      obtain ⟨rfl, hparse⟩ := mem_issues_invalidUrl.mp hmem
      exact Or.inl ⟨cause, hparse, rfl⟩
    | unsupportedScheme scheme =>
      obtain ⟨url, hparse, hscheme, rfl⟩ := mem_issues_unsupportedScheme.mp hmem
      exact Or.inr ⟨url, hparse, hscheme, rfl⟩
    | _ => simp [Issue.field] at hfield
  · rintro (⟨cause, hparse, rfl⟩ | ⟨url, hparse, hscheme, rfl⟩)
    · exact ⟨_, mem_issues_invalidUrl.mpr ⟨rfl, hparse⟩, rfl, rfl⟩
    · exact ⟨_, mem_issues_unsupportedScheme.mpr ⟨url, hparse, hscheme, rfl⟩, rfl, rfl⟩

theorem reports_plugin_iff {message : String} :
    c.Reports "aggregator.plugin" message ↔
      .missingPlugin ∈ c.issues ∧ Issue.missingPlugin.message = message := by
  constructor
  · rintro ⟨issue, hmem, hfield, rfl⟩
    cases issue with
    | missingPlugin => exact ⟨hmem, rfl⟩
    | _ => simp [Issue.field] at hfield
  · rintro ⟨hmem, rfl⟩
    exact ⟨_, hmem, rfl, rfl⟩

end

theorem invalidUrl_message (url : String) (cause : Url.ParseError) :
    (Issue.invalidUrl url cause).message.toList =
      "invalid URL '".toList ++ url.toList ++ "': ".toList ++ cause.message.toList := by
  have hmessage : (Issue.invalidUrl url cause).message =
      "invalid URL '" ++ url ++ "': " ++ cause.message := rfl
  rw [hmessage, String.toList_append, String.toList_append, String.toList_append]

theorem unsupportedScheme_message (scheme : String) :
    (Issue.unsupportedScheme scheme).message.toList =
      "unsupported scheme '".toList ++ scheme.toList ++ "'".toList := by
  have hmessage : (Issue.unsupportedScheme scheme).message =
      "unsupported scheme '" ++ scheme ++ "'" := rfl
  rw [hmessage, String.toList_append, String.toList_append]

end Config

namespace Route

section
variable {aggregator : AggregatorSection}

theorem under_error {base : Url} {plugin : List Char} {node : Option (List Char)} {e : Upload.Error}
    (h : under base plugin node = .error e) : e = .noRoute base ∧ base.isOpaque = true := by
  unfold under Url.extend? at h
  unfold Url.isOpaque
  cases hpath : base.path with
  | opaqueText text =>
    simp only [hpath] at h
    exact ⟨(Except.error.inj h).symm, rfl⟩
  | segments parts =>
    simp only [hpath] at h
    cases h

theorem under_scheme {base url : Url} {plugin : List Char} {node : Option (List Char)}
    (h : under base plugin node = .ok url) : url.scheme = base.scheme := by
  unfold under Url.extend? at h
  cases hpath : base.path with
  | opaqueText text =>
    simp only [hpath] at h
    cases h
  | segments parts =>
    simp only [hpath] at h
    obtain rfl := Except.ok.inj h
    rfl

/-- The ways in which an aggregator resolves. -/
theorem resolve_cases (aggregator : AggregatorSection) :
    (∃ cause, Url.parse aggregator.url.toList = .error cause ∧
      resolve aggregator = .error (.invalidUrl cause)) ∨
    ∃ url, Url.parse aggregator.url.toList = .ok url ∧
      (isComplete url = true ∧ resolve aggregator = .ok url ∨
      isComplete url = false ∧ named? aggregator.plugin = none ∧
        resolve aggregator = .error (.missingPlugin url) ∨
      isComplete url = false ∧ ∃ plugin, named? aggregator.plugin = some plugin ∧
        resolve aggregator = under url plugin (named? aggregator.node)) := by
  unfold resolve
  cases Url.parse aggregator.url.toList with
  | error cause => exact Or.inl ⟨cause, rfl, rfl⟩
  | ok url =>
    refine Or.inr ⟨url, rfl, ?_⟩
    dsimp only
    cases hcomplete : isComplete url with
    | true => exact Or.inl ⟨rfl, rfl⟩
    | false =>
      cases hplugin : named? aggregator.plugin with
      | none => exact Or.inr (Or.inl ⟨rfl, rfl, rfl⟩)
      | some plugin => exact Or.inr (Or.inr ⟨rfl, plugin, rfl, rfl⟩)

theorem resolve_invalidUrl_iff {cause : Url.ParseError} :
    resolve aggregator = .error (.invalidUrl cause) ↔
      Url.parse aggregator.url.toList = .error cause := by
  rcases resolve_cases aggregator with ⟨found, hparse, hresolve⟩ | ⟨url, hparse, hrest⟩
  · simp [hparse, hresolve]
  · rw [hparse]
    refine ⟨fun h => ?_, nofun⟩
    rcases hrest with ⟨_, hresolve⟩ | ⟨_, _, hresolve⟩ | ⟨_, plugin, _, hresolve⟩
    · simp [hresolve] at h
    · simp [hresolve] at h
    · have hunder := under_error (hresolve ▸ h)
      cases hunder.1

theorem resolve_missingPlugin_iff {url : Url} :
    resolve aggregator = .error (.missingPlugin url) ↔
      Url.parse aggregator.url.toList = .ok url ∧ isComplete url = false ∧
        named? aggregator.plugin = none := by
  rcases resolve_cases aggregator with ⟨found, hparse, hresolve⟩ | ⟨found, hparse, hrest⟩
  · simp [hparse, hresolve]
  · rw [hparse]
    rcases hrest with
      ⟨hcomplete, hresolve⟩ | ⟨hcomplete, hplugin, hresolve⟩ | ⟨_, plugin, hplugin, hresolve⟩
    · rw [hresolve]
      constructor
      · intro h
        cases h
      · rintro ⟨heq, hfalse, _⟩
        obtain rfl := Except.ok.inj heq
        rw [hcomplete] at hfalse
        cases hfalse
    · rw [hresolve]
      constructor
      · intro h
        obtain rfl := Upload.Error.missingPlugin.inj (Except.error.inj h)
        exact ⟨rfl, hcomplete, hplugin⟩
      · intro h
        obtain rfl := Except.ok.inj h.1
        rfl
    · constructor
      · intro h
        have hunder := under_error (hresolve ▸ h)
        cases hunder.1
      · rintro ⟨_, _, hnone⟩
        rw [hplugin] at hnone
        cases hnone

/-- Only a URL whose path is a text has no route, and no such URL has a scheme of an upload. -/
theorem resolve_noRoute {url : Url} (h : resolve aggregator = .error (.noRoute url)) :
    Url.parse aggregator.url.toList = .ok url ∧ Config.isUploadScheme url.scheme = false := by
  rcases resolve_cases aggregator with ⟨found, hparse, hresolve⟩ | ⟨found, hparse, hrest⟩
  · rw [hresolve] at h
    cases h
  · rcases hrest with ⟨_, hresolve⟩ | ⟨_, _, hresolve⟩ | ⟨_, plugin, _, hresolve⟩
    · rw [hresolve] at h
      cases h
    · rw [hresolve] at h
      cases h
    · obtain ⟨heq, hopaque⟩ := under_error (hresolve ▸ h)
      obtain rfl : url = found := Upload.Error.noRoute.inj heq
      refine ⟨hparse, ?_⟩
      rw [← Bool.not_eq_true]
      intro hupload
      have hknown : Url.SchemeKind.ofScheme url.scheme ≠ .unknown := by
        rw [Config.ofScheme_of_upload hupload]
        decide
      obtain ⟨parts, hpath⟩ := Url.parse_segments hparse hknown
      rw [Url.isOpaque, hpath] at hopaque
      cases hopaque

theorem resolve_scheme {url : Url} (h : resolve aggregator = .ok url) :
    ∃ base, Url.parse aggregator.url.toList = .ok base ∧ url.scheme = base.scheme := by
  rcases resolve_cases aggregator with ⟨found, hparse, hresolve⟩ | ⟨base, hparse, hrest⟩
  · rw [hresolve] at h
    cases h
  · refine ⟨base, hparse, ?_⟩
    rcases hrest with ⟨_, hresolve⟩ | ⟨_, _, hresolve⟩ | ⟨_, plugin, _, hresolve⟩
    · obtain rfl := Except.ok.inj (hresolve.symm.trans h)
      rfl
    · rw [hresolve] at h
      cases h
    · exact under_scheme (hresolve.symm.trans h)

end

end Route

namespace Config

/-- What the checks report of an aggregator is what is wrong with its route. -/
structure AgreesWithRoute (c : Config) : Prop where
  invalidUrl_iff : (∃ cause, Route.resolve c.aggregator = .error (.invalidUrl cause)) ↔
    ∃ message, c.Reports "aggregator.url" message ∧ "invalid URL".toList <+: message.toList
  invalidUrl_text : ∀ message, c.Reports "aggregator.url" message →
    "invalid URL".toList <+: message.toList → ∀ cause,
      Route.resolve c.aggregator = .error (.invalidUrl cause) ↔
        cause.message.toList <:+ message.toList
  missingPlugin_iff : (∃ url, Route.resolve c.aggregator = .error (.missingPlugin url)) ↔
    ∃ message, c.Reports "aggregator.plugin" message
  noRoute : ∀ url, Route.resolve c.aggregator = .error (.noRoute url) →
    c.Reports "aggregator.url" ("unsupported scheme '" ++ String.ofList url.scheme ++ "'")
  valid : c.issues = [] → ∃ url, Route.resolve c.aggregator = .ok url ∧
    (url.scheme = "http".toList ∨ url.scheme = "https".toList)

theorem invalidUrl_iff (c : Config) :
    (∃ cause, Route.resolve c.aggregator = .error (.invalidUrl cause)) ↔
      ∃ message, c.Reports "aggregator.url" message ∧ "invalid URL".toList <+: message.toList := by
  constructor
  · rintro ⟨cause, h⟩
    have hparse := Route.resolve_invalidUrl_iff.mp h
    refine ⟨_, reports_url_iff.mpr (Or.inl ⟨cause, hparse, rfl⟩), ?_⟩
    rw [invalidUrl_message]
    simp
  · rintro ⟨message, hreports, hbegins⟩
    rcases reports_url_iff.mp hreports with ⟨cause, hparse, _⟩ | ⟨url, _, _, rfl⟩
    · exact ⟨cause, Route.resolve_invalidUrl_iff.mpr hparse⟩
    · rw [unsupportedScheme_message] at hbegins
      simp at hbegins

def parseErrors : List Url.ParseError :=
  [.emptyHost, .invalidDomain, .invalidPort, .invalidIpv4, .invalidIpv6, .invalidHostCharacter,
    .noScheme]

theorem mem_parseErrors (cause : Url.ParseError) : cause ∈ parseErrors := by
  cases cause <;> decide

/-- The wording of a cause ends no other wording. -/
theorem cause_eq_of_suffix {a b : Url.ParseError} (h : a.message.toList <:+ b.message.toList) :
    a = b := by
  have hall : ∀ a ∈ parseErrors, ∀ b ∈ parseErrors,
      a.message.toList <:+ b.message.toList → a = b := by
    decide +kernel
  exact hall a (mem_parseErrors a) b (mem_parseErrors b) h

theorem invalidUrl_text {c : Config} {message : String} (hreports : c.Reports "aggregator.url" message)
    (hbegins : "invalid URL".toList <+: message.toList) (cause : Url.ParseError) :
    Route.resolve c.aggregator = .error (.invalidUrl cause) ↔
      cause.message.toList <:+ message.toList := by
  rw [Route.resolve_invalidUrl_iff]
  rcases reports_url_iff.mp hreports with ⟨found, hparse, rfl⟩ | ⟨url, _, _, rfl⟩
  · rw [hparse, invalidUrl_message]
    have hfound := List.suffix_append
      ("invalid URL '".toList ++ c.aggregator.url.toList ++ "': ".toList) found.message.toList
    constructor
    · intro h
      obtain rfl := Except.error.inj h
      exact hfound
    -- Both wordings end the message, so one of them ends the other.
    · intro h
      rcases List.suffix_or_suffix_of_suffix h hfound with hsuffix | hsuffix
      · rw [cause_eq_of_suffix hsuffix]
      · rw [cause_eq_of_suffix hsuffix]
  · rw [unsupportedScheme_message] at hbegins
    simp at hbegins

theorem missingPlugin_iff (c : Config) :
    (∃ url, Route.resolve c.aggregator = .error (.missingPlugin url)) ↔
      ∃ message, c.Reports "aggregator.plugin" message := by
  constructor
  · rintro ⟨url, h⟩
    have hmem := mem_issues_missingPlugin.mpr ⟨url, Route.resolve_missingPlugin_iff.mp h⟩
    exact ⟨_, reports_plugin_iff.mpr ⟨hmem, rfl⟩⟩
  · rintro ⟨message, hreports⟩
    obtain ⟨url, h⟩ := mem_issues_missingPlugin.mp (reports_plugin_iff.mp hreports).1
    exact ⟨url, Route.resolve_missingPlugin_iff.mpr h⟩

/-- A configuration without issues has a route, under a scheme that results are uploaded by. -/
theorem resolve_of_valid {c : Config} (valid : c.issues = []) :
    ∃ url, Route.resolve c.aggregator = .ok url ∧ isUploadScheme url.scheme = true := by
  have hnot (issue : Issue) : issue ∉ c.issues := by
    rw [valid]
    exact List.not_mem_nil
  cases hresolve : Route.resolve c.aggregator with
  | ok url =>
    obtain ⟨base, hparse, hscheme⟩ := Route.resolve_scheme hresolve
    refine ⟨url, rfl, ?_⟩
    rw [hscheme, ← Bool.not_eq_false]
    intro hother
    exact hnot _ (mem_issues_unsupportedScheme.mpr ⟨base, hparse, hother, rfl⟩)
  | error e =>
    -- Each of the three errors of a route is told by a check.
    rcases Route.resolve_cases c.aggregator with ⟨cause, hparse, _⟩ | ⟨url, hparse, hrest⟩
    · exact absurd (mem_issues_invalidUrl.mpr ⟨rfl, hparse⟩) (hnot _)
    · rcases hrest with ⟨_, hok⟩ | ⟨hcomplete, hplugin, _⟩ | ⟨_, plugin, _, hunder⟩
      · rw [hok] at hresolve
        cases hresolve
      · exact absurd (mem_issues_missingPlugin.mpr ⟨url, hparse, hcomplete, hplugin⟩) (hnot _)
      · obtain ⟨rfl, _⟩ := Route.under_error (hunder.symm.trans hresolve)
        obtain ⟨_, hscheme⟩ := Route.resolve_noRoute hresolve
        exact absurd (mem_issues_unsupportedScheme.mpr ⟨url, hparse, hscheme, rfl⟩) (hnot _)

/-- The checks of a configuration agree with the route that is made of it. -/
theorem agrees_with_route (c : Config) : AgreesWithRoute c where
  invalidUrl_iff := invalidUrl_iff c
  invalidUrl_text := fun _ hreports hbegins => invalidUrl_text hreports hbegins
  missingPlugin_iff := missingPlugin_iff c
  noRoute := by
    intro url h
    obtain ⟨hparse, hscheme⟩ := Route.resolve_noRoute h
    exact reports_url_iff.mpr (Or.inr ⟨url, hparse, hscheme, rfl⟩)
  valid := by
    intro valid
    obtain ⟨url, hresolve, hupload⟩ := resolve_of_valid valid
    exact ⟨url, hresolve, isUploadScheme_iff.mp hupload⟩

end Config

end Handoff
