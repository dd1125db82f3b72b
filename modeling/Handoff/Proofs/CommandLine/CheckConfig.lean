import Handoff.CommandLine.Program
import Handoff.Proofs.Config.Writable
import Handoff.Proofs.Except
import Handoff.Proofs.Route.Complete
import Handoff.Proofs.Worker.ExitStatus

/-!
What is shown of a configuration is itself a configuration file: its first line is a comment, and the rest
is the configuration as a document. Checking it shows the same again.
-/

namespace Handoff

namespace Config

theorem resolve_file_iff {fs : FileSystem} {path : Path} {c : Config} :
    resolve fs (some path) {} = .ok c ↔ ∃ cs, fs.readText path = .ok cs ∧ parse cs = .ok c ∧
      c.issues = [] := by
  constructor
  · intro h
    have hvalid := valid_of_resolve h
    unfold resolve ofFile at h
    cases hread : fs.readText path with
    | error cause =>
      simp only [hread] at h
      cases h
    | ok cs =>
      cases hparse : parse cs with
      | error e =>
        simp only [hread, hparse] at h
        cases h
      | ok d =>
        simp only [hread, hparse] at h
        have hd : Overrides.apply {} d = d := rfl
        rw [hd, validate] at h
        split at h
        · obtain rfl := Except.ok.inj h
          exact ⟨cs, rfl, hparse, hvalid⟩
        · cases h
  · rintro ⟨cs, hread, hparse, hvalid⟩
    simp only [resolve, ofFile, hread, hparse]
    exact if_pos hvalid

end Config

namespace CommandLine

variable {c : Config} {url : Url} {toml : String}

/-- The text that is shown of a configuration with its results URL. -/
def shownText (url : Url) (toml : String) : String := "# results URL: " ++ url.shown ++ "\n" ++ toml ++ "\n"

theorem toList_commented {mark line : String} {lead : List Char} (hmark : mark.toList = '#' :: lead)
    (hline : line.toList = ['\n']) (comment text : String) :
    (mark ++ comment ++ line ++ text ++ line).toList =
      '#' :: (lead ++ comment.toList) ++ '\n' :: (text.toList ++ ['\n']) := by
  simp [hmark, hline]

/-- A configuration that passes the checks has a results URL and can be written, and what is shown of it reads
back as it. -/
theorem parse_shownText (hc : c.Writable) (hvalid : c.issues = []) :
    ∃ url toml, Route.resolve c.aggregator = .ok url ∧ c.text = .ok toml ∧
      Config.parse (shownText url toml).toList = .ok c := by
  obtain ⟨url, hurl, hupload⟩ := Config.resolve_of_valid hvalid
  obtain ⟨toml, htoml, hparse⟩ := hc.parse_text_commented
  refine ⟨url, toml, hurl, htoml, ?_⟩
  have hvisible : Url.Visible (" results URL: ".toList ++ url.text) :=
    .append (by decide) (Route.resolve_visible hurl hupload)
  have hplain : ∀ d ∈ " results URL: ".toList ++ url.text, Toml.isPlain d = true := by
    intro d hd
    rw [Toml.isPlain, Bool.or_eq_true]
    exact Or.inr (hvisible d hd)
  have hshown : url.shown.toList = url.text := String.toList_ofList
  have htext : (shownText url toml).toList =
      '#' :: (" results URL: ".toList ++ url.shown.toList) ++ '\n' :: (toml.toList ++ ['\n']) :=
    toList_commented (by decide) (by decide) url.shown toml
  rw [htext, hshown]
  exact hparse _ hplain

theorem checkConfig_eq {files : FileSystem} {path : Path}
    (hresolve : Config.resolve files (some path) {} = .ok c)
    (hurl : Route.resolve c.aggregator = .ok url) (htoml : c.text = .ok toml) :
    checkConfig files path = { status? := some 0, text := shownText url toml } := by
  simp only [checkConfig, hresolve, hurl, htoml]
  rfl

theorem execute_checkConfig {s : Worker.Surroundings} {environment : Environment} {arguments : List String}
    {path : Path} (hread : Invocation.read environment arguments = .ok (.checkConfig path)) :
    execute s environment arguments = checkConfig s.files path := by
  rw [execute, hread]
  rfl

/-- Checking a configuration file that is accepted ends well. A file with the text that it shows, wherever
that lies, is accepted as the same configuration, and checking it shows the same text. -/
theorem checkConfig_fixed {s : Worker.Surroundings} {environment : Environment} {arguments : List String}
    {path : Path} (hread : Invocation.read environment arguments = .ok (.checkConfig path))
    (hresolve : Config.resolve s.files (some path) {} = .ok c) :
    (∃ url toml, Route.resolve c.aggregator = .ok url ∧ c.text = .ok toml ∧
      execute s environment arguments = {
        status? := some 0
        text := "# results URL: " ++ url.shown ++ "\n" ++ toml ++ "\n" }) ∧
    ∀ (s' : Worker.Surroundings) (environment' : Environment) (arguments' : List String) (path' : Path),
      Invocation.read environment' arguments' = .ok (.checkConfig path') →
      s'.files.read path' = .ok (Text.encode (execute s environment arguments).text.toList) →
        Config.resolve s'.files (some path') {} = .ok c ∧
          execute s' environment' arguments' = execute s environment arguments := by
  obtain ⟨cs, _, hparse, hvalid⟩ := Config.resolve_file_iff.mp hresolve
  obtain ⟨url, toml, hurl, htoml, hshown⟩ := parse_shownText (Config.parse_writable hparse) hvalid
  have hexecute : execute s environment arguments = { status? := some 0, text := shownText url toml } :=
    (execute_checkConfig hread).trans (checkConfig_eq hresolve hurl htoml)
  refine ⟨⟨url, toml, hurl, htoml, hexecute⟩, ?_⟩
  intro s' environment' arguments' path' hread' hbytes
  rw [hexecute] at hbytes ⊢
  have htext : s'.files.readText path' = .ok (shownText url toml).toList := by
    simp only [FileSystem.readText, hbytes, Text.decode_encode]
  have hresolve' : Config.resolve s'.files (some path') {} = .ok c :=
    Config.resolve_file_iff.mpr ⟨_, htext, hshown, hvalid⟩
  exact ⟨hresolve', (execute_checkConfig hread').trans (checkConfig_eq hresolve' hurl htoml)⟩

/-- Surroundings with one file. -/
def holding (cs : List Char) : Worker.Surroundings where
  files := FileSystem.empty.apply (.write (.ofString "worker.toml") (Text.encode cs))
  network := fun _ => none
  canListen := fun _ => false
  clock := ⟨0⟩
  signal := none

/-- A configuration file with a number in hexadecimal, and with a name that is written over two lines. -/
def workerText : List Char :=
  ["waitfile.poll_interval_ms = 0xfa", "[aggregator]", "url = 'http://agg'", "plugin = \"a\\nb\""].flatMap
    fun line => line.toList ++ ['\n']

def workerConfig : Config where
  waitfile := { pollIntervalMs := 250 }
  aggregator := { url := "http://agg", plugin := some "a\nb" }

theorem checkConfig_fixed_worker :
    let arguments := ["check-config", "--config", "worker.toml"]
    let path := Path.ofString "worker.toml"
    let shown := execute (holding workerText) [] arguments
    Invocation.read [] arguments = .ok (.checkConfig path) ∧
      Config.resolve (holding workerText).files (some path) {} = .ok workerConfig ∧ shown.status? = some 0 ∧
      Config.resolve (holding shown.text.toList).files (some path) {} = .ok workerConfig ∧
      execute (holding shown.text.toList) [] arguments = shown := by
  intro arguments path shown
  have hread : Invocation.read [] arguments = .ok (.checkConfig path) := by decide +kernel
  have hresolve : Config.resolve (holding workerText).files (some path) {} = .ok workerConfig :=
    eq_ok_of_toOption (by decide +kernel)
  obtain ⟨⟨url, toml, _, _, hexecute⟩, hagain⟩ := checkConfig_fixed hread hresolve
  have hbytes : (holding shown.text.toList).files.read path = .ok (Text.encode shown.text.toList) := rfl
  obtain ⟨hresolve', hsame⟩ := hagain _ _ _ _ hread hbytes
  exact ⟨hread, hresolve, congrArg Execution.status? hexecute, hresolve', hsame⟩

end CommandLine

end Handoff
