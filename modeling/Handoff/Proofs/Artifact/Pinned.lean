import Handoff.Artifact.Holdings
import Handoff.Proofs.Except
import Handoff.Proofs.FileSystem.Held

/-!
An opened result file is pinned to its object. What it tells stays as it was when it was opened, and what is
read from it is what that object holds by then, whatever is done with other result files and with names.
-/

namespace Handoff

/-- A change that moves names about, and puts nothing into a file. -/
def FileChange.isNaming : FileChange → Bool
  | .write _ _ => false
  | .append _ _ => false
  | _ => true

/-- Changes of names are not seen by who holds a file. -/
theorem FileSystem.held_of_naming (id : FileId) (fs : FileSystem) (bytes : Bytes) {changes : List FileChange}
    (h : ∀ c ∈ changes, c.isNaming = true) : held id fs bytes changes = bytes := by
  induction changes generalizing fs with
  | nil => rfl
  | cons c rest ih =>
    have hc : fs.rewritten id bytes c = bytes := by
      have hnaming := h c List.mem_cons_self
      cases c with
      | write path content => cases hnaming
      | append path content => cases hnaming
      | _ => rfl
    rw [held, hc]
    apply ih
    intro other hother
    exact h other (List.mem_cons_of_mem c hother)

namespace Holdings

/-- Whether an action uses up what is held under a name, or puts another result file in its place. -/
def takes (h : Holdings) (name : String) : Action → Bool
  | .openFile other path => other = name && (h.files.find path).isOk
  | .read other => other = name
  | .drop other => other = name
  | _ => false

/-- What is held under a name stays there all the time. -/
def Leaves (name : String) : Holdings → List Action → Prop
  | _, [] => True
  | h, action :: rest => h.takes name action = false ∧ Leaves name (h.act action).1 rest

instance (name : String) : ∀ h actions, Decidable (Leaves name h actions)
  | _, [] => inferInstanceAs (Decidable True)
  | h, action :: rest =>
    have := instDecidableLeaves name (h.act action).1 rest
    inferInstanceAs (Decidable (_ ∧ _))

def Action.change? : Action → Option FileChange
  | .change c => some c
  | _ => none

/-- The changes of files among some actions. -/
def changes (actions : List Action) : List FileChange := actions.filterMap Action.change?

section
variable {h : Holdings} {name : String} {action : Action} {actions : List Action}

@[simp] theorem put_files (h : Holdings) (name : String) (a : Option Artifact) :
    (h.put name a).files = h.files := rfl

@[simp] theorem put_held_same (h : Holdings) (name : String) (a : Option Artifact) :
    (h.put name a).held name = a := if_pos rfl

theorem put_held_other (h : Holdings) {name other : String} (a : Option Artifact) (hne : other ≠ name) :
    (h.put other a).held name = h.held name := if_neg hne.symm

/-- Only changes touch the files. -/
theorem act_files (h : Holdings) (action : Action) :
    (h.act action).1.files = h.files.applyAll (changes [action]) := by
  cases action with
  | change c => rfl
  | openFile other path =>
    rw [act]
    split
    · rfl
    · rfl
  | tell other | read other | drop other =>
    rw [act]
    split
    · rfl
    · rfl

theorem run_files (h : Holdings) (actions : List Action) :
    (h.run actions).1.files = h.files.applyAll (changes actions) := by
  induction actions generalizing h with
  | nil => rfl
  | cons action rest ih =>
    have hsplit : changes (action :: rest) = changes [action] ++ changes rest :=
      List.filterMap_append (l := [action])
    calc (h.run (action :: rest)).1.files
        = ((h.act action).1.run rest).1.files := rfl
      _ = (h.act action).1.files.applyAll (changes rest) := ih _
      _ = (h.files.applyAll (changes [action])).applyAll (changes rest) := by rw [act_files]
      _ = h.files.applyAll (changes (action :: rest)) := by
        rw [hsplit, FileSystem.applyAll, FileSystem.applyAll, FileSystem.applyAll, List.foldl_append]

/-- What is done with other names leaves a held file alone. -/
theorem act_held (ht : h.takes name action = false) : (h.act action).1.held name = h.held name := by
  cases action with
  | change c => rfl
  | tell other =>
    rw [act]
    split
    · rfl
    · rfl
  | openFile other path =>
    rw [act]
    cases hopen : Artifact.openFile h.files path with
    | error cause => rfl
    | ok a =>
      -- The file could be opened, so it was for another name.
      have hfind : (h.files.find path).isOk = true := by
        unfold Artifact.openFile at hopen
        cases hfound : h.files.find path with
        | ok id => rfl
        | error cause =>
          rw [hfound] at hopen
          cases hopen
      apply put_held_other
      intro hname
      rw [takes, hfind, hname] at ht
      simp at ht
  | read other | drop other =>
    have hname : other ≠ name := by simpa [takes] using ht
    rw [act]
    split
    · exact put_held_other h none hname
    · rfl

theorem run_held (hl : Leaves name h actions) : (h.run actions).1.held name = h.held name := by
  induction actions generalizing h with
  | nil => rfl
  | cons action rest ih =>
    obtain ⟨ht, hrest⟩ := hl
    exact (ih hrest).trans (act_held ht)

end

/-- The holdings after a file was opened under a name, and then other actions were carried out. -/
def openedThen (h : Holdings) (name : String) (path : Path) (later : List Action) : Holdings :=
  ((h.act (.openFile name path)).1.run later).1

/-- What a result file tells that is opened by a path while it holds some bytes. -/
def infoOf (path : Path) (bytes : Bytes) : Artifact.Info :=
  ⟨path, ContentType.ofPath? path, bytes.length, bytes.isEmpty⟩

/-- A result file that was opened under a name when the object `id` held `bytes`, after some actions that
left it there. -/
structure Pinned (h : Holdings) (name : String) (path : Path) (id : FileId) (bytes : Bytes)
    (later : List Action) : Prop where
  opened : (h.act (.openFile name path)).2 = .opened (infoOf path bytes)
  /-- It tells what it told when it was opened. -/
  told : ((h.openedThen name path later).act (.tell name)).2 = .told (infoOf path bytes)
  /-- It reads what its object holds by now. -/
  content : ((h.openedThen name path later).act (.read name)).2 =
    .content ((h.openedThen name path later).files.content id)
  /-- That is what the writes and appends that reached the object made of it, and nothing else. -/
  holds : (h.openedThen name path later).files.content id =
    .ok (FileSystem.held id h.files bytes (changes later))
  /-- Changes of names do nothing to it. -/
  unnamed : (∀ c ∈ changes later, c.isNaming = true) →
    (h.openedThen name path later).files.content id = .ok bytes
  /-- Once it is read or dropped, it is gone. -/
  gone : ∀ last ∈ [Action.read name, .drop name], ∀ next ∈ [Action.tell name, .read name, .drop name],
    (((h.openedThen name path later).act last).1.act next).2 = .absent

theorem absent_of_none {h : Holdings} {name : String} (hnone : h.held name = none) :
    ∀ next ∈ [Action.tell name, .read name, .drop name], (h.act next).2 = .absent := by
  intro next hnext
  simp only [List.mem_cons, List.not_mem_nil, or_false] at hnext
  rcases hnext with rfl | rfl | rfl
  · simp only [act, hnone]
  · simp only [act, hnone]
  · simp only [act, hnone]

theorem gone_of_used {h : Holdings} {name : String} {a : Artifact} (hheld : h.held name = some a) :
    ∀ last ∈ [Action.read name, .drop name], (h.act last).1.held name = none := by
  intro last hlast
  simp only [List.mem_cons, List.not_mem_nil, or_false] at hlast
  rcases hlast with rfl | rfl
  · simp only [act, hheld, put_held_same]
  · simp only [act, hheld, put_held_same]

theorem info_eq (path : Path) (bytes : Bytes) (id : FileId) :
    Artifact.info ⟨path, ContentType.ofPath? path, bytes.length, id⟩ = infoOf path bytes := by
  cases bytes with
  | nil => rfl
  | cons b rest => rfl

/-- A regular file opens with its object, and tells what that holds. -/
theorem act_openFile {h : Holdings} {path : Path} {id : FileId} {bytes : Bytes} (name : String)
    (hfind : h.files.find path = .ok id) (hbytes : h.files.content id = .ok bytes) :
    h.act (.openFile name path) =
      (h.put name (some ⟨path, ContentType.ofPath? path, bytes.length, id⟩), .opened (infoOf path bytes)) := by
  have hsize : h.files.size id = bytes.length := by
    rw [FileSystem.size, FileSystem.content_eq_ok_iff.mp hbytes]
  have hopen : Artifact.openFile h.files path =
      .ok ⟨path, ContentType.ofPath? path, bytes.length, id⟩ := by
    rw [Artifact.openFile, hfind, ← hsize]
  simp only [act, hopen, info_eq]

/-- Whatever is done after a regular file was opened, the opened file is still the one that it was. -/
theorem run_pinned (h : Holdings) (name : String) (path : Path) {id : FileId} {bytes : Bytes}
    (hfind : h.files.find path = .ok id) (hbytes : h.files.content id = .ok bytes) {later : List Action}
    (hleft : Leaves name (h.act (.openFile name path)).1 later) : Pinned h name path id bytes later := by
  have hact := act_openFile name hfind hbytes
  have hheld : (h.openedThen name path later).held name =
      some ⟨path, ContentType.ofPath? path, bytes.length, id⟩ := by
    rw [openedThen, run_held hleft, hact, put_held_same]
  have hholds : (h.openedThen name path later).files.content id =
      .ok (FileSystem.held id h.files bytes (changes later)) := by
    rw [openedThen, run_files, hact, put_files]
    exact FileSystem.content_applyAll hbytes _
  exact {
    opened := congrArg Prod.snd hact
    told := by simp only [act, hheld, info_eq]
    content := by simp only [act, hheld, Artifact.readAll]
    holds := hholds
    unnamed := by
      intro hnaming
      rw [hholds, FileSystem.held_of_naming id h.files bytes hnaming]
    gone := by
      intro last hlast
      exact absent_of_none (gone_of_used hheld last hlast) }

/-- A log with a link to it. -/
def linkedLog : Holdings := ofFiles ((FileSystem.empty.apply
  (.write (.ofString "x.log") (Text.encode "first".toList))).apply
    (.makeLink (.ofString "link") (Text.encode "x.log".toList)))

/-- The log is extended through the link and moved away; another file takes its place, and the link leads
there from then on. All the while the log and that file are opened, read and dropped under another name. -/
def replacedLater : List Action :=
  [.openFile "b" (.ofString "link"), .change (.append (.ofString "link") (Text.encode " more".toList)),
    .read "b", .change (.rename (.ofString "x.log") (.ofString "old.log")),
    .change (.write (.ofString "x.log") (Text.encode "second".toList)), .openFile "b" (.ofString "x.log"),
    .change (.append (.ofString "link") (Text.encode "!".toList)), .openFile "a" (.ofString "gone"), .drop "b",
    .change (.remove (.ofString "old.log"))]

/-- What is read is the log that was opened, as it was extended, and not the file in its place. -/
theorem run_pinned_replaced :
    Leaves "a" (linkedLog.act (.openFile "a" (.ofString "x.log"))).1 replacedLater ∧
      ((linkedLog.openedThen "a" (.ofString "x.log") replacedLater).act (.tell "a")).2 =
        .told ⟨.ofString "x.log", some .plainText, 5, false⟩ ∧
      ((linkedLog.openedThen "a" (.ofString "x.log") replacedLater).act (.read "a")).2 =
        .content (.ok (Text.encode "first more".toList)) := by
  have hfind : linkedLog.files.find (.ofString "x.log") = .ok 3 := by decide +kernel
  have hbytes : linkedLog.files.content 3 = .ok (Text.encode "first".toList) := by decide +kernel
  have hleft : Leaves "a" (linkedLog.act (.openFile "a" (.ofString "x.log"))).1 replacedLater := by
    decide +kernel
  have hpinned := run_pinned linkedLog "a" (.ofString "x.log") hfind hbytes hleft
  have hheld : FileSystem.held 3 linkedLog.files (Text.encode "first".toList) (changes replacedLater) =
      Text.encode "first more".toList := by decide +kernel
  have hinfo : infoOf (.ofString "x.log") (Text.encode "first".toList) =
      ⟨.ofString "x.log", some .plainText, 5, false⟩ := by decide +kernel
  refine ⟨hleft, ?_, ?_⟩
  · rw [hpinned.told, hinfo]
  · rw [hpinned.content, hpinned.holds, hheld]

end Holdings

end Handoff
