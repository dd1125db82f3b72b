import Handoff.FileSystem.Change

/-!
What a file holds while files change around it. Names come and go without touching the object they stand
for; only a write or an append whose path leads to the object is seen by who holds it.
-/

namespace Handoff.FileSystem

/-- Whether a path leads to an object by a name in a directory, links followed. -/
def leadsTo (fs : FileSystem) (path : Path) (id : FileId) : Bool :=
  match fs.locate true path with
  | .ok (.named _ _ found) => found == id
  | _ => false

/-- What a change makes of the content `bytes` of the file `id`. A write makes the directories above its
path first, so the path is followed after that. -/
def rewritten (fs : FileSystem) (id : FileId) (bytes : Bytes) : FileChange → Bytes
  | .write path content => if (fs.makeParents path).leadsTo path id then content else bytes
  | .append path content => if fs.leadsTo path id then bytes ++ content else bytes
  | _ => bytes

/-- The content of the file `id` after changes, if it was `bytes` before. -/
def held (id : FileId) : FileSystem → Bytes → List FileChange → Bytes
  | _, bytes, [] => bytes
  | fs, bytes, c :: rest => held id (fs.apply c) (fs.rewritten id bytes c) rest

/-- Every file of one file system is in another, with the same content. -/
def KeepsFiles (before after : FileSystem) : Prop :=
  ∀ (id : FileId) (bytes : Bytes),
    before.nodes[id]? = some (.file bytes) → after.nodes[id]? = some (.file bytes)

theorem KeepsFiles.refl (fs : FileSystem) : KeepsFiles fs fs := fun _ _ h => h

theorem KeepsFiles.trans {a b c : FileSystem} (hab : KeepsFiles a b) (hbc : KeepsFiles b c) :
    KeepsFiles a c := fun id bytes h => hbc id bytes (hab id bytes h)

theorem setNode_nodes_other {fs : FileSystem} {id other : FileId} (node : FileNode) (h : id ≠ other) :
    (fs.setNode id node).nodes[other]? = fs.nodes[other]? := by
  simp only [setNode]
  exact Array.getElem?_setIfInBounds_ne h

theorem setNode_nodes_same {fs : FileSystem} {id : FileId} {old : FileNode} (node : FileNode)
    (h : fs.nodes[id]? = some old) : (fs.setNode id node).nodes[id]? = some node := by
  have hlt : id < fs.nodes.size := (Array.getElem?_eq_some_iff.mp h).1
  simp only [setNode, Array.getElem?_setIfInBounds_self, hlt, if_true]

theorem setNode_directory_keeps {fs : FileSystem} {id up : FileId} {entries : List (Bytes × FileId)}
    (node : FileNode) (h : fs.nodes[id]? = some (.directory up entries)) :
    KeepsFiles fs (fs.setNode id node) := by
  intro other bytes hother
  have hne : id ≠ other := by
    rintro rfl
    rw [h] at hother
    cases hother
  rw [setNode_nodes_other node hne]
  exact hother

theorem unlink_keeps (fs : FileSystem) (parent : FileId) (name : Bytes) :
    KeepsFiles fs (fs.unlink parent name) := by
  unfold unlink
  split
  · exact setNode_directory_keeps _ ‹_›
  · exact KeepsFiles.refl fs

theorem enter_keeps (fs : FileSystem) (parent : FileId) (name : Bytes) (id : FileId) :
    KeepsFiles fs (fs.enter parent name id) := by
  unfold enter
  split
  · exact setNode_directory_keeps _ ‹_›
  · exact KeepsFiles.refl fs

theorem create_keeps (fs : FileSystem) (parent : FileId) (name : Bytes) (node : FileNode) :
    KeepsFiles fs (fs.create parent name node) := by
  -- The new object takes a number that no file has; giving it a name is an entry in a directory.
  refine KeepsFiles.trans ?_ (enter_keeps _ parent name fs.nodes.size)
  intro id bytes h
  have hlt : id < fs.nodes.size := (Array.getElem?_eq_some_iff.mp h).1
  rw [Array.getElem?_push_lt hlt, ← Array.getElem?_eq_getElem hlt]
  exact h

theorem makeDirectories_keeps (fs : FileSystem) (here : FileId) (names : List Bytes) :
    KeepsFiles fs (fs.makeDirectories here names) := by
  induction names generalizing fs here with
  | nil => exact KeepsFiles.refl fs
  | cons name rest ih =>
    unfold makeDirectories
    split
    · exact ih fs _
    · exact ih fs _
    · exact (create_keeps fs _ _ _).trans (ih _ _)
    · exact KeepsFiles.refl fs

theorem makeDirectory_keeps (fs : FileSystem) (path : Path) : KeepsFiles fs (fs.makeDirectory path) := by
  unfold makeDirectory
  split
  · exact KeepsFiles.refl fs
  · exact makeDirectories_keeps fs _ _

theorem makeParents_keeps (fs : FileSystem) (path : Path) : KeepsFiles fs (fs.makeParents path) := by
  unfold makeParents
  split
  · exact KeepsFiles.refl fs
  · exact makeDirectories_keeps fs _ _

/-- A moved object keeps its number, and of its own content only the way up from a directory changes. -/
theorem move_keeps (fs : FileSystem) (parent : FileId) (name : Bytes) (id : FileId) (target : FilePlace) :
    KeepsFiles fs (fs.move parent name id target) := by
  unfold move
  extract_lets moved
  -- Of a moved object only the way up changes, and only directories have that.
  have hmoved (toParent : FileId) (toName : Bytes) : KeepsFiles fs (moved toParent toName) := by
    have hentered := (unlink_keeps fs parent name).trans (enter_keeps _ toParent toName id)
    simp only [moved]
    split
    · exact hentered.trans (setNode_directory_keeps _ ‹_›)
    · exact hentered
  clear_value moved
  -- Each branch leaves the files alone or moves the object, whatever the checks before it are.
  split
  · split
    · exact KeepsFiles.refl fs
    · exact hmoved _ _
  · split
    · exact KeepsFiles.refl fs
    · split
      · exact hmoved _ _
      · exact KeepsFiles.refl fs
  · exact hmoved _ _
  · split
    · exact KeepsFiles.refl fs
    · split
      · exact KeepsFiles.refl fs
      · exact hmoved _ _
  · exact KeepsFiles.refl fs

theorem updateFile_file {fs : FileSystem} {id : FileId} {bytes : Bytes}
    (h : fs.nodes[id]? = some (.file bytes)) (path : Path) (f : Bytes → Bytes) :
    (fs.updateFile path f).nodes[id]? =
      some (.file (if fs.leadsTo path id then f bytes else bytes)) := by
  unfold updateFile leadsTo
  -- The path leads to an object with a name, to a free name, or nowhere.
  split
  · rename_i parent name found hlocate
    rw [hlocate]
    by_cases hid : found = id
    · subst hid
      simp only [h, beq_self_eq_true, if_true]
      exact setNode_nodes_same _ h
    · simp only [beq_eq_false_iff_ne.mpr hid, Bool.false_eq_true, if_false]
      split
      · rw [setNode_nodes_other _ hid]
        exact h
      · exact h
  · rename_i parent name hlocate
    rw [hlocate]
    exact create_keeps fs parent name _ id bytes h
  · rename_i hnamed hfree
    split
    · exact absurd ‹_› (hnamed _ _ _)
    · exact h

theorem apply_file {fs : FileSystem} {id : FileId} {bytes : Bytes}
    (h : fs.nodes[id]? = some (.file bytes)) (c : FileChange) :
    (fs.apply c).nodes[id]? = some (.file (fs.rewritten id bytes c)) := by
  cases c with
  -- The directories above the path are made first, and may decide where it leads.
  | write path content => exact updateFile_file (makeParents_keeps fs path id bytes h) path _
  | append path content => exact updateFile_file h path _
  | makeDirectory path => exact makeDirectory_keeps fs path id bytes h
  | makeLink path target =>
    have hparents := makeParents_keeps fs path id bytes h
    simp only [apply, rewritten]
    split
    · exact create_keeps _ _ _ _ id bytes hparents
    · exact hparents
  | remove path =>
    simp only [apply, rewritten]
    split
    · exact unlink_keeps fs _ _ id bytes h
    · exact h
  | rename source target =>
    simp only [apply, rewritten]
    split
    · exact move_keeps fs _ _ _ _ id bytes h
    · exact h

theorem applyAll_file (fs : FileSystem) (id : FileId) (bytes : Bytes) (changes : List FileChange)
    (h : fs.nodes[id]? = some (.file bytes)) :
    (fs.applyAll changes).nodes[id]? = some (.file (held id fs bytes changes)) := by
  induction changes generalizing fs bytes with
  | nil => exact h
  | cons c rest ih => exact ih (fs.apply c) _ (apply_file h c)

theorem content_eq_ok_iff {fs : FileSystem} {id : FileId} {bytes : Bytes} :
    fs.content id = .ok bytes ↔ fs.nodes[id]? = some (.file bytes) := by
  unfold content
  split <;> simp_all

/-- Whoever holds a file reads from it what `held` says. -/
theorem content_applyAll {fs : FileSystem} {id : FileId} {bytes : Bytes}
    (h : fs.content id = .ok bytes) (changes : List FileChange) :
    (fs.applyAll changes).content id = .ok (held id fs bytes changes) :=
  content_eq_ok_iff.mpr (applyAll_file fs id bytes changes (content_eq_ok_iff.mp h))

end Handoff.FileSystem
