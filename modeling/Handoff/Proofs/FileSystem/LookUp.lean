import Handoff.Proofs.FileSystem.Held

/-!
Where a path leads depends on directories and links alone. So what is put at the end of a file is read through
every path that leads to it, and is not seen through any other.
-/

namespace Handoff.FileSystem

/-- Two file systems that differ at most in what their files hold. -/
structure SameNames (fs after : FileSystem) : Prop where
  workingDirectory : after.workingDirectory = fs.workingDirectory
  nodes : ∀ id : FileId, after.nodes[id]? = fs.nodes[id]? ∨
    ∃ old new, fs.nodes[id]? = some (.file old) ∧ after.nodes[id]? = some (.file new)

section
variable {fs after : FileSystem}

theorem SameNames.stroll (h : SameNames fs after) (followLast : Bool)
    (enter : FileId → Bytes → List Bytes → Except FileError FilePlace) (here : FileId) (names : List Bytes) :
    after.stroll followLast enter here names = fs.stroll followLast enter here names := by
  induction names generalizing here with
  | nil => rfl
  | cons name rest ih =>
    unfold FileSystem.stroll
    rcases h.nodes here with hhere | ⟨old, new, hold, hnew⟩
    · rw [hhere]
      split
      · rename_i parent entries _
        -- The name leads to the same object, or to a file in both, where the way ends.
        rw [ih here, ih parent]
        cases entries.lookup name with
        | none => rfl
        | some id =>
          rcases h.nodes id with hid | ⟨old, new, hold, hnew⟩
          · simp only [hid, ih id]
          · simp only [hold, hnew]
      · rfl
    · rw [hold, hnew]

theorem SameNames.walk (h : SameNames fs after) (followLast : Bool) (links : Nat) (here : FileId)
    (names : List Bytes) : after.walk followLast links here names = fs.walk followLast links here names := by
  induction links generalizing here names with
  | zero => exact h.stroll followLast _ here names
  | succ links ih =>
    -- Behind a link the way goes on with one link less.
    have henter :
        (fun here target rest => after.walk followLast links (start here target) (steps target ++ rest)) =
          fun here target rest => fs.walk followLast links (start here target) (steps target ++ rest) := by
      funext here target rest
      exact ih _ _
    unfold FileSystem.walk
    rw [henter]
    exact h.stroll followLast _ here names

theorem SameNames.locate (h : SameNames fs after) (followLast : Bool) (path : Path) :
    after.locate followLast path = fs.locate followLast path := by
  unfold FileSystem.locate
  rw [h.workingDirectory, h.walk]

theorem SameNames.find (h : SameNames fs after) (path : Path) : after.find path = fs.find path := by
  unfold FileSystem.find
  rw [h.locate]

theorem sameNames_setNode {id : FileId} {old : Bytes} (hold : fs.nodes[id]? = some (.file old)) (new : Bytes) :
    SameNames fs (fs.setNode id (.file new)) where
  workingDirectory := rfl
  nodes := by
    intro other
    by_cases hid : id = other
    · subst hid
      exact Or.inr ⟨old, new, hold, setNode_nodes_same _ hold⟩
    · exact Or.inl (setNode_nodes_other _ hid)

/-- A change of what a file holds is read through every path that leads to it, and through no other. -/
theorem read_setNode {id : FileId} {old : Bytes} (hold : fs.nodes[id]? = some (.file old)) (new : Bytes)
    (path : Path) :
    (fs.setNode id (.file new)).read path = fs.read path ∨
      fs.read path = .ok old ∧ (fs.setNode id (.file new)).read path = .ok new := by
  unfold read
  rw [(sameNames_setNode hold new).find]
  cases fs.find path with
  | error e => exact Or.inl rfl
  | ok found =>
    dsimp only
    by_cases hid : id = found
    · subst hid
      exact Or.inr ⟨content_eq_ok_iff.mpr hold, content_eq_ok_iff.mpr (setNode_nodes_same _ hold)⟩
    · refine Or.inl ?_
      unfold content
      rw [setNode_nodes_other _ hid]

theorem read_append {path : Path} {bytes : Bytes} (h : fs.read path = .ok bytes) (more : Bytes)
    (other : Path) : (fs.apply (.append path more)).read other = fs.read other ∨
      fs.read other = .ok bytes ∧ (fs.apply (.append path more)).read other = .ok (bytes ++ more) := by
  unfold apply updateFile
  dsimp only
  -- What can be read has a name or is where the path starts; under a free name nothing can be read.
  unfold read find at h
  split
  · rename_i parent name id hlocate
    rw [hlocate] at h
    have hfile : fs.nodes[id]? = some (.file bytes) := content_eq_ok_iff.mp h
    rw [hfile]
    exact read_setNode hfile (bytes ++ more) other
  · rename_i parent name hlocate
    rw [hlocate] at h
    cases h
  · exact Or.inl rfl

end

end Handoff.FileSystem
