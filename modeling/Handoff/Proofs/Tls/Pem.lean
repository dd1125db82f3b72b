import Handoff.Proofs.Text.Split
import Handoff.Tls.Pem

/-!
PEM files put one behind the other. A file is read line by line, so its reading can be cut where a line ends.
If no block is open there, the lines behind are read as if they stood alone: the blocks of two files with a
line end between them are those of the first and those of the second. Line ends at the end of a file are not
seen.
-/

namespace Handoff.Tls.Pem

def isLineEnd (b : UInt8) : Bool := b == 0x0A || b == 0x0D

/-- Whether a line is the END line of a label. -/
def closes (label line : Bytes) : Bool := (endMark ++ label ++ dashes).isPrefixOf line

/-- Every BEGIN line is well formed, and its END line is among the lines behind it. -/
def EachClosed : List Bytes → Prop
  | [] => True
  | line :: rest =>
    (beginMark.isPrefixOf line = true → ∃ label ∈ beginLabel? line, ∃ last ∈ rest, closes label last = true) ∧
      EachClosed rest

instance decidableEachClosed : ∀ ls, Decidable (EachClosed ls)
  | [] => inferInstanceAs (Decidable True)
  | _ :: rest =>
    have := decidableEachClosed rest
    inferInstanceAs (Decidable (_ ∧ _))

/-- How blocks lie in the lines of a file: a BEGIN line, the lines of the body and the END line, with text
between the blocks. -/
inductive Laid : List Bytes → List Block → Prop
  | nil : Laid [] []
  | text {line : Bytes} {rest : List Bytes} {bs : List Block} (hline : ¬ beginMark.isPrefixOf line = true)
      (hrest : Laid rest bs) : Laid (line :: rest) bs
  | block {first last label : Bytes} {body rest : List Bytes} {bs : List Block}
      (hbegin : beginMark.isPrefixOf first = true) (hlabel : beginLabel? first = some label)
      (hbody : ∀ line ∈ body, ¬ beginMark.isPrefixOf line = true ∧ ¬ closes label line = true)
      (hlast : closes label last = true) (hrest : Laid rest bs) :
      Laid (first :: (body ++ last :: rest)) (⟨label, body.flatten⟩ :: bs)

/-- What taking a line makes of a state. -/
inductive State.Takes (s : State) (line : Bytes) : State → Prop
  | ignored (hbroken : s.broken = true) : Takes s line s
  | opened (label : Bytes) (hsound : ¬ s.broken = true) (hbegin : beginMark.isPrefixOf line = true)
      (hlabel : beginLabel? line = some label) : Takes s line { s with label := some label }
  | malformed (hsound : ¬ s.broken = true) (hbegin : beginMark.isPrefixOf line = true)
      (hlabel : beginLabel? line = none) : Takes s line { s with broken := true }
  | outside (hsound : ¬ s.broken = true) (hbegin : ¬ beginMark.isPrefixOf line = true)
    (hopen : s.label = none) :
      Takes s line s
  | closed (label : Bytes) (hsound : ¬ s.broken = true) (hbegin : ¬ beginMark.isPrefixOf line = true)
      (hopen : s.label = some label) (hend : closes label line = true) :
      Takes s line { s with label := none, body := [], blocks := ⟨label, s.body⟩ :: s.blocks }
  | inside (label : Bytes) (hsound : ¬ s.broken = true) (hbegin : ¬ beginMark.isPrefixOf line = true)
      (hopen : s.label = some label) (hend : ¬ closes label line = true) :
      Takes s line { s with body := s.body ++ line }

theorem State.takes_next (s : State) (line : Bytes) : s.Takes line (s.next line) := by
  unfold next
  split
  · exact .ignored ‹_›
  · split
    · split
      · exact .opened _ ‹_› ‹_› ‹_›
      · exact .malformed ‹_› ‹_› ‹_›
    · split
      · exact .outside ‹_› ‹_› ‹_›
      · split
        · exact .closed _ ‹_› ‹_› ‹_› ‹_›
        · exact .inside _ ‹_› ‹_› ‹_› ‹_›

/-- A state with more blocks before those that it holds. -/
def State.behind (s : State) (earlier : List Block) : State := { s with blocks := s.blocks ++ earlier }

theorem State.next_behind (s : State) (earlier : List Block) (line : Bytes) :
    (s.behind earlier).next line = (s.next line).behind earlier := by
  unfold next behind
  dsimp only
  -- Nothing that is checked depends on the blocks, and a line adds one in front or none.
  split
  · rfl
  · split
    · split <;> rfl
    · split
      · rfl
      · split <;> rfl

theorem run_behind (s : State) (earlier : List Block) (ls : List Bytes) :
    ls.foldl State.next (s.behind earlier) = (ls.foldl State.next s).behind earlier := by
  induction ls generalizing s with
  | nil => rfl
  | cons line rest ih => rw [List.foldl_cons, s.next_behind, ih, List.foldl_cons]

/-- An empty line is not seen. -/
theorem State.next_nil (s : State) : s.next [] = s := by
  have htakes := s.takes_next []
  generalize s.next [] = after at htakes
  cases htakes with
  | ignored => rfl
  | opened _ _ hbegin => cases hbegin
  | malformed _ hbegin => cases hbegin
  | outside => rfl
  | closed label _ _ _ hend => cases hend
  | inside => rw [List.append_nil]

/-! Where no block is open, no lines of one are held. -/

theorem State.next_settled {s : State} (h : s.label = none → s.body = []) (line : Bytes)
    (hclosed : (s.next line).label = none) : (s.next line).body = [] := by
  have htakes := s.takes_next line
  generalize s.next line = after at htakes hclosed
  cases htakes with
  | ignored => exact h hclosed
  | opened => cases hclosed
  | malformed => exact h hclosed
  | outside => exact h hclosed
  | closed => rfl
  | inside label _ _ hopen => cases hopen.symm.trans hclosed

theorem run_settled {s : State} (h : s.label = none → s.body = []) (ls : List Bytes)
    (hclosed : (ls.foldl State.next s).label = none) : (ls.foldl State.next s).body = [] := by
  induction ls generalizing s with
  | nil => exact h hclosed
  | cons line rest ih => exact ih (State.next_settled h line) hclosed

/-- Some lines close what is open, and all that they open themselves. -/
structure ClosedBy (s : State) (ls : List Bytes) : Prop where
  sound : s.broken = false
  open_closed : ∀ label, s.label = some label → ∃ last ∈ ls, closes label last = true
  each : EachClosed ls

theorem ClosedBy.next {s : State} {line : Bytes} {rest : List Bytes} (h : ClosedBy s (line :: rest)) :
    ClosedBy (s.next line) rest := by
  obtain ⟨hline, heach⟩ := h.each
  have htakes := s.takes_next line
  generalize s.next line = after at htakes
  cases htakes with
  | ignored hbroken => cases h.sound.symm.trans hbroken
  | opened label _ hbegin hlabel =>
    obtain ⟨found, hfound, hlast⟩ := hline hbegin
    obtain rfl : found = label := Option.some.inj (hfound.symm.trans hlabel)
    refine ⟨h.sound, fun other hother => ?_, heach⟩
    rwa [← Option.some.inj hother]
  | malformed _ hbegin hlabel =>
    obtain ⟨found, hfound, _⟩ := hline hbegin
    cases hlabel.symm.trans hfound
  | outside _ _ hopen => exact ⟨h.sound, fun other hother => (nomatch hopen.symm.trans hother), heach⟩
  | closed => exact ⟨h.sound, nofun, heach⟩
  | inside label _ _ hopen hend =>
    refine ⟨h.sound, fun other hother => ?_, heach⟩
    obtain rfl : label = other := Option.some.inj (hopen.symm.trans hother)
    -- This line is not the END line, so that is still to come.
    obtain ⟨last, hlast, hcloses⟩ := h.open_closed label hopen
    rcases List.mem_cons.mp hlast with rfl | hrest
    · exact absurd hcloses hend
    · exact ⟨last, hrest, hcloses⟩

theorem ClosedBy.run {s : State} {ls : List Bytes} (h : ClosedBy s ls) :
    ClosedBy (ls.foldl State.next s) [] := by
  induction ls generalizing s with
  | nil => exact h
  | cons line rest ih => exact ih h.next

/-- A file in which every BEGIN line has its END line holds whole blocks only. -/
theorem isComplete_of_eachClosed {bs : Bytes} (h : EachClosed (lines bs)) : isComplete bs = true := by
  have hend : ClosedBy (scan bs) [] := ClosedBy.run ⟨rfl, nofun, h⟩
  have hlabel : (scan bs).label = none := by
    cases hopen : (scan bs).label with
    | none => rfl
    | some label =>
      obtain ⟨last, hlast, _⟩ := hend.open_closed label hopen
      exact absurd hlast List.not_mem_nil
  rw [isComplete, hlabel, hend.sound]
  rfl

/-- Behind whole blocks reading is as at the start, but for the blocks that were read. -/
theorem scan_of_isComplete {bs : Bytes} (h : isComplete bs = true) :
    scan bs = State.behind ⟨none, [], [], false⟩ (scan bs).blocks := by
  rw [isComplete, Bool.and_eq_true, Option.isNone_iff_eq_none, Bool.not_eq_true'] at h
  obtain ⟨hlabel, hsound⟩ := h
  -- No lines of an open block are left, so the next block starts with none.
  have hbody : (scan bs).body = [] := run_settled (fun _ => rfl) (lines bs) hlabel
  calc scan bs = ⟨(scan bs).label, (scan bs).body, (scan bs).blocks, (scan bs).broken⟩ := rfl
    _ = ⟨none, [], (scan bs).blocks, false⟩ := by rw [hlabel, hbody, hsound]
    _ = State.behind ⟨none, [], [], false⟩ (scan bs).blocks := rfl

section
variable {c k : Bytes}

/-- Two files with a line end between them are read one after the other. -/
theorem scan_join (c k : Bytes) : scan (c ++ 0x0A :: k) = (lines k).foldl State.next (scan c) := by
  have hlines : lines (c ++ 0x0A :: k) = lines c ++ lines k := Text.splitAt_append_cons rfl c k
  rw [scan, hlines, List.foldl_append]
  rfl

theorem scan_join_of_isComplete (h : isComplete c = true) :
    scan (c ++ 0x0A :: k) = (scan k).behind (scan c).blocks := by
  rw [scan_join, scan_of_isComplete h, run_behind]
  rfl

/-- The blocks of two files that are put together are those of the first and those of the second. -/
theorem blocks_join (h : isComplete c = true) : blocks (c ++ 0x0A :: k) = blocks c ++ blocks k := by
  rw [blocks, scan_join_of_isComplete h]
  exact List.reverse_append

theorem isComplete_join (h : isComplete c = true) : isComplete (c ++ 0x0A :: k) = isComplete k := by
  rw [isComplete, scan_join_of_isComplete h]
  rfl

theorem items?_join (h : isComplete c = true) :
    items? (c ++ 0x0A :: k) = (items? c).bind (fun own => (items? k).map (own ++ ·)) := by
  unfold items?
  rw [isComplete_join h, blocks_join h, if_pos h]
  -- The first file is whole, so whether anything is read is up to the second.
  cases hk : isComplete k with
  | true =>
    simp only [if_true, List.filterMap_append, List.mapM_append, Option.map_eq_bind]
    rfl
  | false =>
    simp only [Bool.false_eq_true, if_false, Option.map_none, Option.bind_fun_none]

end

/-! Blocks as they lie in the lines. -/

/-- An END line is no BEGIN line. -/
theorem not_begin_of_closes {label line : Bytes} (h : closes label line = true) :
    ¬ beginMark.isPrefixOf line = true := by
  intro hbegin
  have hwhole : endMark ++ (label ++ dashes) <+: line := by
    rw [← List.append_assoc]
    exact List.isPrefixOf_iff_prefix.mp h
  have hend : endMark <+: line := (List.prefix_append endMark (label ++ dashes)).trans hwhole
  -- Both marks would start the line, so the shorter would start the longer.
  have hshort : endMark <+: beginMark :=
    List.prefix_of_prefix_length_le hend (List.isPrefixOf_iff_prefix.mp hbegin) (by decide)
  exact absurd hshort (by decide)

theorem run_body (label body : Bytes) (earlier : List Block) {ls : List Bytes}
    (h : ∀ line ∈ ls, ¬ beginMark.isPrefixOf line = true ∧ ¬ closes label line = true) :
    ls.foldl State.next ⟨some label, body, earlier, false⟩ =
      ⟨some label, body ++ ls.flatten, earlier, false⟩ := by
  induction ls generalizing body with
  | nil =>
    rw [List.flatten_nil, List.append_nil]
    rfl
  | cons line rest ih =>
    obtain ⟨⟨hbegin, hend⟩, hrest⟩ := List.forall_mem_cons.mp h
    have hnext : State.next ⟨some label, body, earlier, false⟩ line =
        ⟨some label, body ++ line, earlier, false⟩ := by
      rw [State.next, if_neg Bool.false_ne_true, if_neg hbegin]
      exact if_neg hend
    rw [List.foldl_cons, hnext, ih _ hrest, List.flatten_cons, List.append_assoc]

/-- The blocks that lie in some lines are read, behind any others. -/
theorem Laid.run {ls : List Bytes} {bs : List Block} (h : Laid ls bs) (earlier : List Block) :
    ls.foldl State.next ⟨none, [], earlier, false⟩ = ⟨none, [], bs.reverse ++ earlier, false⟩ := by
  induction h generalizing earlier with
  | nil => rfl
  | @text line rest bs hline hrest ih =>
    have hnext : State.next ⟨none, [], earlier, false⟩ line = ⟨none, [], earlier, false⟩ := by
      rw [State.next, if_neg Bool.false_ne_true, if_neg hline]
    rw [List.foldl_cons, hnext, ih]
  | @block first last label body rest bs hbegin hlabel hbody hlast hrest ih =>
    -- Between its first and its last line only the body grows.
    have hfirst : State.next ⟨none, [], earlier, false⟩ first = ⟨some label, [], earlier, false⟩ := by
      rw [State.next, if_neg Bool.false_ne_true, if_pos hbegin, hlabel]
    have hnext : State.next ⟨some label, body.flatten, earlier, false⟩ last =
        ⟨none, [], ⟨label, body.flatten⟩ :: earlier, false⟩ := by
      rw [State.next, if_neg Bool.false_ne_true, if_neg (not_begin_of_closes hlast)]
      exact if_pos hlast
    rw [List.foldl_cons, hfirst, List.foldl_append, run_body label [] earlier hbody, List.nil_append,
      List.foldl_cons, hnext, ih, List.reverse_cons, List.append_assoc, List.singleton_append]

theorem blocks_of_laid {bs : Bytes} {found : List Block} (h : Laid (lines bs) found) : blocks bs = found := by
  have hscan : scan bs = ⟨none, [], found.reverse ++ [], false⟩ := h.run []
  rw [blocks, hscan, List.append_nil, List.reverse_reverse]

/-! Line ends at the end of a file. -/

theorem lines_append_ends (bs : Bytes) {ending : Bytes} (h : ∀ b ∈ ending, isLineEnd b = true) :
    lines (bs ++ ending) = lines bs ++ List.replicate ending.length [] := by
  induction ending generalizing bs with
  | nil => rw [List.append_nil, List.length_nil, List.replicate_zero, List.append_nil]
  | cons b rest ih =>
    obtain ⟨hb, hrest⟩ := List.forall_mem_cons.mp h
    -- The first line end closes the last line of the file, and what is behind it is a file of line ends.
    have hcut : lines (bs ++ b :: rest) = lines bs ++ lines rest := Text.splitAt_append_cons hb bs rest
    have hempty : lines rest = List.replicate (rest.length + 1) [] := ih [] hrest
    rw [hcut, hempty, List.length_cons]

theorem run_empty (s : State) (n : Nat) : (List.replicate n []).foldl State.next s = s := by
  induction n with
  | zero => rfl
  | succ n ih => rw [List.replicate_succ, List.foldl_cons, s.next_nil, ih]

theorem run_append_ends (s : State) (bs : Bytes) {ending : Bytes} (h : ∀ b ∈ ending, isLineEnd b = true) :
    (lines (bs ++ ending)).foldl State.next s = (lines bs).foldl State.next s := by
  rw [lines_append_ends bs h, List.foldl_append, run_empty]

/-- Line ends at the end of either file are not seen in the two put together. -/
theorem scan_join_ends (c k : Bytes) {ending ending' : Bytes} (h : ∀ b ∈ ending, isLineEnd b = true)
    (h' : ∀ b ∈ ending', isLineEnd b = true) :
    scan ((c ++ ending) ++ 0x0A :: (k ++ ending')) = scan (c ++ 0x0A :: k) := by
  have hfirst : scan (c ++ ending) = scan c := run_append_ends _ c h
  rw [scan_join, scan_join, hfirst, run_append_ends _ k h']

theorem items?_congr {a b : Bytes} (h : scan a = scan b) : items? a = items? b := by
  unfold items? isComplete blocks
  rw [h]

end Handoff.Tls.Pem
