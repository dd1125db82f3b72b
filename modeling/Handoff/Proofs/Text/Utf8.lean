import Handoff.Text.Utf8
import Mathlib.Data.List.Forall2

/-!
Characters written as UTF-8 and read back. What is written is well-formed, and reading it gives the same
characters. Bytes that are read as characters are what writing those characters gives.
-/

namespace Handoff.Text

theorem lead?_one {n : Nat} (h : n < 0x80) : lead? (UInt8.ofNat n) = some (n, []) := by
  revert n
  decide

theorem lead?_two {n : Nat} (h : n < 0x1E) :
    lead? (UInt8.ofNat (n + 2 + 0xC0)) = some (n + 2, [(0x80, 0xBF)]) := by
  revert n
  decide

/-- Overlong forms and surrogates are kept out by the range of the second byte. -/
theorem lead?_three {n : Nat} (h : n < 0x10) :
    lead? (UInt8.ofNat (n + 0xE0)) =
      some (n, [(if n = 0 then 0xA0 else 0x80, if n = 13 then 0x9F else 0xBF), (0x80, 0xBF)]) := by
  revert n
  decide

theorem lead?_four {n : Nat} (h : n < 5) :
    lead? (UInt8.ofNat (n + 0xF0)) =
      some (n, [(if n = 0 then 0x90 else 0x80, if n = 4 then 0x8F else 0xBF), (0x80, 0xBF),
        (0x80, 0xBF)]) := by
  revert n
  decide

theorem continuation_next {low high : UInt8} {n : Nat} (hn : n < 0x40) (hlow : low.toNat ≤ n + 0x80)
    (hhigh : n + 0x80 ≤ high.toNat) (payload used : Nat) (ranges : List (UInt8 × UInt8)) (rest : Bytes) :
    continuation payload used ((low, high) :: ranges) (UInt8.ofNat (n + 0x80) :: rest) =
      continuation (payload * 64 + n) (used + 1) ranges rest := by
  have hbyte : (UInt8.ofNat (n + 0x80)).toNat = n + 0x80 := by
    rw [UInt8.toNat_ofNat']
    omega
  have hrange : low ≤ UInt8.ofNat (n + 0x80) ∧ UInt8.ofNat (n + 0x80) ≤ high := by
    rw [UInt8.le_iff_toNat_le, UInt8.le_iff_toNat_le, hbyte]
    exact ⟨hlow, hhigh⟩
  rw [continuation, if_pos hrange, hbyte, Nat.add_sub_cancel]

theorem continuation_tail {n : Nat} (hn : n < 0x40) (payload used : Nat)
    (ranges : List (UInt8 × UInt8)) (rest : Bytes) :
    continuation payload used ((0x80, 0xBF) :: ranges) (UInt8.ofNat (n + 0x80) :: rest) =
      continuation (payload * 64 + n) (used + 1) ranges rest := by
  apply continuation_next hn
  · exact Nat.le_add_left 0x80 n
  · change n + 0x80 ≤ 0xBF
    omega

/-- The first piece of a written character is the character. -/
theorem first_encode (c : Char) (rest : Bytes) :
    ∃ b bs, String.utf8EncodeChar c = b :: bs ∧ Piece.first b (bs ++ rest) = (.scalar c, rest) := by
  have hvalid : c.val.toNat < 0xD800 ∨ 0xDFFF < c.val.toNat ∧ c.val.toNat < 0x110000 := c.valid
  have hchar (n : Nat) (h : n = c.val.toNat) : Char.ofNat n = c := by
    rw [h]
    exact Char.ofNat_toNat c
  -- The number of the character decides how many bytes there are.
  unfold String.utf8EncodeChar
  generalize c.val.toNat = v at hvalid hchar ⊢
  dsimp only
  split
  · refine ⟨_, _, rfl, ?_⟩
    rw [Piece.first, lead?_one (by omega)]
    simp only [List.nil_append, continuation]
    rw [hchar _ rfl]
  split
  · refine ⟨_, _, rfl, ?_⟩
    obtain ⟨n, hn⟩ : ∃ n, v / 64 % 0x20 = n + 2 := ⟨v / 64 % 0x20 - 2, by omega⟩
    rw [Piece.first, hn, lead?_two (by omega)]
    simp only [List.cons_append, List.nil_append]
    rw [continuation_tail (by omega), continuation, hchar _ (by omega)]
  split
  · refine ⟨_, _, rfl, ?_⟩
    rw [Piece.first, lead?_three (by omega)]
    simp only [List.cons_append, List.nil_append]
    rw [continuation_next (by omega), continuation_tail (by omega), continuation, hchar _ (by omega)]
    · split
      · change 0xA0 ≤ _
        omega
      · exact Nat.le_add_left 0x80 _
    · split
      · change _ ≤ 0x9F
        omega
      · change _ ≤ 0xBF
        omega
  · refine ⟨_, _, rfl, ?_⟩
    rw [Piece.first, lead?_four (by omega)]
    simp only [List.cons_append, List.nil_append]
    rw [continuation_next (by omega), continuation_tail (by omega), continuation_tail (by omega),
      continuation, hchar _ (by omega)]
    · split
      · change 0x90 ≤ _
        omega
      · exact Nat.le_add_left 0x80 _
    · split
      · change _ ≤ 0x8F
        omega
      · change _ ≤ 0xBF
        omega

theorem piecesOnto_encode (done : List Piece) (cs : List Char) :
    piecesOnto done (encode cs) = done.reverse ++ cs.map .scalar := by
  induction cs generalizing done with
  | nil => simp [encode, piecesOnto]
  | cons c cs ih =>
    obtain ⟨b, bs, hb, hfirst⟩ := first_encode c (encode cs)
    have hencode : encode (c :: cs) = b :: (bs ++ encode cs) := by
      rw [encode, List.flatMap_cons, hb]
      rfl
    rw [hencode, piecesOnto, hfirst, ih, List.reverse_cons, List.append_assoc]
    rfl

theorem pieces_encode (cs : List Char) : pieces (encode cs) = cs.map .scalar :=
  piecesOnto_encode [] cs

theorem scalarsOnto_scalars (index : Nat) (done cs : List Char) :
    scalarsOnto index done (cs.map .scalar) = .ok (done.reverse ++ cs) := by
  induction cs generalizing index done with
  | nil => simp [scalarsOnto]
  | cons c cs ih =>
    rw [List.map_cons, scalarsOnto, ih, List.reverse_cons, List.append_assoc]
    rfl

/-- What is written reads back. -/
theorem decode_encode (cs : List Char) : decode (encode cs) = .ok cs := by
  rw [decode, pieces_encode, scalarsOnto_scalars]
  rfl

/-- A text is shown as it is. -/
theorem decodeLossy_encode (cs : List Char) : decodeLossy (encode cs) = String.ofList cs := by
  have hshown : Piece.shown ∘ Piece.scalar = id := rfl
  rw [decodeLossy, pieces_encode, List.map_map, hshown, List.map_id]

theorem encode_injective : Function.Injective encode := by
  intro cs ds h
  have hdecode := decode_encode cs
  rw [h, decode_encode] at hdecode
  exact (Except.ok.inj hdecode).symm

/-- A character that was read took one byte from each range, with six bits of each. -/
theorem continuation_scalar {payload used : Nat} {ranges : List (UInt8 × UInt8)} {bs rest : Bytes} {c : Char}
    (h : continuation payload used ranges bs = (.scalar c, rest)) :
    ∃ tail, bs = tail ++ rest ∧ List.Forall₂ (fun range b => range.1 ≤ b ∧ b ≤ range.2) ranges tail ∧
      c = Char.ofNat (tail.foldl (fun n b => n * 64 + (b.toNat - 0x80)) payload) := by
  induction ranges generalizing payload used bs with
  | nil =>
    rw [continuation] at h
    obtain ⟨hc, rfl⟩ := Prod.mk.inj h
    exact ⟨[], rfl, .nil, (Piece.scalar.inj hc).symm⟩
  | cons range ranges ih =>
    cases bs with
    | nil => cases (Prod.mk.inj h).1
    | cons b bs =>
      rw [continuation] at h
      split at h
      · rename_i hrange
        obtain ⟨tail, rfl, hall, hc⟩ := ih h
        exact ⟨b :: tail, rfl, .cons hrange hall, hc.trans (by rw [List.foldl_cons])⟩
      · cases (Prod.mk.inj h).1

theorem toNat_charOfNat {n : Nat} (h : n.isValidChar) : (Char.ofNat n).val.toNat = n := by
  rw [Char.ofNat, dif_pos h]
  exact UInt32.toNat_ofNatLT

theorem byte_eq {n : Nat} {b : UInt8} (h : n = b.toNat) : UInt8.ofNat n = b := by
  rw [h, UInt8.ofNat_toNat]

section
variable {a b c d : UInt8}

theorem encode_one (ha : a.toNat < 0x80) : String.utf8EncodeChar (Char.ofNat a.toNat) = [a] := by
  rw [String.utf8EncodeChar, toNat_charOfNat (Or.inl (by omega))]
  rw [if_pos (by omega), byte_eq rfl]

theorem encode_two {n : Nat} (hn : n = (a.toNat - 0xC0) * 64 + (b.toNat - 0x80))
    (ha : 0xC2 ≤ a.toNat ∧ a.toNat < 0xE0) (hb : 0x80 ≤ b.toNat ∧ b.toNat ≤ 0xBF) :
    String.utf8EncodeChar (Char.ofNat n) = [a, b] := by
  rw [String.utf8EncodeChar, toNat_charOfNat (Or.inl (by omega))]
  rw [if_neg (by omega), if_pos (by omega), byte_eq (b := a) (by omega), byte_eq (b := b) (by omega)]

/-- The second byte keeps overlong forms and surrogates out. -/
theorem encode_three {n : Nat} (hn : n = ((a.toNat - 0xE0) * 64 + (b.toNat - 0x80)) * 64 + (c.toNat - 0x80))
    (ha : 0xE0 ≤ a.toNat ∧ a.toNat < 0xF0) (hb : 0x80 ≤ b.toNat ∧ b.toNat ≤ 0xBF)
    (hlow : a.toNat = 0xE0 → 0xA0 ≤ b.toNat) (hhigh : a.toNat = 0xED → b.toNat ≤ 0x9F)
    (hc : 0x80 ≤ c.toNat ∧ c.toNat ≤ 0xBF) :
    String.utf8EncodeChar (Char.ofNat n) = [a, b, c] := by
  have hvalid : n < 0xD800 ∨ 0xDFFF < n ∧ n < 0x110000 := by omega
  rw [String.utf8EncodeChar, toNat_charOfNat hvalid]
  rw [if_neg (by omega), if_neg (by omega), if_pos (by omega), byte_eq (b := a) (by omega),
    byte_eq (b := b) (by omega), byte_eq (b := c) (by omega)]

theorem encode_four {n : Nat}
    (hn : n = (((a.toNat - 0xF0) * 64 + (b.toNat - 0x80)) * 64 + (c.toNat - 0x80)) * 64 + (d.toNat - 0x80))
    (ha : 0xF0 ≤ a.toNat ∧ a.toNat ≤ 0xF4) (hb : 0x80 ≤ b.toNat ∧ b.toNat ≤ 0xBF)
    (hlow : a.toNat = 0xF0 → 0x90 ≤ b.toNat) (hhigh : a.toNat = 0xF4 → b.toNat ≤ 0x8F)
    (hc : 0x80 ≤ c.toNat ∧ c.toNat ≤ 0xBF) (hd : 0x80 ≤ d.toNat ∧ d.toNat ≤ 0xBF) :
    String.utf8EncodeChar (Char.ofNat n) = [a, b, c, d] := by
  have hvalid : n < 0xD800 ∨ 0xDFFF < n ∧ n < 0x110000 := by omega
  rw [String.utf8EncodeChar, toNat_charOfNat hvalid]
  rw [if_neg (by omega), if_neg (by omega), if_neg (by omega), byte_eq (b := a) (by omega),
    byte_eq (b := b) (by omega), byte_eq (b := c) (by omega), byte_eq (b := d) (by omega)]

end

/-- Reading the first character of some bytes consumes what writing it gives. -/
theorem encode_of_first {b : UInt8} {bs rest : Bytes} {c : Char}
    (h : Piece.first b bs = (.scalar c, rest)) : b :: bs = String.utf8EncodeChar c ++ rest := by
  unfold Piece.first at h
  split at h
  · cases (Prod.mk.inj h).1
  · rename_i payload ranges hlead
    obtain ⟨tail, rfl, hall, rfl⟩ := continuation_scalar h
    suffices hencode : String.utf8EncodeChar (Char.ofNat
        (tail.foldl (fun n b => n * 64 + (b.toNat - 0x80)) payload)) = b :: tail by
      rw [hencode, List.cons_append]
    unfold lead? at hlead
    simp only [UInt8.lt_iff_toNat_lt, ← UInt8.toNat_inj, UInt8.reduceToNat] at hlead
    split_ifs at hlead
    all_goals
      obtain ⟨rfl, rfl⟩ := Prod.mk.inj (Option.some.inj hlead)
      simp only [List.forall₂_cons_left_iff, List.forall₂_nil_left_iff, UInt8.le_iff_toNat_le,
        UInt8.reduceToNat] at hall
    · subst hall
      exact encode_one (by omega)
    · obtain ⟨_, _, hb, rfl, rfl⟩ := hall
      exact encode_two (by simp) (by omega) hb
    · obtain ⟨_, _, hb, ⟨_, _, hc, rfl, rfl⟩, rfl⟩ := hall
      exact encode_three (by simp; omega) (by omega) (by omega) (by omega) (by omega) hc
    · obtain ⟨_, _, hb, ⟨_, _, hc, rfl, rfl⟩, rfl⟩ := hall
      exact encode_three (by simp; omega) (by omega) (by omega) (by omega) (by omega) hc
    · obtain ⟨_, _, hb, ⟨_, _, hc, rfl, rfl⟩, rfl⟩ := hall
      exact encode_three (by simp) (by omega) hb (by omega) (by omega) hc
    · obtain ⟨_, _, hb, ⟨_, _, hc, ⟨_, _, hd, rfl, rfl⟩, rfl⟩, rfl⟩ := hall
      exact encode_four (by simp; omega) (by omega) (by omega) (by omega) (by omega) hc hd
    · obtain ⟨_, _, hb, ⟨_, _, hc, ⟨_, _, hd, rfl, rfl⟩, rfl⟩, rfl⟩ := hall
      exact encode_four (by simp) (by omega) hb (by omega) (by omega) hc hd
    · obtain ⟨_, _, hb, ⟨_, _, hc, ⟨_, _, hd, rfl, rfl⟩, rfl⟩, rfl⟩ := hall
      exact encode_four (by simp; omega) (by omega) (by omega) (by omega) (by omega) hc hd

theorem piecesOnto_eq (done : List Piece) (bs : Bytes) : piecesOnto done bs = done.reverse ++ pieces bs := by
  induction hlength : bs.length using Nat.strongRecOn generalizing done bs with
  | ind n ih =>
    cases bs with
    | nil => simp [pieces, piecesOnto]
    | cons b rest =>
      have hshorter : (Piece.first b rest).2.length < n := by
        rw [← hlength]
        exact Nat.lt_succ_of_le (Piece.first_rest_length b rest)
      rw [pieces, piecesOnto, piecesOnto, ih _ hshorter _ _ rfl, ih _ hshorter _ _ rfl, List.reverse_cons,
        List.append_assoc]
      rfl

theorem pieces_cons (b : UInt8) (rest : Bytes) :
    pieces (b :: rest) = (Piece.first b rest).1 :: pieces (Piece.first b rest).2 := by
  rw [pieces, piecesOnto, piecesOnto_eq]
  rfl

/-- Pieces that are all characters come from what writing those characters gives. -/
theorem encode_of_pieces {cs : List Char} {bs : Bytes} (h : pieces bs = cs.map .scalar) : encode cs = bs := by
  induction cs generalizing bs with
  | nil =>
    cases bs with
    | nil => rfl
    | cons b rest => rw [pieces_cons] at h; cases h
  | cons c cs ih =>
    cases bs with
    | nil =>
      rw [pieces, piecesOnto] at h
      cases h
    | cons b rest =>
      rw [pieces_cons, List.map_cons] at h
      obtain ⟨hfirst, hrest⟩ := List.cons.inj h
      have hconsumed : b :: rest = String.utf8EncodeChar c ++ (Piece.first b rest).2 :=
        encode_of_first (Prod.ext hfirst rfl)
      rw [hconsumed, ← ih hrest]
      rfl

theorem scalars_of_ok {index : Nat} {done cs : List Char} {ps : List Piece}
    (h : scalarsOnto index done ps = .ok cs) : ∃ ds, ps = ds.map .scalar ∧ cs = done.reverse ++ ds := by
  fun_induction scalarsOnto index done ps with
  | case1 index done => exact ⟨[], rfl, by rw [List.append_nil]; exact (Except.ok.inj h).symm⟩
  | case2 index done c rest ih =>
    obtain ⟨ds, rfl, rfl⟩ := ih h
    exact ⟨c :: ds, rfl, by rw [List.reverse_cons, List.append_assoc]; rfl⟩
  | case3 => cases h

/-- Bytes are read as a text exactly if writing the text gives them. -/
theorem decode_eq_ok_iff {bs : Bytes} {cs : List Char} : decode bs = .ok cs ↔ bs = encode cs := by
  constructor
  · intro h
    obtain ⟨ds, hpieces, rfl⟩ := scalars_of_ok h
    exact (encode_of_pieces hpieces).symm
  · rintro rfl
    exact decode_encode cs

end Handoff.Text
