import Handoff.Proofs.Text.Utf8
import Handoff.Url.Percent

/-!
Percent-encoded texts read back as the bytes of what was encoded, if the percent sign itself is not among
the characters that are kept.
-/

namespace Handoff.Url

theorem digit?_hexDigit {n : Nat} (h : n < 16) : Text.digit? 16 (hexDigit n) = some n := by
  revert n
  decide

theorem percentDecode_percentByte (b : UInt8) (rest : List Char) :
    percentDecode (percentByte b ++ rest) = b :: percentDecode rest := by
  have hbyte : b.toNat < 256 := b.toNat_lt
  simp only [percentByte, List.cons_append, List.nil_append, percentDecode]
  rw [digit?_hexDigit (by omega), digit?_hexDigit (by omega)]
  simp only
  rw [Nat.div_add_mod' b.toNat 16, UInt8.ofNat_toNat]

theorem percentDecode_percentBytes (bs : Bytes) (rest : List Char) :
    percentDecode (bs.flatMap percentByte ++ rest) = bs ++ percentDecode rest := by
  induction bs with
  | nil => rfl
  | cons b bs ih =>
    rw [List.flatMap_cons, List.append_assoc, percentDecode_percentByte, ih]
    rfl

theorem percentDecode_cons {c : Char} (h : c ≠ '%') (rest : List Char) :
    percentDecode (c :: rest) = String.utf8EncodeChar c ++ percentDecode rest := by
  rw [percentDecode]
  rintro a b rest rfl
  exact absurd rfl h

section
variable {keep : Char → Bool}

/-- What is not kept is written as percent signs and digits. -/
theorem forall_mem_percentEncode {P : Char → Prop} {cs : List Char} (hkeep : ∀ c ∈ cs, keep c = true → P c)
    (hpercent : P '%') (hdigit : ∀ n < 16, P (hexDigit n)) : ∀ c ∈ percentEncode keep cs, P c := by
  intro c hc
  obtain ⟨d, hd, hmem⟩ := List.mem_flatMap.mp hc
  split at hmem
  · rename_i hk
    obtain rfl := List.mem_singleton.mp hmem
    exact hkeep _ hd hk
  · obtain ⟨b, _, hb⟩ := List.mem_flatMap.mp hmem
    have hbyte : b.toNat < 256 := b.toNat_lt
    simp only [percentByte, List.mem_cons, List.not_mem_nil, or_false] at hb
    rcases hb with rfl | rfl | rfl
    · exact hpercent
    · exact hdigit _ (by omega)
    · exact hdigit _ (by omega)

theorem percentDecode_percentEncode_append (h : keep '%' = false) (cs rest : List Char) :
    percentDecode (percentEncode keep cs ++ rest) = Text.encode cs ++ percentDecode rest := by
  induction cs with
  | nil => rfl
  | cons c cs ih =>
    have hencode : Text.encode (c :: cs) = String.utf8EncodeChar c ++ Text.encode cs := rfl
    rw [percentEncode, List.flatMap_cons, List.append_assoc, ← percentEncode, hencode,
      List.append_assoc, ← ih]
    split
    · rename_i hkeep
      have hc : c ≠ '%' := by
        rintro rfl
        rw [h] at hkeep
        cases hkeep
      exact percentDecode_cons hc _
    · exact percentDecode_percentBytes _ _

/-- What is percent-encoded reads back as its bytes. -/
theorem percentDecode_percentEncode (h : keep '%' = false) (cs : List Char) :
    percentDecode (percentEncode keep cs) = Text.encode cs := by
  have happend := percentDecode_percentEncode_append h cs []
  rw [List.append_nil] at happend
  rw [happend, percentDecode, List.append_nil]

theorem percentEncode_injective (h : keep '%' = false) : Function.Injective (percentEncode keep) := by
  intro cs ds heq
  apply Text.encode_injective
  rw [← percentDecode_percentEncode h cs, heq, percentDecode_percentEncode h]

theorem percentEncode_of_kept {cs : List Char} (h : ∀ c ∈ cs, keep c = true) :
    percentEncode keep cs = cs := by
  induction cs with
  | nil => rfl
  | cons c cs ih =>
    rw [percentEncode, List.flatMap_cons, ← percentEncode, ih fun d hd => h d (List.mem_cons_of_mem c hd),
      if_pos (h c List.mem_cons_self)]
    rfl

end

end Handoff.Url
