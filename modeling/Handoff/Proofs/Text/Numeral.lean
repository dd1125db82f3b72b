import Handoff.Text.Numeral

/-!
The digits of a number read back as the number.
-/

namespace Handoff.Text

variable {base : Nat}

theorem digit?_digitChar {n : Nat} (hbase : base ≤ 16) (hn : n < base) :
    digit? base (Nat.digitChar n) = some n := by
  have hvalue : ∀ n < 16, digitValue (Nat.digitChar n) = some n := by decide
  rw [digit?, hvalue n (by omega), Option.filter_some, if_pos (decide_eq_true hn)]

theorem forall_mem_toDigits {P : Char → Prop} (hbase : 1 < base)
    (hdigit : ∀ n < base, P (Nat.digitChar n)) (n : Nat) :
    ∀ c ∈ Nat.toDigits base n, P c := by
  induction n using Nat.strongRecOn with
  | ind n ih =>
    rw [Nat.toDigits_eq_if hbase]
    split
    · rename_i hn
      exact List.forall_mem_singleton.mpr (hdigit n hn)
    · have hsmaller : n / base < n := Nat.div_lt_self (by omega) hbase
      rw [List.forall_mem_append, List.forall_mem_singleton]
      exact ⟨ih _ hsmaller, hdigit _ (Nat.mod_lt n (by omega))⟩

theorem numeralOnto_append (value : Nat) (cs ds : List Char) :
    numeralOnto base value (cs ++ ds) = numeralOnto base (numeralOnto base value cs) ds := List.foldl_append

theorem numeralOnto_toDigits (hbase : 1 < base) (hlimit : base ≤ 16) (n : Nat) :
    numeralOnto base 0 (Nat.toDigits base n) = n := by
  induction n using Nat.strongRecOn with
  | ind n ih =>
    rw [Nat.toDigits_eq_if hbase]
    split
    · rename_i hn
      rw [numeralOnto, List.foldl_cons, List.foldl_nil, digit?_digitChar hlimit hn, Nat.zero_mul, Nat.zero_add,
        Option.getD_some]
    · have hsmaller : n / base < n := Nat.div_lt_self (by omega) hbase
      have hlast : n % base < base := Nat.mod_lt n (by omega)
      rw [numeralOnto_append, ih _ hsmaller, numeralOnto, List.foldl_cons, List.foldl_nil,
        digit?_digitChar hlimit hlast, Option.getD_some, Nat.div_add_mod']

/-- A number that is written is read. -/
theorem numeral?_toDigits (hbase : 1 < base) (hlimit : base ≤ 16) (n : Nat) :
    numeral? base (Nat.toDigits base n) = some n := by
  have hdigits : (Nat.toDigits base n).all (isDigit base) = true := by
    rw [List.all_eq_true]
    refine forall_mem_toDigits hbase (fun d hd => ?_) n
    rw [isDigit, digit?_digitChar hlimit hd]
    rfl
  rw [numeral?, if_pos ⟨Nat.toDigits_ne_nil, hdigits⟩, numeralOnto_toDigits hbase hlimit]

theorem numeral?_decimal (n : Nat) : numeral? 10 (decimal n) = some n :=
  numeral?_toDigits (by decide) (by decide) n

theorem numeral?_hexadecimal (n : Nat) : numeral? 16 (hexadecimal n) = some n :=
  numeral?_toDigits (by decide) (by decide) n

/-- Only zero is written with a zero in front. -/
theorem decimal_head {n : Nat} (h : 0 < n) : ∃ c cs, decimal n = c :: cs ∧ c ≠ '0' := by
  induction n using Nat.strongRecOn with
  | ind n ih =>
    rw [decimal, Nat.toDigits_eq_if (by decide)]
    split
    · refine ⟨_, [], rfl, ?_⟩
      rw [Ne, Nat.digitChar_eq_zero]
      omega
    · obtain ⟨c, cs, heq, hc⟩ := ih (n / 10) (by omega) (by omega)
      rw [decimal] at heq
      rw [heq]
      exact ⟨c, _, rfl, hc⟩

end Handoff.Text
