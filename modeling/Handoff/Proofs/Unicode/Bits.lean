import Handoff.Unicode.Ranges
import Mathlib.Data.Nat.Bitwise

/-!
Sets of code points as the bits of numbers, so that facts about whole tables come down to arithmetic on
single numbers.
-/

namespace Handoff.Unicode

/-- The set with the members of some sets. -/
def union (sets : List Nat) : Nat := sets.foldl (· ||| ·) 0

theorem testBit_foldl_or (start : Nat) (sets : List Nat) (n : Nat) :
    (sets.foldl (· ||| ·) start).testBit n = (start.testBit n || sets.any (·.testBit n)) := by
  induction sets generalizing start with
  | nil => simp
  | cons set sets ih => rw [List.foldl_cons, ih, Nat.testBit_or, List.any_cons, Bool.or_assoc]

theorem testBit_union (sets : List Nat) (n : Nat) : (union sets).testBit n = sets.any (·.testBit n) := by
  rw [union, testBit_foldl_or, Nat.zero_testBit, Bool.false_or]

/-- No number is in two sets that have nothing in common. -/
theorem testBit_of_disjoint {set other n : Nat} (hdisjoint : set &&& other = 0) (h : set.testBit n = true) :
    other.testBit n = false := by
  have hboth : (set &&& other).testBit n = false := by rw [hdisjoint, Nat.zero_testBit]
  rwa [Nat.testBit_and, h, Bool.true_and] at hboth

/-- Every `step`-th number from 0 on, `count` of them. -/
def comb (step : Nat) : Nat → Nat
  | 0 => 0
  | count + 1 => comb step count <<< step ||| 1

theorem testBit_comb (step count n : Nat) :
    (comb step count).testBit n = decide (n % step = 0 ∧ n / step < count) := by
  induction count generalizing n with
  | zero => simp [comb]
  | succ count ih =>
    rw [comb, Nat.testBit_or, Nat.testBit_shiftLeft, ih, Bool.eq_iff_iff]
    simp only [Bool.or_eq_true, Bool.and_eq_true, decide_eq_true_eq, Nat.testBit_one_eq_true_iff_self_eq_zero]
    rcases Nat.eq_zero_or_pos step with rfl | hstep
    · simp only [Nat.mod_zero, Nat.div_zero]
      omega
    by_cases hn : n < step
    · rw [Nat.mod_eq_of_lt hn, Nat.div_eq_of_lt hn]
      omega
    · have hmod : (n - step) % step = n % step := (Nat.mod_eq_sub_mod (by omega)).symm
      have hdiv : n / step = (n - step) / step + 1 := Nat.div_eq_sub_div hstep (by omega)
      rw [hmod, hdiv]
      omega

namespace Ranges

/-- The code points in some ranges. -/
def bits (rs : Ranges) : Nat := union (rs.map fun r => (2 ^ (r.2 + 1 - r.1) - 1) <<< r.1)

theorem testBit_bits (rs : Ranges) (n : Nat) : rs.bits.testBit n = rs.contains n := by
  rw [bits, testBit_union, List.any_map, contains]
  refine List.any_congr rfl fun r => ?_
  rw [Function.comp_apply, Nat.testBit_shiftLeft, Nat.testBit_two_pow_sub_one, Bool.eq_iff_iff]
  simp only [Bool.and_eq_true, decide_eq_true_eq]
  omega

end Ranges

end Handoff.Unicode
