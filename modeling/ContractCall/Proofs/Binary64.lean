import ContractCall.Binary64
import Mathlib.Algebra.Order.Field.Power
import Mathlib.Algebra.Order.Field.Rat
import Mathlib.Tactic.NormNum
import Mathlib.Tactic.Positivity

/-!
# The order of binary64 numbers and natural numbers

`Above n x`: the number `x` is larger than `n`, by the rational value of a finite number.
`exceeds_iff_above`: the comparison of integers that `Binary64.exceeds` makes decides this.
-/

namespace ContractCall.Binary64

/-- The number is larger than the natural number. A finite number has the value
`± significand * 2 ^ exponent`. -/
def Above (n : Nat) : Binary64 → Prop
  | nan => False
  | infinite negative => negative = false
  | finite negative m e => (n : ℚ) < (if negative then -1 else 1) * (m * 2 ^ e)

/-- A bound on a product with a power of two, as the comparison of natural numbers behind it. -/
theorem mul_shift_lt_iff (n m : Nat) (e : Int) :
    n * (shift m 1 (-e)).2 < (shift m 1 (-e)).1 ↔ (n : ℚ) < m * 2 ^ e := by
  unfold shift
  split
  · obtain ⟨k, rfl⟩ : ∃ k : Nat, e = -(k : Int) := ⟨(-e).toNat, by omega⟩
    have hk : (0 : ℚ) < 2 ^ k := by positivity
    rw [zpow_neg, zpow_natCast, ← div_eq_mul_inv, lt_div_iff₀ hk]
    simp only [neg_neg, Int.toNat_natCast, Nat.one_mul]
    rw [← Nat.cast_lt (α := ℚ)]
    push_cast
    rfl
  · obtain ⟨k, rfl⟩ : ∃ k : Nat, e = (k : Int) := ⟨e.toNat, by omega⟩
    simp only [neg_neg, Int.toNat_natCast, Nat.mul_one, zpow_natCast]
    rw [← Nat.cast_lt (α := ℚ)]
    push_cast
    rfl

theorem exceeds_iff_above {x : Binary64} {n : Nat} : x.exceeds n = true ↔ x.Above n := by
  cases x with
  | nan => simp [exceeds, Above]
  | infinite negative => simp [exceeds, Above]
  | finite negative m e =>
    cases negative with
    | false => simp [exceeds, Above, mul_shift_lt_iff]
    | true =>
      have hm : (0 : ℚ) ≤ m * 2 ^ e := by positivity
      have hn : (0 : ℚ) ≤ n := by positivity
      simp only [exceeds, Above, Bool.not_true, Bool.false_and, Bool.false_eq_true, if_true,
        false_iff, not_lt, neg_one_mul]
      exact (neg_nonpos.mpr hm).trans hn

end ContractCall.Binary64
