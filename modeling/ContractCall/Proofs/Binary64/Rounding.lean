import ContractCall.Binary64.Decimal
import ContractCall.Proofs.Binary64
import Mathlib.Tactic.Linarith
import Mathlib.Tactic.Ring

/-!
# Rounding at powers of two

A power of two in range is a binary64 number, so that no rounding of a larger number passes it.

* `Nearest q x`: no number of the format is closer to `q` than `x`. It is on the same side of every
  number of the format (`Nearest.le_toRat`, `Nearest.toRat_le`).
* `Reaches q x`: the number `x` is at least `q`, or the positive infinity. `reaches_ofRatio` says
  that the rounding of a quotient reaches the powers of two that the quotient reaches; the product
  (`reaches_mul`) and the scaling by a power of ten (`reaches_of_scaleTen?`) follow.
-/

namespace ContractCall.Binary64

/-! ## Nearest numbers -/

/-- The rational value of a finite number. -/
def toRat : Binary64 → ℚ
  | finite negative m e => (if negative then -1 else 1) * (m * 2 ^ e)
  | _ => 0

/-- The number is finite, with significand and exponent in the ranges of the format. -/
inductive InFormat : Binary64 → Prop where
  | finite {negative : Bool} {m : Nat} {e : Int} (hm : m < 2 ^ 53) (hmin : minExponent ≤ e)
    (hmax : e ≤ maxExponent) : InFormat (finite negative m e)

/-- No number of the format is closer to the rational number. -/
structure Nearest (q : ℚ) (x : Binary64) : Prop where
  inFormat : InFormat x
  closest : ∀ y, InFormat y → |x.toRat - q| ≤ |y.toRat - q|

/-- The number is at least this large. -/
inductive Reaches (q : ℚ) : Binary64 → Prop where
  | infinite : Reaches q (infinite false)
  | finite {m : Nat} {e : Int} (h : q ≤ m * 2 ^ e) : Reaches q (finite false m e)

variable {x y : Binary64} {q r : ℚ} {num den m n j k : Nat} {e : Int}

theorem Nearest.le_toRat (h : Nearest q x) (hy : InFormat y) (hq : y.toRat ≤ q) :
    y.toRat ≤ x.toRat := by
  have hc := h.closest y hy
  rw [abs_of_nonpos (sub_nonpos.mpr hq)] at hc
  linarith [neg_abs_le (x.toRat - q)]

theorem Nearest.toRat_le (h : Nearest q x) (hy : InFormat y) (hq : q ≤ y.toRat) :
    x.toRat ≤ y.toRat := by
  have hc := h.closest y hy
  rw [abs_of_nonneg (sub_nonneg.mpr hq)] at hc
  linarith [le_abs_self (x.toRat - q)]

/-- A number of the format is its own nearest one. -/
theorem Nearest.of_toRat_eq (hx : InFormat x) (hq : x.toRat = q) : Nearest q x := by
  refine ⟨hx, fun y _ => ?_⟩
  rw [hq, sub_self, abs_zero]
  exact abs_nonneg _

theorem above_iff_of_inFormat (h : InFormat x) : x.Above n ↔ (n : ℚ) < x.toRat := by
  cases h
  rfl

/-! ## Rounded quotients -/

theorem shift_pos (hd : 0 < den) : 0 < (shift num den e).2 := by
  unfold shift
  split
  · exact Nat.mul_pos hd (Nat.two_pow_pos _)
  · exact hd

/-- Shifting divides by a power of two. -/
theorem shift_div (num den : Nat) (e : Int) :
    ((shift num den e).1 : ℚ) / (shift num den e).2 = num / den / 2 ^ e := by
  unfold shift
  split
  · obtain ⟨k, rfl⟩ : ∃ k : Nat, e = k := ⟨e.toNat, by omega⟩
    rw [Int.toNat_natCast, zpow_natCast, div_div]
    push_cast
    rfl
  · obtain ⟨k, rfl⟩ : ∃ k : Nat, e = -(k : Int) := ⟨(-e).toNat, by omega⟩
    rw [neg_neg, Int.toNat_natCast, zpow_neg, zpow_natCast, div_inv_eq_mul, div_mul_eq_mul_div]
    push_cast
    rfl

/-- An integer that the shifted quotient reaches. -/
theorem mul_shift_le_iff (hd : 0 < den) :
    k * (shift num den e).2 ≤ (shift num den e).1 ↔ (k : ℚ) * 2 ^ e ≤ num / den := by
  have hs : (0 : ℚ) < (shift num den e).2 := Nat.cast_pos.mpr (shift_pos hd)
  have he : (0 : ℚ) < 2 ^ e := by positivity
  rw [← le_div_iff₀ he, ← shift_div, le_div_iff₀ hs]
  exact_mod_cast Iff.rfl

/-- An integer that the quotient reaches is reached by its rounding. -/
theorem le_divEven (hd : 0 < den) (h : k * den ≤ num) : k ≤ divEven num den := by
  have hq : k ≤ num / den := (Nat.le_div_iff_mul_le hd).mpr h
  unfold divEven
  dsimp only
  split
  · exact hq
  · split <;> omega

/-- A quotient reaches two to the power of its exponent, unless that is negative. -/
theorem mul_exponentOf_le (hn : num ≠ 0) (hk : exponentOf num den = (k : Int)) :
    den * 2 ^ k ≤ num := by
  have hle : k + den.log2 + 1 ≤ num.log2 := by
    unfold exponentOf minExponent at hk
    dsimp only at hk
    split at hk <;> omega
  calc den * 2 ^ k ≤ 2 ^ (den.log2 + 1) * 2 ^ k :=
        Nat.mul_le_mul_right _ (Nat.le_of_lt Nat.lt_log2_self)
    _ = 2 ^ (k + den.log2 + 1) := by rw [← Nat.pow_add]; congr 1; omega
    _ ≤ 2 ^ num.log2 := Nat.pow_le_pow_right (by decide) hle
    _ ≤ num := Nat.log2_self_le hn

theorem Reaches.mono (h : Reaches q x) (hr : r ≤ q) : Reaches r x := by
  cases h with
  | infinite => exact .infinite
  | finite h => exact .finite (hr.trans h)

theorem reaches_pack (h : q ≤ m * 2 ^ e) : Reaches q (pack false m e) := by
  unfold pack
  split
  · rename_i hm
    split
    · exact .infinite
    · have he : ((2 ^ 52 : Nat) : ℚ) * 2 ^ (e + 1) = m * 2 ^ e := by
        rw [hm, zpow_add_one₀ (by norm_num)]
        push_cast
        ring
      exact .finite (he ▸ h)
  · split
    · exact .infinite
    · exact .finite h

/-- Rounding does not pass a power of two. At an exponent up to that of the power the power is an
integer multiple of the last place. At a larger one the significand is positive. -/
theorem reaches_ofRatio (hd : 0 < den) (h : (2 ^ j : ℚ) ≤ num / den) :
    Reaches (2 ^ j) (ofRatio false num den) := by
  have hn : num ≠ 0 := by
    rintro rfl
    rw [Nat.cast_zero, zero_div] at h
    exact absurd h (not_le.mpr (by positivity))
  rw [ofRatio, if_neg hn]
  refine reaches_pack ?_
  generalize he : exponentOf num den = e
  have hround {k : Nat} (hk : (k : ℚ) * 2 ^ e ≤ num / den) :
      (k : ℚ) * 2 ^ e ≤ divEven (shift num den e).1 (shift num den e).2 * 2 ^ e := by
    have hle := le_divEven (shift_pos hd) ((mul_shift_le_iff hd).mpr hk)
    gcongr
  rcases le_or_gt e j with hj | hj
  · obtain ⟨k, hk⟩ : ∃ k : Nat, (j : Int) = k + e := ⟨(j - e).toNat, by omega⟩
    have hp : (2 ^ j : ℚ) = (2 ^ k : Nat) * 2 ^ e := by
      rw [← zpow_natCast, hk, zpow_add₀ (by norm_num), zpow_natCast]
      push_cast
      rfl
    rw [hp] at h ⊢
    exact hround h
  · obtain ⟨i, rfl⟩ : ∃ i : Nat, e = i := ⟨e.toNat, by omega⟩
    have hi : ((1 : Nat) : ℚ) * 2 ^ (i : Int) ≤ num / den := by
      rw [le_div_iff₀ (Nat.cast_pos.mpr hd), Nat.cast_one, one_mul, zpow_natCast, mul_comm]
      exact_mod_cast mul_exponentOf_le hn he
    calc (2 ^ j : ℚ) ≤ 2 ^ (i : Int) := by
          rw [← zpow_natCast]
          exact zpow_le_zpow_right₀ (by norm_num) (by omega)
      _ = ((1 : Nat) : ℚ) * 2 ^ (i : Int) := by rw [Nat.cast_one, one_mul]
      _ ≤ _ := hround hi

/-! ## Natural numbers, products, scaling -/

theorem reaches_ofNat (h : 2 ^ j ≤ n) : Reaches (2 ^ j) (ofNat n) := by
  refine reaches_ofRatio Nat.one_pos ?_
  rw [Nat.cast_one, div_one]
  exact_mod_cast h

theorem reaches_ofScaled (h : (2 ^ j : ℚ) ≤ m * 2 ^ e) : Reaches (2 ^ j) (ofScaled false m e) := by
  refine reaches_ofRatio (shift_pos Nat.one_pos) ?_
  rw [shift_div, Nat.cast_one, div_one, zpow_neg, div_inv_eq_mul]
  exact h

theorem isFinite_of_mul (h : (x.mul y).isFinite = true) :
    x.isFinite = true ∧ y.isFinite = true := by
  cases x <;> cases y <;> simp only [mul] at h <;>
    first
    | exact ⟨rfl, rfl⟩
    | cases h
    | (split at h <;> cases h)

/-- A finite product by a number from one on. -/
theorem reaches_mul (hx : Reaches (2 ^ j) x) (hy : Reaches 1 y) (hf : (x.mul y).isFinite = true) :
    Reaches (2 ^ j) (x.mul y) := by
  obtain ⟨hxf, hyf⟩ := isFinite_of_mul hf
  cases hx with
  | infinite => cases hxf
  | @finite m e hx =>
    cases hy with
    | infinite => cases hyf
    | @finite n f hy =>
      refine reaches_ofScaled ?_
      have hp : (0 : ℚ) ≤ m * 2 ^ e := by positivity
      calc (2 ^ j : ℚ) ≤ m * 2 ^ e := hx
        _ ≤ m * 2 ^ e * (n * 2 ^ f) := le_mul_of_one_le_right hp hy
        _ = ((m * n : Nat) : ℚ) * 2 ^ (e + f) := by
          rw [zpow_add₀ (by norm_num)]
          push_cast
          ring

theorem Reaches.isZero_eq_false (h : Reaches (2 ^ j) x) : x.isZero = false := by
  cases h with
  | infinite => rfl
  | @finite m e h =>
    refine beq_eq_false_iff_ne.mpr ?_
    rintro rfl
    rw [Nat.cast_zero, zero_mul] at h
    exact absurd h (not_le.mpr (by positivity))

/-- Scaling up by a power of ten keeps the powers of two that are reached. -/
theorem reaches_of_scaleTen? (hx : Reaches (2 ^ j) x) (h : scaleTen? x k = some y) :
    Reaches (2 ^ j) y := by
  have hten : Reaches 1 (powerOfTen (k : Int).natAbs) :=
    (reaches_ofNat (j := 0) (Nat.one_le_pow _ _ (by decide))).mono (by norm_num)
  have hk : (0 : Int) ≤ k := by omega
  rw [scaleTen?, if_pos hk] at h
  split at h
  · dsimp only at h
    split at h
    · rename_i hf
      cases h
      exact reaches_mul hx hten hf
    · cases h
  · rw [hx.isZero_eq_false] at h
    cases h

end ContractCall.Binary64
