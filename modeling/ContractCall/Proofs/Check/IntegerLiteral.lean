import ContractCall.Arg.OfJson
import ContractCall.Proofs.Check.Uint
import ContractCall.Proofs.Json.IntegerLiteral

/-!
# Integer literals at unsigned integer types

The literal of an integer in a document is held exactly up to 64 bits, and as a binary64 number
beyond them. The check against an unsigned integer type judges it by the integer all the same: a
number above `2 ^ 53 - 1` is refused for its size, whether its digits were lost or not.

* `Holds n v`: the value `v` stands for the literal of `n`, as the reader has it or as the nearest
  binary64 number.
* `Beyond n x`: what the binary64 number of a longer literal is known to be.
* `uint_judges_literal`: the verdict on such a value is the one on the integer.
-/

namespace ContractCall.Check

open CairoType

/-- The value stands for the literal of the integer: it is what a document of the literal is read
as, or the integer up to 64 bits and a nearest binary64 number beyond them. -/
inductive Holds (n : Int) : Json → Prop where
  | read {s : String} {v : Json} (h : Json.IntegerLiteral n s.toList)
      (hv : Json.parse? s = some v) : Holds n v
  | word (h : -2 ^ 63 ≤ n ∧ n ≤ 2 ^ 64 - 1) : Holds n (.number (.integer n))
  | nearest {x : Binary64} (h : n < -2 ^ 63 ∨ 2 ^ 64 - 1 < n) (hx : x.Nearest n) :
    Holds n (.number (.double x))

/-- The integer needs more than 64 bits, and the number is on its side of the exact integers. -/
inductive Beyond (n : Int) (x : Binary64) : Prop where
  | above (hn : 2 ^ 64 - 1 < n) (hx : x.exceeds maxSafe = true)
  | below (hn : n < -2 ^ 63) (hx : x.exceeds maxSafe = false)

variable {decls : Declarations} {name : String} {w : Width} {n : Int} {x : Binary64} {v : Json}

/-! ## Binary64 numbers of long literals -/

theorem exceeds_of_reaches (h : x.Reaches (2 ^ 60)) : x.exceeds maxSafe = true := by
  rw [Binary64.exceeds_iff_above]
  cases h with
  | infinite => rfl
  | finite h =>
    rw [Binary64.Above, if_neg (by decide), one_mul]
    refine lt_of_lt_of_le ?_ h
    norm_num [maxSafe]

theorem exceeds_neg_of_reaches (h : x.Reaches (2 ^ 60)) : x.neg.exceeds maxSafe = false := by
  cases h with
  | infinite => rfl
  | finite => rfl

theorem beyond_of_outsized (hn : ¬(-2 ^ 63 ≤ n ∧ n ≤ 2 ^ 64 - 1)) (h : Json.Outsized n x) :
    Beyond n x := by
  cases h with
  | positive h0 hx => exact .above (by omega) (exceeds_of_reaches hx)
  | negative h0 hx => exact .below (by omega) (exceeds_neg_of_reaches hx)

/-- The powers `2 ^ 64` and `-2 ^ 63` are in the format, so a nearest number passes neither. -/
theorem beyond_of_nearest (hn : n < -2 ^ 63 ∨ 2 ^ 64 - 1 < n) (h : x.Nearest n) : Beyond n x := by
  rcases hn with hn | hn
  · have hy : (Binary64.finite true (2 ^ 52) 11).InFormat :=
      .finite (by decide) (by decide) (by decide)
    have hq : (Binary64.finite true (2 ^ 52) 11).toRat = ((-2 ^ 63 : Int) : ℚ) := by
      norm_num [Binary64.toRat]
    have hx : x.toRat ≤ ((-2 ^ 63 : Int) : ℚ) := by
      rw [← hq]
      exact h.toRat_le hy (hq ▸ Int.cast_le.mpr (Int.le_of_lt hn))
    refine .below hn (Bool.eq_false_iff.mpr fun he => ?_)
    rw [Binary64.exceeds_iff_above, Binary64.above_iff_of_inFormat h.inFormat] at he
    exact absurd (he.trans_le hx) (by norm_num [maxSafe])
  · have hy : (Binary64.finite false (2 ^ 52) 12).InFormat :=
      .finite (by decide) (by decide) (by decide)
    have hq : (Binary64.finite false (2 ^ 52) 12).toRat = ((2 ^ 64 : Int) : ℚ) := by
      norm_num [Binary64.toRat]
    have hx : ((2 ^ 64 : Int) : ℚ) ≤ x.toRat := by
      rw [← hq]
      exact h.le_toRat hy (hq ▸ Int.cast_le.mpr (by omega))
    refine .above hn ?_
    rw [Binary64.exceeds_iff_above, Binary64.above_iff_of_inFormat h.inFormat]
    exact lt_of_lt_of_le (by norm_num [maxSafe]) hx

/-- A value of a literal is the integer itself, or a binary64 number for a longer one. -/
theorem Holds.integer_or_beyond (h : Holds n v) :
    ((-2 ^ 63 ≤ n ∧ n ≤ 2 ^ 64 - 1) ∧ v = .number (.integer n)) ∨
      ∃ x, v = .number (.double x) ∧ Beyond n x := by
  cases h with
  | read h hv =>
    by_cases hn : Json.Literal.isWord n = true
    · rw [Json.parse?_of_isWord h hn] at hv
      exact .inl ⟨Json.Literal.isWord_iff.mp hn, (Option.some.inj hv).symm⟩
    · obtain ⟨x, rfl, hx⟩ := Json.parse?_of_not_isWord h hn hv
      exact .inr ⟨x, rfl, beyond_of_outsized (mt Json.Literal.isWord_iff.mpr hn) hx⟩
  | word h => exact .inl ⟨h, rfl⟩
  | nearest h hx => exact .inr ⟨_, rfl, beyond_of_nearest h hx⟩

/-! ## Verdicts -/

theorem value_number : value decls name w.typeName (.number n) =
    if 2 ^ 53 - 1 < n then .error (.oversizeNumber name)
    else if 0 ≤ n ∧ n ≤ 2 ^ w.bits - 1 then .ok ()
    else .error (.outOfRange name w.typeName w.rangeLabel) := by
  have hs : isOversize (.number n) = decide (2 ^ 53 - 1 < n) := rfl
  rw [value_typeName]
  split
  · rename_i h
    rw [uint, hs, if_pos (decide_eq_true h)]
  · rename_i h
    rw [uint_of_denotes (hs.trans (decide_eq_false h)) (.number n), bound_uint]

theorem value_float : value decls name w.typeName (.float x) =
    if x.exceeds maxSafe then .error (.oversizeNumber name)
    else .error (.typeMismatch name w.typeName bigNumberish "number") := by
  rw [value_typeName]
  rfl

/-- The verdict on a value of a literal, in terms of its integer alone. -/
theorem Holds.value_eq (h : Holds n v) : value decls name w.typeName (Arg.ofJson v) =
    if 2 ^ 53 - 1 < n then .error (.oversizeNumber name)
    else if n < -2 ^ 63 then .error (.typeMismatch name w.typeName bigNumberish "number")
    else if 0 ≤ n ∧ n ≤ 2 ^ w.bits - 1 then .ok ()
    else .error (.outOfRange name w.typeName w.rangeLabel) := by
  rcases h.integer_or_beyond with ⟨hn, rfl⟩ | ⟨x, rfl, hx⟩
  · have hlow : ¬n < -2 ^ 63 := by omega
    rw [Arg.ofJson, value_number, if_neg hlow]
  · rw [Arg.ofJson, value_float]
    cases hx with
    | above hn hx =>
      have hlarge : 2 ^ 53 - 1 < n := by omega
      rw [if_pos hx, if_pos hlarge]
    | below hn hx =>
      have hsmall : ¬2 ^ 53 - 1 < n := by omega
      rw [if_neg (Bool.eq_false_iff.mp hx), if_neg hsmall, if_pos hn]

/-- An integer literal of any length is judged by its integer. It is accepted up to the largest
value of the type and `2 ^ 53 - 1`, refused for its size above `2 ^ 53 - 1`, for its range
otherwise, and as no integer below `-2 ^ 63`. An accepted literal is the argument of its integer. -/
theorem uint_judges_literal (decls : Declarations) (name : String) (w : Width) (n : Int) (v : Json)
    (h : Holds n v) :
    (value decls name w.typeName (Arg.ofJson v) = .ok () ↔
      0 ≤ n ∧ n ≤ min (2 ^ w.bits - 1) (2 ^ 53 - 1)) ∧
    (value decls name w.typeName (Arg.ofJson v) = .error (.oversizeNumber name) ↔ 2 ^ 53 - 1 < n) ∧
    (value decls name w.typeName (Arg.ofJson v) =
        .error (.outOfRange name w.typeName w.rangeLabel) ↔
      (-2 ^ 63 ≤ n ∧ n < 0) ∨ (2 ^ w.bits - 1 < n ∧ n ≤ 2 ^ 53 - 1)) ∧
    (n < -2 ^ 63 → value decls name w.typeName (Arg.ofJson v) =
      .error (.typeMismatch name w.typeName bigNumberish "number")) ∧
    (value decls name w.typeName (Arg.ofJson v) = .ok () → Arg.ofJson v = .number n) := by
  have hw : (1 : Int) ≤ 2 ^ w.bits := by exact_mod_cast Nat.one_le_two_pow
  have hv : value decls name w.typeName (Arg.ofJson v) = _ := h.value_eq
  refine ⟨?accepted, ?oversize, ?outOfRange, fun hn => ?below, fun hok => ?exact⟩
  case accepted => rw [hv]; split_ifs <;> simp <;> omega
  case oversize => rw [hv]; split_ifs <;> simp <;> omega
  case outOfRange => rw [hv]; split_ifs <;> simp <;> omega
  case below => rw [hv, if_neg (by omega), if_pos hn]
  case exact =>
    rcases h.integer_or_beyond with ⟨-, rfl⟩ | ⟨x, rfl, hx⟩
    · rfl
    · rw [Arg.ofJson, value_float] at hok
      split at hok <;> cases hok

/-- The literals of `256`, which 64 bits hold, and of `2 ^ 64`, which is a binary64 number. -/
theorem uint_judges_literal_powersOfTwo :
    (Holds 256 (.number (.integer 256)) ∧
      value ⟨[], []⟩ "amount" Width.u8.typeName (.number 256) =
        .error (.outOfRange "amount" Width.u8.typeName "[0, 255]")) ∧
    Holds (2 ^ 64) (.number (.double (.finite false (2 ^ 52) 12))) ∧
      value ⟨[], []⟩ "amount" Width.u256.typeName (.float (.finite false (2 ^ 52) 12)) =
        .error (.oversizeNumber "amount") := by
  have hword : Holds 256 (.number (.integer 256)) := .word (by decide)
  have hlong : Holds (2 ^ 64) (.number (.double (.finite false (2 ^ 52) 12))) := by
    have hx : (Binary64.finite false (2 ^ 52) 12).InFormat :=
      .finite (by decide) (by decide) (by decide)
    refine .nearest (.inr (by decide)) (.of_toRat_eq hx ?_)
    norm_num [Binary64.toRat]
  obtain ⟨-, -, hrange, -⟩ := uint_judges_literal ⟨[], []⟩ "amount" .u8 _ _ hword
  obtain ⟨-, hsize, -⟩ := uint_judges_literal ⟨[], []⟩ "amount" .u256 _ _ hlong
  exact ⟨⟨hword, hrange.mpr (.inr (by decide))⟩, hlong, hsize.mpr (by decide)⟩

end ContractCall.Check
