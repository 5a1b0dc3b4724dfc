import ContractCall.Proofs.CairoType
import ContractCall.Proofs.Check.Felt
import ContractCall.Proofs.Numeral.Reading

/-!
# Text given as an argument

What the checks for one field element and for an array of them make of a text.

* `felt_judges_hexNumeral`: a hexadecimal numeral is judged by its value where one element is asked
  for. The bare mark, which counts as one and denotes nothing, has the wrong type.
* `feltArray_takes_longText`: where an array of felts is asked for, a text is judged by its length
  alone. So a long hexadecimal numeral passes for text there (`not_refused_longHexNumeral`).
-/

namespace ContractCall.Check

open CairoType Typing

variable {decls : Declarations} {name type element s : String}

/-! ## One field element -/

/-- The check of a recognised hexadecimal numeral goes by its integer, if it has one. -/
theorem felt_of_isHex (hs : Numeral.isHex s = true) : felt name type (.text s) =
    (integer name type bigNumberish (.text s) >>= fun n => bound n name type .felt) := by
  have hp : isPlainText (.text s) = false := by
    rw [isPlainText, hs]
    rfl
  rw [felt, hp]
  rfl

theorem bound_felt (n : Nat) : bound n name type .felt =
    if n ≤ 2 ^ 252 - 1 then .ok () else .error (.outOfRange name type "[0, 2^252-1]") := by
  have hc : Bound.felt.contains n = true ↔ n ≤ 2 ^ 252 - 1 := by
    rw [Bound.contains, Bool.and_eq_true, decide_eq_true_eq, decide_eq_true_eq, Int.ofNat_le]
    exact and_iff_right (Int.natCast_nonneg n)
  rw [bound]
  simp only [hc]
  rfl

/-- A hexadecimal numeral with a digit is accepted exactly up to the largest field element, and out
of range above it. The mark alone is of the wrong type. -/
theorem felt_judges_hexNumeral (decls : Declarations) (name type s : String)
    (hk : classify decls type = some .felt ∨ ∃ which, classify decls type = some (.literal which))
    (hs : Numeral.isHex s = true) :
    (Numeral.stripMark s ≠ "" → ∃ n : Nat, Numeral.Written 16 n (Numeral.stripMark s).toList ∧
      Numeral.integer? s = some (n : Int) ∧ value decls name type (.text s) =
        if n ≤ 2 ^ 252 - 1 then .ok () else .error (.outOfRange name type "[0, 2^252-1]")) ∧
    (Numeral.stripMark s = "" → Numeral.integer? s = none ∧ value decls name type (.text s) =
      .error (.typeMismatch name type "String, Number or BigInt" "string")) := by
  rw [value_of_classify_felt hk, felt_of_isHex hs]
  refine ⟨fun hne => ?_, fun he => ?_⟩
  · obtain ⟨n, hw, hn⟩ := Numeral.exists_written_of_isHex hs hne
    have hi : integer name type bigNumberish (.text s) = .ok (n : Int) :=
      integer_eq_ok_iff.mpr (.text hn)
    refine ⟨n, hw, hn, ?_⟩
    rw [hi, ok_bind, bound_felt]
  · have hn := Numeral.integer?_of_isHex_of_stripMark_eq hs he
    have hi : integer name type bigNumberish (.text s) =
        .error (.typeMismatch name type bigNumberish "string") := by
      rw [integer, integer?, hn]
      rfl
    refine ⟨hn, ?_⟩
    rw [hi]
    rfl

/-- The least number above the field elements, and a bare mark. -/
theorem felt_judges_hexNumeral_above :
    (classify ⟨[], []⟩ "core::felt252" = some .felt ∧
      Numeral.isHex (Numeral.toHex (2 ^ 252)) = true ∧
      Numeral.stripMark (Numeral.toHex (2 ^ 252)) ≠ "" ∧ Numeral.isHex "0X" = true ∧
      Numeral.stripMark "0X" = "") ∧
    value ⟨[], []⟩ "x" "core::felt252" (.text (Numeral.toHex (2 ^ 252))) =
      .error (.outOfRange "x" "core::felt252" "[0, 2^252-1]") ∧
    value ⟨[], []⟩ "x" "core::felt252" (.text "0X") =
      .error (.typeMismatch "x" "core::felt252" "String, Number or BigInt" "string") := by
  have hk : classify ⟨[], []⟩ "core::felt252" = some .felt := by decide
  have hs : Numeral.isHex (Numeral.toHex (2 ^ 252)) = true := Numeral.isHex_toHex _
  have hne : Numeral.stripMark (Numeral.toHex (2 ^ 252)) ≠ "" := by decide
  have hs' : Numeral.isHex "0X" = true := by decide
  have he : Numeral.stripMark "0X" = "" := by decide
  obtain ⟨n, -, hn, hv⟩ := (felt_judges_hexNumeral ⟨[], []⟩ "x" _ _ (.inl hk) hs).1 hne
  rw [Numeral.integer?_toHex, Option.some.injEq, Int.natCast_inj] at hn
  subst hn
  have hv' := ((felt_judges_hexNumeral ⟨[], []⟩ "x" _ _ (.inl hk) hs').2 he).2
  exact ⟨⟨hk, hs, hne, hs', he⟩, hv, hv'⟩

/-- The bare mark is recognised as a hexadecimal numeral. Yet it has no value, and it is not taken
for text either. -/
theorem not_judged_bareMark : classify ⟨[], []⟩ "core::felt252" = some .felt ∧
    Numeral.isHex "0x" = true ∧ Numeral.integer? "0x" = none ∧
    value ⟨[], []⟩ "value" "core::felt252" (.text "0x") =
      .error (.typeMismatch "value" "core::felt252" "String, Number or BigInt" "string") :=
  ⟨by decide, by decide, by decide, rfl⟩

/-! ## Arrays of field elements -/

/-- A text is accepted for an array of felts exactly if it has more than 31 characters. A
hexadecimal numeral is no exception and is accepted from 30 digits on. Such numerals apart, the texts
accepted are the long ones that are no hexadecimal numerals. -/
theorem feltArray_takes_longText (decls : Declarations) (name type element s : String)
    (hk : classify decls type = some (.array element)) (he : isFelt element = true) :
    (value decls name type (.text s) =
      if 31 < s.length then .ok () else .error (.typeMismatch name type "Array" "string")) ∧
    (Numeral.isHex s = true →
      (value decls name type (.text s) = .ok () ↔ 30 ≤ (Numeral.stripMark s).length)) ∧
    ((value decls name type (.text s) = .ok () ↔ 31 < s.length ∧ Numeral.isHex s = false) ↔
      ¬ (31 < s.length ∧ Numeral.isHex s = true)) := by
  have hv : value decls name type (.text s) =
      if 31 < s.length then .ok () else .error (.typeMismatch name type "Array" "string") := by
    have hl : isLongText (.text s) = true ↔ 31 < s.length := ShortText.isLong_iff
    rw [value_of_classify hk, kind.eq_def]
    dsimp only
    rw [he, Bool.true_and]
    simp only [hl]
    rfl
  have hok : value decls name type (.text s) = .ok () ↔ 31 < s.length := by
    rw [hv]
    split <;> simp [*]
  refine ⟨hv, fun hs => ?_, ?_⟩
  · obtain ⟨mark, -, ht, -⟩ := Numeral.isHex_eq_true_iff.mp hs
    have hl : s.length = (Numeral.stripMark s).length + 2 := by
      rw [← String.length_toList, ht]
      rfl
    rw [hok, hl]
    omega
  · rw [hok]
    cases Numeral.isHex s <;> simp

/-- The hexadecimal numeral of 30 ones, which has 32 characters. -/
def longHexNumeral : String := "0x111111111111111111111111111111"

/-- It passes for long text where a pointer to felts is declared. One digit is refused. -/
theorem feltArray_takes_longText_pointer :
    (classify ⟨[], []⟩ "felt*" = some (.array "felt") ∧ isFelt "felt" = true ∧
      Numeral.isHex longHexNumeral = true) ∧
    value ⟨[], []⟩ "data" "felt*" (.text longHexNumeral) = .ok () ∧
    value ⟨[], []⟩ "data" "felt*" (.text "0x1") =
      .error (.typeMismatch "data" "felt*" "Array" "string") := by
  have hk : classify ⟨[], []⟩ "felt*" = some (.array "felt") := by decide
  have hs : Numeral.isHex longHexNumeral = true := by decide
  have h (s : String) := feltArray_takes_longText ⟨[], []⟩ "data" "felt*" "felt" s hk rfl
  exact ⟨⟨hk, rfl, hs⟩, ((h _).2.1 hs).mpr (by decide), (h _).1⟩

/-- A long hexadecimal numeral is accepted for an array of felts. -/
theorem not_refused_longHexNumeral :
    classify ⟨[], []⟩ (Wrapper.array.of "core::felt252") = some (.array "core::felt252") ∧
      isFelt "core::felt252" = true ∧ Numeral.isHex longHexNumeral = true ∧
      value ⟨[], []⟩ "data" (Wrapper.array.of "core::felt252") (.text longHexNumeral) = .ok () :=
  ⟨by decide, by decide, by decide, rfl⟩

end ContractCall.Check
