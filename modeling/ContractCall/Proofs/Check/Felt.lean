import ContractCall.Proofs.Check.Acceptance
import ContractCall.Proofs.Numeral.Spelling

/-!
# Arguments for one field element

A felt, a class hash and a contract address each are one field element. Their check takes text that
is no hexadecimal numeral for a short string and any other argument for an integer.

* `feltTypes`: the types of one field element; `value_feltType` says that they share one check.
* `FitsOneFelt a`: an integer that the argument denotes is in range, and text that denotes none is
  short.
* `felt_accepts_integer_or_shortText`: an integer is accepted exactly if it is in range, and a short
  string without regard to what it denotes as a numeral.
* `not_fitsOneFelt_minusOne`: so a decimal numeral out of range is accepted.
-/

namespace ContractCall.Check

open CairoType Typing

variable {decls : Declarations} {name type : String} {a : Arg}

/-- The types of one field element. -/
def feltTypes : List String :=
  ["felt", "core::felt252", "core::starknet::class_hash::ClassHash",
    "core::starknet::contract_address::ContractAddress"]

/-- The argument stands for a value of one field element, be it an integer or a text. -/
structure FitsOneFelt (a : Arg) : Prop where
  integer : ∀ n, Denotes a n → InBits 252 n
  text : ∀ s, a = .text s → (∀ n, ¬ Denotes a n) → ShortText.isShort s = true

theorem classify_feltType (ht : type ∈ feltTypes) : classify decls type = some .felt ∨
    ∃ which, classify decls type = some (.literal which) := by
  simp only [feltTypes, List.mem_cons, List.not_mem_nil, or_false] at ht
  rcases ht with rfl | rfl | rfl | rfl
  · exact .inl rfl
  · exact .inl rfl
  · exact .inr ⟨.classHash, rfl⟩
  · exact .inr ⟨.contractAddress, rfl⟩

/-- Felts and literals share one check. -/
theorem value_of_classify_felt (hk : classify decls type = some .felt ∨
    ∃ which, classify decls type = some (.literal which)) :
    value decls name type a = felt name type a := by
  rcases hk with hk | ⟨which, hk⟩
  · rw [value_of_classify hk, kind]
  · rw [value_of_classify hk, kind]

theorem value_feltType (ht : type ∈ feltTypes) : value decls name type a = felt name type a :=
  value_of_classify_felt (classify_feltType ht)

/-- An argument other than plain text fits a felt as an integer only. -/
theorem fitsFelt_iff_of_isHex (ha : ∀ s, a = .text s → Numeral.isHex s = true) :
    FitsFelt a ↔ ∃ n, Denotes a n ∧ InBits 252 n := by
  constructor
  · intro h
    cases h with
    | text hs =>
      rw [ha _ rfl] at hs
      cases hs
    | integer hd hn => exact ⟨_, hd, hn⟩
  · rintro ⟨n, hd, hn⟩
    exact .integer hd hn

/-- An argument that is not plain text is accepted exactly if it denotes an integer of 252 bits. A
short string is accepted without a look at its range, also if it is a numeral. -/
theorem felt_accepts_integer_or_shortText (decls : Declarations) (name type : String) (a : Arg)
    (ht : type ∈ feltTypes) :
    ((∀ s, a = .text s → Numeral.isHex s = true) →
      (value decls name type a = .ok () ↔ ∃ n, Denotes a n ∧ 0 ≤ n ∧ n ≤ 2 ^ 252 - 1)) ∧
    (∀ s, a = .text s → Numeral.isHex s = false → ShortText.isShort s = true →
      value decls name type a = .ok ()) := by
  rw [value_feltType ht, felt_eq_ok_iff]
  refine ⟨fitsFelt_iff_of_isHex, ?_⟩
  rintro s rfl hs -
  exact .text hs

/-- A hexadecimal numeral is accepted up to the largest field element, a short string in any case. -/
theorem felt_accepts_integer_or_shortText_contractAddress :
    "core::starknet::contract_address::ContractAddress" ∈ feltTypes ∧
      value ⟨[], []⟩ "to" "core::starknet::contract_address::ContractAddress"
        (.text (Numeral.toHex (2 ^ 252 - 1))) = .ok () ∧
      value ⟨[], []⟩ "to" "core::starknet::contract_address::ContractAddress"
        (.text (Numeral.toHex (2 ^ 252))) ≠ .ok () ∧
      value ⟨[], []⟩ "to" "core::starknet::contract_address::ContractAddress"
        (.text "alice") = .ok () := by
  have ht : "core::starknet::contract_address::ContractAddress" ∈ feltTypes := by decide
  have h (a : Arg) := felt_accepts_integer_or_shortText ⟨[], []⟩ "to" _ a ht
  have hex (n : Nat) : ∀ s, Arg.text (Numeral.toHex n) = .text s → Numeral.isHex s = true := by
    rintro s ⟨⟩
    exact Numeral.isHex_toHex n
  have hd (n : Nat) : Denotes (.text (Numeral.toHex n)) n := .text (Numeral.integer?_toHex n)
  refine ⟨ht, ?_, ?_, ?_⟩
  · exact ((h _).1 (hex _)).mpr ⟨_, hd _, by decide, by decide⟩
  · intro hok
    obtain ⟨n, hn, -, hle⟩ := ((h _).1 (hex _)).mp hok
    rw [hn.unique (hd (2 ^ 252))] at hle
    exact absurd hle (by decide)
  · exact (h _).2 "alice" rfl (by decide) (by decide)

/-- The decimal numeral of a negative number is accepted for a felt, as a short string. -/
theorem not_fitsOneFelt_minusOne :
    "core::felt252" ∈ feltTypes ∧
      value ⟨[], []⟩ "value" "core::felt252" (.text "-1") = .ok () ∧ ¬ FitsOneFelt (.text "-1") := by
  refine ⟨by decide, rfl, fun h => ?_⟩
  have hn : InBits 252 (-1) := h.integer (-1) (.text (by decide))
  exact absurd hn.1 (by decide)

end ContractCall.Check
