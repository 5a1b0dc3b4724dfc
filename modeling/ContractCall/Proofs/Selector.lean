import ContractCall.Proofs.Check.Acceptance
import ContractCall.Proofs.Numeral.Spelling
import ContractCall.Selector
import Mathlib.Data.Nat.Digits.Defs

/-!
# Selectors as arguments

The selector of a name is a hexadecimal numeral of at most 250 bits, so it is an argument for every
parameter that takes a felt.

* `ofBytes_eq_ofDigits`: big-endian bytes are digits to the base 256.
* `value_toHex_eq_ok`: a written numeral of 252 bits passes the check for a felt or a literal.
* `ofName_fits_felt`: the form of a selector, its value, and the parameters that accept it.
-/

namespace ContractCall

/-- The value of big-endian bytes as digits, which are listed from the least significant one. -/
theorem Bytes.ofBytes_eq_ofDigits (bytes : List UInt8) :
    Bytes.ofBytes bytes = Nat.ofDigits 256 (bytes.map UInt8.toNat).reverse := by
  rw [Nat.ofDigits_eq_foldr, List.foldr_reverse, List.foldl_map, Bytes.ofBytes]
  congr 1
  funext n b
  rw [Nat.cast_id]
  omega

namespace Selector

open CairoType Typing

variable {decls : Declarations} {name type : String}

/-- A numeral of 252 bits is an argument for a felt and for a literal. -/
theorem value_toHex_eq_ok {n : Nat} (hn : n < 2 ^ 252)
    (hk : classify decls type = some .felt ∨ ∃ which, classify decls type = some (.literal which)) :
    Check.value decls name type (.text (Numeral.toHex n)) = .ok () := by
  have hb : InBits 252 n := ⟨Int.natCast_nonneg n, Int.le_sub_one_of_lt (by exact_mod_cast hn)⟩
  have hf : FitsFelt (.text (Numeral.toHex n)) := .integer (.text (Numeral.integer?_toHex n)) hb
  rw [Check.value_eq_ok_iff]
  rcases hk with hk | ⟨which, hk⟩
  · exact .felt hk hf
  · exact .literal hk hf

theorem length_toDigits_hash_le (name : String) : (Nat.toDigits 16 (hash name)).length ≤ 63 := by
  rw [Nat.length_toDigits_le_iff (by decide) (by decide)]
  exact Nat.lt_of_lt_of_le (hash_lt name) (by decide)

/-- The selector of a name is a shortest numeral of at most 63 digits. It is read as the low 250
bits of the digest of the name, and it is accepted as a felt, a class hash and an address of a
contract. -/
theorem ofName_fits_felt (name : String) :
    (∃ digits, (ofName name).toList = '0' :: 'x' :: digits ∧ Numeral.Shortest digits ∧
      1 ≤ digits.length ∧ digits.length ≤ 63) ∧
    Numeral.integer? (ofName name) = some (hash name : Int) ∧
    hash name =
      Nat.ofDigits 256 ((Keccak.digest name.toUTF8.toList).toList.map UInt8.toNat).reverse %
        2 ^ 250 ∧
    ∀ decls param,
      Check.value decls param "felt" (.text (ofName name)) = .ok () ∧
      Check.value decls param "core::felt252" (.text (ofName name)) = .ok () ∧
      Check.value decls param "core::starknet::class_hash::ClassHash" (.text (ofName name)) =
        .ok () ∧
      Check.value decls param "core::starknet::contract_address::ContractAddress"
        (.text (ofName name)) = .ok () := by
  have hlt : hash name < 2 ^ 252 := Nat.lt_of_lt_of_le (hash_lt name) (by decide)
  refine ⟨⟨_, Numeral.toList_toHex _, Numeral.shortest_toDigits _, Nat.length_toDigits_pos,
    length_toDigits_hash_le name⟩, Numeral.integer?_toHex _, ?_, fun decls param => ⟨?_, ?_, ?_, ?_⟩⟩
  · rw [← Bytes.ofBytes_eq_ofDigits]
    rfl
  · exact value_toHex_eq_ok hlt (.inl rfl)
  · exact value_toHex_eq_ok hlt (.inl rfl)
  · exact value_toHex_eq_ok hlt (.inr ⟨.classHash, rfl⟩)
  · exact value_toHex_eq_ok hlt (.inr ⟨.contractAddress, rfl⟩)

end Selector

end ContractCall
