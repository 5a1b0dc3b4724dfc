import ContractCall.Proofs.Numeral.Canonical
import ContractCall.Proofs.Numeral.Reading
import ContractCall.Selector

/-!
# The selector of a text

`Selector.ofText` takes a text for a selector, for a decimal numeral or for a name, in this order.
Only a name is hashed.

* `ofText_of_isHex`, `ofText_of_isDecimal`, `ofText_of_name`: what it gives in each case. All but a
  text that is a selector already get a canonical numeral.
* `ofText_idempotent`: what it gives is a hexadecimal numeral, and the hexadecimal numerals are the
  texts that it leaves as they are.
* `ofText_decimal`: a decimal numeral becomes the canonical numeral of its value and is never hashed.
-/

namespace ContractCall.Selector

open Numeral

variable {s : String} {n : Nat}

/-! ## The three cases -/

theorem ofText_of_isHex (h : isHex s = true) : ofText s = s := by
  rw [ofText, if_pos h]

/-- The value of a decimal numeral can always be rewritten, so the numeral is not taken for a name. -/
theorem ofText_of_isDecimal (h : IsDecimal s) (hn : Written 10 n s.toList) : ofText s = toHex n := by
  have hx : ¬ isHex s = true := by rw [h.isHex_eq_false]; exact Bool.false_ne_true
  have hr : hexOf? s = some (toHex n) := hexOf?_of_integer? (integer?_of_written hn)
  rw [ofText, if_neg hx, if_pos (isWhole_eq_true_iff.mpr h), hr, Option.getD_some]

theorem ofText_of_name (hx : isHex s = false) (hd : ¬ IsDecimal s) : ofText s = toHex (hash s) := by
  have hw : ¬ isWhole s = true := fun h => hd (isWhole_eq_true_iff.mp h)
  rw [ofText, hx, if_neg Bool.false_ne_true, if_neg hw, ofName]

/-- A text is its own selector, or it gets the canonical numeral of its value or of its hash. -/
theorem ofText_eq_self_or_canonical (s : String) :
    (isHex s = true ∧ ofText s = s) ∨ ∃ n, Canonical n (ofText s) := by
  cases hx : isHex s with
  | true => exact .inl ⟨rfl, ofText_of_isHex hx⟩
  | false =>
    by_cases hd : IsDecimal s
    · obtain ⟨n, hn⟩ := hd.exists_written
      exact .inr ⟨n, canonical_iff.mpr (ofText_of_isDecimal hd hn)⟩
    · exact .inr ⟨hash s, canonical_iff.mpr (ofText_of_name hx hd)⟩

theorem isHex_ofText (s : String) : isHex (ofText s) = true := by
  obtain ⟨hx, hs⟩ | ⟨n, hn⟩ := ofText_eq_self_or_canonical s
  · rw [hs, hx]
  · rw [canonical_iff.mp hn, isHex_toHex]

/-! ## The selectors as a whole -/

/-- The selector of any text is a hexadecimal numeral and its own selector. The hexadecimal numerals
are the only texts that are their own selectors, and every other text gets a canonical one. -/
theorem ofText_idempotent (s : String) :
    isHex (ofText s) = true ∧ ofText (ofText s) = ofText s ∧
      (ofText s = s ↔ isHex s = true) ∧ (ofText s = s ∨ ∃ n, Canonical n (ofText s)) := by
  have hx : isHex (ofText s) = true := isHex_ofText s
  have hfix : ofText s = s ↔ isHex s = true := by
    constructor
    · intro h
      rwa [h] at hx
    · exact ofText_of_isHex
  exact ⟨hx, ofText_of_isHex hx, hfix, (ofText_eq_self_or_canonical s).imp_left And.right⟩

/-- A decimal numeral denotes a number, whatever its length and the zeros in front of it. Its
selector is the canonical numeral of this number and denotes the same. It comes from `hexOf?`, which
never fails here, and not from a hash. Two decimal numerals have the same selector exactly if they
denote the same number. -/
theorem ofText_decimal (s : String) (hs : IsDecimal s) :
    ∃ n, Written 10 n s.toList ∧ Canonical n (ofText s) ∧ hexOf? s = some (ofText s) ∧
      integer? s = some (n : Int) ∧ integer? (ofText s) = integer? s ∧
      ∀ t, IsDecimal t → (ofText t = ofText s ↔ Written 10 n t.toList) := by
  obtain ⟨n, hn⟩ := hs.exists_written
  have ho : ofText s = toHex n := ofText_of_isDecimal hs hn
  have hi : integer? s = some (n : Int) := integer?_of_written hn
  refine ⟨n, hn, canonical_iff.mpr ho, ?_, hi, ?_, fun t ht => ?_⟩
  · rw [ho, hexOf?_of_integer? hi]
  · rw [ho, integer?_toHex, hi]
  · obtain ⟨m, hm⟩ := ht.exists_written
    rw [ho, ofText_of_isDecimal ht hm, toHex_inj]
    constructor
    · rintro rfl
      exact hm
    · exact hm.unique (by decide) (by decide)

/-- Zeros in front do not change the selector. -/
theorem ofText_decimal_256 : IsDecimal "256" ∧ IsDecimal "000256" ∧ ofText "256" = "0x100" ∧
    ofText "000256" = ofText "256" := by
  have h : IsDecimal "256" := isWhole_eq_true_iff.mp (by decide)
  have h' : IsDecimal "000256" := isWhole_eq_true_iff.mp (by decide)
  obtain ⟨n, hn, hc, -, -, -, ht⟩ := ofText_decimal "256" h
  have h256 : Written 10 256 "256".toList := ⟨0, by decide⟩
  rw [hn.unique (by decide) (by decide) h256] at hc ht
  exact ⟨h, h', (canonical_iff.mp hc).trans (by decide), (ht _ h').mpr ⟨3, by decide⟩⟩

end ContractCall.Selector
