import ContractCall.Json.Reader
import ContractCall.Proofs.Binary64.Rounding
import ContractCall.Proofs.Numeral.Spelling
import Mathlib.Data.List.TakeWhile

/-!
# Integer literals of JSON documents

A literal without fraction and exponent is an optional minus sign and digits. Up to 64 bits it is
read as its exact value. A longer one is read as a binary64 number, which is of the same sign and
not small, or as none.

* `IntegerLiteral n s`: the characters `s` are the literal of the integer `n`. There is one more
  literal, `-0`, which denotes no integer.
* `parse?_of_numberChars`: a document that is a number literal.
* `parse?_of_isWord`, `parse?_of_not_isWord`: what a document that is an integer literal stands for.
-/

namespace ContractCall.Json

open Numeral (ofDigits)

/-- The digits of an integer literal: at least one, and a zero in front only where it is all. -/
structure Unpadded (digits : List Char) : Prop where
  ne_nil : digits ≠ []
  isDigit : ∀ c ∈ digits, c.isDigit = true
  zero : digits.head? = some '0' → digits = ['0']

/-- The literal of an integer. -/
inductive IntegerLiteral : Int → List Char → Prop where
  | natural {digits : List Char} (h : Unpadded digits) : IntegerLiteral (ofDigits 10 digits) digits
  | negative {digits : List Char} (h : Unpadded digits) (h0 : ofDigits 10 digits ≠ 0) :
    IntegerLiteral (-(ofDigits 10 digits : Int)) ('-' :: digits)

/-- A binary64 number of the sign of the integer, and `2 ^ 60` or more in magnitude. -/
inductive Outsized (n : Int) : Binary64 → Prop where
  | positive {x : Binary64} (hn : 0 < n) (hx : x.Reaches (2 ^ 60)) : Outsized n x
  | negative {x : Binary64} (hn : n < 0) (hx : x.Reaches (2 ^ 60)) : Outsized n x.neg

variable {s : String} {chars digits : List Char} {c d : Char} {n : Int} {m : Nat} {v : Json}
  {negative : Bool}

/-! ## A document that is a number -/

namespace Token

theorem ne_of_isNumberChar (hc : isNumberChar c = true) (hd : isNumberChar d = false) : c ≠ d := by
  rintro rfl
  rw [hc] at hd
  cases hd

theorem isSpace_of_isNumberChar (h : isNumberChar c = true) : isSpace c = false := by
  have hne {d : Char} (hd : isNumberChar d = false) : (c == d) = false :=
    beq_eq_false_iff_ne.mpr (ne_of_isNumberChar h hd)
  simp only [isSpace, hne (d := ' ') rfl, hne (d := '\n') rfl, hne (d := '\t') rfl,
    hne (d := '\r') rfl, Bool.or_self]

theorem mark?_of_isNumberChar (h : isNumberChar c = true) : mark? c = none := by
  have hne {d : Char} (hd : isNumberChar d = false) : c ≠ d := ne_of_isNumberChar h hd
  simp only [mark?, hne (d := '[') rfl, hne (d := ']') rfl, hne (d := '\x7b') rfl,
    hne (d := '\x7d') rfl, hne (d := ',') rfl, hne (d := ':') rfl, if_false]

theorem isNumberChar_of_isDigit (h : c.isDigit = true) : isNumberChar c = true := by
  simp only [isNumberChar, h, Bool.true_or]

/-- Characters of a number are one token. -/
theorem tokens?_of_numberChars (hne : chars ≠ []) (h : ∀ c ∈ chars, isNumberChar c = true) :
    tokens? chars =
      ((Literal.ofChars? chars).bind Literal.number?).map fun x => [scalar (.number x)] := by
  obtain ⟨c, rest, rfl⟩ := List.exists_cons_of_ne_nil hne
  obtain ⟨hc, hr⟩ := List.forall_mem_cons.mp h
  have hq : c ≠ '"' := ne_of_isNumberChar hc rfl
  have htake : rest.takeWhile isNumberChar = rest := List.takeWhile_eq_self_iff.mpr hr
  have hdrop : rest.dropWhile isNumberChar = [] := List.dropWhile_eq_nil_iff.mpr hr
  rw [tokens?, tokensAfter?, isSpace_of_isNumberChar hc]
  simp only [Bool.false_eq_true, if_false, first?, mark?_of_isNumberChar hc, hq, hc, if_true, htake]
  cases (Literal.ofChars? (c :: rest)).bind Literal.number? with
  | none => rfl
  | some x =>
    simp only [Option.map_some, hdrop]
    rw [tokensAfter?]
    rfl

end Token

/-- A document of characters of a number is that number. -/
theorem parse?_of_numberChars (hne : s.toList ≠ [])
    (h : ∀ c ∈ s.toList, Token.isNumberChar c = true) :
    parse? s = ((Literal.ofChars? s.toList).bind Literal.number?).map .number := by
  rw [parse?, read?, Token.tokens?_of_numberChars hne h]
  cases (Literal.ofChars? s.toList).bind Literal.number? <;> rfl

/-! ## Digits without a sign -/

namespace Literal

theorem unsigned?_of_unpadded (h : Unpadded digits) :
    unsigned? negative digits = some ⟨negative, digits, none, none⟩ := by
  have htake : digits.takeWhile Char.isDigit = digits := List.takeWhile_eq_self_iff.mpr h.isDigit
  have hdrop : digits.dropWhile Char.isDigit = [] := List.dropWhile_eq_nil_iff.mpr h.isDigit
  have hz : ¬(digits = [] ∨ (digits.head? = some '0' ∧ 1 < digits.length)) := by
    rintro (hn | ⟨h0, hl⟩)
    · exact h.ne_nil hn
    · rw [h.zero h0] at hl
      exact absurd hl (by decide)
  simp only [unsigned?, Literal.digits, htake, hdrop, if_neg hz]
  rfl

/-- The value of a literal of sign and digits, other than `-0`. -/
theorem integer?_eq_ite (negative : Bool) (digits : List Char)
    (h0 : (negative && ofDigits 10 digits == 0) = false) :
    integer? ⟨negative, digits, none, none⟩ =
      if isWord (if negative then -(ofDigits 10 digits : Int) else ofDigits 10 digits) then
        some (if negative then -(ofDigits 10 digits : Int) else ofDigits 10 digits)
      else none := by
  have hz : (negative && (ofDigits 10 digits : Int) == 0) = false := by
    rw [← h0]
    cases negative <;> simp
  rw [integer?]
  simp only [hz, Bool.not_false, Bool.and_true]

/-- The digits that are kept are all of them, or have at least 60 bits. -/
theorem accumulate_eq_or_le (hd : ∀ c ∈ digits, c.isDigit = true) :
    (accumulate m digits).1 = digits.foldl (fun n c => n * 10 + (Numeral.digit? c).getD 0) m ∨
      2 ^ 60 ≤ (accumulate m digits).1 := by
  induction digits generalizing m with
  | nil => exact .inl rfl
  | cons c rest ih =>
    obtain ⟨hc, hr⟩ := List.forall_mem_cons.mp hd
    obtain ⟨d, hdc, hlt⟩ := Numeral.isDigitOf_eq_true.mp ((Numeral.isDigitOf_ten c).trans hc)
    rw [accumulate, List.foldl_cons]
    split
    · exact ih hr
    · rename_i hmax
      rw [hdc, Option.getD_some, maxSignificand] at hmax
      right
      show 2 ^ 60 ≤ m
      omega

/-- A literal whose value has more than 60 bits as a binary64 number. -/
theorem reaches_of_double? {x : Binary64} (hd : ∀ c ∈ digits, c.isDigit = true)
    (hn : 2 ^ 60 ≤ ofDigits 10 digits)
    (hx : double? ⟨negative, digits, none, none⟩ = some x) :
    ∃ y : Binary64, y.Reaches (2 ^ 60) ∧ x = if negative then y.neg else y := by
  have hsig : 2 ^ 60 ≤ (accumulate 0 digits).1 := by
    rcases accumulate_eq_or_le hd with he | hle
    · exact he ▸ hn
    · exact hle
  have he : double? ⟨negative, digits, none, none⟩ =
      Binary64.ofDecimal? negative (accumulate 0 digits).1 (accumulate 0 digits).2.length := by
    simp [double?, accumulate]
  rw [he, Binary64.ofDecimal?, Option.map_eq_some_iff] at hx
  obtain ⟨y, hy, rfl⟩ := hx
  exact ⟨y, Binary64.reaches_of_scaleTen? (Binary64.reaches_ofNat hsig) hy, rfl⟩

end Literal

/-! ## Integer literals -/

theorem IntegerLiteral.ne_nil (h : IntegerLiteral n chars) : chars ≠ [] := by
  cases h with
  | natural h => exact h.ne_nil
  | negative => exact List.cons_ne_nil _ _

theorem IntegerLiteral.isNumberChar (h : IntegerLiteral n chars) :
    ∀ c ∈ chars, Token.isNumberChar c = true := by
  cases h with
  | natural h => exact fun c hc => Token.isNumberChar_of_isDigit (h.isDigit c hc)
  | negative h =>
    exact List.forall_mem_cons.mpr
      ⟨rfl, fun c hc => Token.isNumberChar_of_isDigit (h.isDigit c hc)⟩

/-- The sign and the digits of a literal, as it is split into its parts. -/
theorem IntegerLiteral.exists_ofChars? (h : IntegerLiteral n chars) :
    ∃ negative digits, Literal.ofChars? chars = some ⟨negative, digits, none, none⟩ ∧
      (∀ c ∈ digits, c.isDigit = true) ∧ (negative && ofDigits 10 digits == 0) = false ∧
      n = if negative then -(ofDigits 10 digits : Int) else ofDigits 10 digits := by
  cases h with
  | natural h =>
    refine ⟨false, chars, ?_, h.isDigit, rfl, rfl⟩
    unfold Literal.ofChars?
    split
    · exact absurd (h.isDigit '-' (List.mem_cons_self ..)) (by decide)
    · exact Literal.unsigned?_of_unpadded h
  | negative h h0 =>
    exact ⟨true, _, Literal.unsigned?_of_unpadded h, h.isDigit, beq_eq_false_iff_ne.mpr h0, rfl⟩

/-- An integer that 64 bits hold is read as it is. -/
theorem parse?_of_isWord (h : IntegerLiteral n s.toList) (hn : Literal.isWord n = true) :
    parse? s = some (.number (.integer n)) := by
  obtain ⟨negative, digits, hs, -, h0, rfl⟩ := h.exists_ofChars?
  rw [parse?_of_numberChars h.ne_nil h.isNumberChar, hs, Option.bind_some, Literal.number?,
    Literal.integer?_eq_ite _ _ h0, if_pos hn]
  rfl

/-- A longer one is read as a binary64 number, if at all. -/
theorem parse?_of_not_isWord (h : IntegerLiteral n s.toList) (hn : ¬Literal.isWord n = true)
    (hv : parse? s = some v) : ∃ x, v = .number (.double x) ∧ Outsized n x := by
  obtain ⟨negative, digits, hs, hd, h0, rfl⟩ := h.exists_ofChars?
  rw [parse?_of_numberChars h.ne_nil h.isNumberChar, hs, Option.bind_some, Literal.number?,
    Literal.integer?_eq_ite _ _ h0, if_neg hn] at hv
  dsimp only at hv
  rw [Option.map_map, Option.map_eq_some_iff] at hv
  obtain ⟨x, hx, rfl⟩ := hv
  rw [Literal.isWord_iff] at hn
  have hlarge : 2 ^ 60 ≤ ofDigits 10 digits := by
    cases negative <;> simp only [if_true, Bool.false_eq_true, if_false] at hn <;> omega
  obtain ⟨y, hy, rfl⟩ := Literal.reaches_of_double? hd hlarge hx
  refine ⟨_, rfl, ?_⟩
  cases negative with
  | false => exact .positive (by simp only [Bool.false_eq_true, if_false]; omega) hy
  | true => exact .negative (by simp only [if_true]; omega) hy

end ContractCall.Json
