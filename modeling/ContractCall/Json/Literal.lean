import ContractCall.Binary64.Decimal
import ContractCall.Json
import ContractCall.Numeral

/-!
# Number literals of JSON

`ofChars?` splits a literal into sign, integer part, fraction and exponent, and `number?` gives its
value. Without fraction and exponent it is an integer, as long as 64 bits hold it; `-0`, a longer
integer, and every other literal are binary64 numbers.

Of the digits of such a literal those count that fit into 64 bits, each later digit of the integer
part as a factor of ten. The number is the rounded significand scaled by a rounded power of ten. A
number that is too large is none.
-/

namespace ContractCall.Json

/-- The parts of a number literal. -/
structure Literal where
  negative : Bool
  whole : List Char
  fraction : Option (List Char)
  exponent : Option Int

namespace Literal

/-- Splits off the digits that the text starts with. -/
def digits (s : List Char) : List Char × List Char :=
  (s.takeWhile Char.isDigit, s.dropWhile Char.isDigit)

/-- What may follow the mantissa of a literal: nothing, or an exponent. -/
def tail? (negative : Bool) (whole : List Char) (fraction : Option (List Char)) :
    List Char → Option Literal
  | [] => some ⟨negative, whole, fraction, none⟩
  | c :: rest =>
    if c = 'e' ∨ c = 'E' then
      (Numeral.ofSignedRun? 10 rest).map fun e => ⟨negative, whole, fraction, some e⟩
    else none

/-- The literal without its sign: digits without a superfluous leading zero, then perhaps a point
and at least one digit, then perhaps an exponent. -/
def unsigned? (negative : Bool) (s : List Char) : Option Literal :=
  let (whole, rest) := digits s
  if whole = [] ∨ (whole.head? = some '0' ∧ 1 < whole.length) then none
  else
    match rest with
    | '.' :: rest =>
      let (fraction, rest) := digits rest
      if fraction = [] then none else tail? negative whole (some fraction) rest
    | rest => tail? negative whole none rest

/-- The literal that the whole text is. -/
def ofChars? : List Char → Option Literal
  | '-' :: s => unsigned? true s
  | s => unsigned? false s

/-- The largest significand. -/
def maxSignificand : Nat := 2 ^ 64 - 1

/-- The leading digits that fit into 64 bits together with those of `n`, and the rest. -/
def accumulate (n : Nat) : List Char → Nat × List Char
  | [] => (n, [])
  | c :: rest =>
    let m := n * 10 + (Numeral.digit? c).getD 0
    if m ≤ maxSignificand then accumulate m rest else (n, c :: rest)

/-- The literal as a binary64 number, unless it is too large. -/
def double? (l : Literal) : Option Binary64 :=
  let (n, dropped) := accumulate 0 l.whole
  let fraction := l.fraction.getD []
  let (significand, unread) := accumulate n fraction
  let read : Int := fraction.length - unread.length
  Binary64.ofDecimal? l.negative significand (dropped.length - read + l.exponent.getD 0)

/-- The integers that 64 bits hold, signed or unsigned. -/
def isWord (n : Int) : Bool :=
  decide (-2 ^ 63 ≤ n) && decide (n ≤ maxSignificand)

/-- The value of a literal that is only an optional sign and digits, where it is an integer. -/
def integer? (l : Literal) : Option Int :=
  match l.fraction, l.exponent with
  | none, none =>
    let n : Int := Numeral.ofDigits 10 l.whole
    let v := if l.negative then -n else n
    if isWord v && !(l.negative && n == 0) then some v else none
  | _, _ => none

/-- The number that a literal denotes, unless it is too large. -/
def number? (l : Literal) : Option Number :=
  match integer? l with
  | some n => some (.integer n)
  | none => (double? l).map .double

theorem isWord_iff {n : Int} : isWord n = true ↔ -2 ^ 63 ≤ n ∧ n ≤ 2 ^ 64 - 1 := by
  rw [isWord, Bool.and_eq_true, decide_eq_true_eq, decide_eq_true_eq]
  rfl

end Literal

end ContractCall.Json
