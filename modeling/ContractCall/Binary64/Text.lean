import ContractCall.Binary64
import ContractCall.Numeral
import ContractCall.Text.Lower

/-!
# Binary64 numbers from text

`ofText?` reads a decimal number with an optional sign, a fraction and an exponent, or the name of
one of the special numbers, and rounds once. Of the two parts around the point one may be empty.
-/

namespace ContractCall.Binary64

/-- The number nearest to `n * 10 ^ exponent`. Far outside of the range no digit counts: the number
is an infinity or zero. -/
def nearest (negative : Bool) (n : Nat) (exponent : Int) : Binary64 :=
  if n = 0 then finite negative 0 minExponent
  else if 400 < exponent then infinite negative
  else if (Nat.log2 n : Int) + exponent < -400 then finite negative 0 minExponent
  else if 0 ≤ exponent then ofRatio negative (n * 10 ^ exponent.toNat) 1
  else ofRatio negative n (10 ^ (-exponent).toNat)

/-- The special number of this name. -/
def named? (negative : Bool) (s : List Char) : Option Binary64 :=
  let word := Text.lower s
  if word = "inf" ∨ word = "infinity" then some (infinite negative)
  else if word = "nan" then some nan
  else none

/-- The exponent that follows a mantissa, zero when there is none. -/
def trailing? : List Char → Option Int
  | [] => some 0
  | c :: rest => if c = 'e' ∨ c = 'E' then Numeral.ofSignedRun? 10 rest else none

/-- The number with these digits around the point and this text behind them. -/
def assemble? (negative : Bool) (whole fraction rest : List Char) : Option Binary64 :=
  if whole.isEmpty && fraction.isEmpty then none
  else (trailing? rest).map fun e =>
    nearest negative (Numeral.ofDigits 10 (whole ++ fraction)) (e - fraction.length)

/-- The number that an unsigned text denotes. -/
def magnitude? (negative : Bool) (s : List Char) : Option Binary64 :=
  let whole := s.takeWhile Char.isDigit
  match s.dropWhile Char.isDigit with
  | '.' :: rest =>
    assemble? negative whole (rest.takeWhile Char.isDigit) (rest.dropWhile Char.isDigit)
  | rest => if whole.isEmpty then named? negative s else assemble? negative whole [] rest

/-- The number that the text denotes. -/
def ofText? : List Char → Option Binary64
  | '-' :: s => magnitude? true s
  | '+' :: s => magnitude? false s
  | s => magnitude? false s

end ContractCall.Binary64
