import ContractCall.Power

/-!
# Binary64 numbers

A binary64 number is not a number, an infinity, or a sign, a significand below `2 ^ 53` and a power
of two, so that every comparison and every rounding below is exact arithmetic on integers.

`ofRatio` rounds a quotient of natural numbers to the nearest binary64 number, a tie to the one with
the even significand; `mul` and `div` round the exact product and quotient.
-/

namespace ContractCall

/-- A number of the IEEE 754 format binary64. A finite one has the magnitude
`significand * 2 ^ exponent` with the least exponent, `-1074` or more, that keeps the significand
below `2 ^ 53`. -/
inductive Binary64 where
  | nan
  | infinite (negative : Bool)
  | finite (negative : Bool) (significand : Nat) (exponent : Int)
deriving DecidableEq

namespace Binary64

/-- The exponent of zero and of the subnormal numbers. -/
def minExponent : Int := -1074

/-- The exponent of the largest finite numbers. -/
def maxExponent : Int := 971

/-- The quotient rounded to the nearest integer, a tie to the even one. -/
def divEven (num den : Nat) : Nat :=
  let q := num / den
  let r := num % den
  if 2 * r < den then q else if den < 2 * r then q + 1 else q + q % 2

/-- The quotient `num / den` divided by `2 ^ e`, as a quotient. -/
def shift (num den : Nat) (e : Int) : Nat × Nat :=
  if 0 ≤ e then (num, den * 2 ^ e.toNat) else (num * 2 ^ (-e).toNat, den)

/-- The exponent at which a positive quotient has a 53-bit integer part, or `minExponent` where that
is larger. -/
def exponentOf (num den : Nat) : Int :=
  let e : Int := (Nat.log2 num : Int) - (Nat.log2 den : Int) - 52
  let scaled := shift num den e
  max minExponent (if scaled.1 < scaled.2 * 2 ^ 52 then e - 1 else e)

/-- The finite number with this significand and exponent, where a significand of `2 ^ 53` moves to
the next exponent and too large an exponent gives an infinity. -/
def pack (negative : Bool) (m : Nat) (e : Int) : Binary64 :=
  if m = 2 ^ 53 then
    if maxExponent < e + 1 then infinite negative else finite negative (2 ^ 52) (e + 1)
  else if maxExponent < e then infinite negative
  else finite negative m e

/-- The number nearest to `num / den`, a tie to the even significand. -/
def ofRatio (negative : Bool) (num den : Nat) : Binary64 :=
  if num = 0 then finite negative 0 minExponent
  else
    let e := exponentOf num den
    let scaled := shift num den e
    pack negative (divEven scaled.1 scaled.2) e

/-- The number nearest to a natural number. -/
def ofNat (n : Nat) : Binary64 :=
  ofRatio false n 1

/-- The number nearest to an integer. -/
def ofInt : Int → Binary64
  | .ofNat n => ofRatio false n 1
  | .negSucc n => ofRatio true (n + 1) 1

/-- The number nearest to `n * 2 ^ e`. -/
def ofScaled (negative : Bool) (n : Nat) (e : Int) : Binary64 :=
  let scaled := shift n 1 (-e)
  ofRatio negative scaled.1 scaled.2

/-- The number with the other sign. -/
def neg : Binary64 → Binary64
  | nan => nan
  | infinite s => infinite (!s)
  | finite s m e => finite (!s) m e

/-- The number is zero, of either sign. -/
def isZero : Binary64 → Bool
  | finite _ m _ => m == 0
  | _ => false

/-- The number is neither infinite nor `nan`. -/
def isFinite : Binary64 → Bool
  | finite .. => true
  | _ => false

/-- The rounded product. -/
def mul : Binary64 → Binary64 → Binary64
  | finite s m e, finite t n f => ofScaled (s != t) (m * n) (e + f)
  | infinite s, finite t n _ => if n = 0 then nan else infinite (s != t)
  | finite s m _, infinite t => if m = 0 then nan else infinite (s != t)
  | infinite s, infinite t => infinite (s != t)
  | nan, _ => nan
  | _, nan => nan

/-- The rounded quotient. -/
def div : Binary64 → Binary64 → Binary64
  | finite s m e, finite t n f =>
    if n = 0 then if m = 0 then nan else infinite (s != t)
    else
      let scaled := shift m n (f - e)
      ofRatio (s != t) scaled.1 scaled.2
  | infinite s, finite t _ _ => infinite (s != t)
  | finite s _ _, infinite t => finite (s != t) 0 minExponent
  | infinite _, infinite _ => nan
  | nan, _ => nan
  | _, nan => nan

/-- The number is larger than a natural number. -/
def exceeds (x : Binary64) (n : Nat) : Bool :=
  match x with
  | nan => false
  | infinite negative => !negative
  | finite negative m e =>
    let scaled := shift m 1 (-e)
    !negative && decide (n * scaled.2 < scaled.1)

/-- Equality of values: the two zeros are equal, and `nan` equals nothing. -/
def same : Binary64 → Binary64 → Bool
  | finite s m e, finite t n f => (m == 0 && n == 0) || (s == t && m == n && e == f)
  | infinite s, infinite t => s == t
  | _, _ => false

end Binary64

end ContractCall
