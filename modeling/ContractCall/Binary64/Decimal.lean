import ContractCall.Binary64

/-!
# Binary64 numbers from decimal ones

A decimal number is an integer times a power of ten. `ofDecimal?` rounds the integer, then scales it
by one power of ten that is itself rounded, in steps of `10 ^ 308` where the power is smaller than
that. A result that is too large is none.
-/

namespace ContractCall.Binary64

/-- The largest power of ten that is a finite binary64 number. -/
def maxPower : Nat := 308

/-- The number nearest to a power of ten. -/
def powerOfTen (k : Nat) : Binary64 :=
  ofNat (10 ^ k)

/-- The number scaled by a power of ten, unless it becomes too large. -/
def scaleTen? (x : Binary64) (k : Int) : Option Binary64 :=
  if k.natAbs ≤ maxPower then
    if 0 ≤ k then
      let y := x.mul (powerOfTen k.natAbs)
      if y.isFinite then some y else none
    else some (x.div (powerOfTen k.natAbs))
  else if x.isZero then some x
  else if 0 ≤ k then none
  else scaleTen? (x.div (powerOfTen maxPower)) (k + maxPower)
termination_by k.natAbs
decreasing_by
  simp only [maxPower] at *
  omega

/-- The number for `significand * 10 ^ exponent`, unless it is too large. -/
def ofDecimal? (negative : Bool) (significand : Nat) (exponent : Int) : Option Binary64 :=
  (scaleTen? (ofNat significand) exponent).map fun x => if negative then x.neg else x

end ContractCall.Binary64
