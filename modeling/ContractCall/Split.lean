import ContractCall.Power

/-!
# Split integers

An integer of 256 bits as two halves of 128 bits.
-/

namespace ContractCall.Split

/-- The number of bits of a half. -/
def halfBits : Nat := 128

/-- The integer with these halves. Their range is not checked. -/
def combine (low high : Int) : Int :=
  low + high * 2 ^ halfBits

/-- The integer fits into a half. -/
def fitsHalf (n : Int) : Bool :=
  decide (0 ≤ n) && decide (n < 2 ^ halfBits)

end ContractCall.Split
