/-!
# Short strings

Text of at most 31 characters fits into one field element. Longer text is sent as a sequence of
them.
-/

namespace ContractCall.ShortText

/-- The most characters that fit into one field element. -/
def maxLength : Nat := 31

/-- The text fits into one field element. Characters count, not bytes. -/
def isShort (s : String) : Bool :=
  decide (s.length ≤ maxLength)

/-- The text needs more than one field element. -/
def isLong (s : String) : Bool :=
  !isShort s

theorem isLong_iff {s : String} : isLong s = true ↔ maxLength < s.length := by
  simp [isLong, isShort]

end ContractCall.ShortText
