import ContractCall.Text.Blank

/-!
# Integers written as text

A numeral is decimal or, after the mark `0x` or `0X`, hexadecimal. `isHex` and `isWhole` recognise
the two unsigned forms, `integer?` reads either with an optional minus sign and surrounding white
space, and `toHex` writes the shortest lowercase hexadecimal form.

The digits after a hexadecimal mark may carry one more sign and, after the first digit, underscores.
-/

namespace ContractCall.Numeral

/-- The value of a decimal or hexadecimal digit, in either case. -/
def digit? (c : Char) : Option Nat :=
  if '0' ≤ c ∧ c ≤ '9' then some (c.toNat - 48)
  else if 'a' ≤ c ∧ c ≤ 'f' then some (c.toNat - 87)
  else if 'A' ≤ c ∧ c ≤ 'F' then some (c.toNat - 55)
  else none

/-- The character is a hexadecimal digit. -/
def isHexDigit (c : Char) : Bool :=
  (digit? c).isSome

/-- The character is a digit of this base, which is at most sixteen. -/
def isDigitOf (base : Nat) (c : Char) : Bool :=
  match digit? c with
  | some d => decide (d < base)
  | none => false

/-- The positional value of the digits, the most significant first. -/
def ofDigits (base : Nat) (digits : List Char) : Nat :=
  digits.foldl (fun n c => n * base + (digit? c).getD 0) 0

/-- The value of a non-empty run of digits. -/
def ofRun? (base : Nat) (s : List Char) : Option Nat :=
  if !s.isEmpty && s.all (isDigitOf base) then some (ofDigits base s) else none

/-- The value of a non-empty run of digits behind at most one sign. -/
def ofSignedRun? (base : Nat) : List Char → Option Int
  | '-' :: ds => (ofRun? base ds).map fun n => -(n : Int)
  | '+' :: ds => (ofRun? base ds).map fun n => (n : Int)
  | ds => (ofRun? base ds).map fun n => (n : Int)

/-- The text after a leading `0x` or `0X`. -/
def afterMark? : List Char → Option (List Char)
  | '0' :: 'x' :: rest => some rest
  | '0' :: 'X' :: rest => some rest
  | _ => none

/-- The text is `0x` or `0X` followed by hexadecimal digits, possibly none. -/
def isHex (s : String) : Bool :=
  match afterMark? s.toList with
  | some digits => digits.all isHexDigit
  | none => false

/-- The text is a non-empty run of decimal digits. -/
def isWholeChars (s : List Char) : Bool :=
  !s.isEmpty && s.all Char.isDigit

/-- The text is a non-empty run of decimal digits. -/
def isWhole (s : String) : Bool :=
  isWholeChars s.toList

/-- The text without a leading `0x` or `0X`. -/
def stripMark (s : String) : String :=
  match afterMark? s.toList with
  | some rest => String.ofList rest
  | none => s

/-- A hexadecimal digit followed by hexadecimal digits and underscores; the underscores have no
value. -/
def hexMagnitude? : List Char → Option Nat
  | [] => none
  | c :: rest =>
    if isHexDigit c && rest.all (fun d => isHexDigit d || d == '_') then
      some (ofDigits 16 ((c :: rest).filter (· != '_')))
    else none

/-- A hexadecimal magnitude behind at most one sign. -/
def hexInteger? : List Char → Option Int
  | '-' :: rest => (hexMagnitude? rest).map fun n => -(n : Int)
  | '+' :: rest => (hexMagnitude? rest).map fun n => (n : Int)
  | s => (hexMagnitude? s).map fun n => (n : Int)

/-- A marked hexadecimal or a decimal numeral without an outer sign. -/
def unsigned? (s : List Char) : Option Int :=
  match afterMark? s with
  | some digits => hexInteger? digits
  | none => if isWholeChars s then some (ofDigits 10 s) else none

/-- A numeral with at most one outer minus sign. -/
def signed? : List Char → Option Int
  | '-' :: rest => (unsigned? rest).map fun n => -n
  | s => unsigned? s

/-- The integer that the text denotes, white space at its ends aside. -/
def integer? (s : String) : Option Int :=
  signed? (Text.trim s.toList)

/-- The shortest lowercase hexadecimal numeral, marked `0x`. -/
def toHex (n : Nat) : String :=
  String.ofList ('0' :: 'x' :: Nat.toDigits 16 n)

/-- A numeral of either form as a hexadecimal one, if its value is not negative. -/
def hexOf? (s : String) : Option String :=
  match integer? s with
  | some (.ofNat n) => some (toHex n)
  | _ => none

/-- The decimal numeral of a natural number. -/
def decimal (n : Nat) : String :=
  String.ofList (Nat.toDigits 10 n)

/-- The decimal numeral of an integer, with a minus sign when it is negative. -/
def decimalInt : Int → String
  | .ofNat n => decimal n
  | .negSucc n => "-" ++ decimal (n + 1)

@[simp] theorem isHexDigit_eq_true {c : Char} : isHexDigit c = true ↔ ∃ d, digit? c = some d := by
  simp [isHexDigit, Option.isSome_iff_exists]

/-- A further digit multiplies the value by the base and adds its own. -/
theorem ofDigits_append_singleton (base : Nat) (digits : List Char) (c : Char) :
    ofDigits base (digits ++ [c]) = ofDigits base digits * base + (digit? c).getD 0 := by
  simp [ofDigits]

/-- Every digit is less than sixteen. -/
theorem digit?_lt {c : Char} {d : Nat} (h : digit? c = some d) : d < 16 := by
  simp only [digit?, Char.le_def, UInt32.le_iff_toNat_le] at h
  have hc : c.toNat = c.val.toNat := rfl
  split at h
  · rename_i hr
    have := hr.2
    simp at h this
    omega
  · split at h
    · rename_i hr
      have := hr.2
      simp at h this
      omega
    · split at h
      · rename_i hr
        have := hr.2
        simp at h this
        omega
      · simp at h

end ContractCall.Numeral
