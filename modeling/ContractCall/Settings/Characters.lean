import ContractCall.Numeral

/-!
# Characters of settings documents

What the formats laid out in lines have in common: white space within a line, line ends, and
characters given by their code point.
-/

namespace ContractCall.Settings

/-- The character is white space within a line. -/
def isSpace (c : Char) : Bool :=
  c == ' ' || c == '\t'

/-- The text without white space at its start. -/
def skipSpace (s : List Char) : List Char :=
  s.dropWhile isSpace

/-- The text with every line end of two characters as a single one. -/
def foldLineEnds : List Char → List Char
  | [] => []
  | '\r' :: '\n' :: rest => '\n' :: foldLineEnds rest
  | c :: rest => c :: foldLineEnds rest

/-- The character with the code point of the hexadecimal digits. -/
def ofCodePoint? (digits : List Char) : Option Char :=
  let n := Numeral.ofDigits 16 digits
  if digits.all Numeral.isHexDigit && decide n.isValidChar then some (Char.ofNat n) else none

end ContractCall.Settings
