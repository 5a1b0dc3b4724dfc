import ContractCall.Text.Extending
import ContractCall.Text.Unprinted

/-!
# Quoted text

A text between double quotes, on one line and free of invisible characters: line ends, tabs and NUL
get a two-letter escape, the quote and the backslash a backslash, and every other character that is
unprinted or extends its neighbour is given by its code point.
-/

namespace ContractCall.Text

/-- The hexadecimal digits of a code point, lowercase and without padding, between braces. -/
def codePoint (c : Char) : List Char :=
  ['\\', 'u', '\x7b'] ++ Nat.toDigits 16 c.toNat ++ ['\x7d']

/-- The escape that stands for the character in quoted text, when it does not stand for itself. -/
def escape? (c : Char) : Option (List Char) :=
  if c = '\x00' then some ['\\', '0']
  else if c = '\t' then some ['\\', 't']
  else if c = '\r' then some ['\\', 'r']
  else if c = '\n' then some ['\\', 'n']
  else if c = '"' ∨ c = '\\' then some ['\\', c]
  else if isExtending c || isUnprinted c then some (codePoint c)
  else none

/-- One character as it stands between the quotes. -/
def escaped (c : Char) : List Char :=
  (escape? c).getD [c]

/-- The text between double quotes, character by character. -/
def quote (s : String) : String :=
  String.ofList ('"' :: s.toList.flatMap escaped ++ ['"'])

end ContractCall.Text
