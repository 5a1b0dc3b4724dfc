import ContractCall.Settings.Yaml.Source

/-!
# Scalars in quotes

Between single quotes a quote is written twice, between double quotes a backslash starts an escape.
A gap with line ends is folded in both; a backslash before a line end makes it mean nothing.
-/

namespace ContractCall.Settings.Yaml

/-- The character that an escape of one letter stands for. -/
def letter? (c : Char) : Option Char :=
  if c = '0' then some '\x00'
  else if c = 'a' then some '\x07'
  else if c = 'b' then some '\x08'
  else if c = 't' ∨ c = '\t' then some '\t'
  else if c = 'n' then some '\n'
  else if c = 'v' then some '\x0b'
  else if c = 'f' then some '\x0c'
  else if c = 'r' then some '\r'
  else if c = 'e' then some '\x1b'
  else if c = ' ' ∨ c = '"' ∨ c = '\x27' ∨ c = '\\' then some c
  else if c = 'N' then some (Char.ofNat 0x85)
  else if c = '_' then some (Char.ofNat 0xa0)
  else if c = 'L' then some (Char.ofNat 0x2028)
  else if c = 'P' then some (Char.ofNat 0x2029)
  else none

/-- The number of digits of an escape that gives a code point. -/
def codeLength? (c : Char) : Option Nat :=
  if c = 'x' then some 2 else if c = 'u' then some 4 else if c = 'U' then some 8 else none

/-- Where the reading of a scalar in quotes stands. -/
inductive Within where
  | text (gap : Gap)
  /-- Behind a single quote. -/
  | quote
  /-- Behind a backslash. -/
  | escape
  /-- In an escape's code point, of which so many digits are missing. -/
  | code (missing : Nat) (digits : List Char)

/-- Reads a scalar behind its opening quote, single or double, and gives its characters from the
last to the first and what follows it. -/
def quoted? (double : Bool) (read : List Char) : Within → List Placed →
    Option (List Char × List Placed)
  | .quote, [] => some (read, [])
  | _, [] => none
  | .quote, p :: rest =>
    if p.char = '\x27' then quoted? double ('\x27' :: read) (.text .none) rest
    else some (read, p :: rest)
  | .text gap, p :: rest =>
    if atMark (p :: rest) then none
    else if isGap p.char then quoted? double read (.text (gap.add p.char)) rest
    else if double ∧ p.char = '"' then some (gap.text ++ read, rest)
    else if double ∧ p.char = '\\' then quoted? double (gap.text ++ read) .escape rest
    else if !double ∧ p.char = '\x27' then quoted? double (gap.text ++ read) .quote rest
    else quoted? double (p.char :: gap.text ++ read) (.text .none) rest
  | .escape, p :: rest =>
    if isBreak p.char then quoted? double read (.text (.breaks false 0)) rest
    else
      match codeLength? p.char, letter? p.char with
      | some n, _ => quoted? double read (.code n []) rest
      | none, some c => quoted? double (c :: read) (.text .none) rest
      | none, none => none
  | .code missing digits, p :: rest =>
    if missing ≤ 1 then
      match ofCodePoint? (digits ++ [p.char]) with
      | some c => quoted? double (c :: read) (.text .none) rest
      | none => none
    else quoted? double read (.code (missing - 1) (digits ++ [p.char])) rest

end ContractCall.Settings.Yaml
