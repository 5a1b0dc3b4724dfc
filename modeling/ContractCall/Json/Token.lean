import ContractCall.Json.Literal

/-!
# Tokens of a JSON document

`tokens?` splits a text into marks, words, strings and numbers. White space is the space, the tab
and the two line ends. In a string the backslash starts an escape, a code point above U+FFFF is a
pair of `\u` escapes, and a control character must be escaped.
-/

namespace ContractCall.Json

/-- A token of a JSON document. A scalar is a token with its value. -/
inductive Token where
  | openArray
  | closeArray
  | openObject
  | closeObject
  | comma
  | colon
  | scalar (v : Json)

namespace Token

/-- The character separates tokens. -/
def isSpace (c : Char) : Bool :=
  c == ' ' || c == '\n' || c == '\t' || c == '\r'

/-- The token that is a mark of one character. -/
def mark? (c : Char) : Option Token :=
  if c = '[' then some openArray
  else if c = ']' then some closeArray
  else if c = '\x7b' then some openObject
  else if c = '\x7d' then some closeObject
  else if c = ',' then some comma
  else if c = ':' then some colon
  else none

/-- The character can stand in a number. -/
def isNumberChar (c : Char) : Bool :=
  c.isDigit || c == '-' || c == '+' || c == '.' || c == 'e' || c == 'E'

/-- The value of a word. -/
def word? (s : List Char) : Option Json :=
  if s = ['n', 'u', 'l', 'l'] then some .null
  else if s = ['t', 'r', 'u', 'e'] then some (.bool true)
  else if s = ['f', 'a', 'l', 's', 'e'] then some (.bool false)
  else none

/-- The number that four hexadecimal digits denote. -/
def unit? (a b c d : Char) : Option Nat :=
  if [a, b, c, d].all Numeral.isHexDigit then some (Numeral.ofDigits 16 [a, b, c, d]) else none

/-- The unit opens a pair. -/
def isHigh (n : Nat) : Bool :=
  decide (0xd800 ≤ n) && decide (n < 0xdc00)

/-- The unit closes a pair. -/
def isLow (n : Nat) : Bool :=
  decide (0xdc00 ≤ n) && decide (n < 0xe000)

/-- The code point of a pair of units. -/
def pair (high low : Nat) : Char :=
  Char.ofNat (0x10000 + (high - 0xd800) * 0x400 + (low - 0xdc00))

/-- What stays of a text after a part of it that is not empty. -/
abbrev Rest (s : List Char) := { rest : List Char // rest.length < s.length }

/-- The character that an escape of one letter stands for. -/
def letter? (c : Char) : Option Char :=
  if c = '"' ∨ c = '\\' ∨ c = '/' then some c
  else if c = 'b' then some '\x08'
  else if c = 'f' then some '\x0c'
  else if c = 'n' then some '\n'
  else if c = 'r' then some '\r'
  else if c = 't' then some '\t'
  else none

/-- The character of an escape, read behind its backslash. Half a pair has none. -/
def escape? (s : List Char) : Option (Char × Rest s) :=
  match s with
  | 'u' :: a :: b :: c :: d :: rest =>
    match unit? a b c d with
    | none => none
    | some n =>
      if isLow n then none
      else if isHigh n then
        match rest with
        | '\\' :: 'u' :: e :: f :: g :: h :: rest =>
          match unit? e f g h with
          | none => none
          | some m =>
            if isLow m then some (pair n m, ⟨rest, by simp only [List.length_cons]; omega⟩)
            else none
        | _ => none
      else some (Char.ofNat n, ⟨rest, by simp only [List.length_cons]; omega⟩)
  | c :: rest => (letter? c).map fun ch => (ch, ⟨rest, by simp⟩)
  | [] => none

/-- The text of a string, read behind its first quote up to the closing one. -/
def body? (s : List Char) : Option (List Char × Rest s) :=
  match s with
  | [] => none
  | c :: rest =>
    if c = '"' then some ([], ⟨rest, by simp⟩)
    else if c = '\\' then
      match escape? rest with
      | none => none
      | some (ch, ⟨rest', h⟩) =>
        match body? rest' with
        | none => none
        | some (text, ⟨rest'', h'⟩) =>
          some (ch :: text, ⟨rest'', Nat.lt_trans h' (Nat.lt_succ_of_lt h)⟩)
    else if c.toNat < 0x20 then none
    else
      match body? rest with
      | none => none
      | some (text, ⟨rest', h⟩) => some (c :: text, ⟨rest', Nat.lt_succ_of_lt h⟩)
termination_by s.length
decreasing_by all_goals simp only [List.length_cons]; omega

theorem length_dropWhile_lt (p : Char → Bool) (c : Char) (s : List Char) :
    (s.dropWhile p).length < (c :: s).length := by
  have := (List.dropWhile_sublist p (l := s)).length_le
  simp only [List.length_cons]
  omega

/-- The first token of a text that starts with no space, and what follows it. -/
def first? (s : List Char) : Option (Token × Rest s) :=
  match s with
  | [] => none
  | c :: rest =>
    match mark? c with
    | some t => some (t, ⟨rest, by simp⟩)
    | none =>
      if c = '"' then
        (body? rest).map fun (text, ⟨rest', h⟩) =>
          (scalar (.string (String.ofList text)), ⟨rest', by simp only [List.length_cons]; omega⟩)
      else if isNumberChar c then
        ((Literal.ofChars? (c :: rest.takeWhile isNumberChar)).bind Literal.number?).map fun n =>
          (scalar (.number n), ⟨rest.dropWhile isNumberChar, length_dropWhile_lt _ c rest⟩)
      else
        (word? (c :: rest.takeWhile Char.isAlpha)).map fun v =>
          (scalar v, ⟨rest.dropWhile Char.isAlpha, length_dropWhile_lt _ c rest⟩)

/-- The tokens of the text behind those already read, which are given from the last to the first. -/
def tokensAfter? (read : List Token) (s : List Char) : Option (List Token) :=
  match s with
  | [] => some read.reverse
  | c :: rest =>
    if isSpace c then tokensAfter? read rest
    else
      match first? (c :: rest) with
      | none => none
      | some (t, rest') => tokensAfter? (t :: read) rest'.val
termination_by s.length
decreasing_by
  · simp
  · exact rest'.property

/-- The tokens of a text. -/
def tokens? (s : List Char) : Option (List Token) :=
  tokensAfter? [] s

end Token

end ContractCall.Json
