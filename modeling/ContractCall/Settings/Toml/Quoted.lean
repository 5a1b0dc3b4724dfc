import ContractCall.Settings.Characters

/-!
# Strings of TOML

A string stands between double quotes, with escapes, or between single quotes, without. Three quotes
of either sort enclose a string of several lines; a line end right behind the opening ones does not
belong to it.
-/

namespace ContractCall.Settings.Toml

/-- The character may stand in a comment. -/
def isPlain (c : Char) : Bool :=
  c == '\t' || decide (0x20 ≤ c.toNat)

/-- The character may stand in a string. -/
def isText (c : Char) : Bool :=
  isPlain c && c != '\x7f'

/-- The character that an escape of one letter stands for. -/
def letter? (c : Char) : Option Char :=
  if c = '"' ∨ c = '\\' then some c
  else if c = 'b' then some '\x08'
  else if c = 't' then some '\t'
  else if c = 'n' then some '\n'
  else if c = 'f' then some '\x0c'
  else if c = 'r' then some '\r'
  else none

/-- The character is white space that an escaped line end swallows. -/
def isGap (c : Char) : Bool :=
  c == ' ' || c == '\t' || c == '\n'

/-- Where the reading of a string stands. -/
inductive Within where
  | text
  /-- Behind a backslash. -/
  | escape
  /-- In the code point of an escape, of which so many digits are missing. -/
  | code (missing : Nat) (digits : List Char)
  /-- In white space behind a backslash, in which a line end has come or not. -/
  | gap (ended : Bool)

/-- The rest of a gap goes on with this character. -/
def Within.goesOn (c : Char) : Within → Bool
  | gap _ => isGap c
  | _ => false

/-- A gap is not finished before its line has ended. -/
def Within.isOpen : Within → Bool
  | gap ended => !ended
  | _ => false

/-- The string that was read, its characters from the last to the first, and what follows it. -/
abbrev Found := Option (List Char × List Char)

/-- A string of several lines at its closing quotes. Up to two quotes before them belong to it. -/
def closing (quote : Char) (read rest : List Char) : List Char × List Char :=
  let extra := (rest.take 2).takeWhile (· == quote)
  (extra ++ read, rest.drop extra.length)

/-- Reads a string with escapes up to its closing quotes. -/
def quoted (lines : Bool) (read : List Char) : Within → List Char → Found
  | _, [] => none
  | .escape, c :: rest =>
    if c = 'u' then quoted lines read (.code 4 []) rest
    else if c = 'U' then quoted lines read (.code 8 []) rest
    else if lines ∧ isGap c then quoted lines read (.gap (c == '\n')) rest
    else
      match letter? c with
      | some ch => quoted lines (ch :: read) .text rest
      | none => none
  | .code missing digits, c :: rest =>
    if missing ≤ 1 then
      match ofCodePoint? (digits ++ [c]) with
      | some ch => quoted lines (ch :: read) .text rest
      | none => none
    else quoted lines read (.code (missing - 1) (digits ++ [c])) rest
  | within, c :: rest =>
    if within.goesOn c then quoted lines read (.gap (!within.isOpen || c == '\n')) rest
    else if within.isOpen then none
    else if c = '"' ∧ !lines then some (read, rest)
    else if c = '"' ∧ rest.take 2 = ['"', '"'] then some (closing '"' read (rest.drop 2))
    else if c = '\\' then quoted lines read .escape rest
    else if isText c ∨ (lines ∧ c = '\n') then quoted lines (c :: read) .text rest
    else none

/-- Reads a string without escapes up to its closing quotes. -/
def raw (lines : Bool) (read : List Char) : List Char → Found
  | [] => none
  | c :: rest =>
    if c = '\x27' ∧ !lines then some (read, rest)
    else if c = '\x27' ∧ rest.take 2 = ['\x27', '\x27'] then
      some (closing '\x27' read (rest.drop 2))
    else if isText c ∨ (lines ∧ c = '\n') then raw lines (c :: read) rest
    else none

/-- The text without a line end at its start. -/
def dropLineEnd : List Char → List Char
  | '\n' :: rest => rest
  | s => s

/-- The text of a string and what follows it. -/
def finish (found : Found) : Option (String × List Char) :=
  found.map fun (read, rest) => (String.ofList read.reverse, rest)

/-- A string of one line at the start of the text, and what follows it. -/
def shortString? : List Char → Option (String × List Char)
  | '"' :: rest => finish (quoted false [] .text rest)
  | '\x27' :: rest => finish (raw false [] rest)
  | _ => none

/-- A string at the start of the text, and what follows it. -/
def string? : List Char → Option (String × List Char)
  | '"' :: '"' :: '"' :: rest => finish (quoted true [] .text (dropLineEnd rest))
  | '\x27' :: '\x27' :: '\x27' :: rest => finish (raw true [] (dropLineEnd rest))
  | s => shortString? s

end ContractCall.Settings.Toml
