import ContractCall.Binary64.Shortest
import ContractCall.Json

/-!
# Writing JSON documents

`compact` writes a value on one line without blanks, `pretty` with one item or member a line, each
level indented by two spaces. Strings escape the quote, the backslash and control characters, and
nothing else.

A binary64 number has its shortest digits, a tie going to the even one, and at least one of a point
and an exponent: positional between `1e-5` and `1e16`, with the exponent's sign elsewhere. JSON has
no number for an infinity or for `nan`; they are written as `null`.
-/

namespace ContractCall.Json

/-- A hexadecimal digit, lowercase. -/
def hexDigit (n : Nat) : Char :=
  Nat.digitChar (n % 16)

/-- A character as it stands in a string. -/
def escaped (c : Char) : List Char :=
  if c = '"' then ['\\', '"']
  else if c = '\\' then ['\\', '\\']
  else if c = '\x08' then ['\\', 'b']
  else if c = '\t' then ['\\', 't']
  else if c = '\n' then ['\\', 'n']
  else if c = '\x0c' then ['\\', 'f']
  else if c = '\r' then ['\\', 'r']
  else if c.toNat < 0x20 then ['\\', 'u', '0', '0', hexDigit (c.toNat / 16), hexDigit c.toNat]
  else [c]

/-- A string between quotes. -/
def stringText (s : String) : String :=
  String.ofList ('"' :: s.toList.flatMap escaped ++ ['"'])

/-- The text of a finite magnitude. -/
def magnitudeText (m : Nat) (e : Int) : String :=
  let d := Binary64.shortest .even m e
  if m = 0 then "0.0"
  else if -5 ≤ d.magnitude ∧ d.magnitude ≤ 15 then
    if 0 ≤ d.exponent then d.positional ++ ".0" else d.positional
  else d.scientific

/-- The text of a binary64 number. -/
def doubleText : Binary64 → String
  | .finite negative m e => (if negative then "-" else "") ++ magnitudeText m e
  | _ => "null"

/-- The text of a number. -/
def Number.text : Number → String
  | .integer n => Numeral.decimalInt n
  | .double x => doubleText x

/-- The text of a value without items and members. -/
def scalarText : Json → String
  | .null => "null"
  | .bool true => "true"
  | .bool false => "false"
  | .number n => n.text
  | .string s => stringText s
  | .array _ => "[]"
  | .object _ => "\x7b\x7d"

mutual

/-- The value on one line. -/
def compact : Json → String
  | .array items => "[" ++ ",".intercalate (compactItems items) ++ "]"
  | .object members => "\x7b" ++ ",".intercalate (compactMembers members) ++ "\x7d"
  | v => scalarText v

/-- Each item on one line. -/
def compactItems : List Json → List String
  | [] => []
  | v :: rest => compact v :: compactItems rest

/-- Each member on one line. -/
def compactMembers : List Member → List String
  | [] => []
  | (k, v) :: rest => (stringText k ++ ":" ++ compact v) :: compactMembers rest

end

/-- Parts between two brackets, one a line, the parts one level deeper than the brackets. -/
def block (indent left right : String) (parts : List String) : String :=
  let inner := indent ++ "  "
  left ++ "\n" ++ inner ++ (",\n" ++ inner).intercalate parts ++ "\n" ++ indent ++ right

mutual

/-- The value over several lines, whose first is already indented by `indent`. -/
def prettyAt (indent : String) : Json → String
  | .array (v :: rest) => block indent "[" "]" (prettyItems (indent ++ "  ") (v :: rest))
  | .object (m :: rest) => block indent "\x7b" "\x7d" (prettyMembers (indent ++ "  ") (m :: rest))
  | v => scalarText v

/-- Each item over several lines. -/
def prettyItems (indent : String) : List Json → List String
  | [] => []
  | v :: rest => prettyAt indent v :: prettyItems indent rest

/-- Each member over several lines. -/
def prettyMembers (indent : String) : List Member → List String
  | [] => []
  | (k, v) :: rest => (stringText k ++ ": " ++ prettyAt indent v) :: prettyMembers indent rest

end

/-- The value over several lines. -/
def pretty (v : Json) : String :=
  prettyAt "" v

end ContractCall.Json
