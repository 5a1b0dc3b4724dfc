import ContractCall.Arg
import ContractCall.Json
import ContractCall.Power
import ContractCall.Text.Lower

/-!
# Values of settings

What a settings document holds, whatever the format of the document is. A reader that wants a text
or a flag takes every scalar that can be understood as one: `text?` and `flag?` say which.
-/

namespace ContractCall.Settings

/-- A value of a settings document. -/
inductive Value where
  | nothing
  | bool (b : Bool)
  | integer (n : Int)
  | float (x : Binary64)
  | text (s : String)
  | list (items : List Value)
  | table (members : List (String × Value))
deriving Inhabited

namespace Value

/-- The value as a text: every scalar has one. -/
def text? : Value → Option String
  | bool b => some (if b then "true" else "false")
  | integer n => some (Numeral.decimalInt n)
  | float x => some (Arg.floatText x)
  | text s => some s
  | nothing | list _ | table _ => none

/-- The flag that a word names, in letters of either case. -/
def flagOfWord? (s : String) : Option Bool :=
  let word := Text.lower s.toList
  if word = "1" ∨ word = "true" ∨ word = "on" ∨ word = "yes" then some true
  else if word = "0" ∨ word = "false" ∨ word = "off" ∨ word = "no" then some false
  else none

/-- The value as a flag: a number is one unless it is zero, and some words are. -/
def flag? : Value → Option Bool
  | bool b => some b
  | integer n => some (n != 0)
  | float x => some !x.isZero
  | text s => flagOfWord? s
  | nothing | list _ | table _ => none

/-- The integers of settings. -/
def isInteger (n : Int) : Bool :=
  decide (-2 ^ 63 ≤ n) && decide (n < 2 ^ 63)

/-- The integer as a value, unless it is too large. -/
def ofInteger? (n : Int) : Option Value :=
  if isInteger n then some (integer n) else none

/-- A number of a JSON document. An integer that is too large becomes a binary64 number. -/
def ofNumber : Json.Number → Value
  | .integer n => (ofInteger? n).getD (float (Binary64.ofInt n))
  | .double x => float x

mutual

/-- The value of a JSON document. -/
def ofJson : Json → Value
  | .null => nothing
  | .bool b => bool b
  | .number n => ofNumber n
  | .string s => text s
  | .array items => list (ofItems items)
  | .object members => table (ofMembers members)

/-- The values of the items. -/
def ofItems : List Json → List Value
  | [] => []
  | v :: rest => ofJson v :: ofItems rest

/-- The values of the members. -/
def ofMembers : List Json.Member → List (String × Value)
  | [] => []
  | (k, v) :: rest => (k, ofJson v) :: ofMembers rest

end

/-- The members of a table, and none of any other value. -/
def members : Value → List (String × Value)
  | table ms => ms
  | _ => []

end Value

end ContractCall.Settings
