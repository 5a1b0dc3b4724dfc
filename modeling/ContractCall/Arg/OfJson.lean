import ContractCall.Arg
import ContractCall.Json

/-!
# Arguments from JSON

`null` is an empty option. An object whose only key is `Some`, `Ok` or `Err` is that option or
result, and one whose only key is `None` is the empty option, whatever its value. An object whose
only key is `variant` is an enum value if it holds an object with exactly one member that is not
`null`: that member gives the variant and the payload. Every other object is an object.
-/

namespace ContractCall.Arg

mutual

/-- The argument that a JSON value stands for. -/
def ofJson : Json → Arg
  | .null => optionNone
  | .bool b => bool b
  | .number (.integer n) => number n
  | .number (.double x) => float x
  | .string s => text s
  | .array items => array (ofItems items)
  | .object [(key, value)] =>
    if key = "Some" then optionSome (ofJson value)
    else if key = "Ok" then resultOk (ofJson value)
    else if key = "Err" then resultErr (ofJson value)
    else if key = "None" then optionNone
    else if key = "variant" then
      match activeIn? value with
      | some (name, payload) => variant name payload
      | none => ofMembers [(key, ofJson value)]
    else ofMembers [(key, ofJson value)]
  | .object members => ofMembers (ofMemberValues members)

/-- The argument of each item. -/
def ofItems : List Json → List Arg
  | [] => []
  | v :: rest => ofJson v :: ofItems rest

/-- The members with the argument of each value. -/
def ofMemberValues : List Json.Member → List (String × Arg)
  | [] => []
  | (k, v) :: rest => (k, ofJson v) :: ofMemberValues rest

/-- The active variant of an object of variants, with its payload. -/
def activeIn? : Json → Option (String × Arg)
  | .object variants => active? variants
  | _ => none

/-- The only member whose value is not `null`, with the argument of that value. -/
def active? : List Json.Member → Option (String × Arg)
  | [] => none
  | (k, v) :: rest =>
    if v.isNull then active? rest
    else if rest.all fun m => m.2.isNull then some (k, ofJson v)
    else none

end

end ContractCall.Arg
