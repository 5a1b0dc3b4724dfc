import ContractCall.Arg
import ContractCall.Json.Literal

/-!
# Arguments as JSON

`toJson?` gives a JSON value that stands for an argument. Some arguments have none: an integer of
any size, a tuple, a number that JSON cannot hold, and an object that would be taken for an option,
a result or an enum value.
-/

namespace ContractCall.Arg

/-- An object with only this key is not read as an object. -/
def isReserved (key : String) : Bool :=
  ["Some", "None", "Ok", "Err", "variant"].contains key

/-- The only key of the members is reserved. -/
def hasReservedKey : List (String × Arg) → Bool
  | [(key, _)] => isReserved key
  | _ => false

mutual

/-- The JSON value that stands for an argument. -/
def toJson? : Arg → Option Json
  | bool b => some (.bool b)
  | number n => if Json.Literal.isWord n then some (.number (.integer n)) else none
  | float x => if x.isFinite then some (.number (.double x)) else none
  | text s => some (.string s)
  | array items => (itemsToJson? items).map Json.array
  | object members =>
    if hasReservedKey members then none else (membersToJson? members).map Json.object
  | optionNone => some (.object [("None", .null)])
  | optionSome v => (toJson? v).map fun j => .object [("Some", j)]
  | resultOk v => (toJson? v).map fun j => .object [("Ok", j)]
  | resultErr v => (toJson? v).map fun j => .object [("Err", j)]
  | variant name payload =>
    (toJson? payload).map fun j => .object [("variant", .object [(name, j)])]
  | bigint _ | tuple _ => none

/-- The JSON value of each item. -/
def itemsToJson? : List Arg → Option (List Json)
  | [] => some []
  | v :: rest =>
    match toJson? v, itemsToJson? rest with
    | some j, some js => some (j :: js)
    | _, _ => none

/-- The members with the JSON value of each argument. -/
def membersToJson? : List (String × Arg) → Option (List Json.Member)
  | [] => some []
  | (k, v) :: rest =>
    match toJson? v, membersToJson? rest with
    | some j, some js => some ((k, j) :: js)
    | _, _ => none

end

end ContractCall.Arg
