import ContractCall.Assoc
import ContractCall.Binary64

/-!
# JSON values

The members of an object keep their order, and the type does not forbid a repeated key: a document
may have one. `dedup` is the value such a document stands for, in which the last of several members
with one key counts and stands where the first one stood.

A number is an integer of 64 bits, signed or unsigned, or a binary64 number. Which of the two a
document's number is depends on how it is written (`Json.Literal.number?`).
-/

namespace ContractCall

/-- A number of a JSON document. -/
inductive Json.Number where
  | integer (n : Int)
  | double (x : Binary64)
deriving DecidableEq

/-- A JSON value. -/
inductive Json where
  | null
  | bool (b : Bool)
  | number (n : Json.Number)
  | string (s : String)
  | array (items : List Json)
  | object (members : List (String × Json))
deriving BEq, Inhabited

namespace Json

/-- A member's key and value. -/
abbrev Member := String × Json

mutual

/-- The value with at most one member for each key of an object, at every depth. -/
def dedup : Json → Json
  | .array items => .array (dedupItems items)
  | .object members => .object (Assoc.ofList (dedupMembers members))
  | v => v

/-- The items, each without repeated keys. -/
def dedupItems : List Json → List Json
  | [] => []
  | v :: rest => dedup v :: dedupItems rest

/-- The members with their values freed of repeated keys, their own keys as they are. -/
def dedupMembers : List Member → List Member
  | [] => []
  | (k, v) :: rest => (k, dedup v) :: dedupMembers rest

end

/-- The value is `null`. -/
def isNull : Json → Bool
  | .null => true
  | _ => false

end Json

end ContractCall
