import ContractCall.Json.Printer
import ContractCall.Text.Quoted

/-!
# Faults in the JSON form of an ABI

`DecodeError` lists what can be wrong with a JSON value that should be an ABI, `message` words it.
`Shape` names the records that an ABI is made of.
-/

namespace ContractCall.Abi

/-- The records that an ABI is made of. -/
inductive Shape where
  | param
  | output
  | signature
  | structMember
  | struct
  | enumVariant
  | enum
  | interface
  | event
  | impl
deriving DecidableEq

/-- The record as messages call it. -/
def Shape.label : Shape → String
  | param => "struct AbiParam"
  | output => "struct AbiOutput"
  | signature => "struct FunctionAbi"
  | structMember => "struct StructMember"
  | struct => "struct StructAbi"
  | enumVariant => "struct EnumVariant"
  | enum => "struct EnumAbi"
  | interface => "struct InterfaceAbi"
  | event => "struct EventAbi"
  | impl => "struct ImplAbi"

/-- The number of fields of a record in list form. -/
def Shape.size : Shape → Nat
  | param | output | enum | interface | impl => 2
  | structMember | struct | enumVariant => 3
  | signature => 4
  | event => 1

/-- What a value should have been. -/
inductive Expected where
  | sequence
  | text
  | word
  | entry
  | tag
  | record (shape : Shape)
deriving DecidableEq

/-- What a value should have been, in the words of a message. -/
def Expected.label : Expected → String
  | sequence => "a sequence"
  | text => "a string"
  | word => "u64"
  | entry => "internally tagged enum AbiEntry"
  | tag => "variant identifier"
  | record shape => shape.label

/-- What is wrong with a JSON value that should be an ABI. -/
inductive DecodeError where
  /-- A field without a default has no value. -/
  | missingField (field : String)
  /-- A field has two values. -/
  | duplicateField (field : String)
  /-- An entry's type is none of the known ones. -/
  | unknownTag (tag : String)
  /-- An entry's type is a number that stands for none of the known ones. -/
  | tagOutOfRange (tag : Int)
  /-- A value has the wrong type. -/
  | invalidType (found : Json) (expected : Expected)
  /-- A number that should be a natural one is negative. -/
  | negative (n : Int)
  /-- A list form has too few fields. -/
  | tooShort (length : Nat) (shape : Shape)
  /-- A list form has too many fields. -/
  | tooLong (length : Nat) (shape : Shape)

/-- The known types of entries, in order. -/
def tagNames : List String :=
  ["function", "constructor", "l1_handler", "struct", "enum", "interface", "event", "impl"]

/-- A word between backticks. -/
def ticked (s : String) : String :=
  "`" ++ s ++ "`"

/-- A value as messages describe it. -/
def described : Json → String
  | .null => "null"
  | .bool b => "boolean " ++ ticked (if b then "true" else "false")
  | .number (.integer n) => "integer " ++ ticked (Numeral.decimalInt n)
  | .number (.double x) => "floating point " ++ ticked (Json.doubleText x)
  | .string s => "string " ++ Text.quote s
  | .array _ => "sequence"
  | .object _ => "map"

/-- The wording of a fault. -/
def DecodeError.message : DecodeError → String
  | missingField field => "missing field " ++ ticked field
  | duplicateField field => "duplicate field " ++ ticked field
  | unknownTag tag =>
    "unknown variant " ++ ticked tag ++ ", expected one of " ++
      ", ".intercalate (tagNames.map ticked)
  | tagOutOfRange tag =>
    "invalid value: integer " ++ ticked (Numeral.decimalInt tag) ++
      ", expected variant index 0 <= i < " ++ toString tagNames.length
  | invalidType found expected =>
    "invalid type: " ++ described found ++ ", expected " ++ expected.label
  | negative n => "invalid value: integer " ++ ticked (Numeral.decimalInt n) ++ ", expected u64"
  | tooShort length shape =>
    "invalid length " ++ toString length ++ ", expected " ++ shape.label ++ " with " ++
      toString shape.size ++ " elements"
  | tooLong length shape =>
    "invalid length " ++ toString length ++ ", expected " ++ toString shape.size ++
      " elements in sequence"

end ContractCall.Abi
