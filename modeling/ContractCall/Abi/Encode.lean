import ContractCall.Abi

/-!
# ABIs as JSON

The JSON form of an ABI: each entry an object whose first member `type` says which kind of entry it
is, then its fields in a fixed order. An optional field without a value is left out. The body of an
event follows its name as it was read.
-/

namespace ContractCall.Abi

/-- A member with a text. -/
def textMember (key value : String) : Json.Member :=
  (key, .string value)

/-- A member with a natural number, if there is one. -/
def wordMember (key : String) : Option Nat → List Json.Member
  | some n => [(key, .number (.integer n))]
  | none => []

/-- A member with a list. -/
def listMember {α : Type} (key : String) (encode : α → Json) (values : List α) : Json.Member :=
  (key, .array (values.map encode))

/-- The JSON form of a parameter. -/
def Param.toJson (p : Param) : Json :=
  .object [textMember "name" p.name, textMember "type" p.type]

/-- The JSON form of an output. -/
def Output.toJson (o : Output) : Json :=
  .object ((o.name.map (textMember "name")).toList ++ [textMember "type" o.type])

/-- The JSON form of a member or variant. -/
def Component.toJson (c : Component) : Json :=
  .object ([textMember "name" c.name, textMember "type" c.type] ++ wordMember "offset" c.offset)

/-- The members that give a signature. -/
def Signature.members (f : Signature) : List Json.Member :=
  [textMember "name" f.name, listMember "inputs" Param.toJson f.inputs,
    listMember "outputs" Output.toJson f.outputs] ++
    (f.stateMutability.map (textMember "state_mutability")).toList

/-- The JSON form of a signature. -/
def Signature.toJson (f : Signature) : Json :=
  .object f.members

/-- The members that give a struct. -/
def Struct.fields (s : Struct) : List Json.Member :=
  [textMember "name" s.name] ++ wordMember "size" s.size ++
    [listMember "members" Component.toJson s.members]

/-- The JSON form of a declared struct. -/
def Struct.toJson (s : Struct) : Json :=
  .object s.fields

/-- The members that give an enum. -/
def Enum.fields (e : Enum) : List Json.Member :=
  [textMember "name" e.name, listMember "variants" Component.toJson e.variants]

/-- The JSON form of a declared enum. -/
def Enum.toJson (e : Enum) : Json :=
  .object e.fields

mutual

/-- The JSON form of an entry. -/
def Entry.toJson : Entry → Json
  | .function f => .object (textMember "type" "function" :: f.members)
  | .constructor f => .object (textMember "type" "constructor" :: f.members)
  | .l1Handler f => .object (textMember "type" "l1_handler" :: f.members)
  | .struct s => .object (textMember "type" "struct" :: s.fields)
  | .enum e => .object (textMember "type" "enum" :: e.fields)
  | .interface name items =>
    .object [textMember "type" "interface", textMember "name" name,
      ("items", .array (Entry.listToJson items))]
  | .event e => .object (textMember "type" "event" :: textMember "name" e.name :: e.body)
  | .impl i =>
    .object [textMember "type" "impl", textMember "name" i.name,
      textMember "interface_name" i.interfaceName]

/-- The JSON forms of entries. -/
def Entry.listToJson : List Entry → List Json
  | [] => []
  | e :: rest => e.toJson :: Entry.listToJson rest

end

/-- The JSON form of an ABI. -/
def toJson (abi : Abi) : Json :=
  .array (Entry.listToJson abi.entries)

theorem Entry.listToJson_eq_map (es : List Entry) : Entry.listToJson es = es.map Entry.toJson := by
  induction es with
  | nil => rfl
  | cons e rest ih => simp [Entry.listToJson, ih]

end ContractCall.Abi
