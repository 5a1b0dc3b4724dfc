import ContractCall.Abi
import ContractCall.Abi.DecodeError

/-!
# ABIs from JSON

`Abi.ofJson` reads an ABI from its JSON form. An entry is an object whose member `type` says which
kind of entry it is, or a list of that and the entry's fields in order. Parameters, outputs, members
and variants are objects or lists of their fields as well. An event is only an object.

Unknown members are ignored. A list, and the interface of an implementation, may be absent, and an
optional field absent or `null`. The members of an object are read in order, so that the first fault
counts; a known field that is given twice is a fault, and missing fields are reported last. The type
of an entry is read before its other members; inside an interface it may be a number, the place of
the type among the known ones.

The value may be the document as it is written, repeated keys included. In an event's body, which is
kept, the last of several members with one key counts.
-/

namespace ContractCall.Abi

/-- The outcome of reading part of an ABI. -/
abbrev Decoded (α : Type) := Except DecodeError α

namespace Decode

/-- A text. -/
def text : Json → Decoded String
  | .string s => .ok s
  | v => .error (.invalidType v .text)

/-- A natural number. -/
def word : Json → Decoded Nat
  | .number (.integer n) => if n < 0 then .error (.negative n) else .ok n.toNat
  | v => .error (.invalidType v .word)

/-- A value that may be `null`. -/
def optional {α : Type} (read : Json → Decoded α) : Json → Decoded (Option α)
  | .null => .ok none
  | v => (read v).map some

/-- A list of values. -/
def list {α : Type} (read : Json → Decoded α) : Json → Decoded (List α)
  | .array items => items.mapM read
  | v => .error (.invalidType v .sequence)

/-- A further value for a field, which must be the first one. -/
def once {α : Type} (field : String) (present : Option α) (read : Json → Decoded α) (v : Json) :
    Decoded (Option α) :=
  match present with
  | some _ => .error (.duplicateField field)
  | none => (read v).map some

/-- The value of a field without a default. -/
def required {α : Type} (field : String) : Option α → Decoded α
  | some v => .ok v
  | none => .error (.missingField field)

/-- A required field of a list form. -/
def item {α : Type} (shape : Shape) (i : Nat) (items : List Json) (read : Json → Decoded α) :
    Decoded α :=
  match items[i]? with
  | some v => read v
  | none => .error (.tooShort i shape)

/-- A field of a list form that may be left out at the end. -/
def itemOr {α : Type} (default : α) (i : Nat) (items : List Json) (read : Json → Decoded α) :
    Decoded α :=
  match items[i]? with
  | some v => read v
  | none => .ok default

/-- A list form has no more fields than the record. -/
def complete (shape : Shape) (length : Nat) : Decoded Unit :=
  if shape.size < length then .error (.tooLong length shape) else .ok ()

/-- A record as an object or as a list of its fields. -/
def record {α : Type} (shape : Shape) (ofMembers : List Json.Member → Decoded α)
    (ofItems : List Json → Decoded α) : Json → Decoded α
  | .object members => ofMembers members
  | .array items => ofItems items
  | v => .error (.invalidType v (.record shape))

/-! ## Parameters and outputs -/

/-- A parameter's members behind those that gave `name` and `type`. -/
def paramMembers (name type : Option String) : List Json.Member → Decoded Param
  | [] => do
    let name ← required "name" name
    let type ← required "type" type
    .ok ⟨name, type⟩
  | (k, v) :: rest => do
    if k = "name" then paramMembers (← once k name text v) type rest
    else if k = "type" then paramMembers name (← once k type text v) rest
    else paramMembers name type rest

/-- A parameter's fields in order. -/
def paramItems (items : List Json) : Decoded Param := do
  let name ← item .param 0 items text
  let type ← item .param 1 items text
  complete .param items.length
  .ok ⟨name, type⟩

/-- A parameter. -/
def param : Json → Decoded Param :=
  record .param (paramMembers none none) paramItems

/-- An output's members behind those that gave `name` and `type`. -/
def outputMembers (name : Option (Option String)) (type : Option String) :
    List Json.Member → Decoded Output
  | [] => do
    let type ← required "type" type
    .ok ⟨name.join, type⟩
  | (k, v) :: rest => do
    if k = "name" then outputMembers (← once k name (optional text) v) type rest
    else if k = "type" then outputMembers name (← once k type text v) rest
    else outputMembers name type rest

/-- An output's fields in order. -/
def outputItems (items : List Json) : Decoded Output := do
  let name ← itemOr none 0 items (optional text)
  let type ← item .output 1 items text
  complete .output items.length
  .ok ⟨name, type⟩

/-- An output. -/
def output : Json → Decoded Output :=
  record .output (outputMembers none none) outputItems

/-! ## Members and variants -/

/-- A component's members behind those that gave `name`, `type` and `offset`. -/
def componentMembers (name type : Option String) (offset : Option (Option Nat)) :
    List Json.Member → Decoded Component
  | [] => do
    let name ← required "name" name
    let type ← required "type" type
    .ok ⟨name, type, offset.join⟩
  | (k, v) :: rest => do
    if k = "name" then componentMembers (← once k name text v) type offset rest
    else if k = "type" then componentMembers name (← once k type text v) offset rest
    else if k = "offset" then componentMembers name type (← once k offset (optional word) v) rest
    else componentMembers name type offset rest

/-- A component's fields in order. -/
def componentItems (shape : Shape) (items : List Json) : Decoded Component := do
  let name ← item shape 0 items text
  let type ← item shape 1 items text
  let offset ← itemOr none 2 items (optional word)
  complete shape items.length
  .ok ⟨name, type, offset⟩

/-- A member of a struct or a variant of an enum. -/
def component (shape : Shape) : Json → Decoded Component :=
  record shape (componentMembers none none none) (componentItems shape)

/-! ## Entries without items -/

/-- The fields of a signature that have been read. -/
structure SignatureFields where
  name : Option String
  inputs : Option (List Param)
  outputs : Option (List Output)
  stateMutability : Option (Option String)

/-- A signature's members behind those that gave the fields already read. The mutability has two
spellings. -/
def signatureMembers (read : SignatureFields) : List Json.Member → Decoded Signature
  | [] => do
    let name ← required "name" read.name
    .ok ⟨name, read.inputs.getD [], read.outputs.getD [], read.stateMutability.join⟩
  | (k, v) :: rest => do
    if k = "name" then
      signatureMembers { read with name := ← once k read.name text v } rest
    else if k = "inputs" then
      signatureMembers { read with inputs := ← once k read.inputs (list param) v } rest
    else if k = "outputs" then
      signatureMembers { read with outputs := ← once k read.outputs (list output) v } rest
    else if k = "state_mutability" ∨ k = "stateMutability" then
      let mutability ← once "state_mutability" read.stateMutability (optional text) v
      signatureMembers { read with stateMutability := mutability } rest
    else signatureMembers read rest

/-- A signature's fields in order. -/
def signatureItems (items : List Json) : Decoded Signature := do
  let name ← item .signature 0 items text
  let inputs ← itemOr [] 1 items (list param)
  let outputs ← itemOr [] 2 items (list output)
  let stateMutability ← itemOr none 3 items (optional text)
  complete .signature items.length
  .ok ⟨name, inputs, outputs, stateMutability⟩

/-- A struct's members behind those that gave `name`, `size` and `members`. -/
def structMembers (name : Option String) (size : Option (Option Nat))
    (members : Option (List Component)) : List Json.Member → Decoded Struct
  | [] => do
    let name ← required "name" name
    .ok ⟨name, size.join, members.getD []⟩
  | (k, v) :: rest => do
    if k = "name" then structMembers (← once k name text v) size members rest
    else if k = "size" then structMembers name (← once k size (optional word) v) members rest
    else if k = "members" then
      structMembers name size (← once k members (list (component .structMember)) v) rest
    else structMembers name size members rest

/-- A struct's fields in order. -/
def structItems (items : List Json) : Decoded Struct := do
  let name ← item .struct 0 items text
  let size ← itemOr none 1 items (optional word)
  let members ← itemOr [] 2 items (list (component .structMember))
  complete .struct items.length
  .ok ⟨name, size, members⟩

/-- An enum's members behind those that gave `name` and `variants`. -/
def enumMembers (name : Option String) (variants : Option (List Component)) :
    List Json.Member → Decoded Enum
  | [] => do
    let name ← required "name" name
    .ok ⟨name, variants.getD []⟩
  | (k, v) :: rest => do
    if k = "name" then enumMembers (← once k name text v) variants rest
    else if k = "variants" then
      enumMembers name (← once k variants (list (component .enumVariant)) v) rest
    else enumMembers name variants rest

/-- An enum's fields in order. -/
def enumItems (items : List Json) : Decoded Enum := do
  let name ← item .enum 0 items text
  let variants ← itemOr [] 1 items (list (component .enumVariant))
  complete .enum items.length
  .ok ⟨name, variants⟩

/-- An event's members behind those that gave `name` and the body. -/
def eventMembers (name : Option String) (body : List Json.Member) :
    List Json.Member → Decoded Event
  | [] => do
    let name ← required "name" name
    .ok ⟨name, body⟩
  | (k, v) :: rest => do
    if k = "name" then eventMembers (← once k name text v) body rest
    else if k = "type" then eventMembers name body rest
    else eventMembers name (Assoc.put body k v.dedup) rest

/-- An implementation's members behind those that gave `name` and `interface_name`. -/
def implMembers (name interfaceName : Option String) : List Json.Member → Decoded Impl
  | [] => do
    let name ← required "name" name
    .ok ⟨name, interfaceName.getD ""⟩
  | (k, v) :: rest => do
    if k = "name" then implMembers (← once k name text v) interfaceName rest
    else if k = "interface_name" then implMembers name (← once k interfaceName text v) rest
    else implMembers name interfaceName rest

/-- An implementation's fields in order. -/
def implItems (items : List Json) : Decoded Impl := do
  let name ← item .impl 0 items text
  let interfaceName ← itemOr "" 1 items text
  complete .impl items.length
  .ok ⟨name, interfaceName⟩

/-! ## Entries -/

/-- The kinds of entries. -/
inductive Tag where
  | function
  | constructor
  | l1Handler
  | struct
  | enum
  | interface
  | event
  | impl
deriving DecidableEq

/-- The kinds of entries, in the order of their names. -/
def tags : List Tag :=
  [.function, .constructor, .l1Handler, .struct, .enum, .interface, .event, .impl]

/-- The kind of an entry from its type, which only inside an interface may be a number. -/
def tag (nested : Bool) : Json → Decoded Tag
  | .string s =>
    match (tagNames.zip tags).lookup s with
    | some t => .ok t
    | none => .error (.unknownTag s)
  | .number (.integer n) =>
    if nested && decide (0 ≤ n) then
      match tags[n.toNat]? with
      | some t => .ok t
      | none => .error (.tagOutOfRange n)
    else .error (.invalidType (.number (.integer n)) .tag)
  | v => .error (.invalidType v .tag)

/-- The kind of an entry from its members, of which exactly one is its type. -/
def tagOfMembers (nested : Bool) (read : Option Tag) : List Json.Member → Decoded Tag
  | [] => required "type" read
  | (k, v) :: rest => do
    if k = "type" then tagOfMembers nested (← once k read (tag nested) v) rest
    else tagOfMembers nested read rest

mutual

/-- An entry. -/
def entry (nested : Bool) : Json → Decoded Entry
  | .object members => do
    match ← tagOfMembers nested none members with
    | .function => (signatureMembers ⟨none, none, none, none⟩ members).map Entry.function
    | .constructor => (signatureMembers ⟨none, none, none, none⟩ members).map Entry.constructor
    | .l1Handler => (signatureMembers ⟨none, none, none, none⟩ members).map Entry.l1Handler
    | .struct => (structMembers none none none members).map Entry.struct
    | .enum => (enumMembers none none members).map Entry.enum
    | .interface => interfaceMembers none none members
    | .event => (eventMembers none [] members).map Entry.event
    | .impl => (implMembers none none members).map Entry.impl
  | .array [] => .error (.missingField "type")
  | .array (t :: fields) => do
    match ← tag nested t with
    | .function => (signatureItems fields).map Entry.function
    | .constructor => (signatureItems fields).map Entry.constructor
    | .l1Handler => (signatureItems fields).map Entry.l1Handler
    | .struct => (structItems fields).map Entry.struct
    | .enum => (enumItems fields).map Entry.enum
    | .interface => interfaceItems fields
    | .event => .error (.invalidType (.array fields) (.record .event))
    | .impl => (implItems fields).map Entry.impl
  | v => .error (.invalidType v .entry)

/-- The entries of a list. -/
def entries (nested : Bool) : List Json → Decoded (List Entry)
  | [] => .ok []
  | v :: rest => do
    let e ← entry nested v
    let es ← entries nested rest
    .ok (e :: es)

/-- The entries of an interface. -/
def nestedEntries : Json → Decoded (List Entry)
  | .array items => entries true items
  | v => .error (.invalidType v .sequence)

/-- An interface's members behind those that gave `name` and `items`. -/
def interfaceMembers (name : Option String) (items : Option (List Entry)) :
    List Json.Member → Decoded Entry
  | [] => do
    let name ← required "name" name
    .ok (.interface name (items.getD []))
  | (k, v) :: rest => do
    if k = "name" then interfaceMembers (← once k name text v) items rest
    else if k = "items" then
      match items with
      | some _ => .error (.duplicateField k)
      | none => interfaceMembers name (some (← nestedEntries v)) rest
    else interfaceMembers name items rest

/-- An interface's fields in order. -/
def interfaceItems : List Json → Decoded Entry
  | [] => .error (.tooShort 0 .interface)
  | [name] => do
    let name ← text name
    .ok (.interface name [])
  | name :: items :: rest => do
    let name ← text name
    let es ← nestedEntries items
    complete .interface (rest.length + 2)
    .ok (.interface name es)

end

end Decode

/-- The ABI of a JSON value. -/
def ofJson : Json → Decoded Abi
  | .array items => (Decode.entries false items).map Abi.mk
  | v => .error (.invalidType v .sequence)

end ContractCall.Abi
