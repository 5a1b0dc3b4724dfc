import ContractCall.Json

/-!
# Contract ABIs

An ABI is a list of entries: functions, constructors and handlers of messages from layer 1, which
are callable and have a signature; declared structs and enums; interfaces, which group entries;
events, whose body is kept as it was read; and implementations of interfaces.
-/

namespace ContractCall

namespace Abi

/-- A declared parameter. -/
structure Param where
  name : String
  type : String
deriving DecidableEq

/-- A declared return value. It may have no name. -/
structure Output where
  name : Option String
  type : String
deriving DecidableEq

/-- What a caller of a function sees. -/
structure Signature where
  name : String
  inputs : List Param
  outputs : List Output
  stateMutability : Option String
deriving DecidableEq

/-- A component of a struct or enum: a member or a variant. -/
structure Component where
  name : String
  type : String
  offset : Option Nat
deriving DecidableEq

/-- A declared struct. -/
structure Struct where
  name : String
  size : Option Nat
  members : List Component
deriving DecidableEq

/-- A declared enum. -/
structure Enum where
  name : String
  variants : List Component
deriving DecidableEq

/-- An event. Its body is not interpreted. -/
structure Event where
  name : String
  body : List Json.Member
deriving BEq

/-- An implementation of an interface. -/
structure Impl where
  name : String
  interfaceName : String
deriving DecidableEq

/-- One entry of an ABI. -/
inductive Entry where
  | function (signature : Signature)
  | constructor (signature : Signature)
  | l1Handler (signature : Signature)
  | struct (decl : Struct)
  | enum (decl : Enum)
  | interface (name : String) (items : List Entry)
  | event (decl : Event)
  | impl (decl : Impl)
deriving BEq

/-- The function only reads the state of its contract. -/
def Signature.isView (f : Signature) : Bool :=
  f.stateMutability == some "view"

namespace Entry

/-- The name of an entry. -/
def name : Entry → String
  | function f | constructor f | l1Handler f => f.name
  | struct s => s.name
  | enum e => e.name
  | interface n _ => n
  | event e => e.name
  | impl i => i.name

/-- The signature of a callable entry. -/
def signature? : Entry → Option Signature
  | function f | constructor f | l1Handler f => some f
  | _ => none

/-- The signature of a function, and of no other entry. -/
def function? : Entry → Option Signature
  | function f => some f
  | _ => none

/-- The signature of a constructor, and of no other entry. -/
def constructor? : Entry → Option Signature
  | constructor f => some f
  | _ => none

/-- The declaration of a struct entry. -/
def struct? : Entry → Option Struct
  | struct s => some s
  | _ => none

/-- The declaration of an enum entry. -/
def enum? : Entry → Option Enum
  | enum e => some e
  | _ => none

/-- The items of an interface entry. -/
def items? : Entry → Option (List Entry)
  | interface _ items => some items
  | _ => none

/-- The entry groups other entries. -/
def isInterface (e : Entry) : Bool :=
  e.items?.isSome

/-- The entry itself, or the items it groups. -/
def unfolded : Entry → List Entry
  | interface _ items => items
  | e => [e]

theorem signature?_eq_some_iff {e : Entry} {f : Signature} :
    e.signature? = some f ↔ e = function f ∨ e = constructor f ∨ e = l1Handler f := by
  cases e <;> simp [signature?]

theorem function?_eq_some_iff {e : Entry} {f : Signature} :
    e.function? = some f ↔ e = function f := by
  cases e <;> simp [function?]

theorem constructor?_eq_some_iff {e : Entry} {f : Signature} :
    e.constructor? = some f ↔ e = constructor f := by
  cases e <;> simp [constructor?]

theorem struct?_eq_some_iff {e : Entry} {s : Struct} : e.struct? = some s ↔ e = struct s := by
  cases e <;> simp [struct?]

theorem enum?_eq_some_iff {e : Entry} {s : Enum} : e.enum? = some s ↔ e = enum s := by
  cases e <;> simp [enum?]

end Entry

end Abi

/-- A contract ABI. -/
structure Abi where
  entries : List Abi.Entry
deriving BEq

namespace Abi

/-- Some entry is an interface. -/
def hasInterface (abi : Abi) : Bool :=
  abi.entries.any Entry.isInterface

/-- Every interface is replaced by its items, in place. Interfaces among the items stay. -/
def flatten (abi : Abi) : Abi :=
  ⟨abi.entries.flatMap Entry.unfolded⟩

/-- The declared structs by name, those directly in interfaces included. A later one replaces an
earlier one of its name. -/
def structs (abi : Abi) : List (String × Struct) :=
  Assoc.ofList ((abi.flatten.entries.filterMap Entry.struct?).map fun s => (s.name, s))

/-- The declared enums by name, those directly in interfaces included. A later one replaces an
earlier one of its name. -/
def enums (abi : Abi) : List (String × Enum) :=
  Assoc.ofList ((abi.flatten.entries.filterMap Entry.enum?).map fun e => (e.name, e))

theorem unfolded_of_not_isInterface {e : Entry} (h : e.isInterface = false) : e.unfolded = [e] := by
  cases e <;> simp_all [Entry.isInterface, Entry.items?, Entry.unfolded]

/-- An ABI without interfaces is its own flat form. -/
theorem flatten_of_not_hasInterface {abi : Abi} (h : abi.hasInterface = false) :
    abi.flatten = abi := by
  obtain ⟨entries⟩ := abi
  simp only [hasInterface, List.any_eq_false, Bool.not_eq_true] at h
  simp only [flatten, Abi.mk.injEq]
  induction entries with
  | nil => rfl
  | cons e rest ih =>
    rw [List.flatMap_cons, unfolded_of_not_isInterface (h e List.mem_cons_self),
      ih fun x hx => h x (List.mem_cons_of_mem e hx)]
    rfl

end Abi

end ContractCall
