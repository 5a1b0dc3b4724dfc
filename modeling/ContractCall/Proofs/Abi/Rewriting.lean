import ContractCall.Abi.Decode
import ContractCall.Proofs.Json.Sorted
import Mathlib.Data.List.Pairwise
import Mathlib.Logic.Relation

/-!
# Documents that say the same

The members of a document that an ABI is read from may come in any order. Members that no record has
may be added, a field may be given under another of its names, and one that is absent may be given
the value it then has.

* `Place`: what a value of a document is read as. `Shape.fields` lists the fields of each record
  with their names, their places and what they are when absent.
* `Step p v w`: one such change somewhere in the value `v` at the place `p` makes it `w`.
* `Rewrites v w`: steps in either direction lead from one document to the other.
* `Abi.sorted`: the ABI with the bodies of its events as maps, the members by key.
-/

namespace ContractCall.Abi

open Decode

/-! ## Places -/

/-- What a value of a document is read as. -/
inductive Place where
  /-- A scalar, or a value that is not interpreted. -/
  | value
  | list (item : Place)
  | record (shape : Shape)
  | entry (nested : Bool)

/-- A field of a record: its names, what its value is read as, and what an absent one is. -/
structure Field where
  names : List String
  place : Place
  absent : Option Json

namespace Field

/-- A scalar without a default. -/
def required (name : String) : Field := ⟨[name], .value, none⟩

/-- A scalar that may be `null`. -/
def nullable (names : List String) : Field := ⟨names, .value, some .null⟩

/-- A list that may be absent. -/
def listOf (name : String) (item : Place) : Field := ⟨[name], .list item, some (.array [])⟩

end Field

/-- The fields of a record, in the order of its list form. The body of an event is no field. -/
def Shape.fields : Shape → List Field
  | param => [.required "name", .required "type"]
  | output => [.nullable ["name"], .required "type"]
  | signature => [.required "name", .listOf "inputs" (.record param),
    .listOf "outputs" (.record output), .nullable ["state_mutability", "stateMutability"]]
  | structMember | enumVariant => [.required "name", .required "type", .nullable ["offset"]]
  | struct => [.required "name", .nullable ["size"], .listOf "members" (.record structMember)]
  | enum => [.required "name", .listOf "variants" (.record enumVariant)]
  | interface => [.required "name", .listOf "items" (.entry true)]
  | event => [.required "name"]
  | impl => [.required "name", ⟨["interface_name"], .value, some (.string "")⟩]

/-- The record that an entry of this kind is. -/
def Decode.Tag.shape : Tag → Shape
  | .function | .constructor | .l1Handler => .signature
  | .struct => .struct
  | .enum => .enum
  | .interface => .interface
  | .event => .event
  | .impl => .impl

/-- These are the members of a record of the shape. Those of an entry say so by its type. -/
inductive HasShape : Place → List Json.Member → Shape → Prop where
  | record {shape : Shape} {ms : List Json.Member} : HasShape (.record shape) ms shape
  | entry {nested : Bool} {ms : List Json.Member} {v : Json} {t : Tag} (hm : ("type", v) ∈ ms)
      (ht : tag nested v = .ok t) : HasShape (.entry nested) ms t.shape

/-- The items in front of the fields in the list form of a record of the shape. -/
inductive Lead : Place → Shape → List Json → Prop where
  | record {shape : Shape} : Lead (.record shape) shape []
  | entry {nested : Bool} {v : Json} {t : Tag} (ht : tag nested v = .ok t) :
    Lead (.entry nested) t.shape [v]

/-- The fields of a record at a place. An entry also has a type. -/
def Place.fields : Place → Shape → List Field
  | .entry _, shape => .required "type" :: shape.fields
  | _, shape => shape.fields

/-- Some field of the record has this name. -/
def Knows (p : Place) (shape : Shape) (k : String) : Prop :=
  ∃ f ∈ p.fields shape, k ∈ f.names

/-! ## Steps -/

/-- One change of a value at a place. -/
inductive Step : Place → Json → Json → Prop where
  /-- Members in another order. -/
  | reorder {p : Place} {ms ms' : List Json.Member} (h : ms.Perm ms') :
    Step p (.object ms) (.object ms')
  /-- A change of an item of a list. -/
  | item {p : Place} {l r : List Json} {v w : Json} (h : Step p v w) :
    Step (.list p) (.array (l ++ v :: r)) (.array (l ++ w :: r))
  /-- A change inside a value that is not interpreted. -/
  | valueItem {l r : List Json} {v w : Json} (h : Step .value v w) :
    Step .value (.array (l ++ v :: r)) (.array (l ++ w :: r))
  | valueMember {l r : List Json.Member} {k : String} {v w : Json} (h : Step .value v w) :
    Step .value (.object (l ++ (k, v) :: r)) (.object (l ++ (k, w) :: r))
  /-- A change of the value of a field. -/
  | field {p : Place} {shape : Shape} {f : Field} {l r : List Json.Member} {k : String} {v w : Json}
      (hs : HasShape p (l ++ (k, v) :: r) shape) (hf : f ∈ shape.fields) (hk : k ∈ f.names)
      (h : Step f.place v w) : Step p (.object (l ++ (k, v) :: r)) (.object (l ++ (k, w) :: r))
  /-- A change of the value of another member, which an event keeps in its body. -/
  | other {p : Place} {shape : Shape} {l r : List Json.Member} {k : String} {v w : Json}
      (hs : HasShape p (l ++ (k, v) :: r) shape) (hk : ¬Knows p shape k) (h : Step .value v w) :
    Step p (.object (l ++ (k, v) :: r)) (.object (l ++ (k, w) :: r))
  /-- A further member that the record does not have. An event would keep it. -/
  | unknown {p : Place} {shape : Shape} {l r : List Json.Member} {k : String} {v : Json}
      (hs : HasShape p (l ++ r) shape) (he : shape ≠ .event) (hk : ¬Knows p shape k) :
    Step p (.object (l ++ r)) (.object (l ++ (k, v) :: r))
  /-- Another name of the same field. -/
  | rename {p : Place} {shape : Shape} {f : Field} {l r : List Json.Member} {k k' : String}
      {v : Json} (hs : HasShape p (l ++ (k, v) :: r) shape) (hf : f ∈ shape.fields)
      (hk : k ∈ f.names) (hk' : k' ∈ f.names) :
    Step p (.object (l ++ (k, v) :: r)) (.object (l ++ (k', v) :: r))
  /-- The default of an absent field. -/
  | default {p : Place} {shape : Shape} {f : Field} {l r : List Json.Member} {k : String} {d : Json}
      (hs : HasShape p (l ++ r) shape) (hf : f ∈ shape.fields) (hk : k ∈ f.names)
      (hd : f.absent = some d) (ha : ∀ m ∈ l ++ r, m.1 ∉ f.names) :
    Step p (.object (l ++ r)) (.object (l ++ (k, d) :: r))
  /-- A change of a field in the list form. -/
  | listed {p : Place} {shape : Shape} {lead l r : List Json} {f : Field} {v w : Json}
      (hl : Lead p shape lead) (hf : shape.fields[l.length]? = some f) (h : Step f.place v w) :
    Step p (.array (lead ++ (l ++ v :: r))) (.array (lead ++ (l ++ w :: r)))
  /-- The default of the next field in the list form. -/
  | trailing {p : Place} {shape : Shape} {lead l : List Json} {f : Field} {d : Json}
      (hl : Lead p shape lead) (hf : shape.fields[l.length]? = some f) (hd : f.absent = some d) :
    Step p (.array (lead ++ l)) (.array (lead ++ (l ++ [d])))

/-- Steps in either direction between documents, none of which repeats a key. -/
def Rewrites : Json → Json → Prop :=
  Relation.EqvGen fun v w => v.RepeatFree ∧ w.RepeatFree ∧ Step (.list (.entry false)) v w

/-! ## Bodies of events as maps -/

mutual

/-- The entry with the bodies of events sorted by key, also inside an interface. -/
def Entry.sorted : Entry → Entry
  | .interface name items => .interface name (Entry.sortedItems items)
  | .event e => .event ⟨e.name, Json.byKey (Json.sortedMembers e.body)⟩
  | e => e

/-- The items of an interface, each with the bodies of events sorted. -/
def Entry.sortedItems : List Entry → List Entry
  | [] => []
  | e :: rest => Entry.sorted e :: Entry.sortedItems rest

end

end Abi

/-- The ABI with the bodies of its events sorted by key. -/
def Abi.sorted (abi : Abi) : Abi :=
  ⟨Abi.Entry.sortedItems abi.entries⟩

namespace Abi

open Decode

/-! ## The fields of a shape -/

theorem length_fields (shape : Shape) : shape.fields.length = shape.size := by
  cases shape <;> rfl

variable {p : Place} {shape : Shape} {ms : List Json.Member} {f f' : Field} {k : String}

theorem mem_fields (hf : f ∈ shape.fields) : f ∈ p.fields shape := by
  cases p with
  | entry nested => exact List.mem_cons_of_mem _ hf
  | _ => exact hf

/-- No two fields of a record share a name, and the type of an entry is none of its fields. -/
theorem HasShape.nodup_names (h : HasShape p ms shape) :
    ((p.fields shape).flatMap Field.names).Nodup := by
  cases h with
  | record => cases shape <;> decide
  | @entry nested _ _ t => cases nested <;> cases t <;> decide

theorem HasShape.field_unique (h : HasShape p ms shape) (hf : f ∈ p.fields shape)
    (hf' : f' ∈ p.fields shape) (hk : k ∈ f.names) (hk' : k ∈ f'.names) : f = f' := by
  obtain ⟨-, hd⟩ := List.nodup_flatMap.mp h.nodup_names
  have : Std.Symm (Function.onFun List.Disjoint Field.names) := ⟨fun _ _ h _ ha hb => h hb ha⟩
  by_contra hne
  exact hd.forall hf hf' hne hk hk'

end Abi

end ContractCall
