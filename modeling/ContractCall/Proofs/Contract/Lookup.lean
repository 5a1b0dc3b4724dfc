import ContractCall.Contract

/-!
# The method that a call selects

A contract made from an ABI looks its methods up in the flat form of the ABI, whatever its layout
(`ofAbi_abi`). A call passes two searches: `isAvailable` asks for some function of the name that the
use admits, `method?` selects the first function of the name.

* `isAvailable_ofView`: what the first search finds, in terms of the flat entries.
* `method?_eq_findSome?`: the second search as one through all entries, for every use.
* `check_eq_ok_iff`: when `check` succeeds: both searches do, and the arguments fit the selected
  method, or a contract without the wanted constructor is deployed without arguments.
-/

namespace ContractCall

/-- The use that functions of this mutability serve. -/
def Use.ofView (view : Bool) : Use :=
  if view then .call else .invoke

/-- The signature of an entry that the use looks at. -/
def Use.signature? : Use → Abi.Entry → Option Abi.Signature
  | deploy => Abi.Entry.constructor?
  | call | invoke => Abi.Entry.function?

namespace Contract

/-! ## The contract of an ABI -/

/-- Methods are looked up in the flat form of an ABI. -/
theorem ofAbi_abi (abi : Abi) : (ofAbi abi).abi = abi.flatten :=
  Abi.layout_flatten abi

/-- Declarations are those of the flat form. -/
theorem ofAbi_decls (abi : Abi) :
    (ofAbi abi).decls = ⟨abi.flatten.structs, abi.flatten.enums⟩ := by
  rw [← ofAbi_abi]
  rfl

theorem mem_functions_ofAbi {abi : Abi} {f : Abi.Signature} :
    f ∈ (ofAbi abi).functions ↔ Abi.Entry.function f ∈ abi.flatten.entries := by
  rw [functions, ofAbi_abi, List.mem_filterMap]
  simp only [Abi.Entry.function?_eq_some_iff, exists_eq_right]

theorem mem_constructors_ofAbi {abi : Abi} {f : Abi.Signature} :
    f ∈ (ofAbi abi).constructors ↔ Abi.Entry.constructor f ∈ abi.flatten.entries := by
  rw [constructors, ofAbi_abi, List.mem_filterMap]
  simp only [Abi.Entry.constructor?_eq_some_iff, exists_eq_right]

/-! ## The two searches -/

variable {c : Contract} {use : Use} {method : String} {args : List Arg} {f : Abi.Signature}

theorem isAvailable_ofView {view : Bool} : c.isAvailable (.ofView view) method = true ↔
    ∃ f ∈ c.functions, f.name = method ∧ f.isView = view := by
  cases view <;> simp [Use.ofView, isAvailable]

theorem method?_ofView {view : Bool} :
    c.method? (.ofView view) method = c.functions.find? fun f => f.name == method := by
  cases view <;> rfl

/-- A use that finds a function of the wanted mutability selects some function. -/
theorem exists_method?_of_isAvailable {view : Bool}
    (h : c.isAvailable (.ofView view) method = true) : ∃ f, c.method? (.ofView view) method = some f := by
  obtain ⟨f, hf, hn, -⟩ := isAvailable_ofView.mp h
  rw [method?_ofView, ← Option.isSome_iff_exists, List.find?_isSome]
  exact ⟨f, hf, beq_iff_eq.mpr hn⟩

/-- A search among the entries of one sort is one among all entries. -/
theorem find?_filterMap_eq_findSome? {α β : Type} (g : α → Option β) (p : β → Bool) (l : List α) :
    (l.filterMap g).find? p = l.findSome? fun x => (g x).filter p := by
  induction l with
  | nil => rfl
  | cons x l ih =>
    rw [List.findSome?_cons, ← ih]
    cases hx : g x with
    | none => rw [List.filterMap_cons_none hx, Option.filter_none]
    | some y =>
      rw [List.filterMap_cons_some hx, List.find?_cons, Option.filter_some]
      cases p y <;> rfl

/-- The first entry of the name, among those that the use looks at, is the selected one. -/
theorem method?_eq_findSome? : c.method? use method =
    c.abi.entries.findSome? fun e => (use.signature? e).filter fun f => f.name == method := by
  cases use <;> exact find?_filterMap_eq_findSome? _ _ _

/-! ## The outcome of a call -/

theorem mapError_eq_ok_iff {ε ε' α : Type} {x : Except ε α} {g : ε → ε'} {v : α} :
    x.mapError g = .ok v ↔ x = .ok v := by
  cases x with
  | error e => exact ⟨nofun, nofun⟩
  | ok w =>
    constructor
    · rintro ⟨⟩
      rfl
    · rintro ⟨⟩
      rfl

theorem checkArgs_eq_ok_iff : c.checkArgs f args = .ok () ↔
    args.length = c.layout.arity f ∧ Check.args c.decls f args = .ok () := by
  unfold checkArgs
  split
  · rename_i hl
    exact ⟨nofun, fun h => absurd h.1 hl⟩
  · rename_i hl
    rw [mapError_eq_ok_iff]
    exact ⟨fun h => ⟨Decidable.not_not.mp hl, h⟩, fun h => h.2⟩

/-- When a call is well formed. -/
theorem check_eq_ok_iff : c.check use method args = .ok () ↔
    c.isAvailable use method = true ∧
      ((∃ f, c.method? use method = some f ∧ c.checkArgs f args = .ok ()) ∨
        (c.method? use method = none ∧ use = .deploy ∧ method = "constructor" ∧ args = [])) := by
  unfold check notFound
  split
  · rename_i ha
    cases hm : c.method? use method with
    | some f => simp [ha]
    | none => simp [ha]
  · rename_i ha
    exact ⟨nofun, fun h => absurd h.1 ha⟩

end Contract

end ContractCall
