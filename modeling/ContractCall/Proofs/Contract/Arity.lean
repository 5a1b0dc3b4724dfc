import ContractCall.Proofs.Check.Acceptance
import ContractCall.Proofs.Contract.Lookup
import Mathlib.Data.List.Forall2

/-!
# Arity and slots

A slot is an input that takes an argument: the length of an array is no slot. A contract counts its
arguments by `Layout.arity` and checks them slot by slot.

* `arity_eq_length_slots_iff`: both agree in a flat ABI, and in a grouped one for the functions
  without lengths. Otherwise the arity is larger by the number of lengths (`arity_grouped`), and as
  many arguments at the end of a call go unchecked.
* `check_ok_eachChecked_iff`: what a well-formed call guarantees about its arguments, and exactly
  when it leaves none of them unchecked.
-/

namespace ContractCall

/-- The inputs that hold the length of an array and take no argument. -/
def Abi.Signature.lengths (f : Abi.Signature) : List Abi.Param :=
  f.inputs.filter fun p => CairoType.isLength p.name

theorem Abi.Signature.lengths_ne_nil_iff {f : Abi.Signature} :
    f.lengths ≠ [] ↔ ∃ p ∈ f.inputs, CairoType.isLength p.name = true := by
  constructor
  · intro h
    obtain ⟨p, hp⟩ := List.exists_mem_of_ne_nil _ h
    exact ⟨p, List.mem_filter.mp hp⟩
  · rintro ⟨p, hp⟩
    exact List.ne_nil_of_mem (List.mem_filter.mpr hp)

namespace Abi.Layout

/-- Each input is a slot or a length. -/
theorem length_inputs (f : Signature) : f.inputs.length = f.slots.length + f.lengths.length := by
  have h := List.length_eq_length_filter_add (l := f.inputs) fun p => CairoType.isLength p.name
  rw [h, Nat.add_comm]
  rfl

theorem arity_flat (f : Signature) : flat.arity f = f.slots.length := rfl

theorem arity_grouped (f : Signature) : grouped.arity f = f.slots.length + f.lengths.length :=
  length_inputs f

/-- Only the lengths of a grouped ABI count as arguments without being slots. -/
theorem arity_eq_length_slots_iff {abi : Abi} {f : Signature} :
    abi.layout.arity f = f.slots.length ↔ abi.hasInterface = false ∨ f.lengths = [] := by
  rw [← Bool.not_eq_true, ← layout_eq_grouped_iff]
  cases abi.layout with
  | flat => simp [arity_flat]
  | grouped => simp [arity_grouped]

end Abi.Layout

namespace Contract

open Abi.Layout

/-- The arguments and the slots of a method correspond one to one, and every argument passes the
check for its slot. -/
def EachChecked (c : Contract) (f : Abi.Signature) (args : List Arg) : Prop :=
  List.Forall₂ (fun p a => Check.value c.decls p.name p.type a = .ok ()) f.slots args

variable {c : Contract} {f : Abi.Signature} {args : List Arg}

/-- The arguments that pass are the first ones, one for each slot. -/
theorem args_eq_ok_iff_eachChecked : Check.args c.decls f args = .ok () ↔
    f.slots.length ≤ args.length ∧ EachChecked c f (args.take f.slots.length) := by
  rw [Check.args, Check.slots_eq_ok_iff, EachChecked, List.forall₂_iff_get]
  refine and_congr_right fun hl => ?_
  constructor
  · intro h
    refine ⟨by rw [List.length_take, Nat.min_eq_left hl], fun i hi hi' => ?_⟩
    refine h i _ _ (List.getElem?_eq_getElem hi) ?_
    rw [List.get_eq_getElem, List.getElem_take]
    exact List.getElem?_eq_getElem (Nat.lt_of_lt_of_le hi hl)
  · rintro ⟨-, h⟩ i p a hp ha
    obtain ⟨hi, rfl⟩ := List.getElem?_eq_some_iff.mp hp
    obtain ⟨hi', rfl⟩ := List.getElem?_eq_some_iff.mp ha
    have hv := h i hi (by rw [List.length_take]; omega)
    rwa [List.get_eq_getElem, List.get_eq_getElem, List.getElem_take] at hv

/-- The arguments of a method whose arity counts its slots are all checked. -/
theorem eachChecked_of_checkArgs (h : c.checkArgs f args = .ok ()) :
    EachChecked c f (args.take f.slots.length) ∧ args.length = c.layout.arity f ∧
      (EachChecked c f args ↔ c.layout.arity f = f.slots.length) := by
  obtain ⟨hl, h⟩ := checkArgs_eq_ok_iff.mp h
  obtain ⟨-, ht⟩ := args_eq_ok_iff_eachChecked.mp h
  refine ⟨ht, hl, fun he => hl ▸ he.length_eq.symm, fun ha => ?_⟩
  rwa [← ha, ← hl, List.take_length] at ht

/-- A well-formed call checks the slots of the method it selects against its first arguments. The
arity is met, and no argument goes unchecked exactly if the ABI is flat or the method has no
lengths; that is when the arity of a function is the number of its slots. A contract deployed
without constructor has no arguments. -/
theorem check_ok_eachChecked_iff (abi : Abi) (use : Use) (method : String) (args : List Arg)
    (h : (ofAbi abi).check use method args = .ok ()) :
    (∀ g, abi.layout.arity g = g.slots.length ↔ abi.hasInterface = false ∨ g.lengths = []) ∧
      ((∃ f, (ofAbi abi).method? use method = some f ∧ args.length = abi.layout.arity f ∧
          EachChecked (ofAbi abi) f (args.take f.slots.length) ∧
          (EachChecked (ofAbi abi) f args ↔ abi.hasInterface = false ∨ f.lengths = [])) ∨
        ((ofAbi abi).method? use method = none ∧ use = .deploy ∧ args = [])) := by
  refine ⟨fun g => arity_eq_length_slots_iff, ?_⟩
  obtain ⟨-, ⟨f, hm, hc⟩ | ⟨hm, hu, -, ha⟩⟩ := check_eq_ok_iff.mp h
  · obtain ⟨ht, hl, he⟩ := eachChecked_of_checkArgs hc
    exact .inl ⟨f, hm, hl, ht, he.trans arity_eq_length_slots_iff⟩
  · exact .inr ⟨hm, hu, ha⟩

/-! ## A grouped function with a length -/

/-- A function that takes the length of its array as an input of its own. -/
def store : Abi.Signature where
  name := "store"
  inputs := [⟨"data_len", "core::integer::u32"⟩, ⟨"data", "core::array::Array::<core::felt252>"⟩]
  outputs := []
  stateMutability := some "external"

/-- An ABI with that function in an interface. -/
def groupedStore : Abi := ⟨[.interface "IStore" [.function store]]⟩

theorem method?_groupedStore : (ofAbi groupedStore).method? .invoke "store" = some store := rfl

/-- The first argument of a call of `store` is checked against the array, and the arity asks for one
more. -/
theorem check_ok_store :
    (ofAbi groupedStore).check .invoke "store" [.array [], .bool true] = .ok () ∧
      EachChecked (ofAbi groupedStore) store [.array []] ∧ groupedStore.layout.arity store = 2 := by
  have h : (ofAbi groupedStore).check .invoke "store" [.array [], .bool true] = .ok () := rfl
  obtain ⟨-, ⟨f, hm, hl, ht, -⟩ | ⟨hm, -, -⟩⟩ :=
    check_ok_eachChecked_iff groupedStore .invoke "store" [.array [], .bool true] h
  · rw [method?_groupedStore] at hm
    cases hm
    exact ⟨h, ht, hl.symm⟩
  · rw [method?_groupedStore] at hm
    cases hm

/-- A truth value in the place of the array passes, since the array is looked for in the place of
its length. -/
theorem not_eachChecked_store :
    (ofAbi groupedStore).check .invoke "store" [.array [], .bool true] = .ok () ∧
      (ofAbi groupedStore).method? .invoke "store" = some store ∧
      ¬ EachChecked (ofAbi groupedStore) store [.array [], .bool true] ∧
      groupedStore.layout.arity store ≠ store.slots.length := by
  have hs : store.slots.length = 1 := rfl
  refine ⟨rfl, method?_groupedStore, fun h => ?_, ?_⟩
  · have hl := h.length_eq
    rw [hs] at hl
    cases hl
  · rw [hs]
    exact (by decide : (2 : Nat) ≠ 1)

end Contract

end ContractCall
