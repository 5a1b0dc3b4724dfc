import ContractCall.Abi
import Mathlib.Logic.Function.Iterate

/-!
# The nesting of interfaces

An interface may hold interfaces. `leaves` lists the other entries at every depth, from left to
right, and `depth` counts the interfaces around the innermost items.

* `listLeaves_unfolded`, `listDepth_unfolded`: replacing one entry by its items keeps the leaves and
  takes one level off.
* `leaves_iterate_flatten`, `depth_iterate_flatten`: what repeated flattening does to the whole ABI.
* `flatten_removes_one_level`: the fixed points of flattening, and the number of times after which
  the leaves alone are left.
-/

namespace ContractCall.Abi

namespace Entry

mutual

/-- The entry if it is no interface, else the leaves of its items in order. -/
def leaves : Entry → List Entry
  | interface _ items => listLeaves items
  | e => [e]

/-- The leaves of all entries in order. -/
def listLeaves : List Entry → List Entry
  | [] => []
  | e :: rest => leaves e ++ listLeaves rest

end

mutual

/-- The number of interfaces around the innermost item, the entry itself included. -/
def depth : Entry → Nat
  | interface _ items => listDepth items + 1
  | _ => 0

/-- The largest depth of an entry. -/
def listDepth : List Entry → Nat
  | [] => 0
  | e :: rest => max (depth e) (listDepth rest)

end

@[simp] theorem listLeaves_nil : listLeaves [] = [] := by rw [listLeaves]

@[simp] theorem listLeaves_cons (e : Entry) (rest : List Entry) :
    listLeaves (e :: rest) = e.leaves ++ listLeaves rest := by rw [listLeaves]

@[simp] theorem listDepth_nil : listDepth [] = 0 := by rw [listDepth]

@[simp] theorem listDepth_cons (e : Entry) (rest : List Entry) :
    listDepth (e :: rest) = max e.depth (listDepth rest) := by rw [listDepth]

@[simp] theorem leaves_interface (name : String) (items : List Entry) :
    (interface name items).leaves = listLeaves items := by rw [leaves]

@[simp] theorem depth_interface (name : String) (items : List Entry) :
    (interface name items).depth = listDepth items + 1 := by rw [depth]

theorem leaves_of_not_isInterface {e : Entry} (h : e.isInterface = false) : e.leaves = [e] := by
  cases e with
  | interface name items => cases h
  | _ => simp [leaves]

theorem depth_eq_zero_iff {e : Entry} : e.depth = 0 ↔ e.isInterface = false := by
  cases e with
  | interface name items => simp [isInterface, items?]
  | _ => simp [depth, isInterface, items?]

theorem listLeaves_append (es fs : List Entry) :
    listLeaves (es ++ fs) = listLeaves es ++ listLeaves fs := by
  induction es with
  | nil => simp
  | cons e rest ih => simp [ih]

theorem listDepth_append (es fs : List Entry) :
    listDepth (es ++ fs) = max (listDepth es) (listDepth fs) := by
  induction es with
  | nil => simp
  | cons e rest ih => simp [ih, Nat.max_assoc]

/-- Entries without interfaces among them are their own leaves. -/
theorem listLeaves_of_listDepth_eq_zero {es : List Entry} (h : listDepth es = 0) :
    listLeaves es = es := by
  induction es with
  | nil => exact listLeaves_nil
  | cons e rest ih =>
    rw [listDepth_cons, Nat.max_eq_zero_iff] at h
    rw [listLeaves_cons, leaves_of_not_isInterface (depth_eq_zero_iff.mp h.1), ih h.2]
    rfl

/-! ## One level -/

theorem listLeaves_unfolded (e : Entry) : listLeaves e.unfolded = e.leaves := by
  cases hi : e.isInterface with
  | false => simp [unfolded_of_not_isInterface hi]
  | true =>
    cases e with
    | interface name items => simp [unfolded]
    | _ => cases hi

theorem listDepth_unfolded (e : Entry) : listDepth e.unfolded = e.depth - 1 := by
  cases hi : e.isInterface with
  | false => simp [unfolded_of_not_isInterface hi, depth_eq_zero_iff.mpr hi]
  | true =>
    cases e with
    | interface name items => simp [unfolded]
    | _ => cases hi

theorem listLeaves_flatMap_unfolded (es : List Entry) :
    listLeaves (es.flatMap unfolded) = listLeaves es := by
  induction es with
  | nil => rfl
  | cons e rest ih =>
    rw [List.flatMap_cons, listLeaves_append, listLeaves_unfolded, ih, listLeaves_cons]

theorem listDepth_flatMap_unfolded (es : List Entry) :
    listDepth (es.flatMap unfolded) = listDepth es - 1 := by
  induction es with
  | nil => simp
  | cons e rest ih =>
    rw [List.flatMap_cons, listDepth_append, listDepth_unfolded, ih, listDepth_cons]
    omega

end Entry

open Entry

variable {abi : Abi}

/-- The entries other than interfaces, at every depth, in order. -/
def leaves (abi : Abi) : List Entry := listLeaves abi.entries

/-- The largest number of interfaces around an item. -/
def depth (abi : Abi) : Nat := listDepth abi.entries

theorem leaves_flatten (abi : Abi) : abi.flatten.leaves = abi.leaves :=
  listLeaves_flatMap_unfolded abi.entries

theorem depth_flatten (abi : Abi) : abi.flatten.depth = abi.depth - 1 :=
  listDepth_flatMap_unfolded abi.entries

theorem hasInterface_iff_depth_pos : abi.hasInterface = true ↔ 0 < abi.depth := by
  obtain ⟨entries⟩ := abi
  simp only [hasInterface, depth]
  induction entries with
  | nil => simp
  | cons e rest ih =>
    have he : e.isInterface = true ↔ 0 < e.depth := by
      rw [Nat.pos_iff_ne_zero, Ne, depth_eq_zero_iff, Bool.not_eq_false]
    rw [List.any_cons, Bool.or_eq_true, he, ih, listDepth_cons]
    omega

theorem hasInterface_eq_false_iff_depth : abi.hasInterface = false ↔ abi.depth = 0 := by
  rw [← Bool.not_eq_true, hasInterface_iff_depth_pos]
  omega

/-- An interface is lost by flattening, so only an ABI without interfaces stays as it is. -/
theorem flatten_eq_self_iff : abi.flatten = abi ↔ abi.hasInterface = false := by
  refine ⟨fun h => ?_, flatten_of_not_hasInterface⟩
  have hd : abi.depth = abi.depth - 1 := by rw [← depth_flatten, h]
  rw [hasInterface_eq_false_iff_depth]
  omega

/-! ## Repeated flattening -/

theorem leaves_iterate_flatten (abi : Abi) (n : Nat) : (flatten^[n] abi).leaves = abi.leaves := by
  induction n with
  | zero => rfl
  | succ n ih => rw [Function.iterate_succ_apply', leaves_flatten, ih]

theorem depth_iterate_flatten (abi : Abi) (n : Nat) :
    (flatten^[n] abi).depth = abi.depth - n := by
  induction n with
  | zero => rfl
  | succ n ih =>
    rw [Function.iterate_succ_apply', depth_flatten, ih]
    omega

theorem eq_leaves_of_depth_eq_zero (h : abi.depth = 0) : abi = ⟨abi.leaves⟩ := by
  rw [leaves, listLeaves_of_listDepth_eq_zero h]

/-- As many times as interfaces are nested leave the leaves. -/
theorem iterate_flatten_of_depth_le {n : Nat} (h : abi.depth ≤ n) :
    flatten^[n] abi = ⟨abi.leaves⟩ := by
  have hd : (flatten^[n] abi).depth = 0 := by
    rw [depth_iterate_flatten]
    omega
  rw [eq_leaves_of_depth_eq_zero hd, leaves_iterate_flatten]

theorem depth_leaves (abi : Abi) : (Abi.mk abi.leaves).depth = 0 := by
  rw [← iterate_flatten_of_depth_le (Nat.le_refl abi.depth), depth_iterate_flatten, Nat.sub_self]

/-- Flattening takes one level of interfaces off and keeps the other entries in their order. It
changes every ABI with an interface. Repeated as often as interfaces are nested, and not before, it
leaves the leaves alone, without an interface. -/
theorem flatten_removes_one_level (abi : Abi) :
    abi.flatten.leaves = abi.leaves ∧ abi.flatten.depth = abi.depth - 1 ∧
      (abi.flatten = abi ↔ abi.hasInterface = false) ∧
      ∀ n, (abi.depth ≤ n ↔ flatten^[n] abi = ⟨abi.leaves⟩) ∧
        (n < abi.depth ↔ (flatten^[n] abi).hasInterface = true) := by
  refine ⟨leaves_flatten abi, depth_flatten abi, flatten_eq_self_iff, fun n => ⟨?_, ?_⟩⟩
  · refine ⟨iterate_flatten_of_depth_le, fun h => ?_⟩
    have hd : abi.depth - n = 0 := by rw [← depth_iterate_flatten, h, depth_leaves]
    omega
  · rw [hasInterface_iff_depth_pos, depth_iterate_flatten]
    omega

/-- Two levels of interfaces around a struct take two flattenings. -/
example : flatten^[2] ⟨[.interface "a" [.interface "b" [.struct ⟨"s", none, []⟩], .impl ⟨"i", ""⟩]]⟩ =
    ⟨[.struct ⟨"s", none, []⟩, .impl ⟨"i", ""⟩]⟩ := rfl

end ContractCall.Abi
