import ContractCall.Proofs.Json.Distinct
import Mathlib.Data.List.Nodup

/-!
# Values up to the order of members

An object is a map, and the order in which a document gives its members does not matter.
`Json.sorted` is the representative of a value in which the members of every object come in the
order of their keys, so two values are the same up to order where their representatives are equal.

* `byKey_of_perm`: members under different keys have one order by key.
* `sorted_object_of_perm`, `sorted_object_middle`, `sorted_array_middle`: the order of members does
  not count, and parts count by their representatives.
* `sorted_eq_cases`: values that are the same up to order are equal, or both arrays, or both
  objects.
-/

namespace ContractCall.Json

/-- The key of a member comes no later than that of another. -/
def keyLE (m m' : Member) : Bool :=
  decide (m.1 ≤ m'.1)

/-- The members in the order of their keys. -/
def byKey (members : List Member) : List Member :=
  members.mergeSort keyLE

mutual

/-- The value with the members of every object in the order of their keys. -/
def sorted : Json → Json
  | .array items => .array (sortedItems items)
  | .object members => .object (byKey (sortedMembers members))
  | v => v

/-- The items, each with its members in order. -/
def sortedItems : List Json → List Json
  | [] => []
  | v :: rest => sorted v :: sortedItems rest

/-- The members in the given order, with the members of their values in order. -/
def sortedMembers : List Member → List Member
  | [] => []
  | (k, v) :: rest => (k, sorted v) :: sortedMembers rest

end

variable {v w : Json} {ms ms' before after : List Member} {l r : List Json} {k : String}

theorem sortedItems_eq_map (items : List Json) : sortedItems items = items.map sorted := by
  induction items with
  | nil => rfl
  | cons v rest ih => rw [sortedItems, ih, List.map_cons]

theorem sortedMembers_eq_map (members : List Member) :
    sortedMembers members = members.map fun m => (m.1, m.2.sorted) := by
  induction members with
  | nil => rfl
  | cons m rest ih => rw [sortedMembers, ih, List.map_cons]

theorem keys_sortedMembers (members : List Member) :
    Assoc.keys (sortedMembers members) = Assoc.keys members := by
  rw [sortedMembers_eq_map, Assoc.keys, List.map_map]
  rfl

theorem pairwise_byKey (members : List Member) :
    (byKey members).Pairwise fun m m' => m.1 ≤ m'.1 := by
  have htrans (a b c : Member) (hab : keyLE a b = true) (hbc : keyLE b c = true) :
      keyLE a c = true :=
    decide_eq_true (String.le_trans (of_decide_eq_true hab) (of_decide_eq_true hbc))
  have htotal (a b : Member) : (keyLE a b || keyLE b a) = true := by
    rw [Bool.or_eq_true, keyLE, keyLE, decide_eq_true_eq, decide_eq_true_eq]
    exact String.le_total a.1 b.1
  exact (List.pairwise_mergeSort htrans htotal members).imp of_decide_eq_true

/-- Members under different keys have one order by key: of two with the same key, both are one. -/
theorem byKey_of_perm (hk : (Assoc.keys ms).Nodup) (hp : ms.Perm ms') : byKey ms = byKey ms' := by
  have hperm : (byKey ms).Perm (byKey ms') :=
    (List.mergeSort_perm ms keyLE).trans (hp.trans (List.mergeSort_perm ms' keyLE).symm)
  refine hperm.eq_of_pairwise (fun m m' hm hm' hle hge => ?_) (pairwise_byKey ms)
    (pairwise_byKey ms')
  have hin : m ∈ ms := (List.mergeSort_perm ms keyLE).mem_iff.mp hm
  have hin' : m' ∈ ms := hp.mem_iff.mpr ((List.mergeSort_perm ms' keyLE).mem_iff.mp hm')
  exact List.inj_on_of_nodup_map hk hin hin' (String.le_antisymm hle hge)

theorem byKey_sortedMembers_of_perm (hk : (Assoc.keys ms).Nodup) (hp : ms.Perm ms') :
    byKey (sortedMembers ms) = byKey (sortedMembers ms') := by
  refine byKey_of_perm (by rwa [keys_sortedMembers]) ?_
  rw [sortedMembers_eq_map, sortedMembers_eq_map]
  exact hp.map _

theorem sorted_object_of_perm (hk : (Assoc.keys ms).Nodup) (hp : ms.Perm ms') :
    (object ms).sorted = (object ms').sorted :=
  congrArg object (byKey_sortedMembers_of_perm hk hp)

theorem sortedMembers_middle (h : v.sorted = w.sorted) :
    sortedMembers (before ++ (k, v) :: after) = sortedMembers (before ++ (k, w) :: after) := by
  simp only [sortedMembers_eq_map, List.map_append, List.map_cons, h]

theorem sorted_object_middle (h : v.sorted = w.sorted) :
    (object (before ++ (k, v) :: after)).sorted = (object (before ++ (k, w) :: after)).sorted := by
  rw [sorted, sorted, sortedMembers_middle h]

theorem sorted_array_middle (h : v.sorted = w.sorted) :
    (array (l ++ v :: r)).sorted = (array (l ++ w :: r)).sorted := by
  simp only [sorted, sortedItems_eq_map, List.map_append, List.map_cons, h]

/-- Only arrays and objects have parts whose order could differ. -/
theorem sorted_eq_cases (h : v.sorted = w.sorted) :
    v = w ∨ (∃ items items', v = .array items ∧ w = .array items') ∨
      ∃ ms ms', v = .object ms ∧ w = .object ms' := by
  cases v <;> cases w <;> simp only [sorted, reduceCtorEq] at h
  all_goals
    first
    | exact .inl h
    | exact .inl rfl
    | exact .inr (.inl ⟨_, _, rfl, rfl⟩)
    | exact .inr (.inr ⟨_, _, rfl, rfl⟩)

end ContractCall.Json
