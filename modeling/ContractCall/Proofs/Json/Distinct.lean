import ContractCall.Json

/-!
# Values without repeated keys

A document may repeat a key, the value that it stands for does not: `Json.dedup` keeps the last of
the members with one key. `Distinct v`: the value `v` stands for itself.

* `distinct_array`, `distinct_object`: the rules by which a value is built without repeated keys.
* `distinct_dedup`: what a document stands for is such a value.
* `RepeatFree`, `repeatFree_iff_distinct`: the same by recursion on the value, as a property of the
  keys of every object in it.
-/

namespace ContractCall

namespace Json

theorem dedupItems_eq_map (items : List Json) : dedupItems items = items.map dedup := by
  induction items with
  | nil => rfl
  | cons v rest ih => rw [dedupItems, ih, List.map_cons]

theorem dedupMembers_eq_map (members : List Member) :
    dedupMembers members = members.map fun m => (m.1, m.2.dedup) := by
  induction members with
  | nil => rfl
  | cons m rest ih => rw [dedupMembers, ih, List.map_cons]

/-- The value repeats no key, at any depth: it is the one it stands for. -/
def Distinct (v : Json) : Prop := v.dedup = v

theorem distinct_number (n : Number) : Distinct (.number n) := rfl

theorem distinct_string (s : String) : Distinct (.string s) := rfl

theorem distinct_array {items : List Json} (h : ∀ v ∈ items, Distinct v) :
    Distinct (.array items) := by
  rw [Distinct, dedup, dedupItems_eq_map, List.map_congr_left h, List.map_id']

theorem distinct_object {members : List Member} (hk : (Assoc.keys members).Nodup)
    (h : ∀ m ∈ members, Distinct m.2) : Distinct (.object members) := by
  have hm : members.map (fun m => (m.1, m.2.dedup)) = members := by
    refine (List.map_congr_left fun m hm => ?_).trans (List.map_id' members)
    rw [h m hm]
  rw [Distinct, dedup, dedupMembers_eq_map, hm, Assoc.ofList_of_nodup hk]

/-- Induction on the nesting of arrays and objects. -/
@[elab_as_elim] theorem nestingInduction {motive : Json → Prop}
    (array : ∀ items, (∀ v ∈ items, motive v) → motive (.array items))
    (object : ∀ members : List Member, (∀ m ∈ members, motive m.2) → motive (.object members))
    (scalar : ∀ v, (∀ items, v ≠ .array items) → (∀ members, v ≠ .object members) → motive v)
    (v : Json) : motive v := by
  refine Json.dedup.induct motive (fun ms => ∀ m ∈ ms, motive m.2) (fun vs => ∀ v ∈ vs, motive v)
    array object scalar nofun ?item nofun ?member v
  case item => exact fun v rest hv hrest => List.forall_mem_cons.mpr ⟨hv, hrest⟩
  case member => exact fun k v rest hv hrest => List.forall_mem_cons.mpr ⟨hv, hrest⟩

theorem dedup_scalar {v : Json} (ha : ∀ items, v ≠ .array items)
    (ho : ∀ members, v ≠ .object members) : v.dedup = v := by
  cases v with
  | array items => exact absurd rfl (ha items)
  | object members => exact absurd rfl (ho members)
  | _ => rfl

/-- The value that a document stands for repeats no key. The members of an object keep their values
where repeated keys are dropped. -/
theorem distinct_dedup (v : Json) : v.dedup.Distinct := by
  induction v using nestingInduction with
  | array items ih =>
    rw [dedup, dedupItems_eq_map]
    exact distinct_array (List.forall_mem_map.mpr ih)
  | object members ih =>
    rw [dedup, dedupMembers_eq_map]
    refine distinct_object (Assoc.nodup_keys_ofList _) fun m hm => ?_
    obtain ⟨m', hm', rfl⟩ := List.mem_map.mp (Assoc.mem_of_mem_ofList hm)
    exact ih m' hm'
  | scalar v ha ho => rw [Distinct, dedup_scalar ha ho, dedup_scalar ha ho]

/-- No object repeats a key, at any depth. -/
inductive RepeatFree : Json → Prop where
  | scalar {v : Json} (ha : ∀ items, v ≠ .array items) (ho : ∀ members, v ≠ .object members) :
    RepeatFree v
  | array {items : List Json} (h : ∀ v ∈ items, RepeatFree v) : RepeatFree (.array items)
  | object {members : List Member} (hk : (Assoc.keys members).Nodup)
    (h : ∀ m ∈ members, RepeatFree m.2) : RepeatFree (.object members)

theorem RepeatFree.of_mem_array {items : List Json} {v : Json} (h : RepeatFree (.array items))
    (hv : v ∈ items) : RepeatFree v := by
  cases h with
  | scalar ha => exact absurd rfl (ha items)
  | array h => exact h v hv

theorem RepeatFree.nodup_keys {members : List Member} (h : RepeatFree (.object members)) :
    (Assoc.keys members).Nodup := by
  cases h with
  | scalar _ ho => exact absurd rfl (ho members)
  | object hk => exact hk

theorem RepeatFree.of_mem_object {members : List Member} {m : Member}
    (h : RepeatFree (.object members)) (hm : m ∈ members) : RepeatFree m.2 := by
  cases h with
  | scalar _ ho => exact absurd rfl (ho members)
  | object _ h => exact h m hm

/-- The values without repeated keys are those that stand for themselves. -/
theorem repeatFree_iff_distinct {v : Json} : v.RepeatFree ↔ v.Distinct := by
  constructor
  · intro h
    induction h with
    | scalar ha ho => exact dedup_scalar ha ho
    | array _ ih => exact distinct_array ih
    | object hk _ ih => exact distinct_object hk ih
  · intro h
    induction v using nestingInduction with
    | array items ih =>
      rw [Distinct, dedup, dedupItems_eq_map, array.injEq] at h
      have hv : ∀ v ∈ items, v.dedup = v := List.map_inj_left.mp (h.trans (List.map_id' items).symm)
      exact .array fun v hm => ih v hm (hv v hm)
    | object members ih =>
      rw [Distinct, dedup, dedupMembers_eq_map, object.injEq] at h
      have hk : (Assoc.keys members).Nodup := h ▸ Assoc.nodup_keys_ofList _
      have hd : (Assoc.keys (members.map fun m => (m.1, m.2.dedup))).Nodup := by
        simpa [Assoc.keys, Function.comp_def] using hk
      rw [Assoc.ofList_of_nodup hd] at h
      have hv : ∀ m ∈ members, (m.1, m.2.dedup) = m :=
        List.map_inj_left.mp (h.trans (List.map_id' members).symm)
      exact .object hk fun m hm => ih m hm (congrArg Prod.snd (hv m hm))
    | scalar v ha ho => exact .scalar ha ho

end Json

end ContractCall
