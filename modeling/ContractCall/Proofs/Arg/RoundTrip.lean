import ContractCall.Arg.OfJson
import ContractCall.Arg.ToJson
import ContractCall.Proofs.Arg.Members

/-!
# Arguments written as JSON and read back

`Arg.toJson?` writes an argument as a JSON value and `Arg.ofJson` reads one. One shape of object
stands for a struct, an option, a result or an enum value, depending on its keys, so an argument is
read back only if none of its parts is an object that passes for one of the others.

* `Expressible a`: the arguments that JSON can hold, by what they are built from.
* `Writes a v`: the values that stand for an argument. The members of an object come in any order,
  and next to the variant of an enum value others may be listed as `null`.
* `ofJson_object`, `active?_of_nulls`: how an object and an enum value are recognised.
* `ofJson_of_writes`: a value that stands for an expressible argument is read as the argument.
* `expressible_read_back`: every expressible argument is written, and read back from whatever stands
  for it.
-/

namespace ContractCall.Arg

variable {a payload : Arg} {v : Json} {name : String}

/-- The members are not a single one under a key that marks an option, a result or an enum value. -/
def Unmarked {α : Type} (members : List (String × α)) : Prop :=
  ∀ key value, members = [(key, value)] → key ∉ ["Some", "None", "Ok", "Err", "variant"]

/-- The argument is built from scalars that JSON can hold and from lists, options, results, enum
values and unmarked objects of such arguments. The members of an object are sorted, as in every
object that `ofMembers` makes. -/
inductive Expressible : Arg → Prop where
  | bool (b : Bool) : Expressible (.bool b)
  | number {n : Int} (h : -2 ^ 63 ≤ n ∧ n ≤ 2 ^ 64 - 1) : Expressible (.number n)
  | float {x : Binary64} (h : x.isFinite = true) : Expressible (.float x)
  | text (s : String) : Expressible (.text s)
  | array {items : List Arg} (h : ∀ a ∈ items, Expressible a) : Expressible (.array items)
  | object {members : List (String × Arg)} (hs : Sorted members)
      (hu : Unmarked members) (h : ∀ m ∈ members, Expressible m.2) : Expressible (.object members)
  | optionNone : Expressible .optionNone
  | optionSome {a : Arg} (h : Expressible a) : Expressible (.optionSome a)
  | resultOk {a : Arg} (h : Expressible a) : Expressible (.resultOk a)
  | resultErr {a : Arg} (h : Expressible a) : Expressible (.resultErr a)
  | variant (name : String) {payload : Arg} (h : Expressible payload) :
    Expressible (.variant name payload)

/-- The value stands for the argument. An object is written member by member in any order, and
around the variant of an enum value others may stand, each with `null`. -/
inductive Writes : Arg → Json → Prop where
  | bool (b : Bool) : Writes (.bool b) (.bool b)
  | number (n : Int) : Writes (.number n) (.number (.integer n))
  | float (x : Binary64) : Writes (.float x) (.number (.double x))
  | text (s : String) : Writes (.text s) (.string s)
  | array {items : List (Arg × Json)} (h : ∀ i ∈ items, Writes i.1 i.2) :
    Writes (.array (items.map fun i => i.1)) (.array (items.map fun i => i.2))
  | object {members : List (String × Arg × Json)} {written : List Json.Member}
      (h : ∀ m ∈ members, Writes m.2.1 m.2.2)
      (hw : written.Perm (members.map fun m => (m.1, m.2.2))) :
    Writes (.object (members.map fun m => (m.1, m.2.1))) (.object written)
  | optionNone : Writes .optionNone (.object [("None", .null)])
  | optionSome {a : Arg} {v : Json} (h : Writes a v) :
    Writes (.optionSome a) (.object [("Some", v)])
  | resultOk {a : Arg} {v : Json} (h : Writes a v) : Writes (.resultOk a) (.object [("Ok", v)])
  | resultErr {a : Arg} {v : Json} (h : Writes a v) : Writes (.resultErr a) (.object [("Err", v)])
  | variant (name : String) {payload : Arg} {v : Json} {before after : List Json.Member}
      (h : Writes payload v) (hn : ∀ m ∈ before ++ after, m.2 = .null) :
    Writes (.variant name payload)
      (.object [("variant", .object (before ++ (name, v) :: after))])

/-! ## Reading -/

theorem ofItems_eq_map (items : List Json) : ofItems items = items.map ofJson := by
  induction items with
  | nil => rfl
  | cons v rest ih => rw [ofItems, ih, List.map_cons]

theorem ofMemberValues_eq_map (members : List Json.Member) :
    ofMemberValues members = members.map fun m => (m.1, ofJson m.2) := by
  induction members with
  | nil => rfl
  | cons m rest ih => rw [ofMemberValues, ih, List.map_cons]

/-- Whether members are marked depends on their keys alone. -/
theorem Unmarked.of_keys {α β : Type} {members : List (String × α)} {others : List (String × β)}
    (h : Unmarked members) (hk : (Assoc.keys others).Perm (Assoc.keys members)) :
    Unmarked others := by
  rintro key value rfl
  obtain ⟨m, hm, rfl⟩ := List.map_eq_singleton_iff.mp (List.singleton_perm.mp hk).symm
  exact h m.1 m.2 hm

/-- An unmarked object is read as an object. -/
theorem ofJson_object {members : List Json.Member} (hu : Unmarked members) :
    ofJson (.object members) = ofMembers (members.map fun m => (m.1, ofJson m.2)) := by
  match members with
  | [] => rfl
  | [(key, v)] =>
    have hk := hu key v rfl
    simp only [List.mem_cons, List.not_mem_nil, or_false, not_or] at hk
    obtain ⟨hsome, hnone, hok, herr, hvariant⟩ := hk
    rw [ofJson, if_neg hsome, if_neg hok, if_neg herr, if_neg hnone, if_neg hvariant]
    rfl
  | m :: m' :: rest => exact congrArg ofMembers (ofMemberValues_eq_map (m :: m' :: rest))

/-- Nothing is written as `null`. -/
theorem Writes.isNull_eq_false (h : Writes a v) : v.isNull = false := by
  cases h <;> rfl

/-- The active variant is the only one that is not `null`, wherever the others stand. -/
theorem active?_of_nulls {before after : List Json.Member} (hv : v.isNull = false)
    (hn : ∀ m ∈ before ++ after, m.2 = .null) :
    active? (before ++ (name, v) :: after) = some (name, ofJson v) := by
  induction before with
  | nil =>
    have hall : after.all (fun m => m.2.isNull) = true :=
      List.all_eq_true.mpr fun m hm => by rw [hn m hm]; rfl
    rw [List.nil_append, active?, hv, if_neg Bool.false_ne_true, if_pos hall]
  | cons m rest ih =>
    obtain ⟨k, w⟩ := m
    obtain ⟨hw, hr⟩ := List.forall_mem_cons.mp hn
    have hw : w.isNull = true := by rw [show w = .null from hw]; rfl
    rw [List.cons_append, active?, hw, if_pos rfl, ih hr]

/-- A value that stands for an expressible argument is read as that argument. -/
theorem ofJson_of_writes (h : Writes a v) (ha : Expressible a) : ofJson v = a := by
  induction h with
  | bool b => rfl
  | number n => rfl
  | float x => rfl
  | text s => rfl
  | @array items h ih =>
    cases ha with
    | array ha =>
      have hi : ∀ i ∈ items, ofJson i.2 = i.1 := fun i hi => ih i hi (ha _ (List.mem_map_of_mem hi))
      rw [ofJson, ofItems_eq_map, List.map_map]
      exact congrArg Arg.array (List.map_congr_left hi)
  | @object members written h hw ih =>
    cases ha with
    | object hs hu ha =>
      have hi : ∀ m ∈ members, (m.1, ofJson m.2.2) = (m.1, m.2.1) := fun m hm => by
        rw [ih m hm (ha _ (List.mem_map_of_mem hm))]
      have hk : (Assoc.keys written).Perm (Assoc.keys (members.map fun m => (m.1, m.2.1))) := by
        simpa [Assoc.keys, Function.comp_def] using hw.map Prod.fst
      have hp : (written.map fun m => (m.1, ofJson m.2)).Perm
          (members.map fun m => (m.1, m.2.1)) := by
        rw [← List.map_congr_left hi]
        simpa [Function.comp_def] using hw.map fun m => (m.1, ofJson m.2)
      rw [ofJson_object (hu.of_keys hk), ofMembers_of_perm hs hp]
  | optionNone => rfl
  | optionSome h ih =>
    cases ha with
    | optionSome ha => rw [ofJson, if_pos rfl, ih ha]
  | resultOk h ih =>
    cases ha with
    | resultOk ha => rw [ofJson, if_neg (by decide), if_pos rfl, ih ha]
  | resultErr h ih =>
    cases ha with
    | resultErr ha => rw [ofJson, if_neg (by decide), if_neg (by decide), if_pos rfl, ih ha]
  | variant name h hn ih =>
    cases ha with
    | variant _ ha =>
      rw [ofJson, if_neg (by decide), if_neg (by decide), if_neg (by decide), if_neg (by decide),
        if_pos rfl, activeIn?, active?_of_nulls h.isNull_eq_false hn, ih ha]

/-! ## Writing -/

theorem Unmarked.hasReservedKey_eq_false {members : List (String × Arg)} (hu : Unmarked members) :
    hasReservedKey members = false := by
  unfold hasReservedKey
  split
  · rename_i key a
    rw [isReserved, List.contains_eq_mem]
    exact decide_eq_false (hu key a rfl)
  · rfl

/-- Items that are written one by one are written as a list. -/
theorem itemsToJson?_of_forall {items : List Arg} {f : Arg → Json}
    (h : ∀ a ∈ items, toJson? a = some (f a)) : itemsToJson? items = some (items.map f) := by
  induction items with
  | nil => rfl
  | cons a rest ih =>
    obtain ⟨ha, hr⟩ := List.forall_mem_cons.mp h
    rw [itemsToJson?, ha, ih hr, List.map_cons]

/-- Members whose values are written one by one are written as members. -/
theorem membersToJson?_of_forall {members : List (String × Arg)} {f : String × Arg → Json}
    (h : ∀ m ∈ members, toJson? m.2 = some (f m)) :
    membersToJson? members = some (members.map fun m => (m.1, f m)) := by
  induction members with
  | nil => rfl
  | cons m rest ih =>
    obtain ⟨hm, hr⟩ := List.forall_mem_cons.mp h
    rw [membersToJson?, hm, ih hr, List.map_cons]

theorem Writes.of_items {items : List Arg} {f : Arg → Json} (h : ∀ a ∈ items, Writes a (f a)) :
    Writes (.array items) (.array (items.map f)) := by
  have hp : ∀ i ∈ items.map fun a => (a, f a), Writes i.1 i.2 := List.forall_mem_map.mpr h
  simpa [Function.comp_def] using Writes.array hp

theorem Writes.of_members {members : List (String × Arg)} {f : String × Arg → Json}
    (h : ∀ m ∈ members, Writes m.2 (f m)) :
    Writes (.object members) (.object (members.map fun m => (m.1, f m))) := by
  have hp : ∀ m ∈ members.map fun m => (m.1, m.2, f m), Writes m.2.1 m.2.2 :=
    List.forall_mem_map.mpr h
  simpa [Function.comp_def] using Writes.object hp (.refl _)

/-- Every expressible argument is written, and what is written stands for it. -/
theorem Expressible.exists_toJson? (ha : Expressible a) : ∃ v, toJson? a = some v ∧ Writes a v := by
  induction ha with
  | bool b => exact ⟨_, rfl, .bool b⟩
  | @number n h => exact ⟨_, by rw [toJson?, if_pos (Json.Literal.isWord_iff.mpr h)], .number n⟩
  | @float x h => exact ⟨_, by rw [toJson?, if_pos h], .float x⟩
  | text s => exact ⟨_, rfl, .text s⟩
  | array h ih =>
    choose! f hj hw using ih
    exact ⟨_, by rw [toJson?, itemsToJson?_of_forall hj, Option.map_some], .of_items hw⟩
  | object hs hu h ih =>
    choose! f hj hw using ih
    refine ⟨_, ?_, .of_members hw⟩
    rw [toJson?, hu.hasReservedKey_eq_false, if_neg Bool.false_ne_true,
      membersToJson?_of_forall hj, Option.map_some]
  | optionNone => exact ⟨_, rfl, .optionNone⟩
  | optionSome h ih =>
    obtain ⟨v, hv, hw⟩ := ih
    exact ⟨_, by rw [toJson?, hv, Option.map_some], .optionSome hw⟩
  | resultOk h ih =>
    obtain ⟨v, hv, hw⟩ := ih
    exact ⟨_, by rw [toJson?, hv, Option.map_some], .resultOk hw⟩
  | resultErr h ih =>
    obtain ⟨v, hv, hw⟩ := ih
    exact ⟨_, by rw [toJson?, hv, Option.map_some], .resultErr hw⟩
  | variant name h ih =>
    obtain ⟨v, hv, hw⟩ := ih
    have hn : ∀ m ∈ ([] : List Json.Member) ++ [], m.2 = .null := by simp
    refine ⟨.object [("variant", .object [(name, v)])], ?_, .variant name hw hn⟩
    rw [toJson?, hv, Option.map_some]

/-! ## Round trip -/

/-- Every expressible argument is written as a value that stands for it, and it is read back from
this value. It is read back from every other value that stands for it as well: further variants of
its enum values may be listed as `null`, and the members of its objects may come in another order. -/
theorem expressible_read_back (a : Arg) (ha : Expressible a) :
    (∃ v, toJson? a = some v ∧ Writes a v ∧ ofJson v = a) ∧ ∀ v, Writes a v → ofJson v = a := by
  obtain ⟨v, hv, hw⟩ := ha.exists_toJson?
  exact ⟨⟨v, hv, hw, ofJson_of_writes hw ha⟩, fun v hw => ofJson_of_writes hw ha⟩

/-- An enum value whose variant has the name of the mark, and whose payload has a member that would
mark an option if it were the only one. -/
def nestedMarks : Arg :=
  .variant "variant" (.object [("Some", .number 3), ("on", .optionNone)])

/-- The argument `nestedMarks` with another variant listed and with the members swapped. -/
def nestedMarksJson : Json :=
  .object [("variant", .object [("None", .null),
    ("variant", .object [("on", .object [("None", .null)]), ("Some", .number (.integer 3))])])]

/-- None of the marks inside is mistaken for one. -/
theorem expressible_read_back_nestedMarks :
    (Expressible nestedMarks ∧ Writes nestedMarks nestedMarksJson) ∧
      ofJson nestedMarksJson = nestedMarks ∧
      ∃ v, toJson? nestedMarks = some v ∧ ofJson v = nestedMarks := by
  have hs : Sorted [("Some", .number 3), ("on", .optionNone)] :=
    List.pairwise_pair.mpr (by decide)
  have hu : Unmarked [("Some", Arg.number 3), ("on", .optionNone)] := by simp [Unmarked]
  have hm : ∀ m ∈ [("Some", Arg.number 3), ("on", .optionNone)], Expressible m.2 := by
    simp [Expressible.number, Expressible.optionNone]
  have ha : Expressible nestedMarks := .variant "variant" (.object hs hu hm)
  have hp : ∀ m ∈ [("Some", Arg.number 3, Json.number (.integer 3)),
      ("on", .optionNone, .object [("None", .null)])], Writes m.2.1 m.2.2 := by
    simp [Writes.number, Writes.optionNone]
  have hn : ∀ m ∈ [("None", Json.null)] ++ [], m.2 = .null := by simp
  have hw : Writes nestedMarks nestedMarksJson :=
    .variant "variant" (.object hp (.swap _ _ _)) hn
  obtain ⟨⟨v, hv, -, hr⟩, h⟩ := expressible_read_back nestedMarks ha
  exact ⟨⟨ha, hw⟩, h _ hw, v, hv, hr⟩

end ContractCall.Arg
