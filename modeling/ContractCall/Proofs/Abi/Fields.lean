import ContractCall.Abi.Decode
import ContractCall.Proofs.Json.Distinct
import ContractCall.Proofs.Outcome
import Mathlib.Tactic.SplitIfs

/-!
# The fields of a record

The readers of `Abi.Decode` go through the members of an object one by one and keep the fields that
they have read. They succeed if every field can be read on its own, and each lemma
`*Members_eq_ok_iff` says so for one kind of record: neither the order of the members nor a member
that is no field matters.

* `Given keys read present ms o`: the members `ms`, behind those that gave a field the value
  `present`, leave it with the value `o`. The field has the names `keys`.
* `given_none_iff`: a field without a value yet takes one from at most one member.
-/

namespace ContractCall.Abi.Decode

variable {α : Type} {keys : List String} {read : Json → Decoded α}

/-! ## One field -/

/-- The values of the members with one of these keys, in order. -/
def valuesOf (keys : List String) (ms : List Json.Member) : List Json :=
  (ms.filter fun m => keys.contains m.1).map Prod.snd

/-- A field that is `present` or not has the value `o` after these members. -/
def Given (keys : List String) (read : Json → Decoded α) (present : Option α) :
    List Json.Member → Option α → Prop
  | [], o => o = present
  | (k, v) :: rest, o =>
    if k ∈ keys then present = none ∧ ∃ x, read v = .ok x ∧ Given keys read (some x) rest o
    else Given keys read present rest o

theorem once_eq_ok_iff {field : String} {present : Option α} {v : Json} {o : Option α} :
    once field present read v = .ok o ↔ present = none ∧ ∃ x, read v = .ok x ∧ o = some x := by
  cases present with
  | some x => simp [once]
  | none =>
    rw [once, map_eq_ok_iff]
    simp only [true_and, eq_comm]

theorem required_eq_ok_iff {field : String} {o : Option α} {x : α} :
    required field o = .ok x ↔ o = some x := by
  cases o <;> simp [required]

theorem valuesOf_cons (k : String) (v : Json) (rest : List Json.Member) :
    valuesOf keys ((k, v) :: rest) =
      if k ∈ keys then v :: valuesOf keys rest else valuesOf keys rest := by
  by_cases hk : k ∈ keys <;> simp [valuesOf, hk]

/-- A field that has a value takes no other. -/
theorem given_some_iff {x : α} {ms : List Json.Member} {o : Option α} :
    Given keys read (some x) ms o ↔ valuesOf keys ms = [] ∧ o = some x := by
  induction ms with
  | nil => simp [Given, valuesOf]
  | cons m rest ih =>
    obtain ⟨k, v⟩ := m
    rw [Given, valuesOf_cons]
    by_cases hk : k ∈ keys <;> simp [hk, ih]

/-- A field without a value takes that of the only member with one of its names, if there is one. -/
theorem given_none_iff {ms : List Json.Member} {o : Option α} :
    Given keys read none ms o ↔ (valuesOf keys ms = [] ∧ o = none) ∨
      ∃ v x, valuesOf keys ms = [v] ∧ read v = .ok x ∧ o = some x := by
  induction ms with
  | nil => simp [Given, valuesOf]
  | cons m rest ih =>
    obtain ⟨k, v⟩ := m
    rw [Given, valuesOf_cons]
    by_cases hk : k ∈ keys
    · rw [if_pos hk, if_pos hk]
      simp only [given_some_iff]
      grind
    · rw [if_neg hk, if_neg hk, ih]

/-! ## Records without items

The induction is on the members. A member with a key of the record changes what is known of one
field, a member with another key changes nothing, and at the end the record is made of the fields.
-/

theorem paramMembers_eq_ok_iff {name type : Option String} {ms : List Json.Member} {p : Param} :
    paramMembers name type ms = .ok p ↔
      Given ["name"] text name ms (some p.name) ∧ Given ["type"] text type ms (some p.type) := by
  induction ms generalizing name type with
  | nil =>
    obtain ⟨n, t⟩ := p
    simp only [paramMembers, Given, bind_eq_ok_iff, required_eq_ok_iff]
    grind
  | cons m rest ih =>
    simp only [paramMembers, Given, List.mem_singleton]
    split_ifs <;> simp only [bind_eq_ok_iff, once_eq_ok_iff, ih] <;> grind

theorem outputMembers_eq_ok_iff {name : Option (Option String)} {type : Option String}
    {ms : List Json.Member} {out : Output} :
    outputMembers name type ms = .ok out ↔
      (∃ n, Given ["name"] (optional text) name ms n ∧ out.name = n.join) ∧
      Given ["type"] text type ms (some out.type) := by
  induction ms generalizing name type with
  | nil =>
    obtain ⟨n, t⟩ := out
    simp only [outputMembers, Given, bind_eq_ok_iff, required_eq_ok_iff]
    grind
  | cons m rest ih =>
    simp only [outputMembers, Given, List.mem_singleton]
    split_ifs <;> simp only [bind_eq_ok_iff, once_eq_ok_iff, ih] <;> grind

theorem componentMembers_eq_ok_iff {name type : Option String} {offset : Option (Option Nat)}
    {ms : List Json.Member} {c : Component} :
    componentMembers name type offset ms = .ok c ↔
      Given ["name"] text name ms (some c.name) ∧ Given ["type"] text type ms (some c.type) ∧
      ∃ n, Given ["offset"] (optional word) offset ms n ∧ c.offset = n.join := by
  induction ms generalizing name type offset with
  | nil =>
    obtain ⟨n, t, o⟩ := c
    simp only [componentMembers, Given, bind_eq_ok_iff, required_eq_ok_iff]
    grind
  | cons m rest ih =>
    simp only [componentMembers, Given, List.mem_singleton]
    split_ifs <;> simp only [bind_eq_ok_iff, once_eq_ok_iff, ih] <;> grind

theorem signatureMembers_eq_ok_iff {fs : SignatureFields} {ms : List Json.Member} {f : Signature} :
    signatureMembers fs ms = .ok f ↔
      Given ["name"] text fs.name ms (some f.name) ∧
      (∃ is, Given ["inputs"] (list param) fs.inputs ms is ∧ f.inputs = is.getD []) ∧
      (∃ os, Given ["outputs"] (list output) fs.outputs ms os ∧ f.outputs = os.getD []) ∧
      ∃ m, Given ["state_mutability", "stateMutability"] (optional text) fs.stateMutability ms m ∧
        f.stateMutability = m.join := by
  induction ms generalizing fs with
  | nil =>
    obtain ⟨n, is, os, m⟩ := f
    simp only [signatureMembers, Given, bind_eq_ok_iff, required_eq_ok_iff]
    grind
  | cons m rest ih =>
    simp only [signatureMembers, Given, List.mem_cons, List.not_mem_nil, or_false]
    split_ifs <;> simp only [bind_eq_ok_iff, once_eq_ok_iff, ih] <;> grind

theorem structMembers_eq_ok_iff {name : Option String} {size : Option (Option Nat)}
    {members : Option (List Component)} {ms : List Json.Member} {s : Struct} :
    structMembers name size members ms = .ok s ↔
      Given ["name"] text name ms (some s.name) ∧
      (∃ n, Given ["size"] (optional word) size ms n ∧ s.size = n.join) ∧
      ∃ cs, Given ["members"] (list (component .structMember)) members ms cs ∧
        s.members = cs.getD [] := by
  induction ms generalizing name size members with
  | nil =>
    obtain ⟨n, z, cs⟩ := s
    simp only [structMembers, Given, bind_eq_ok_iff, required_eq_ok_iff]
    grind
  | cons m rest ih =>
    simp only [structMembers, Given, List.mem_singleton]
    split_ifs <;> simp only [bind_eq_ok_iff, once_eq_ok_iff, ih] <;> grind

theorem enumMembers_eq_ok_iff {name : Option String} {variants : Option (List Component)}
    {ms : List Json.Member} {e : Enum} :
    enumMembers name variants ms = .ok e ↔
      Given ["name"] text name ms (some e.name) ∧
      ∃ cs, Given ["variants"] (list (component .enumVariant)) variants ms cs ∧
        e.variants = cs.getD [] := by
  induction ms generalizing name variants with
  | nil =>
    obtain ⟨n, cs⟩ := e
    simp only [enumMembers, Given, bind_eq_ok_iff, required_eq_ok_iff]
    grind
  | cons m rest ih =>
    simp only [enumMembers, Given, List.mem_singleton]
    split_ifs <;> simp only [bind_eq_ok_iff, once_eq_ok_iff, ih] <;> grind

theorem implMembers_eq_ok_iff {name interfaceName : Option String} {ms : List Json.Member}
    {i : Impl} :
    implMembers name interfaceName ms = .ok i ↔
      Given ["name"] text name ms (some i.name) ∧
      ∃ n, Given ["interface_name"] text interfaceName ms n ∧ i.interfaceName = n.getD "" := by
  induction ms generalizing name interfaceName with
  | nil =>
    obtain ⟨n, i⟩ := i
    simp only [implMembers, Given, bind_eq_ok_iff, required_eq_ok_iff]
    grind
  | cons m rest ih =>
    simp only [implMembers, Given, List.mem_singleton]
    split_ifs <;> simp only [bind_eq_ok_iff, once_eq_ok_iff, ih] <;> grind

/-! ## Events, types and interfaces -/

/-- The members of an event that belong to its body. -/
def bodyMembers (ms : List Json.Member) : List Json.Member :=
  ms.filter fun m => m.1 != "name" && m.1 != "type"

/-- The body is the map of its members, behind what is there already. -/
theorem eventMembers_eq_ok_iff {name : Option String} {body ms : List Json.Member} {e : Event} :
    eventMembers name body ms = .ok e ↔
      Given ["name"] text name ms (some e.name) ∧
      e.body = (Json.dedupMembers (bodyMembers ms)).foldl (fun m f => Assoc.put m f.1 f.2) body := by
  induction ms generalizing name body with
  | nil =>
    obtain ⟨n, b⟩ := e
    simp only [eventMembers, Given, bind_eq_ok_iff, required_eq_ok_iff]
    grind [bodyMembers, Json.dedupMembers]
  | cons m rest ih =>
    obtain ⟨k, v⟩ := m
    simp only [eventMembers, Given, List.mem_singleton]
    by_cases hn : k = "name"
    · have hb : bodyMembers ((k, v) :: rest) = bodyMembers rest := by simp [bodyMembers, hn]
      simp only [if_pos hn, hb, bind_eq_ok_iff, once_eq_ok_iff, ih]
      grind
    · by_cases ht : k = "type"
      · have hb : bodyMembers ((k, v) :: rest) = bodyMembers rest := by simp [bodyMembers, ht]
        rw [if_neg hn, if_pos ht, if_neg hn, hb, ih]
      · have hb : bodyMembers ((k, v) :: rest) = (k, v) :: bodyMembers rest := by
          simp [bodyMembers, hn, ht]
        rw [if_neg hn, if_neg ht, if_neg hn, hb, ih, Json.dedupMembers, List.foldl_cons]

theorem tagOfMembers_eq_ok_iff {nested : Bool} {present : Option Tag} {ms : List Json.Member}
    {t : Tag} :
    tagOfMembers nested present ms = .ok t ↔ Given ["type"] (tag nested) present ms (some t) := by
  induction ms generalizing present with
  | nil => rw [tagOfMembers, required_eq_ok_iff, Given, eq_comm]
  | cons m rest ih =>
    simp only [tagOfMembers, Given, List.mem_singleton]
    split_ifs
    · simp only [bind_eq_ok_iff, once_eq_ok_iff, ih]
      grind
    · exact ih

theorem interfaceMembers_name (name : Option String) (items : Option (List Entry)) (v : Json)
    (rest : List Json.Member) : interfaceMembers name items (("name", v) :: rest) =
      (once "name" name text v >>= fun n => interfaceMembers n items rest) := by
  cases items <;> rw [interfaceMembers, if_pos rfl]

/-- The items of an interface are read as any other field. -/
theorem interfaceMembers_items (name : Option String) (items : Option (List Entry)) (v : Json)
    (rest : List Json.Member) : interfaceMembers name items (("items", v) :: rest) =
      (once "items" items nestedEntries v >>= fun es => interfaceMembers name es rest) := by
  have hn : "items" ≠ "name" := by decide
  cases items with
  | some es => rw [interfaceMembers, if_neg hn, if_pos rfl]; rfl
  | none =>
    rw [interfaceMembers, if_neg hn, if_pos rfl, once]
    cases nestedEntries v <;> rfl

theorem interfaceMembers_unknown {k : String} (hn : k ≠ "name") (hi : k ≠ "items")
    (name : Option String) (items : Option (List Entry)) (v : Json) (rest : List Json.Member) :
    interfaceMembers name items ((k, v) :: rest) = interfaceMembers name items rest := by
  cases items <;> rw [interfaceMembers, if_neg hn, if_neg hi]

theorem interfaceMembers_eq_ok_iff {name : Option String} {items : Option (List Entry)}
    {ms : List Json.Member} {e : Entry} :
    interfaceMembers name items ms = .ok e ↔
      ∃ n es, Given ["name"] text name ms (some n) ∧ Given ["items"] nestedEntries items ms es ∧
        e = .interface n (es.getD []) := by
  induction ms generalizing name items with
  | nil =>
    simp only [interfaceMembers, Given, bind_eq_ok_iff, required_eq_ok_iff]
    grind
  | cons m rest ih =>
    obtain ⟨k, v⟩ := m
    simp only [Given, List.mem_singleton]
    by_cases hn : k = "name"
    · subst hn
      simp only [interfaceMembers_name, bind_eq_ok_iff, once_eq_ok_iff, ih]
      grind
    · by_cases hi : k = "items"
      · subst hi
        simp only [interfaceMembers_items, bind_eq_ok_iff, once_eq_ok_iff, ih]
        grind
      · simp only [interfaceMembers_unknown hn hi, if_neg hn, if_neg hi, ih]

end ContractCall.Abi.Decode
