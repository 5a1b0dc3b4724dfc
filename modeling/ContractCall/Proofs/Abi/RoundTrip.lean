import ContractCall.Abi.Encode
import ContractCall.Proofs.Abi.Fields

/-!
# Reading an ABI that was written

`Abi.toJson` writes an ABI in one of the many forms that `Abi.ofJson` reads, and it is read back as
it was. The bodies of events need care: a body shares its object with the type and the name of the
event, and keeps one member for each key.

* `IsBody`, `Entry.Regular`: the entries whose events have a body that reading gives.
* `regular_of_entries`: reading gives regular entries only. The induction follows the reader.
* `entry_toJson`: regular entries are read back, by one lemma for each record, named `*_toJson` or
  after the reader of its members.
* `distinct_toJson`: a regular entry is written without a repeated key.
* `ofJson_toJson_of_ofJson`: what was read and written is read as the same ABI, and different ABIs
  that were read are written differently.
-/

namespace ContractCall.Abi

/-! ## Bodies of events -/

/-- The members may follow the type and the name of an event and are read as they are. -/
structure IsBody (body : List Json.Member) : Prop where
  nodup : (Assoc.keys body).Nodup
  type_notMem : "type" ∉ Assoc.keys body
  name_notMem : "name" ∉ Assoc.keys body
  distinct : ∀ m ∈ body, m.2.Distinct

theorem isBody_nil : IsBody [] :=
  ⟨List.nodup_nil, List.not_mem_nil, List.not_mem_nil, nofun⟩

/-- A further member, or a further value of a member, leaves a body. -/
theorem IsBody.put {body : List Json.Member} (h : IsBody body) {k : String} (hn : k ≠ "name")
    (ht : k ≠ "type") (v : Json) : IsBody (Assoc.put body k v.dedup) := by
  have hkeys {key : String} (hne : k ≠ key) (hk : key ∉ Assoc.keys body) :
      key ∉ Assoc.keys (Assoc.put body k v.dedup) := by
    rw [Assoc.keys_put]
    split
    · exact hk
    · simp [hk, Ne.symm hne]
  refine ⟨Assoc.nodup_keys_put h.nodup k _, hkeys ht h.type_notMem, hkeys hn h.name_notMem, ?_⟩
  intro m hm
  rcases Assoc.mem_of_mem_put hm with rfl | hm
  · exact Json.distinct_dedup v
  · exact h.distinct m hm

/-- Every event of the entry, at every depth, has a body that reading gives. -/
inductive Entry.Regular : Entry → Prop where
  | leaf {e : Entry} (hi : e.isInterface = false) (hb : ∀ d, e = .event d → IsBody d.body) :
    Regular e
  | interface (name : String) {items : List Entry} (h : ∀ i ∈ items, Regular i) :
    Regular (.interface name items)

namespace Decode

/-! ## What reading gives -/

theorem isBody_of_eventMembers {name : Option String} {body ms : List Json.Member} {e : Event}
    (hb : IsBody body) (h : eventMembers name body ms = .ok e) : IsBody e.body := by
  induction ms generalizing name body with
  | nil =>
    obtain ⟨n, -, he⟩ := bind_eq_ok_iff.mp h
    cases he
    exact hb
  | cons m rest ih =>
    obtain ⟨k, v⟩ := m
    rw [eventMembers] at h
    split at h
    · obtain ⟨_, -, h⟩ := bind_eq_ok_iff.mp h
      exact ih hb h
    · rename_i hn
      split at h
      · exact ih hb h
      · rename_i ht
        exact ih (hb.put hn ht v) h

/-- Reading gives regular entries. The interfaces make the reader recursive: the statement is about
entries, the fields and members of interfaces, and lists of entries at once. -/
theorem regular_of_entries (nested : Bool) (vs : List Json) :
    ∀ es, entries nested vs = .ok es → ∀ e ∈ es, e.Regular := by
  refine entries.induct (fun nested v => ∀ e, entry nested v = .ok e → e.Regular)
    (fun fields => ∀ e, interfaceItems fields = .ok e → e.Regular)
    (fun v => ∀ es, nestedEntries v = .ok es → ∀ e ∈ es, e.Regular)
    (fun nested vs => ∀ es, entries nested vs = .ok es → ∀ e ∈ es, e.Regular)
    (fun name items ms => (∀ es, items = some es → ∀ e ∈ es, e.Regular) →
      ∀ e, interfaceMembers name items ms = .ok e → e.Regular)
    ?object ?empty ?fields ?other ?items ?noItems ?noFields ?nameOnly ?nameAndItems ?nil ?cons
    ?membersNil ?name ?again ?membersItems ?unknown nested vs
  case object =>
    intro nested members ih e h
    rw [entry] at h
    obtain ⟨t, -, h⟩ := bind_eq_ok_iff.mp h
    cases t with
    | interface => exact ih (fun es hes => by cases hes) e h
    | event =>
      obtain ⟨d, hd, rfl⟩ := map_eq_ok_iff.mp h
      refine .leaf rfl fun d' he => ?_
      cases he
      exact isBody_of_eventMembers isBody_nil hd
    | _ =>
      obtain ⟨d, -, rfl⟩ := map_eq_ok_iff.mp h
      exact .leaf rfl fun d' he => by cases he
  case empty =>
    intro nested e h
    rw [entry] at h
    cases h
  case fields =>
    intro nested t fields ih e h
    rw [entry] at h
    obtain ⟨t, -, h⟩ := bind_eq_ok_iff.mp h
    cases t with
    | interface => exact ih e h
    | event => cases h
    | _ =>
      obtain ⟨d, -, rfl⟩ := map_eq_ok_iff.mp h
      exact .leaf rfl fun d' he => by cases he
  case other =>
    intro nested v ho he hf e h
    rw [entry.eq_4 nested v ho he hf] at h
    cases h
  case items =>
    intro items ih es h
    exact ih es h
  case noItems =>
    intro v hv es h
    rw [nestedEntries.eq_2 v hv] at h
    cases h
  case noFields =>
    intro e h
    cases h
  case nameOnly =>
    intro name e h
    obtain ⟨n, -, h⟩ := bind_eq_ok_iff.mp h
    cases h
    exact .interface n (List.forall_mem_nil _)
  case nameAndItems =>
    intro name items rest ih e h
    obtain ⟨n, -, h⟩ := bind_eq_ok_iff.mp h
    obtain ⟨es, hes, h⟩ := bind_eq_ok_iff.mp h
    obtain ⟨_, -, h⟩ := bind_eq_ok_iff.mp h
    cases h
    exact .interface n (ih es hes)
  case nil =>
    intro nested es h
    cases h
    exact List.forall_mem_nil _
  case cons =>
    intro nested v rest ihv ihr es h
    rw [entries] at h
    obtain ⟨e, he, h⟩ := bind_eq_ok_iff.mp h
    obtain ⟨es', hes, h⟩ := bind_eq_ok_iff.mp h
    cases h
    exact List.forall_mem_cons.mpr ⟨ihv e he, ihr es' hes⟩
  case membersNil =>
    intro name items hi e h
    rw [interfaceMembers] at h
    obtain ⟨n, -, h⟩ := bind_eq_ok_iff.mp h
    cases h
    cases items with
    | none => exact .interface n (List.forall_mem_nil _)
    | some es => exact .interface n (hi es rfl)
  case name =>
    intro name items v rest ih hi e h
    rw [interfaceMembers_name] at h
    obtain ⟨n, -, h⟩ := bind_eq_ok_iff.mp h
    exact ih n hi e h
  case again =>
    intro name v rest es hk hi e h
    rw [interfaceMembers, if_neg hk, if_pos rfl] at h
    cases h
  case membersItems =>
    intro name v rest hk ihv ihr hi e h
    rw [interfaceMembers, if_neg hk, if_pos rfl] at h
    obtain ⟨es, hes, h⟩ := bind_eq_ok_iff.mp h
    refine ihr es (fun es' he' => ?_) e h
    cases he'
    exact ihv es hes
  case unknown =>
    intro name items k v rest hk hk' ih hi e h
    rw [interfaceMembers_unknown hk hk'] at h
    exact ih hi e h

/-! ## Reading what was written -/

theorem text_string (s : String) : text (.string s) = .ok s := rfl

theorem optional_text_string (s : String) : Decode.optional text (.string s) = .ok (some s) := rfl

theorem optional_word_natCast (n : Nat) :
    Decode.optional word (.number (.integer n)) = .ok (some n) := by
  have hn : ¬ (n : Int) < 0 := by omega
  have hw : word (.number (.integer n)) = .ok n := by rw [word, if_neg hn, Int.toNat_natCast]
  rw [Decode.optional, hw, map_ok]
  nofun

theorem list_map {α : Type} {read : Json → Decoded α} {write : α → Json} {values : List α}
    (h : ∀ x, read (write x) = .ok x) : list read (.array (values.map write)) = .ok values :=
  mapM_map_eq_ok fun x _ => h x

theorem param_toJson (p : Param) : param p.toJson = .ok p := rfl

theorem output_toJson (o : Output) : output o.toJson = .ok o := by
  obtain ⟨name, type⟩ := o
  cases name <;> rfl

theorem component_toJson (shape : Shape) (c : Component) : component shape c.toJson = .ok c := by
  obtain ⟨name, type, offset⟩ := c
  cases offset with
  | none => rfl
  | some n =>
    simp [component, Component.toJson, record, componentMembers, once, textMember, wordMember,
      text_string, optional_word_natCast, required]

/-- The type in front of a signature's members is skipped, and the members are read back. -/
theorem signatureMembers_members (f : Signature) (t : Json) :
    signatureMembers ⟨none, none, none, none⟩ (("type", t) :: f.members) = .ok f := by
  obtain ⟨name, inputs, outputs, mutability⟩ := f
  have hi : list param (.array (inputs.map Param.toJson)) = .ok inputs := list_map param_toJson
  have ho : list output (.array (outputs.map Output.toJson)) = .ok outputs :=
    list_map output_toJson
  cases mutability <;>
    simp [signatureMembers, Signature.members, textMember, listMember, once, text_string, hi, ho,
      optional_text_string, required]

theorem structMembers_fields (s : Struct) (t : Json) :
    structMembers none none none (("type", t) :: s.fields) = .ok s := by
  obtain ⟨name, size, members⟩ := s
  have hm : list (component .structMember) (.array (members.map Component.toJson)) =
      .ok members := list_map (component_toJson _)
  cases size <;>
    simp [structMembers, Struct.fields, textMember, wordMember, listMember, once, text_string,
      optional_word_natCast, hm, required]

theorem enumMembers_fields (e : Enum) (t : Json) :
    enumMembers none none (("type", t) :: e.fields) = .ok e := by
  obtain ⟨name, variants⟩ := e
  have hv : list (component .enumVariant) (.array (variants.map Component.toJson)) =
      .ok variants := list_map (component_toJson _)
  simp [enumMembers, Enum.fields, textMember, listMember, once, text_string, hv, required]

/-- A body is read back behind the members that were read before it. -/
theorem eventMembers_body {name : String} {read rest : List Json.Member}
    (h : IsBody (read ++ rest)) :
    eventMembers (some name) read rest = .ok ⟨name, read ++ rest⟩ := by
  induction rest generalizing read with
  | nil => rw [eventMembers, List.append_nil]; rfl
  | cons m rest ih =>
    obtain ⟨k, v⟩ := m
    have hk : k ∈ Assoc.keys (read ++ (k, v) :: rest) := by simp [Assoc.keys]
    have hn : k ≠ "name" := fun e => h.name_notMem (e ▸ hk)
    have ht : k ≠ "type" := fun e => h.type_notMem (e ▸ hk)
    have hnew : k ∉ Assoc.keys read := by
      have hd := h.nodup
      rw [Assoc.keys, List.map_append, List.map_cons, List.nodup_append] at hd
      exact fun hm => hd.2.2 _ hm _ List.mem_cons_self rfl
    have hv : v.dedup = v := h.distinct (k, v) (by simp)
    have hr : read ++ (k, v) :: rest = (read ++ [(k, v)]) ++ rest := by simp
    rw [eventMembers, if_neg hn, if_neg ht, hv, Assoc.put_of_not_mem hnew, ih (hr ▸ h), hr]

theorem implMembers_toJson (i : Impl) (t : Json) :
    implMembers none none [("type", t), textMember "name" i.name,
      textMember "interface_name" i.interfaceName] = .ok i := rfl

theorem tagOfMembers_of_not_mem {nested : Bool} {t : Tag} {ms : List Json.Member}
    (h : "type" ∉ Assoc.keys ms) : tagOfMembers nested (some t) ms = .ok t := by
  induction ms with
  | nil => rfl
  | cons m rest ih =>
    obtain ⟨k, v⟩ := m
    rw [Assoc.keys, List.map_cons, List.mem_cons, not_or] at h
    rw [tagOfMembers, if_neg (Ne.symm h.1), ih h.2]

/-- The type in front of other members is read, inside and outside of interfaces. -/
theorem tagOfMembers_cons {nested : Bool} {s : String} {t : Tag} {ms : List Json.Member}
    (hs : tag nested (.string s) = .ok t) (h : "type" ∉ Assoc.keys ms) :
    tagOfMembers nested none (textMember "type" s :: ms) = .ok t := by
  rw [textMember, tagOfMembers, if_pos rfl, once, hs]
  exact tagOfMembers_of_not_mem h

theorem type_not_mem_members (f : Signature) : "type" ∉ Assoc.keys f.members := by
  obtain ⟨name, inputs, outputs, mutability⟩ := f
  cases mutability <;> simp [Assoc.keys, Signature.members, textMember, listMember]

theorem type_not_mem_fields (s : Struct) : "type" ∉ Assoc.keys s.fields := by
  obtain ⟨name, size, members⟩ := s
  cases size <;> simp [Assoc.keys, Struct.fields, textMember, wordMember, listMember]

theorem entries_listToJson {nested : Bool} {es : List Entry}
    (h : ∀ e ∈ es, entry nested e.toJson = .ok e) :
    entries nested (Entry.listToJson es) = .ok es := by
  induction es with
  | nil => rfl
  | cons e rest ih =>
    obtain ⟨he, hr⟩ := List.forall_mem_cons.mp h
    rw [Entry.listToJson, entries, he, ok_bind, ih hr, ok_bind]

theorem interfaceMembers_toJson {name : String} {items : List Entry} (t : Json)
    (h : ∀ i ∈ items, entry true i.toJson = .ok i) :
    interfaceMembers none none [("type", t), textMember "name" name,
      ("items", .array (Entry.listToJson items))] = .ok (.interface name items) := by
  rw [interfaceMembers_unknown (by decide) (by decide), textMember, interfaceMembers_name, once,
    text_string, map_ok, ok_bind, interfaceMembers, if_neg (by decide), if_pos rfl, nestedEntries,
    entries_listToJson h]
  rfl

/-- A regular entry is read back, inside and outside of interfaces. The induction is on the nesting
of interfaces, the cases are the kinds of entries. -/
theorem entry_toJson {e : Entry} (h : e.Regular) (nested : Bool) :
    entry nested e.toJson = .ok e := by
  induction h generalizing nested with
  | interface name _ ih =>
    rw [Entry.toJson, entry, tagOfMembers_cons rfl (by simp [Assoc.keys, textMember]), ok_bind]
    exact interfaceMembers_toJson _ fun i hi => ih i hi true
  | @leaf e hi hb =>
    cases e with
    | function f =>
      rw [Entry.toJson, entry, tagOfMembers_cons rfl (type_not_mem_members f), ok_bind]
      simp only [textMember, signatureMembers_members, map_ok]
    | constructor f =>
      rw [Entry.toJson, entry, tagOfMembers_cons rfl (type_not_mem_members f), ok_bind]
      simp only [textMember, signatureMembers_members, map_ok]
    | l1Handler f =>
      rw [Entry.toJson, entry, tagOfMembers_cons rfl (type_not_mem_members f), ok_bind]
      simp only [textMember, signatureMembers_members, map_ok]
    | struct s =>
      rw [Entry.toJson, entry, tagOfMembers_cons rfl (type_not_mem_fields s), ok_bind]
      simp only [textMember, structMembers_fields, map_ok]
    | enum d =>
      have ht : "type" ∉ Assoc.keys d.fields := by
        simp [Assoc.keys, Enum.fields, textMember, listMember]
      rw [Entry.toJson, entry, tagOfMembers_cons rfl ht, ok_bind]
      simp only [textMember, enumMembers_fields, map_ok]
    | event d =>
      have hd := hb d rfl
      have ht : "type" ∉ Assoc.keys (textMember "name" d.name :: d.body) := by
        simpa [Assoc.keys, textMember] using hd.type_notMem
      have hr : eventMembers (some d.name) [] d.body = .ok d := eventMembers_body hd
      rw [Entry.toJson, entry, tagOfMembers_cons rfl ht, ok_bind]
      simp [eventMembers, textMember, once, text_string, hr]
    | impl i =>
      rw [Entry.toJson, entry, tagOfMembers_cons rfl (by simp [Assoc.keys, textMember]), ok_bind]
      exact congrArg (Except.map Entry.impl) (implMembers_toJson i _)
    | interface name items => cases hi

end Decode

/-! ## No repeated keys -/

theorem distinct_textMember (k s : String) : (textMember k s).2.Distinct := Json.distinct_string s

theorem distinct_listMember {α : Type} {write : α → Json} (k : String) (values : List α)
    (h : ∀ x, (write x).Distinct) : (listMember k write values).2.Distinct :=
  Json.distinct_array (List.forall_mem_map.mpr fun x _ => h x)

theorem Param.distinct_toJson (p : Param) : p.toJson.Distinct :=
  Json.distinct_object (by simp [Assoc.keys, textMember])
    (by simp [textMember, Json.distinct_string])

theorem Output.distinct_toJson (o : Output) : o.toJson.Distinct := by
  obtain ⟨name, type⟩ := o
  cases name <;>
    exact Json.distinct_object (by simp [Assoc.keys, textMember])
      (by simp [textMember, Json.distinct_string])

theorem Component.distinct_toJson (c : Component) : c.toJson.Distinct := by
  obtain ⟨name, type, offset⟩ := c
  cases offset <;>
    exact Json.distinct_object (by simp [Assoc.keys, textMember, wordMember])
      (by simp [textMember, wordMember, Json.distinct_string, Json.distinct_number])

theorem Signature.distinct_members (f : Signature) (t : String) :
    (Json.object (textMember "type" t :: f.members)).Distinct := by
  obtain ⟨name, inputs, outputs, mutability⟩ := f
  have hi := distinct_listMember "inputs" inputs Param.distinct_toJson
  have ho := distinct_listMember "outputs" outputs Output.distinct_toJson
  cases mutability <;>
    exact Json.distinct_object (by simp [Assoc.keys, members, textMember, listMember])
      (by simp [members, distinct_textMember, hi, ho])

theorem Struct.distinct_fields (s : Struct) (t : String) :
    (Json.object (textMember "type" t :: s.fields)).Distinct := by
  obtain ⟨name, size, members⟩ := s
  have hm := distinct_listMember "members" members Component.distinct_toJson
  cases size <;>
    exact Json.distinct_object (by simp [Assoc.keys, fields, textMember, wordMember, listMember])
      (by simp [fields, wordMember, distinct_textMember, Json.distinct_number, hm])

theorem Enum.distinct_fields (e : Enum) (t : String) :
    (Json.object (textMember "type" t :: e.fields)).Distinct := by
  have hv := distinct_listMember "variants" e.variants Component.distinct_toJson
  exact Json.distinct_object (by simp [Assoc.keys, fields, textMember, listMember])
    (by simp [fields, distinct_textMember, hv])

theorem Event.distinct_members {d : Event} (h : IsBody d.body) (t : String) :
    (Json.object (textMember "type" t :: textMember "name" d.name :: d.body)).Distinct := by
  refine Json.distinct_object ?_ ?_
  · have hn := h.name_notMem
    have ht := h.type_notMem
    simp only [Assoc.keys, List.map_cons, textMember] at hn ht ⊢
    exact List.nodup_cons.mpr ⟨by simp [ht], List.nodup_cons.mpr ⟨hn, h.nodup⟩⟩
  · exact List.forall_mem_cons.mpr ⟨Json.distinct_string _,
      List.forall_mem_cons.mpr ⟨Json.distinct_string _, h.distinct⟩⟩

theorem Impl.distinct_members (i : Impl) (t : String) :
    (Json.object [textMember "type" t, textMember "name" i.name,
      textMember "interface_name" i.interfaceName]).Distinct :=
  Json.distinct_object (by simp [Assoc.keys, textMember])
    (by simp [textMember, Json.distinct_string])

theorem Entry.distinct_listToJson {es : List Entry} (h : ∀ e ∈ es, e.toJson.Distinct) :
    (Json.array (Entry.listToJson es)).Distinct := by
  rw [Entry.listToJson_eq_map]
  exact Json.distinct_array (List.forall_mem_map.mpr h)

/-- A regular entry is written without a repeated key. -/
theorem Entry.Regular.distinct_toJson {e : Entry} (h : e.Regular) : e.toJson.Distinct := by
  induction h with
  | interface name _ ih =>
    have hi := Entry.distinct_listToJson ih
    rw [Entry.toJson]
    exact Json.distinct_object (by simp [Assoc.keys, textMember])
      (by simp [textMember, Json.distinct_string, hi])
  | @leaf e hi hb =>
    cases e with
    | function f => rw [Entry.toJson]; exact f.distinct_members _
    | constructor f => rw [Entry.toJson]; exact f.distinct_members _
    | l1Handler f => rw [Entry.toJson]; exact f.distinct_members _
    | struct s => rw [Entry.toJson]; exact s.distinct_fields _
    | enum d => rw [Entry.toJson]; exact d.distinct_fields _
    | event d => rw [Entry.toJson]; exact Event.distinct_members (hb d rfl) _
    | impl i => rw [Entry.toJson]; exact i.distinct_members _
    | interface name items => cases hi

/-! ## Whole ABIs -/

variable {v : Json} {abi : Abi}

theorem regular_of_ofJson (h : ofJson v = .ok abi) : ∀ e ∈ abi.entries, e.Regular := by
  cases v with
  | array items =>
    obtain ⟨es, hes, rfl⟩ := map_eq_ok_iff.mp h
    exact Decode.regular_of_entries false items es hes
  | _ => cases h

theorem ofJson_toJson_of_regular (h : ∀ e ∈ abi.entries, e.Regular) :
    ofJson abi.toJson = .ok abi := by
  rw [toJson, ofJson, Decode.entries_listToJson fun e he => Decode.entry_toJson (h e he) false]
  rfl

/-- An ABI that was read is written as a value without repeated keys, which is read as the same ABI
and written in the same way again. Two ABIs that were read are the same if they are written in the
same way. -/
theorem ofJson_toJson_of_ofJson (v : Json) (abi : Abi) (h : ofJson v = .ok abi) :
    abi.toJson.Distinct ∧ ofJson abi.toJson = .ok abi ∧
      (ofJson abi.toJson).map toJson = .ok abi.toJson ∧
      ∀ w abi', ofJson w = .ok abi' → abi'.toJson = abi.toJson → abi' = abi := by
  have hr := regular_of_ofJson h
  have hback := ofJson_toJson_of_regular hr
  refine ⟨Entry.distinct_listToJson fun e he => (hr e he).distinct_toJson, hback, ?_, ?_⟩
  · rw [hback]
    rfl
  · intro w abi' hw he
    have hback' := ofJson_toJson_of_regular (regular_of_ofJson hw)
    rw [he, hback] at hback'
    cases hback'
    rfl

/-- A document with an entry of every other form: a nested interface whose items have a number and a
list for their type, both spellings and a `null` for the mutability, and a free event body. -/
def scattered : Json :=
  .array [.object [("name", .string "IBank"), ("type", .string "interface"),
    ("items", .array [
      .object [("type", .number (.integer 5)), ("name", .string "IInner")],
      .object [("stateMutability", .string "view"), ("type", .string "function"),
        ("name", .string "balance"), ("outputs", .array [.object [("type", .string "felt")]])],
      .array [.string "struct", .string "Point", .null]])],
    .object [("type", .string "event"), ("kind", .string "struct"), ("name", .string "Moved"),
      ("members", .array [.object [("indexed", .bool true), ("size", .null)]])],
    .object [("type", .string "l1_handler"), ("name", .string "deposit"),
      ("state_mutability", .null)],
    .object [("type", .string "impl"), ("name", .string "Bank")]]

/-- What `scattered` is read as. -/
def bank : Abi :=
  ⟨[.interface "IBank" [.interface "IInner" [],
      .function ⟨"balance", [], [⟨none, "felt"⟩], some "view"⟩, .struct ⟨"Point", none, []⟩],
    .event ⟨"Moved", [("kind", .string "struct"),
      ("members", .array [.object [("indexed", .bool true), ("size", .null)]])]⟩,
    .l1Handler ⟨"deposit", [], [], none⟩, .impl ⟨"Bank", ""⟩]⟩

theorem ofJson_toJson_bank : ofJson scattered = .ok bank ∧ bank.toJson.Distinct ∧
    ofJson bank.toJson = .ok bank ∧ (ofJson bank.toJson).map toJson = .ok bank.toJson ∧
    ∀ w abi', ofJson w = .ok abi' → abi'.toJson = bank.toJson → abi' = bank :=
  have h : ofJson scattered = .ok bank := rfl
  ⟨h, ofJson_toJson_of_ofJson scattered bank h⟩

end ContractCall.Abi
