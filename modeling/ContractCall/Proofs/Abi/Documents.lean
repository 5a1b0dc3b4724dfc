import ContractCall.Abi.Document
import ContractCall.Proofs.Abi.Fields

/-!
# Documents with repeated keys

An ABI is read from the text of a document as the document is written, or from the value that the
document stands for, in which no key is repeated (`Json.dedup`). A known field given twice is a
fault only in the text. A repeated key that no field has is ignored, and in the body of an event its
last value counts, as it does in the value.

* `Kept f read b`: what is read from `b` is also read from `f b`. The rules `Kept.bind`, `Kept.list`
  and so on build this up along the readers, for values (`Json.dedup`), for the items of arrays
  (`Json.dedupItems`) and for the members of objects (`dedupMap`).
* `kept_entry`: entries of all kinds, by induction on the nesting of values.
* `text_and_value_agree`: what a text gives its value gives as well, and where no key is repeated
  both fail or both give the same.
-/

namespace ContractCall.Abi.Decode

variable {α β γ : Type} {f : β → β} {b : β} {v : Json} {items : List Json} {ms : List Json.Member}
  {shape : Shape}

/-! ## Rules -/

/-- What is read from `b` is also read from `f b`. -/
def Kept (f : β → β) (read : β → Decoded α) (b : β) : Prop :=
  ∀ x, read b = .ok x → read (f b) = .ok x

theorem Kept.const (x : Decoded α) : Kept f (fun _ => x) b :=
  fun _ h => h

theorem Kept.bind {read : β → Decoded α} {next : α → β → Decoded γ} (h : Kept f read b)
    (hn : ∀ x, Kept f (next x) b) : Kept f (fun b => read b >>= fun x => next x b) b := by
  intro y hy
  obtain ⟨x, hx, hy⟩ := bind_eq_ok_iff.mp hy
  show (read (f b) >>= fun x => next x (f b)) = .ok y
  rw [h x hx, ok_bind, hn x y hy]

theorem Kept.map {read : β → Decoded α} (h : Kept f read b) (g : α → γ) :
    Kept f (fun b => (read b).map g) b := by
  intro y hy
  obtain ⟨x, hx, rfl⟩ := map_eq_ok_iff.mp hy
  show (read (f b)).map g = .ok (g x)
  rw [h x hx, map_ok]

/-- A reader that takes neither arrays nor objects keeps everything. -/
theorem kept_of_scalar {read : Json → Decoded α} (ha : ∀ items x, read (.array items) ≠ .ok x)
    (ho : ∀ members x, read (.object members) ≠ .ok x) : Kept Json.dedup read v := by
  intro x h
  cases v with
  | array items => exact absurd h (ha items x)
  | object members => exact absurd h (ho members x)
  | _ => exact h

theorem kept_text : Kept Json.dedup text v :=
  kept_of_scalar nofun nofun

theorem kept_tag (nested : Bool) : Kept Json.dedup (tag nested) v :=
  kept_of_scalar nofun nofun

theorem kept_optional_text : Kept Json.dedup (Decode.optional text) v :=
  kept_of_scalar nofun nofun

theorem kept_optional_word : Kept Json.dedup (Decode.optional word) v :=
  kept_of_scalar nofun nofun

theorem mapM_dedupItems {read : Json → Decoded α} (h : ∀ v ∈ items, Kept Json.dedup read v) :
    Kept Json.dedupItems (List.mapM read) items := by
  induction items with
  | nil => exact fun xs hxs => hxs
  | cons v rest ih =>
    obtain ⟨hv, hrest⟩ := List.forall_mem_cons.mp h
    intro xs hxs
    rw [List.mapM_cons] at hxs
    obtain ⟨x, hx, hxs⟩ := bind_eq_ok_iff.mp hxs
    obtain ⟨ys, hys, hxs⟩ := bind_eq_ok_iff.mp hxs
    rw [Json.dedupItems, List.mapM_cons, hv x hx, ok_bind, ih hrest ys hys, ok_bind, hxs]

theorem Kept.list {read : Json → Decoded α} (h : ∀ v, Kept Json.dedup read v) :
    Kept Json.dedup (Decode.list read) v := by
  intro xs hxs
  cases v with
  | array items => exact mapM_dedupItems (fun v _ => h v) xs hxs
  | _ => cases hxs

/-! ## Records as lists of their fields -/

theorem getElem?_dedupItems (items : List Json) (i : Nat) :
    (Json.dedupItems items)[i]? = items[i]?.map Json.dedup := by
  rw [Json.dedupItems_eq_map, List.getElem?_map]

theorem Kept.item {read : Json → Decoded α} (h : ∀ v, Kept Json.dedup read v) (i : Nat) :
    Kept Json.dedupItems (fun items => Decode.item shape i items read) items := by
  intro x hx
  simp only [Decode.item, getElem?_dedupItems] at hx ⊢
  cases hi : items[i]? with
  | none => simp only [hi] at hx; cases hx
  | some v => simp only [hi] at hx; exact h v x hx

theorem Kept.itemOr {read : Json → Decoded α} (h : ∀ v, Kept Json.dedup read v) (default : α)
    (i : Nat) : Kept Json.dedupItems (fun items => Decode.itemOr default i items read) items := by
  intro x hx
  simp only [Decode.itemOr, getElem?_dedupItems] at hx ⊢
  cases hi : items[i]? with
  | none => simp only [hi] at hx; exact hx
  | some v => simp only [hi] at hx; exact h v x hx

theorem kept_complete : Kept Json.dedupItems (fun items => complete shape items.length) items := by
  intro u hu
  simpa only [Json.dedupItems_eq_map, List.length_map] using hu

theorem kept_paramItems : Kept Json.dedupItems paramItems items :=
  .bind (.item (fun _ => kept_text) 0) fun _ =>
    .bind (.item (fun _ => kept_text) 1) fun _ => .bind kept_complete fun _ => .const _

theorem kept_outputItems : Kept Json.dedupItems outputItems items :=
  .bind (.itemOr (fun _ => kept_optional_text) none 0) fun _ =>
    .bind (.item (fun _ => kept_text) 1) fun _ => .bind kept_complete fun _ => .const _

theorem kept_componentItems : Kept Json.dedupItems (componentItems shape) items :=
  .bind (.item (fun _ => kept_text) 0) fun _ =>
    .bind (.item (fun _ => kept_text) 1) fun _ =>
      .bind (.itemOr (fun _ => kept_optional_word) none 2) fun _ =>
        .bind kept_complete fun _ => .const _

/-! ## Records as objects -/

/-- The members of the value that an object with these members stands for. -/
def dedupMap (ms : List Json.Member) : List Json.Member :=
  Assoc.ofList (Json.dedupMembers ms)

/-- The members under some keys, before and after repeated keys are dropped. -/
theorem filter_dedupMap (p : String → Bool) (ms : List Json.Member) :
    (dedupMap ms).filter (fun m => p m.1) = dedupMap (ms.filter fun m => p m.1) := by
  rw [dedupMap, dedupMap, Assoc.filter_ofList, Json.dedupMembers_eq_map, Json.dedupMembers_eq_map,
    List.filter_map]
  rfl

variable {keys : List String} {read : Json → Decoded α} {o : Option α}

theorem valuesOf_dedupMap_of_nil (h : valuesOf keys ms = []) : valuesOf keys (dedupMap ms) = [] := by
  rw [valuesOf, List.map_eq_nil_iff] at h
  rw [valuesOf, filter_dedupMap, h]
  rfl

/-- The only member with one of the keys stays where repeated keys are dropped. -/
theorem valuesOf_dedupMap_of_singleton (h : valuesOf keys ms = [v]) :
    valuesOf keys (dedupMap ms) = [v.dedup] := by
  obtain ⟨m, hm, rfl⟩ := List.map_eq_singleton_iff.mp h
  rw [valuesOf, filter_dedupMap, hm]
  rfl

/-- A field keeps its value if its reader keeps what it reads from it. -/
theorem Given.dedup (hr : ∀ m ∈ ms, Kept Json.dedup read m.2) (h : Given keys read none ms o) :
    Given keys read none (dedupMap ms) o := by
  rw [given_none_iff] at h ⊢
  rcases h with ⟨h, ho⟩ | ⟨v, x, h, hx, ho⟩
  · exact .inl ⟨valuesOf_dedupMap_of_nil h, ho⟩
  · have hv : v ∈ valuesOf keys ms := h ▸ List.mem_singleton_self v
    obtain ⟨m, hm, rfl⟩ := List.mem_map.mp hv
    have hk := hr m (List.mem_filter.mp hm).1
    exact .inr ⟨m.2.dedup, x, valuesOf_dedupMap_of_singleton h, hk x hx, ho⟩

theorem kept_paramMembers : Kept dedupMap (paramMembers none none) ms := by
  intro p h
  rw [paramMembers_eq_ok_iff] at h ⊢
  obtain ⟨hn, ht⟩ := h
  exact ⟨hn.dedup fun _ _ => kept_text, ht.dedup fun _ _ => kept_text⟩

theorem kept_outputMembers : Kept dedupMap (outputMembers none none) ms := by
  intro out h
  rw [outputMembers_eq_ok_iff] at h ⊢
  obtain ⟨⟨n, hn, he⟩, ht⟩ := h
  exact ⟨⟨n, hn.dedup fun _ _ => kept_optional_text, he⟩, ht.dedup fun _ _ => kept_text⟩

theorem kept_componentMembers : Kept dedupMap (componentMembers none none none) ms := by
  intro c h
  rw [componentMembers_eq_ok_iff] at h ⊢
  obtain ⟨hn, ht, o, ho, he⟩ := h
  exact ⟨hn.dedup fun _ _ => kept_text, ht.dedup fun _ _ => kept_text, o,
    ho.dedup fun _ _ => kept_optional_word, he⟩

theorem Kept.record {ofMembers : List Json.Member → Decoded α} {ofItems : List Json → Decoded α}
    (hm : ∀ ms, Kept dedupMap ofMembers ms) (hi : ∀ items, Kept Json.dedupItems ofItems items) :
    Kept Json.dedup (Decode.record shape ofMembers ofItems) v := by
  intro x hx
  cases v with
  | object ms => exact hm ms x hx
  | array items => exact hi items x hx
  | _ => cases hx

theorem kept_param : Kept Json.dedup param v :=
  .record (fun _ => kept_paramMembers) fun _ => kept_paramItems

theorem kept_output : Kept Json.dedup output v :=
  .record (fun _ => kept_outputMembers) fun _ => kept_outputItems

theorem kept_component : Kept Json.dedup (component shape) v :=
  .record (fun _ => kept_componentMembers) fun _ => kept_componentItems

theorem kept_params : Kept Json.dedup (list param) v :=
  .list fun _ => kept_param

theorem kept_outputs : Kept Json.dedup (list output) v :=
  .list fun _ => kept_output

theorem kept_components : Kept Json.dedup (list (component shape)) v :=
  .list fun _ => kept_component

/-! ## Entries without items -/

theorem kept_signatureItems : Kept Json.dedupItems signatureItems items :=
  .bind (.item (fun _ => kept_text) 0) fun _ =>
    .bind (.itemOr (fun _ => kept_params) [] 1) fun _ =>
      .bind (.itemOr (fun _ => kept_outputs) [] 2) fun _ =>
        .bind (.itemOr (fun _ => kept_optional_text) none 3) fun _ =>
          .bind kept_complete fun _ => .const _

theorem kept_signatureMembers : Kept dedupMap (signatureMembers ⟨none, none, none, none⟩) ms := by
  intro g h
  rw [signatureMembers_eq_ok_iff] at h ⊢
  obtain ⟨hn, ⟨is, hi, hie⟩, ⟨os, ho, hoe⟩, m, hm, hme⟩ := h
  exact ⟨hn.dedup fun _ _ => kept_text, ⟨is, hi.dedup fun _ _ => kept_params, hie⟩,
    ⟨os, ho.dedup fun _ _ => kept_outputs, hoe⟩, m, hm.dedup fun _ _ => kept_optional_text, hme⟩

theorem kept_structItems : Kept Json.dedupItems structItems items :=
  .bind (.item (fun _ => kept_text) 0) fun _ =>
    .bind (.itemOr (fun _ => kept_optional_word) none 1) fun _ =>
      .bind (.itemOr (fun _ => kept_components) [] 2) fun _ =>
        .bind kept_complete fun _ => .const _

theorem kept_structMembers : Kept dedupMap (structMembers none none none) ms := by
  intro s h
  rw [structMembers_eq_ok_iff] at h ⊢
  obtain ⟨hn, ⟨z, hz, hze⟩, cs, hc, hce⟩ := h
  exact ⟨hn.dedup fun _ _ => kept_text, ⟨z, hz.dedup fun _ _ => kept_optional_word, hze⟩, cs,
    hc.dedup fun _ _ => kept_components, hce⟩

theorem kept_enumItems : Kept Json.dedupItems enumItems items :=
  .bind (.item (fun _ => kept_text) 0) fun _ =>
    .bind (.itemOr (fun _ => kept_components) [] 1) fun _ => .bind kept_complete fun _ => .const _

theorem kept_enumMembers : Kept dedupMap (enumMembers none none) ms := by
  intro e h
  rw [enumMembers_eq_ok_iff] at h ⊢
  obtain ⟨hn, cs, hc, hce⟩ := h
  exact ⟨hn.dedup fun _ _ => kept_text, cs, hc.dedup fun _ _ => kept_components, hce⟩

theorem kept_implItems : Kept Json.dedupItems implItems items :=
  .bind (.item (fun _ => kept_text) 0) fun _ =>
    .bind (.itemOr (fun _ => kept_text) "" 1) fun _ => .bind kept_complete fun _ => .const _

theorem kept_implMembers : Kept dedupMap (implMembers none none) ms := by
  intro i h
  rw [implMembers_eq_ok_iff] at h ⊢
  obtain ⟨hn, n, hi, hie⟩ := h
  exact ⟨hn.dedup fun _ _ => kept_text, n, hi.dedup fun _ _ => kept_text, hie⟩

/-- Dropping repeated keys twice is dropping them once. -/
theorem dedupMap_dedupMap (ms : List Json.Member) : dedupMap (dedupMap ms) = dedupMap ms := by
  have h : (Json.object ms).dedup.Distinct := Json.distinct_dedup _
  exact Json.object.inj h

/-- The body of an event is a map already, so that it stays as it is. -/
theorem kept_eventMembers : Kept dedupMap (eventMembers none []) ms := by
  intro e h
  rw [eventMembers_eq_ok_iff] at h ⊢
  obtain ⟨hn, hb⟩ := h
  refine ⟨hn.dedup fun _ _ => kept_text, ?_⟩
  have hf : bodyMembers (dedupMap ms) = dedupMap (bodyMembers ms) :=
    filter_dedupMap (fun k => k != "name" && k != "type") ms
  rw [hb, hf]
  exact (dedupMap_dedupMap (bodyMembers ms)).symm

theorem kept_tagOfMembers (nested : Bool) : Kept dedupMap (tagOfMembers nested none) ms := by
  intro t h
  rw [tagOfMembers_eq_ok_iff] at h ⊢
  exact h.dedup fun _ _ => kept_tag nested

/-! ## Entries -/

/-- The members of an interface, whose items are entries that are kept. -/
theorem kept_interfaceMembers (h : ∀ m ∈ ms, Kept Json.dedup nestedEntries m.2) :
    Kept dedupMap (interfaceMembers none none) ms := by
  intro e he
  rw [interfaceMembers_eq_ok_iff] at he ⊢
  obtain ⟨n, es, hn, hi, rfl⟩ := he
  exact ⟨n, es, hn.dedup fun _ _ => kept_text, hi.dedup h, rfl⟩

theorem kept_interfaceItems (h : ∀ v ∈ items, Kept Json.dedup nestedEntries v) :
    Kept Json.dedupItems interfaceItems items := by
  intro e he
  match items, h with
  | [], _ => cases he
  | [name], _ =>
    obtain ⟨n, hn, he⟩ := bind_eq_ok_iff.mp he
    simp only [Json.dedupItems, interfaceItems]
    rw [kept_text n hn, ok_bind, he]
  | name :: es :: rest, h =>
    obtain ⟨n, hn, he⟩ := bind_eq_ok_iff.mp he
    obtain ⟨is, hes, he⟩ := bind_eq_ok_iff.mp he
    have hk : Kept Json.dedup nestedEntries es := h es (by simp)
    simp only [Json.dedupItems, interfaceItems, Json.dedupItems_eq_map, List.length_map]
    rw [kept_text n hn, ok_bind, hk is hes, ok_bind, he]

/-- An entry as an object: its type is kept, and then what the type says. -/
theorem kept_entry_object (nested : Bool) (h : ∀ m ∈ ms, Kept Json.dedup nestedEntries m.2) :
    Kept Json.dedup (entry nested) (.object ms) := by
  intro e he
  rw [entry] at he
  obtain ⟨t, ht, he⟩ := bind_eq_ok_iff.mp he
  show entry nested (.object (dedupMap ms)) = .ok e
  rw [entry, kept_tagOfMembers nested t ht, ok_bind]
  cases t with
  | function => exact kept_signatureMembers.map _ e he
  | constructor => exact kept_signatureMembers.map _ e he
  | l1Handler => exact kept_signatureMembers.map _ e he
  | struct => exact kept_structMembers.map _ e he
  | enum => exact kept_enumMembers.map _ e he
  | interface => exact kept_interfaceMembers h e he
  | event => exact kept_eventMembers.map _ e he
  | impl => exact kept_implMembers.map _ e he

/-- An entry as a list of its type and its fields. -/
theorem kept_entry_array (nested : Bool) (h : ∀ v ∈ items, Kept Json.dedup nestedEntries v) :
    Kept Json.dedup (entry nested) (.array items) := by
  intro e he
  cases items with
  | nil => rw [entry] at he; cases he
  | cons t fields =>
    rw [entry] at he
    obtain ⟨k, hk, he⟩ := bind_eq_ok_iff.mp he
    have hf : ∀ v ∈ fields, Kept Json.dedup nestedEntries v :=
      fun v hv => h v (List.mem_cons_of_mem t hv)
    show entry nested (.array (t.dedup :: Json.dedupItems fields)) = .ok e
    rw [entry, kept_tag nested k hk, ok_bind]
    cases k with
    | function => exact kept_signatureItems.map _ e he
    | constructor => exact kept_signatureItems.map _ e he
    | l1Handler => exact kept_signatureItems.map _ e he
    | struct => exact kept_structItems.map _ e he
    | enum => exact kept_enumItems.map _ e he
    | interface => exact kept_interfaceItems hf e he
    | event => cases he
    | impl => exact kept_implItems.map _ e he

theorem kept_entries {nested : Bool} (h : ∀ v ∈ items, Kept Json.dedup (entry nested) v) :
    Kept Json.dedupItems (entries nested) items := by
  induction items with
  | nil => exact fun es hes => hes
  | cons v rest ih =>
    obtain ⟨hv, hrest⟩ := List.forall_mem_cons.mp h
    intro es he
    rw [entries] at he
    obtain ⟨e, hev, he⟩ := bind_eq_ok_iff.mp he
    obtain ⟨fs, hfs, he⟩ := bind_eq_ok_iff.mp he
    rw [Json.dedupItems, entries, hv e hev, ok_bind, ih hrest fs hfs, ok_bind, he]

/-- Entries are kept, and so are the items of interfaces. Both are shown at once, since the items of
an interface are the entries of a value inside of it. -/
theorem kept_entry (v : Json) :
    (∀ nested, Kept Json.dedup (entry nested) v) ∧ Kept Json.dedup nestedEntries v := by
  induction v using Json.nestingInduction with
  | array items ih =>
    refine ⟨fun nested => kept_entry_array nested fun v hv => (ih v hv).2, fun es hes => ?_⟩
    exact kept_entries (fun v hv => (ih v hv).1 true) es hes
  | object ms ih =>
    exact ⟨fun nested => kept_entry_object nested fun m hm => (ih m hm).2, nofun⟩
  | scalar v ha ho =>
    have hv : v.dedup = v := Json.dedup_scalar ha ho
    exact ⟨fun nested e he => by rwa [hv], fun es hes => by rwa [hv]⟩

end Decode

/-! ## Texts and values -/

/-- What is read from a document as it is written is also read from the value that it stands for. -/
theorem ofJson_dedup {v : Json} {abi : Abi} (h : ofJson v = .ok abi) : ofJson v.dedup = .ok abi := by
  cases v with
  | array items =>
    obtain ⟨es, hes, rfl⟩ := map_eq_ok_iff.mp h
    have hk := Decode.kept_entries fun v (_ : v ∈ items) => (Decode.kept_entry v).1 false
    rw [Json.dedup, ofJson, hk es hes, map_ok]
  | _ => cases h

theorem ofText?_of_read? {text : String} {v : Json} (h : Json.read? text = some v) :
    ofText? text = (ofJson v).toOption := by
  rw [ofText?, h, Option.map_some]
  cases ofJson v <;> rfl

theorem ofText_eq_ok_iff {wording : String → String} {text : String} {v : Json} {abi : Abi}
    (h : Json.read? text = some v) : ofText wording text = .ok abi ↔ ofJson v = .ok abi := by
  rw [ofText, ofText?_of_read? h]
  cases ofJson v <;> simp [Except.toOption]

theorem ofValue_eq_ok_iff {v : Json} {abi : Abi} : ofValue v = .ok abi ↔ ofJson v = .ok abi := by
  rw [ofValue]
  cases ofJson v <;> simp [Except.mapError]

/-- A text and a value fail in the same way: what was read is no ABI. -/
theorem fail_of_ofJson (wording : String → String) {text : String} {v : Json} {fault : DecodeError}
    (h : Json.read? text = some v) (hf : ofJson v = .error fault) :
    ofText wording text = .error (.invalidJson (wording text)) ∧
      ofValue v = .error (.invalidJson fault.message) := by
  rw [ofText, ofText?_of_read? h, ofValue, hf]
  exact ⟨rfl, rfl⟩

/-- The text of a document and the value that it stands for. If no object of the document repeats a
key, both give the same ABI or both are malformed. In any case the value gives the ABI that the text
gives. -/
theorem text_and_value_agree (wording : String → String) (text : String) (v : Json)
    (h : Json.read? text = some v) :
    Json.parse? text = some v.dedup ∧
      (v.RepeatFree →
        (∃ abi, ofText wording text = .ok abi ∧ ofValue v.dedup = .ok abi) ∨
          ∃ cause cause', ofText wording text = .error (.invalidJson cause) ∧
            ofValue v.dedup = .error (.invalidJson cause')) ∧
      ∀ abi, ofText wording text = .ok abi → ofValue v.dedup = .ok abi := by
  have hagree : ∀ abi, ofText wording text = .ok abi → ofValue v.dedup = .ok abi :=
    fun abi ha => ofValue_eq_ok_iff.mpr (ofJson_dedup ((ofText_eq_ok_iff h).mp ha))
  refine ⟨by rw [Json.parse?, h, Option.map_some], fun hv => ?_, hagree⟩
  cases ho : ofJson v with
  | ok abi =>
    have ha : ofText wording text = .ok abi := (ofText_eq_ok_iff h).mpr ho
    exact .inl ⟨abi, ha, hagree abi ha⟩
  | error fault =>
    have hd : v.dedup = v := Json.repeatFree_iff_distinct.mp hv
    obtain ⟨ht, hw⟩ := fail_of_ofJson wording h ho
    exact .inr ⟨_, _, ht, hd ▸ hw⟩

/-! ## Members given twice -/

/-- A document with an event that has a member of its body twice, and a function that has a member
twice which no function has. -/
def movedTwiceText : String :=
  "[\x7b\"type\":\"event\",\"name\":\"Moved\",\"kind\":\"enum\",\"kind\":\"struct\"\x7d," ++
    "\x7b\"doc\":null,\"type\":\"function\",\"name\":\"move\",\"doc\":null\x7d]"

/-- The document as it is written. -/
def movedTwice : Json :=
  .array [.object [("type", .string "event"), ("name", .string "Moved"), ("kind", .string "enum"),
    ("kind", .string "struct")], .object [("doc", .null), ("type", .string "function"),
    ("name", .string "move"), ("doc", .null)]]

/-- The document with each member once. -/
def movedText : String :=
  "[\x7b\"type\":\"event\",\"name\":\"Moved\",\"kind\":\"struct\"\x7d," ++
    "\x7b\"doc\":null,\"type\":\"function\",\"name\":\"move\"\x7d]"

/-- The ABI of both. -/
def moved : Abi :=
  ⟨[.event ⟨"Moved", [("kind", .string "struct")]⟩, .function ⟨"move", [], [], none⟩]⟩

-- The tokens are read by recursion on the length of the text, which reduces only with everything
-- unfolded, and goes as deep as the text is long.
set_option maxRecDepth 4000 in
theorem read?_movedTwiceText : Json.read? movedTwiceText = some movedTwice := by
  with_unfolding_all rfl

set_option maxRecDepth 4000 in
theorem read?_movedText : Json.read? movedText = some movedTwice.dedup := by
  with_unfolding_all rfl

theorem text_and_value_agree_moved :
    (Json.read? movedTwiceText = some movedTwice ∧ ofText id movedTwiceText = .ok moved ∧
      ofValue movedTwice.dedup = .ok moved) ∧
    (Json.read? movedText = some movedTwice.dedup ∧ movedTwice.dedup.RepeatFree ∧
      ((∃ abi, ofText id movedText = .ok abi ∧ ofValue movedTwice.dedup.dedup = .ok abi) ∨
        ∃ cause cause', ofText id movedText = .error (.invalidJson cause) ∧
          ofValue movedTwice.dedup.dedup = .error (.invalidJson cause'))) := by
  have ht : ofText id movedTwiceText = .ok moved := (ofText_eq_ok_iff read?_movedTwiceText).mpr rfl
  have hf : movedTwice.dedup.RepeatFree :=
    Json.repeatFree_iff_distinct.mpr (Json.distinct_dedup movedTwice)
  obtain ⟨-, -, hagree⟩ := text_and_value_agree id movedTwiceText movedTwice read?_movedTwiceText
  obtain ⟨-, hboth, -⟩ := text_and_value_agree id movedText movedTwice.dedup read?_movedText
  exact ⟨⟨read?_movedTwiceText, ht, hagree moved ht⟩, read?_movedText, hf, hboth hf⟩

/-- A known field that is given twice is a fault of the text only, so the value may give more. -/
example :
    let v : Json := .array [.object [("type", .string "impl"), ("name", .string "A"),
      ("name", .string "B")]]
    ofJson v = .error (.duplicateField "name") ∧ ofJson v.dedup = .ok ⟨[.impl ⟨"B", ""⟩]⟩ :=
  ⟨rfl, rfl⟩

end ContractCall.Abi
