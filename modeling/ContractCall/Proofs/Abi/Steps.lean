import ContractCall.Proofs.Abi.Content

/-!
# What a document says is what is read from it

A step changes the content of at most one record, into one that is read alike.

* `recordAlike_object`, `sameEntry_object` and their list forms: records with such contents are read
  alike. An event also has a body, which is compared by key.
* `Step.alike`: a step keeps what is read at its place, by induction on the step.
* `ofJson_of_rewrites`: documents that are rewritten into each other give the same ABI, the bodies of
  its events as maps.
-/

namespace ContractCall.Abi

open Decode

variable {p : Place} {shape : Shape} {f : Field} {nested : Bool} {v w : Json} {k k' : String}
  {keys : List String} {ms ms' l r : List Json.Member} {items items' lead before after : List Json}
  {e : Entry} {t : Tag}

/-! ## Values of fields -/

theorem valuesOf_append (keys : List String) (l r : List Json.Member) :
    valuesOf keys (l ++ r) = valuesOf keys l ++ valuesOf keys r := by
  simp only [valuesOf, List.filter_append, List.map_append]

theorem valuesOf_middle (keys : List String) (l r : List Json.Member) (k : String) (v : Json) :
    valuesOf keys (l ++ (k, v) :: r) =
      valuesOf keys l ++ if k ∈ keys then v :: valuesOf keys r else valuesOf keys r := by
  rw [valuesOf_append, valuesOf_cons]

theorem valuesOf_eq_nil (h : ∀ m ∈ ms, m.1 ∉ keys) : valuesOf keys ms = [] := by
  rw [valuesOf, List.map_eq_nil_iff, List.filter_eq_nil_iff]
  intro m hm
  simpa using h m hm

theorem valuesAlike_of_perm (hp : ms.Perm ms') :
    ValuesAlike f (valuesOf f.names ms) (valuesOf f.names ms') := by
  have hv : (valuesOf f.names ms).Perm (valuesOf f.names ms') := (hp.filter _).map _
  refine .given hv.length_eq fun v w h h' => ?_
  rw [h, h', List.perm_singleton, List.singleton_inj] at hv
  exact hv ▸ .refl f.place v

theorem valuesAlike_middle (h : Alike f.place v w) :
    ValuesAlike f (before ++ v :: after) (before ++ w :: after) := by
  refine .given (by simp) fun v' w' hv hw => ?_
  obtain ⟨rfl, rfl⟩ : before = [] ∧ after = [] := by
    have hl := congrArg List.length hv
    simp only [List.length_append, List.length_cons, List.length_nil] at hl
    exact ⟨List.length_eq_zero_iff.mp (by omega), List.length_eq_zero_iff.mp (by omega)⟩
  cases hv
  cases hw
  exact h

/-! ## Records on their own -/

theorem recordAlike_of_forms
    (h : ∀ {α : Type} {ofMembers : List Json.Member → Decoded α} {ofItems : List Json → Decoded α}
      {reads : Content → α → Prop}, Form shape ofMembers ofItems reads →
        SameReading (Decode.record shape ofMembers ofItems) v w) : RecordAlike shape v w := by
  cases shape with
  | param => exact h paramForm
  | output => exact h outputForm
  | structMember => exact h (componentForm (.inl rfl))
  | enumVariant => exact h (componentForm (.inr rfl))
  | _ => exact trivial

/-- Records with contents that are read alike. -/
theorem recordAlike_object (h : ContentAlike shape (shape.content ms) (shape.content ms')) :
    RecordAlike shape (.object ms) (.object ms') := by
  refine recordAlike_of_forms fun hform x => ?_
  rw [Decode.record, Decode.record, hform.members, hform.members, hform.alike _ _ x h]

theorem recordAlike_array (hl : items.length ≤ shape.size ↔ items'.length ≤ shape.size)
    (h : ContentAlike shape (itemContent items) (itemContent items')) :
    RecordAlike shape (.array items) (.array items') := by
  refine recordAlike_of_forms fun hform x => ?_
  rw [Decode.record, Decode.record, hform.items, hform.items, hform.alike _ _ x h, hl]

/-! ## Entries -/

/-- An entry of a kind as an object. -/
def entryOfMembers (ms : List Json.Member) : Tag → Decoded Entry
  | .function => (signatureMembers ⟨none, none, none, none⟩ ms).map Entry.function
  | .constructor => (signatureMembers ⟨none, none, none, none⟩ ms).map Entry.constructor
  | .l1Handler => (signatureMembers ⟨none, none, none, none⟩ ms).map Entry.l1Handler
  | .struct => (structMembers none none none ms).map Entry.struct
  | .enum => (enumMembers none none ms).map Entry.enum
  | .interface => interfaceMembers none none ms
  | .event => (eventMembers none [] ms).map Entry.event
  | .impl => (implMembers none none ms).map Entry.impl

/-- An entry of a kind as a list of its fields. An event is only an object. -/
def entryOfItems (items : List Json) : Tag → Decoded Entry
  | .function => (signatureItems items).map Entry.function
  | .constructor => (signatureItems items).map Entry.constructor
  | .l1Handler => (signatureItems items).map Entry.l1Handler
  | .struct => (structItems items).map Entry.struct
  | .enum => (enumItems items).map Entry.enum
  | .interface => interfaceItems items
  | .event => .error (.invalidType (.array items) (.record .event))
  | .impl => (implItems items).map Entry.impl

theorem entry_object (nested : Bool) (ms : List Json.Member) :
    entry nested (.object ms) = tagOfMembers nested none ms >>= entryOfMembers ms := by
  rw [entry]
  congr 1

theorem entry_array (nested : Bool) (v : Json) (items : List Json) :
    entry nested (.array (v :: items)) = tag nested v >>= entryOfItems items := by
  rw [entry]
  congr 1

/-- Entries of every kind but events are read from their content, up to the order in the bodies of
events among the items of an interface. -/
theorem exists_entryForm (ht : t ≠ .event) : ∃ reads : Content → Entry → Prop,
    Form t.shape (fun ms => (entryOfMembers ms t).map Entry.sorted)
      (fun items => (entryOfItems items t).map Entry.sorted) reads := by
  cases t with
  | function => exact ⟨_, (signatureForm.map Entry.function).map Entry.sorted⟩
  | constructor => exact ⟨_, (signatureForm.map Entry.constructor).map Entry.sorted⟩
  | l1Handler => exact ⟨_, (signatureForm.map Entry.l1Handler).map Entry.sorted⟩
  | struct => exact ⟨_, (structForm.map Entry.struct).map Entry.sorted⟩
  | enum => exact ⟨_, (enumForm.map Entry.enum).map Entry.sorted⟩
  | interface => exact ⟨_, interfaceForm⟩
  | event => exact absurd rfl ht
  | impl => exact ⟨_, (implForm.map Entry.impl).map Entry.sorted⟩

theorem readAs_tag (nested : Bool) : (Field.required "type").ReadAs (tag nested) none where
  alike _ _ h := sameReading_of_scalar nofun nofun h
  absent := nofun

theorem sortedEntry_object_eq_ok_iff : sortedEntry nested (.object ms) = .ok e ↔
    ∃ t, Reads (tag nested) none (valuesOf ["type"] ms) t ∧
      (entryOfMembers ms t).map Entry.sorted = .ok e := by
  simp only [sortedEntry, entry_object, map_eq_ok_iff, bind_eq_ok_iff, tagOfMembers_eq_ok_iff,
    given_some_iff_reads]
  grind

theorem sortedEntry_array_eq_ok_iff : sortedEntry nested (.array (v :: items)) = .ok e ↔
    ∃ t, tag nested v = .ok t ∧ (entryOfItems items t).map Entry.sorted = .ok e := by
  simp only [sortedEntry, entry_array, map_eq_ok_iff, bind_eq_ok_iff]
  grind

/-! ## Events -/

/-- The members of a body that repeats no key, sorted. -/
def sortedBody (ms : List Json.Member) : List Json.Member :=
  Json.byKey (Json.sortedMembers (bodyMembers ms))

theorem keys_bodyMembers_nodup (h : (Assoc.keys ms).Nodup) :
    (Assoc.keys (bodyMembers ms)).Nodup :=
  h.sublist (List.filter_sublist.map Prod.fst)

/-- A body that repeats no key is a map already. -/
theorem ofList_bodyMembers (h : (Json.object ms).RepeatFree) :
    Assoc.ofList (Json.dedupMembers (bodyMembers ms)) = bodyMembers ms := by
  have hb : (Json.object (bodyMembers ms)).RepeatFree :=
    .object (keys_bodyMembers_nodup h.nodup_keys)
      fun _ hm => h.of_mem_object (List.mem_filter.mp hm).1
  exact Json.object.inj (Json.repeatFree_iff_distinct.mp hb)

theorem sortedBody_of_perm (hk : (Assoc.keys ms).Nodup) (h : ms.Perm ms') :
    sortedBody ms = sortedBody ms' :=
  Json.byKey_sortedMembers_of_perm (keys_bodyMembers_nodup hk) (h.filter _)

/-- One value that is the same up to order, whether or not it belongs to the body. -/
theorem sortedBody_middle (h : v.sorted = w.sorted) :
    sortedBody (l ++ (k, v) :: r) = sortedBody (l ++ (k, w) :: r) := by
  rw [sortedBody, sortedBody]
  simp only [bodyMembers, List.filter_append, List.filter_cons]
  split
  · rw [Json.sortedMembers_middle h]
  · rfl

theorem event_eq_ok_iff (h : (Json.object ms).RepeatFree) :
    (entryOfMembers ms .event).map Entry.sorted = .ok e ↔
      ∃ n, Reads text none (valuesOf ["name"] ms) n ∧ e = .event ⟨n, sortedBody ms⟩ := by
  have hb : (Json.dedupMembers (bodyMembers ms)).foldl (fun m f => Assoc.put m f.1 f.2) [] =
      bodyMembers ms := ofList_bodyMembers h
  simp only [entryOfMembers, map_eq_ok_iff, eventMembers_eq_ok_iff, given_some_iff_reads, hb]
  constructor
  · rintro ⟨_, ⟨⟨n, _⟩, ⟨hn, rfl⟩, rfl⟩, rfl⟩
    exact ⟨n, hn, rfl⟩
  · rintro ⟨n, hn, rfl⟩
    exact ⟨_, ⟨⟨n, bodyMembers ms⟩, ⟨hn, rfl⟩, rfl⟩, rfl⟩

/-! ## Records at a place -/

theorem contentAlike_of_values
    (h : ∀ f ∈ shape.fields, ValuesAlike f (valuesOf f.names ms) (valuesOf f.names ms')) :
    ContentAlike shape (shape.content ms) (shape.content ms') := by
  intro i f hf
  simp only [Shape.content, hf]
  exact h f (List.mem_of_getElem? hf)

/-- Entries as objects, with types that are read alike. What they have in common beside their type
is asked for only once the type says what they are. -/
theorem sameEntry_object (hv : (Json.object ms).RepeatFree) (hw : (Json.object ms').RepeatFree)
    (ht : ValuesAlike (.required "type") (valuesOf ["type"] ms) (valuesOf ["type"] ms'))
    (h : ∀ t, Reads (tag nested) none (valuesOf ["type"] ms) t →
      (∀ f ∈ t.shape.fields, ValuesAlike f (valuesOf f.names ms) (valuesOf f.names ms')) ∧
      (t.shape = .event → sortedBody ms = sortedBody ms')) :
    SameReading (sortedEntry nested) (.object ms) (.object ms') := by
  intro e
  rw [sortedEntry_object_eq_ok_iff, sortedEntry_object_eq_ok_iff]
  refine exists_congr fun t => ?_
  rw [← (readAs_tag nested).reads_iff ht]
  refine and_congr_right fun hr => ?_
  obtain ⟨hf, hb⟩ := h t hr
  by_cases he : t = .event
  · subst he
    rw [event_eq_ok_iff hv, event_eq_ok_iff hw, hb rfl]
    refine exists_congr fun n => and_congr_left' ?_
    exact (readAs_text _).reads_iff (hf _ List.mem_cons_self)
  · obtain ⟨reads, hform⟩ := exists_entryForm he
    rw [hform.members, hform.members, hform.alike _ _ e (contentAlike_of_values hf)]

theorem sameEntry_array (hl : items.length ≤ t.shape.size ↔ items'.length ≤ t.shape.size)
    (ht : tag nested v = .ok t)
    (h : ContentAlike t.shape (itemContent items) (itemContent items')) :
    SameReading (sortedEntry nested) (.array (v :: items)) (.array (v :: items')) := by
  intro e
  rw [sortedEntry_array_eq_ok_iff, sortedEntry_array_eq_ok_iff]
  refine exists_congr fun t' => and_congr_right fun ht' => ?_
  cases ht.symm.trans ht'
  by_cases he : t = .event
  · subst he
    exact iff_of_false nofun nofun
  · obtain ⟨reads, hform⟩ := exists_entryForm he
    rw [hform.items, hform.items, hform.alike _ _ e h, hl]

/-- A type of an entry that can be read is the one that is read. -/
theorem eq_of_reads_type {t' : Tag} (hm : ("type", v) ∈ ms) (ht : tag nested v = .ok t)
    (h : Reads (tag nested) none (valuesOf ["type"] ms) t') : t' = t := by
  have hv : v ∈ valuesOf ["type"] ms := List.mem_map.mpr ⟨_, List.mem_filter.mpr ⟨hm, by simp⟩, rfl⟩
  obtain ⟨-, h⟩ | ⟨v', hv', ht'⟩ := h
  · cases h
  · rw [hv', List.mem_singleton] at hv
    rw [hv, ht'] at ht
    exact Except.ok.inj ht

/-- Members of a record that give every field values that are read alike. -/
theorem HasShape.alike (hs : HasShape p ms shape) (hv : (Json.object ms).RepeatFree)
    (hw : (Json.object ms').RepeatFree)
    (h : ∀ f ∈ p.fields shape, ValuesAlike f (valuesOf f.names ms) (valuesOf f.names ms'))
    (hb : shape = .event → sortedBody ms = sortedBody ms') :
    Alike p (.object ms) (.object ms') := by
  cases hs with
  | record => exact recordAlike_object (contentAlike_of_values h)
  | entry hm ht =>
    refine sameEntry_object hv hw (h _ List.mem_cons_self) fun t' ht' => ?_
    obtain rfl := eq_of_reads_type hm ht ht'
    exact ⟨fun f hf => h f (List.mem_cons_of_mem _ hf), hb⟩

theorem Lead.alike (hl : Lead p shape lead)
    (hn : items.length ≤ shape.size ↔ items'.length ≤ shape.size)
    (h : ContentAlike shape (itemContent items) (itemContent items')) :
    Alike p (.array (lead ++ items)) (.array (lead ++ items')) := by
  cases hl with
  | record => exact recordAlike_array hn h
  | entry ht => exact sameEntry_array hn ht h

/-! ## Steps -/

/-- The only field of an event is its name. -/
theorem eq_name_of_event (hf : f ∈ Shape.event.fields) : f = .required "name" :=
  List.mem_singleton.mp hf

/-- A step keeps what is read at its place. -/
theorem Step.alike (h : Step p v w) (hv : v.RepeatFree) (hw : w.RepeatFree) : Alike p v w := by
  induction h with
  | @reorder p ms ms' h =>
    match p with
    | .value => exact Json.sorted_object_of_perm hv.nodup_keys h
    | .list p =>
      intro α read _ xs
      exact iff_of_false nofun nofun
    | .record shape =>
      exact recordAlike_object (contentAlike_of_values fun f _ => valuesAlike_of_perm h)
    | .entry nested =>
      exact sameEntry_object hv hw (valuesAlike_of_perm h)
        fun t _ => ⟨fun f _ => valuesAlike_of_perm h, fun _ => sortedBody_of_perm hv.nodup_keys h⟩
  | @item p l r v w _ ih =>
    have hi : Alike p v w := ih (hv.of_mem_array (by simp)) (hw.of_mem_array (by simp))
    intro α read hr
    exact (hr v w hi).list_middle
  | valueItem _ ih =>
    exact Json.sorted_array_middle (ih (hv.of_mem_array (by simp)) (hw.of_mem_array (by simp)))
  | @valueMember l r k v w _ ih =>
    have hm (v : Json) : (k, v) ∈ l ++ (k, v) :: r := by simp
    exact Json.sorted_object_middle (ih (hv.of_mem_object (hm v)) (hw.of_mem_object (hm w)))
  | @field p shape f l r k v w hs hf hk _ ih =>
    have hm (v : Json) : (k, v) ∈ l ++ (k, v) :: r := by simp
    have hi : Alike f.place v w := ih (hv.of_mem_object (hm v)) (hw.of_mem_object (hm w))
    refine hs.alike hv hw (fun f' hf' => ?_) fun he => ?_
    · rw [valuesOf_middle, valuesOf_middle]
      split
      · rename_i hk'
        obtain rfl := hs.field_unique (mem_fields hf) hf' hk hk'
        exact valuesAlike_middle hi
      · exact .refl f' _
    · subst he
      obtain rfl := eq_name_of_event hf
      exact sortedBody_middle hi
  | @other p shape l r k v w hs hk _ ih =>
    have hm (v : Json) : (k, v) ∈ l ++ (k, v) :: r := by simp
    have hi : v.sorted = w.sorted := ih (hv.of_mem_object (hm v)) (hw.of_mem_object (hm w))
    refine hs.alike hv hw (fun f hf => ?_) fun _ => sortedBody_middle hi
    have hkf : k ∉ f.names := fun h => hk ⟨f, hf, h⟩
    rw [valuesOf_middle, valuesOf_middle, if_neg hkf, if_neg hkf]
    exact .refl f _
  | unknown hs he hk =>
    refine hs.alike hv hw (fun f hf => ?_) fun h => absurd h he
    rw [valuesOf_middle, valuesOf_append, if_neg fun h => hk ⟨f, hf, h⟩]
    exact .refl f _
  | @rename p shape f l r k k' v hs hf hk hk' =>
    refine hs.alike hv hw (fun f' hf' => ?_) fun he => ?_
    · have hiff : k ∈ f'.names ↔ k' ∈ f'.names :=
        ⟨fun h => hs.field_unique (mem_fields hf) hf' hk h ▸ hk',
          fun h => hs.field_unique (mem_fields hf) hf' hk' h ▸ hk⟩
      rw [valuesOf_middle, valuesOf_middle, if_congr hiff rfl rfl]
      exact .refl f' _
    · subst he
      obtain rfl := eq_name_of_event hf
      rw [List.mem_singleton.mp hk, List.mem_singleton.mp hk']
  | @default p shape f l r k d hs hf hk hd ha =>
    refine hs.alike hv hw (fun f' hf' => ?_) fun he => ?_
    · rw [valuesOf_middle, valuesOf_append]
      split
      · rename_i hk'
        obtain rfl := hs.field_unique (mem_fields hf) hf' hk hk'
        have hl : valuesOf f.names l = [] := valuesOf_eq_nil fun m hm => ha m (by simp [hm])
        have hr : valuesOf f.names r = [] := valuesOf_eq_nil fun m hm => ha m (by simp [hm])
        rw [hl, hr]
        exact .default hd
      · exact .refl f' _
    · subst he
      obtain rfl := eq_name_of_event hf
      cases hd
  | @listed p shape lead l r f v w hl hf _ ih =>
    have hm (v : Json) : v ∈ lead ++ (l ++ v :: r) := by simp
    have hi : Alike f.place v w := ih (hv.of_mem_array (hm v)) (hw.of_mem_array (hm w))
    refine hl.alike (by simp) fun i f' hf' => ?_
    have hset : l ++ w :: r = (l ++ v :: r).set l.length w := by simp
    by_cases hil : l.length = i
    · subst hil
      cases hf.symm.trans hf'
      have hm : ValuesAlike f ([] ++ [v]) ([] ++ [w]) := valuesAlike_middle hi
      simpa [itemContent] using hm
    · rw [itemContent, itemContent, hset, List.getElem?_set_ne hil]
      exact .refl f' _
  | @trailing p shape lead l f d hl hf hd =>
    have hlt : l.length < shape.size := length_fields shape ▸ (List.getElem?_eq_some_iff.mp hf).1
    have hn : l.length ≤ shape.size ↔ (l ++ [d]).length ≤ shape.size := by
      rw [List.length_append, List.length_singleton]
      omega
    refine hl.alike hn fun i f' hf' => ?_
    by_cases hil : l.length = i
    · subst hil
      cases hf.symm.trans hf'
      simpa [itemContent] using ValuesAlike.default hd
    · have hsame : (l ++ [d])[i]? = l[i]? := by
        rw [List.getElem?_append]
        split
        · rfl
        · rw [List.getElem?_eq_none (by simp; omega), List.getElem?_eq_none (by omega)]
      rw [itemContent, itemContent, hsame]
      exact .refl f' _

/-! ## Documents -/

/-- Documents that say the same give the same ABI, the bodies of events as maps, or none. -/
theorem sameReading_of_rewrites (h : Rewrites v w) :
    SameReading (list (sortedEntry false)) v w := by
  induction h with
  | rel v w h => exact h.2.2.alike h.1 h.2.1 (sortedEntry false) fun _ _ h => h
  | refl v => exact .refl v
  | symm v w _ ih => exact fun es => (ih es).symm
  | trans u v w _ _ ih ih' => exact fun es => (ih es).trans (ih' es)

theorem list_sortedEntry_eq_ok_iff {es : List Entry} :
    list (sortedEntry false) v = .ok es ↔ ∃ abi, ofJson v = .ok abi ∧ abi.sorted = ⟨es⟩ := by
  cases v with
  | array items =>
    simp only [list, mapM_sortedEntry, ofJson, map_eq_ok_iff, Abi.sorted, Abi.mk.injEq]
    constructor
    · rintro ⟨given, h, rfl⟩
      exact ⟨⟨given⟩, ⟨given, h, rfl⟩, rfl⟩
    · rintro ⟨_, ⟨given, h, rfl⟩, he⟩
      exact ⟨given, h, he⟩
  | _ =>
    constructor
    · intro h
      cases h
    · rintro ⟨_, h, -⟩
      cases h

/-- Documents that are rewritten into each other give the same ABI, the bodies of its events as
maps: wherever one can be read the other can. -/
theorem ofJson_of_rewrites {abi : Abi} (hw : Rewrites v w) (hv : ofJson v = .ok abi) :
    ∃ abi', ofJson w = .ok abi' ∧ abi'.sorted = abi.sorted :=
  list_sortedEntry_eq_ok_iff.mp ((sameReading_of_rewrites hw _).mp
    (list_sortedEntry_eq_ok_iff.mpr ⟨abi, hv, rfl⟩))

/-- An interface with one function, and an event. -/
def ledger (function event : Json) : Json :=
  .array [.object [("type", .string "interface"), ("name", .string "ILedger"),
    ("items", .array [function])], event]

/-- A function with one output. -/
def balance (mutability : String) (output : List Json.Member) : Json :=
  .object [("type", .string "function"), ("name", .string "balance"),
    ("outputs", .array [.object output]), (mutability, .string "view")]

/-- An event with two members in its body. -/
def movedEvent (first second : Json.Member) : Json :=
  .object [("type", .string "event"), ("name", .string "Moved"), first, second]

theorem step_ledger {function function' event : Json} (h : Step (.entry true) function function') :
    Step (.list (.entry false)) (ledger function event) (ledger function' event) := by
  have hs (v : Json) : HasShape (.entry false) [("type", .string "interface"),
      ("name", .string "ILedger"), ("items", .array [v])] .interface :=
    .entry (t := .interface) List.mem_cons_self rfl
  have hi : Step (.list (.entry true)) (.array [function]) (.array [function']) :=
    .item (l := []) (r := []) h
  have hf := Step.field (l := [_, _]) (r := []) (hs function)
    (List.mem_cons_of_mem _ List.mem_cons_self) List.mem_cons_self hi
  exact .item (l := []) (r := [event]) hf

/-- A document with the short forms. -/
def shortLedger : Json :=
  ledger (balance "stateMutability" [("type", .string "felt")])
    (movedEvent ("kind", .string "struct") ("members", .array []))

/-- The mutability under its other name, the absent name of the output as `null`, a comment in the
output, and the members of the event in another order. -/
def longLedger : Json :=
  ledger (balance "state_mutability" [("name", .null), ("type", .string "felt"), ("doc", .null)])
    (movedEvent ("members", .array []) ("kind", .string "struct"))

/-- The ABI of the first document. -/
def ledgerAbi : Abi :=
  ⟨[.interface "ILedger" [.function ⟨"balance", [], [⟨none, "felt"⟩], some "view"⟩],
    .event ⟨"Moved", [("kind", .string "struct"), ("members", .array [])]⟩]⟩

theorem rewrites_ledger : Rewrites shortLedger longLedger := by
  have hs (outputs : Json) (mutability : String) : HasShape (.entry true)
      [("type", .string "function"), ("name", .string "balance"), ("outputs", outputs),
        (mutability, .string "view")] .signature :=
    .entry (t := .function) List.mem_cons_self rfl
  have houtput {ms ms' : List Json.Member} (h : Step (.record .output) (.object ms) (.object ms')) :
      Step (.entry true) (balance "state_mutability" ms) (balance "state_mutability" ms') := by
    refine .field (l := [_, _]) (r := [_]) (f := .listOf "outputs" (.record .output)) (hs _ _)
      ?_ List.mem_cons_self (.item (l := []) (r := []) h)
    exact List.mem_cons_of_mem _ (List.mem_cons_of_mem _ List.mem_cons_self)
  have hrename (output : List Json.Member) :
      Step (.entry true) (balance "stateMutability" output)
        (balance "state_mutability" output) := by
    refine .rename (l := [_, _, _]) (r := [])
      (f := .nullable ["state_mutability", "stateMutability"]) (hs _ _) ?_ ?_ List.mem_cons_self
    · exact List.mem_of_getElem? (i := 3) rfl
    · exact List.mem_cons_of_mem _ List.mem_cons_self
  have hdefault (r : List Json.Member) (hr : ∀ m ∈ r, m.1 ≠ "name") :
      Step (.record .output) (.object r) (.object (("name", .null) :: r)) :=
    .default (l := []) (f := .nullable ["name"]) .record List.mem_cons_self List.mem_cons_self rfl
      fun m hm => by simpa [Field.nullable] using hr m hm
  have hunknown : Step (.record .output) (.object [("name", .null), ("type", .string "felt")])
      (.object [("name", .null), ("type", .string "felt"), ("doc", .null)]) := by
    refine .unknown (l := [_, _]) (r := []) .record nofun ?_
    rintro ⟨f, hf, hk⟩
    revert f
    decide
  have hevent : Step (.entry false) (movedEvent ("kind", .string "struct") ("members", .array []))
      (movedEvent ("members", .array []) ("kind", .string "struct")) :=
    .reorder (((List.Perm.swap _ _ []).cons _).cons _)
  refine .trans _ _ _ (.rel _ _ ⟨?_, ?_, step_ledger (hrename _)⟩) (.trans _ _ _
    (.rel _ _ ⟨?_, ?_, step_ledger (houtput (hdefault _ (by decide)))⟩) (.trans _ _ _
    (.rel _ _ ⟨?_, ?_, step_ledger (houtput hunknown)⟩)
    (.rel _ _ ⟨?_, ?_, .item (l := [_]) (r := []) hevent⟩)))
  all_goals exact Json.repeatFree_iff_distinct.mpr rfl

theorem ofJson_of_rewrites_ledger :
    Rewrites shortLedger longLedger ∧ ofJson shortLedger = .ok ledgerAbi ∧
      ∃ abi, ofJson longLedger = .ok abi ∧ abi.sorted = ledgerAbi.sorted :=
  ⟨rewrites_ledger, rfl, ofJson_of_rewrites rewrites_ledger rfl⟩

end ContractCall.Abi
