import ContractCall.Proofs.Abi.Fields
import ContractCall.Proofs.Abi.Rewriting

/-!
# The content of a record

A record is an object or a list of its fields, and what is read from it depends on its content
alone: for each field, by its number, the values that the record gives it.

* `Reads read absent values x`: the values of a field, none or one, are read as `x`.
* `Alike p v w`: at the place `p` the values `v` and `w` are read alike, the bodies of events as
  maps. `ContentAlike` says the same of the contents of two records.
* `Form shape ofMembers ofItems reads`: both readers of a record read its content, as `reads` says,
  and read it alike from contents that are alike. There is one for each kind of record: `paramForm`,
  `signatureForm` and so on. The body of an event is not in its content.
-/

namespace ContractCall.Abi

open Decode

variable {α β : Type} {read : Json → Decoded α} {absent : Option α} {x : α} {y : β} {v w : Json}
  {vs ws items : List Json} {ms : List Json.Member} {keys : List String} {shape : Shape} {f : Field}

/-! ## The values of one field -/

/-- The values given to a field are read as `x`: the only value is, or there is none and an absent
field is `x`. -/
def Reads (read : Json → Decoded α) (absent : Option α) (values : List Json) (x : α) : Prop :=
  (values = [] ∧ absent = some x) ∨ ∃ v, values = [v] ∧ read v = .ok x

@[simp] theorem reads_nil : Reads read absent [] x ↔ absent = some x := by
  simp [Reads]

@[simp] theorem reads_singleton : Reads read absent [v] x ↔ read v = .ok x := by
  simp [Reads]

theorem given_some_iff_reads :
    Given keys read none ms (some x) ↔ Reads read none (valuesOf keys ms) x := by
  rw [given_none_iff, Reads]
  grind

theorem given_getD_iff_reads {d : α} :
    (∃ o, Given keys read none ms o ∧ x = o.getD d) ↔ Reads read (some d) (valuesOf keys ms) x := by
  simp only [given_none_iff, Reads]
  grind

theorem given_join_iff_reads {read : Json → Decoded (Option α)} {x : Option α} :
    (∃ o, Given keys read none ms o ∧ x = o.join) ↔
      Reads read (some none) (valuesOf keys ms) x := by
  simp only [given_none_iff, Reads]
  grind

theorem item_eq_ok_iff {i : Nat} :
    item shape i items read = .ok x ↔ Reads read none items[i]?.toList x := by
  unfold item
  cases items[i]? <;> simp

theorem itemOr_eq_ok_iff {i : Nat} {d : α} :
    itemOr d i items read = .ok x ↔ Reads read (some d) items[i]?.toList x := by
  unfold itemOr
  cases items[i]? <;> simp

theorem complete_eq_ok_iff {n : Nat} {u : Unit} : complete shape n = .ok u ↔ n ≤ shape.size := by
  unfold complete
  split <;> simp <;> omega

/-- What is made of the result of reading a field. -/
theorem reads_map {g : α → β} :
    Reads (fun v => (read v).map g) (absent.map g) vs y ↔
      ∃ x, Reads read absent vs x ∧ g x = y := by
  simp only [Reads, map_eq_ok_iff, Option.map_eq_some_iff]
  grind

/-! ## Values that are read alike -/

/-- The same is read from both values, if anything. -/
def SameReading (read : Json → Decoded α) (v w : Json) : Prop :=
  ∀ x, read v = .ok x ↔ read w = .ok x

/-- An entry with the bodies of events as maps. -/
def sortedEntry (nested : Bool) (v : Json) : Decoded Entry :=
  (entry nested v).map Entry.sorted

/-- The records that stand on their own. The other ones are entries. -/
def RecordAlike : Shape → Json → Json → Prop
  | .param => SameReading param
  | .output => SameReading output
  | .structMember => SameReading (component .structMember)
  | .enumVariant => SameReading (component .enumVariant)
  | _ => fun _ _ => True

/-- The values are read alike as what they are read as at this place. -/
def Alike : Place → Json → Json → Prop
  | .value => fun v w => v.sorted = w.sorted
  | .list p => fun v w => ∀ {α : Type} (read : Json → Decoded α),
    (∀ v w, Alike p v w → SameReading read v w) → SameReading (list read) v w
  | .record shape => RecordAlike shape
  | .entry nested => SameReading (sortedEntry nested)

theorem SameReading.refl (v : Json) : SameReading read v v :=
  fun _ => Iff.rfl

theorem Alike.refl (p : Place) (v : Json) : Alike p v v := by
  match p with
  | .value => exact rfl
  | .list p =>
    intro α read _
    exact SameReading.refl v
  | .record shape => cases shape <;> first | exact SameReading.refl v | exact trivial
  | .entry nested => exact SameReading.refl v

/-- A reader that takes neither arrays nor objects does not see the order of members. -/
theorem sameReading_of_scalar (ha : ∀ items x, read (.array items) ≠ .ok x)
    (ho : ∀ members x, read (.object members) ≠ .ok x) (h : Alike .value v w) :
    SameReading read v w := by
  intro x
  rcases Json.sorted_eq_cases h with rfl | ⟨items, items', rfl, rfl⟩ | ⟨ms, ms', rfl, rfl⟩
  · exact Iff.rfl
  · exact iff_of_false (ha items x) (ha items' x)
  · exact iff_of_false (ho ms x) (ho ms' x)

/-- Lists with one item that is read alike. -/
theorem SameReading.list_middle {l r : List Json} (h : SameReading read v w) :
    SameReading (list read) (.array (l ++ v :: r)) (.array (l ++ w :: r)) := by
  intro xs
  simp only [list, List.mapM_append, List.mapM_cons, bind_eq_ok_iff, h _]

/-! ## Contents -/

/-- The values that a field is given are read alike: as many, and alike if there is one, or none and
the default. -/
inductive ValuesAlike (f : Field) : List Json → List Json → Prop where
  | given {vs ws : List Json} (hl : vs.length = ws.length)
      (h : ∀ v w, vs = [v] → ws = [w] → Alike f.place v w) : ValuesAlike f vs ws
  | default {d : Json} (hd : f.absent = some d) : ValuesAlike f [] [d]

theorem ValuesAlike.refl (f : Field) (vs : List Json) : ValuesAlike f vs vs := by
  refine .given rfl fun v w hv hw => ?_
  cases hv.symm.trans hw
  exact .refl f.place v

/-- The field is read by this reader, from what an absent one has as well. -/
structure Field.ReadAs (f : Field) (read : Json → Decoded α) (absent : Option α) : Prop where
  alike : ∀ v w, Alike f.place v w → SameReading read v w
  absent : ∀ d, f.absent = some d → ∃ x, absent = some x ∧ read d = .ok x

theorem Field.ReadAs.reads_iff (hf : f.ReadAs read absent) (h : ValuesAlike f vs ws) :
    Reads read absent vs x ↔ Reads read absent ws x := by
  cases h with
  | given hl h =>
    match vs, ws, hl with
    | [], [], _ => exact Iff.rfl
    | [v], [w], _ =>
      rw [reads_singleton, reads_singleton]
      exact hf.alike v w (h v w rfl rfl) x
    | _ :: _ :: _, _ :: _ :: _, _ => simp [Reads]
  | default hd =>
    obtain ⟨y, rfl, hr⟩ := hf.absent _ hd
    rw [reads_nil, reads_singleton, hr, Option.some.injEq, Except.ok.injEq]

/-- The values that each field is given, by its number. -/
abbrev Content := Nat → List Json

/-- The content of an object. -/
def Shape.content (shape : Shape) (ms : List Json.Member) : Content := fun i =>
  match shape.fields[i]? with
  | some f => valuesOf f.names ms
  | none => []

/-- The content of a list form. -/
def itemContent (items : List Json) : Content := fun i => items[i]?.toList

/-- Each field of the record is given values that are read alike. -/
def ContentAlike (shape : Shape) (g g' : Content) : Prop :=
  ∀ i f, shape.fields[i]? = some f → ValuesAlike f (g i) (g' i)

/-- What is read from a record, as an object and in list form, is read from its content. -/
structure Form (shape : Shape) (ofMembers : List Json.Member → Decoded α)
    (ofItems : List Json → Decoded α) (reads : Content → α → Prop) : Prop where
  members : ∀ ms x, ofMembers ms = .ok x ↔ reads (shape.content ms) x
  items : ∀ items x, ofItems items = .ok x ↔ items.length ≤ shape.size ∧ reads (itemContent items) x
  alike : ∀ g g' x, ContentAlike shape g g' → (reads g x ↔ reads g' x)

section

variable {ofMembers : List Json.Member → Decoded α} {ofItems : List Json → Decoded α}
  {reads : Content → α → Prop}

theorem Form.map (h : Form shape ofMembers ofItems reads) (φ : α → β) :
    Form shape (fun ms => (ofMembers ms).map φ) (fun items => (ofItems items).map φ)
      fun g y => ∃ x, reads g x ∧ φ x = y where
  members ms y := by simp only [map_eq_ok_iff, h.members]
  items items y := by
    simp only [map_eq_ok_iff, h.items, and_assoc, exists_and_left]
  alike g g' y hg := exists_congr fun x => and_congr_left' (h.alike g g' x hg)

end

/-! ## Fields -/

theorem readAs_text (name : String) : (Field.required name).ReadAs text none where
  alike _ _ h := sameReading_of_scalar nofun nofun h
  absent := nofun

theorem readAs_optional_text (names : List String) :
    (Field.nullable names).ReadAs (Decode.optional text) (some none) where
  alike _ _ h := sameReading_of_scalar nofun nofun h
  absent _ h := by cases h; exact ⟨none, rfl, rfl⟩

theorem readAs_optional_word (names : List String) :
    (Field.nullable names).ReadAs (Decode.optional word) (some none) where
  alike _ _ h := sameReading_of_scalar nofun nofun h
  absent _ h := by cases h; exact ⟨none, rfl, rfl⟩

theorem readAs_list {p : Place} (name : String) (h : ∀ v w, Alike p v w → SameReading read v w) :
    (Field.listOf name p).ReadAs (list read) (some []) where
  alike _ _ hl := hl read h
  absent _ h := by cases h; exact ⟨[], rfl, rfl⟩

theorem readAs_params : (Field.listOf "inputs" (.record .param)).ReadAs (list param) (some []) :=
  readAs_list _ fun _ _ h => h

theorem readAs_outputs :
    (Field.listOf "outputs" (.record .output)).ReadAs (list output) (some []) :=
  readAs_list _ fun _ _ h => h

theorem readAs_members : (Field.listOf "members" (.record .structMember)).ReadAs
    (list (component .structMember)) (some []) :=
  readAs_list _ fun _ _ h => h

theorem readAs_variants : (Field.listOf "variants" (.record .enumVariant)).ReadAs
    (list (component .enumVariant)) (some []) :=
  readAs_list _ fun _ _ h => h

theorem readAs_items :
    (Field.listOf "items" (.entry true)).ReadAs (list (sortedEntry true)) (some []) :=
  readAs_list _ fun _ _ h => h

theorem readAs_interfaceName :
    (Field.mk ["interface_name"] .value (some (.string ""))).ReadAs text (some "") where
  alike _ _ h := sameReading_of_scalar nofun nofun h
  absent _ h := by cases h; exact ⟨"", rfl, rfl⟩

/-! ## Records -/

theorem paramForm : Form .param (paramMembers none none) paramItems fun g p =>
    Reads text none (g 0) p.name ∧ Reads text none (g 1) p.type where
  members ms p := by
    rw [paramMembers_eq_ok_iff, given_some_iff_reads, given_some_iff_reads]
    rfl
  items items p := by
    simp only [paramItems, bind_eq_ok_iff, item_eq_ok_iff, complete_eq_ok_iff]
    constructor
    · rintro ⟨n, hn, t, ht, u, hc, h⟩
      cases h
      exact ⟨hc, hn, ht⟩
    · rintro ⟨hc, hn, ht⟩
      exact ⟨_, hn, _, ht, (), hc, rfl⟩
  alike g g' p h :=
    and_congr ((readAs_text _).reads_iff (h 0 _ rfl)) ((readAs_text _).reads_iff (h 1 _ rfl))

theorem outputForm : Form .output (outputMembers none none) outputItems fun g out =>
    Reads (Decode.optional text) (some none) (g 0) out.name ∧ Reads text none (g 1) out.type where
  members ms out := by
    rw [outputMembers_eq_ok_iff, given_join_iff_reads, given_some_iff_reads]
    rfl
  items items out := by
    simp only [outputItems, bind_eq_ok_iff, item_eq_ok_iff, itemOr_eq_ok_iff, complete_eq_ok_iff]
    constructor
    · rintro ⟨n, hn, t, ht, u, hc, h⟩
      cases h
      exact ⟨hc, hn, ht⟩
    · rintro ⟨hc, hn, ht⟩
      exact ⟨_, hn, _, ht, (), hc, rfl⟩
  alike g g' out h :=
    and_congr ((readAs_optional_text _).reads_iff (h 0 _ rfl))
      ((readAs_text _).reads_iff (h 1 _ rfl))

theorem componentForm (hs : shape = .structMember ∨ shape = .enumVariant) :
    Form shape (componentMembers none none none) (componentItems shape) fun g c =>
      Reads text none (g 0) c.name ∧ Reads text none (g 1) c.type ∧
        Reads (Decode.optional word) (some none) (g 2) c.offset where
  members ms c := by
    rw [componentMembers_eq_ok_iff, given_some_iff_reads, given_some_iff_reads,
      given_join_iff_reads]
    rcases hs with rfl | rfl <;> rfl
  items items c := by
    have hsize : shape.size = 3 := by rcases hs with rfl | rfl <;> rfl
    simp only [componentItems, bind_eq_ok_iff, item_eq_ok_iff, itemOr_eq_ok_iff,
      complete_eq_ok_iff]
    constructor
    · rintro ⟨n, hn, t, ht, o, ho, u, hc, h⟩
      cases h
      exact ⟨hc, hn, ht, ho⟩
    · rintro ⟨hc, hn, ht, ho⟩
      exact ⟨_, hn, _, ht, _, ho, (), hc, rfl⟩
  alike g g' c h := by
    have hf : shape.fields = Shape.structMember.fields := by rcases hs with rfl | rfl <;> rfl
    rw [ContentAlike, hf] at h
    exact and_congr ((readAs_text _).reads_iff (h 0 _ rfl))
      (and_congr ((readAs_text _).reads_iff (h 1 _ rfl))
        ((readAs_optional_word _).reads_iff (h 2 _ rfl)))

theorem signatureForm :
    Form .signature (signatureMembers ⟨none, none, none, none⟩) signatureItems fun g f =>
      Reads text none (g 0) f.name ∧ Reads (list param) (some []) (g 1) f.inputs ∧
        Reads (list output) (some []) (g 2) f.outputs ∧
        Reads (Decode.optional text) (some none) (g 3) f.stateMutability where
  members ms f := by
    rw [signatureMembers_eq_ok_iff, given_some_iff_reads, given_getD_iff_reads,
      given_getD_iff_reads, given_join_iff_reads]
    rfl
  items items f := by
    simp only [signatureItems, bind_eq_ok_iff, item_eq_ok_iff, itemOr_eq_ok_iff,
      complete_eq_ok_iff]
    constructor
    · rintro ⟨n, hn, is, hi, os, ho, m, hm, u, hc, h⟩
      cases h
      exact ⟨hc, hn, hi, ho, hm⟩
    · rintro ⟨hc, hn, hi, ho, hm⟩
      exact ⟨_, hn, _, hi, _, ho, _, hm, (), hc, rfl⟩
  alike g g' f h :=
    and_congr ((readAs_text _).reads_iff (h 0 _ rfl))
      (and_congr (readAs_params.reads_iff (h 1 _ rfl))
        (and_congr (readAs_outputs.reads_iff (h 2 _ rfl))
          ((readAs_optional_text _).reads_iff (h 3 _ rfl))))

theorem structForm : Form .struct (structMembers none none none) structItems fun g s =>
    Reads text none (g 0) s.name ∧ Reads (Decode.optional word) (some none) (g 1) s.size ∧
      Reads (list (component .structMember)) (some []) (g 2) s.members where
  members ms s := by
    rw [structMembers_eq_ok_iff, given_some_iff_reads, given_join_iff_reads, given_getD_iff_reads]
    rfl
  items items s := by
    simp only [structItems, bind_eq_ok_iff, item_eq_ok_iff, itemOr_eq_ok_iff, complete_eq_ok_iff]
    constructor
    · rintro ⟨n, hn, z, hz, cs, hcs, u, hc, h⟩
      cases h
      exact ⟨hc, hn, hz, hcs⟩
    · rintro ⟨hc, hn, hz, hcs⟩
      exact ⟨_, hn, _, hz, _, hcs, (), hc, rfl⟩
  alike g g' s h :=
    and_congr ((readAs_text _).reads_iff (h 0 _ rfl))
      (and_congr ((readAs_optional_word _).reads_iff (h 1 _ rfl))
        (readAs_members.reads_iff (h 2 _ rfl)))

theorem enumForm : Form .enum (enumMembers none none) enumItems fun g e =>
    Reads text none (g 0) e.name ∧
      Reads (list (component .enumVariant)) (some []) (g 1) e.variants where
  members ms e := by
    rw [enumMembers_eq_ok_iff, given_some_iff_reads, given_getD_iff_reads]
    rfl
  items items e := by
    simp only [enumItems, bind_eq_ok_iff, item_eq_ok_iff, itemOr_eq_ok_iff, complete_eq_ok_iff]
    constructor
    · rintro ⟨n, hn, cs, hcs, u, hc, h⟩
      cases h
      exact ⟨hc, hn, hcs⟩
    · rintro ⟨hc, hn, hcs⟩
      exact ⟨_, hn, _, hcs, (), hc, rfl⟩
  alike g g' e h :=
    and_congr ((readAs_text _).reads_iff (h 0 _ rfl))
      (readAs_variants.reads_iff (h 1 _ rfl))

theorem implForm : Form .impl (implMembers none none) implItems fun g i =>
    Reads text none (g 0) i.name ∧ Reads text (some "") (g 1) i.interfaceName where
  members ms i := by
    rw [implMembers_eq_ok_iff, given_some_iff_reads, given_getD_iff_reads]
    rfl
  items items i := by
    simp only [implItems, bind_eq_ok_iff, item_eq_ok_iff, itemOr_eq_ok_iff, complete_eq_ok_iff]
    constructor
    · rintro ⟨n, hn, m, hm, u, hc, h⟩
      cases h
      exact ⟨hc, hn, hm⟩
    · rintro ⟨hc, hn, hm⟩
      exact ⟨_, hn, _, hm, (), hc, rfl⟩
  alike g g' i h :=
    and_congr ((readAs_text _).reads_iff (h 0 _ rfl)) (readAs_interfaceName.reads_iff (h 1 _ rfl))

/-! ## Interfaces -/

/-- The entries of a list with the bodies of events as maps. -/
theorem mapM_sortedEntry (nested : Bool) (vs : List Json) :
    vs.mapM (sortedEntry nested) = (Decode.entries nested vs).map Entry.sortedItems := by
  induction vs with
  | nil => rw [Decode.entries, List.mapM_nil]; rfl
  | cons v rest ih =>
    rw [Decode.entries, List.mapM_cons, ih, sortedEntry]
    cases entry nested v with
    | error e => rfl
    | ok e => cases Decode.entries nested rest <;> rfl

theorem list_sortedEntry (v : Json) :
    list (sortedEntry true) v = (nestedEntries v).map Entry.sortedItems := by
  cases v with
  | array items => exact mapM_sortedEntry true items
  | _ => rfl

theorem interfaceForm : Form .interface
    (fun ms => (interfaceMembers none none ms).map Entry.sorted)
    (fun items => (interfaceItems items).map Entry.sorted) fun g e =>
      ∃ n es, Reads text none (g 0) n ∧ Reads (list (sortedEntry true)) (some []) (g 1) es ∧
        e = .interface n es where
  members ms e := by
    have hr (es : List Entry) :
        Reads (list (sortedEntry true)) (some []) (valuesOf ["items"] ms) es ↔
          ∃ es', Reads nestedEntries (some []) (valuesOf ["items"] ms) es' ∧
            Entry.sortedItems es' = es := by
      rw [← reads_map, funext list_sortedEntry]
      rfl
    show _ ↔ ∃ n es, Reads text none (valuesOf ["name"] ms) n ∧
      Reads _ _ (valuesOf ["items"] ms) es ∧ _
    simp only [map_eq_ok_iff, interfaceMembers_eq_ok_iff, hr, ← given_getD_iff_reads,
      ← given_some_iff_reads]
    constructor
    · rintro ⟨_, ⟨n, es, hn, hes, rfl⟩, rfl⟩
      exact ⟨n, _, hn, ⟨_, ⟨es, hes, rfl⟩, rfl⟩, rfl⟩
    · rintro ⟨n, _, hn, ⟨_, ⟨es, hes, rfl⟩, rfl⟩, rfl⟩
      exact ⟨_, ⟨n, es, hn, hes, rfl⟩, rfl⟩
  items items e := by
    match items with
    | [] => simp [interfaceItems, itemContent, Except.map]
    | [name] =>
      simp only [itemContent, interfaceItems, map_eq_ok_iff, bind_eq_ok_iff,
        List.getElem?_cons_zero, List.getElem?_cons_succ, List.getElem?_nil, Option.toList,
        reads_singleton, reads_nil]
      constructor
      · rintro ⟨_, ⟨n, hn, h⟩, rfl⟩
        cases h
        exact ⟨(by decide : 1 ≤ 2), n, [], hn, rfl, rfl⟩
      · rintro ⟨-, n, es, hn, hes, rfl⟩
        cases hes
        exact ⟨_, ⟨n, hn, rfl⟩, rfl⟩
    | name :: es :: rest =>
      simp only [itemContent, interfaceItems, map_eq_ok_iff, bind_eq_ok_iff, complete_eq_ok_iff,
        List.getElem?_cons_zero, List.getElem?_cons_succ, Option.toList, reads_singleton,
        list_sortedEntry]
      constructor
      · rintro ⟨_, ⟨n, hn, es', hes, u, hc, h⟩, rfl⟩
        cases h
        exact ⟨hc, n, _, hn, ⟨es', hes, rfl⟩, rfl⟩
      · rintro ⟨hc, n, _, hn, ⟨es', hes, rfl⟩, rfl⟩
        exact ⟨_, ⟨n, hn, es', hes, (), hc, rfl⟩, rfl⟩
  alike g g' e h := by
    refine exists_congr fun n => exists_congr fun es => and_congr ?_ (and_congr_left' ?_)
    · exact (readAs_text _).reads_iff (h 0 _ rfl)
    · exact readAs_items.reads_iff (h 1 _ rfl)

end ContractCall.Abi
