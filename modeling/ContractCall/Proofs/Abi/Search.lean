import ContractCall.Abi.Layout

/-!
# The search for a method by its name

The layout of an ABI looks a method up among all entries, or, where there are interfaces, among the
items of the first one. Only callable entries count, so that a struct, an event or an interface of
the name is passed over, and of several callable entries the first one is found.

* `AnswersTo`, `FirstAnswer`, `OnlyAnswer`: the callable entries of a name, the first of them in a
  list, and the only one.
* `FirstInterface`, `Searched`: the items of the first interface, and the entries that are searched.
* `layout_finds_first_answer`: what the layout of an ABI finds, and that it never lacks an
  interface.
* `grouped_search_refines_flat`: what the search of the first interface has to do with a search of
  the flat form.
-/

namespace ContractCall.Abi

variable {abi : Abi} {name : String} {e : Entry} {es items : List Entry} {f g : Signature}

/-! ## Callable entries -/

/-- The entry is callable by this name and has this signature. -/
def Entry.AnswersTo (e : Entry) (name : String) (f : Signature) : Prop :=
  e.signature? = some f ∧ f.name = name

/-- The first callable entry of the name has this signature. -/
def FirstAnswer (name : String) (es : List Entry) (f : Signature) : Prop :=
  ∃ before e after, es = before ++ e :: after ∧ e.AnswersTo name f ∧
    ∀ b ∈ before, ∀ g, ¬ b.AnswersTo name g

/-- The entry is the only callable one of the name. -/
def OnlyAnswer (name : String) (es : List Entry) (e : Entry) (f : Signature) : Prop :=
  ∃ before after, es = before ++ e :: after ∧ e.AnswersTo name f ∧
    ∀ b ∈ before ++ after, ∀ g, ¬ b.AnswersTo name g

theorem Entry.callable?_eq_none_iff : e.callable? name = none ↔ ∀ g, ¬ e.AnswersTo name g := by
  rw [Option.eq_none_iff_forall_ne_some]
  exact forall_congr' fun g => not_congr Entry.callable?_eq_some_iff

theorem findSome?_callable?_eq_some_iff :
    es.findSome? (Entry.callable? name) = some f ↔ FirstAnswer name es f := by
  rw [List.findSome?_eq_some_iff]
  simp only [Entry.callable?_eq_some_iff, Entry.callable?_eq_none_iff]
  rfl

theorem findSome?_callable?_eq_none_iff :
    es.findSome? (Entry.callable? name) = none ↔ ∀ e ∈ es, ∀ g, ¬ e.AnswersTo name g := by
  rw [List.findSome?_eq_none_iff]
  simp only [Entry.callable?_eq_none_iff]

theorem FirstAnswer.exists_mem (h : FirstAnswer name es f) : ∃ e ∈ es, e.AnswersTo name f := by
  obtain ⟨before, e, after, rfl, he, -⟩ := h
  exact ⟨e, by simp, he⟩

/-- A search finds something where there is something to find. -/
theorem exists_firstAnswer (he : e ∈ es) (h : e.AnswersTo name f) : ∃ g, FirstAnswer name es g := by
  simp only [← findSome?_callable?_eq_some_iff, ← Option.isSome_iff_exists,
    List.findSome?_isSome_iff]
  exact ⟨e, he, by rw [Entry.callable?_eq_some_iff.mpr h]; rfl⟩

/-- An entry has at most one signature. -/
theorem Entry.AnswersTo.unique (h : e.AnswersTo name f) (h' : e.AnswersTo name g) : f = g :=
  Option.some.inj (h.1.symm.trans h'.1)

theorem OnlyAnswer.answersTo (h : OnlyAnswer name es e f) : e.AnswersTo name f := by
  obtain ⟨_, _, _, he, _⟩ := h
  exact he

theorem OnlyAnswer.firstAnswer (h : OnlyAnswer name es e f) : FirstAnswer name es f := by
  obtain ⟨before, after, hs, he, hb⟩ := h
  exact ⟨before, e, after, hs, he, fun b hm => hb b (List.mem_append_left after hm)⟩

/-- An entry that answers to the name of the only one is that one. -/
theorem OnlyAnswer.eq {e' : Entry} (h : OnlyAnswer name es e f) (he' : e' ∈ es)
    (ha : e'.AnswersTo name g) : e' = e := by
  obtain ⟨before, after, rfl, -, hb⟩ := h
  refine Classical.byContradiction fun hne => hb e' ?_ g ha
  rcases List.mem_append.mp he' with hm | hm
  · exact List.mem_append_left after hm
  · exact List.mem_append_right before ((List.mem_cons.mp hm).resolve_left hne)

/-! ## The first interface -/

/-- The first interface among the entries has these items. -/
def FirstInterface (abi : Abi) (items : List Entry) : Prop :=
  ∃ before name after, abi.entries = before ++ .interface name items :: after ∧
    ∀ b ∈ before, b.isInterface = false

/-- The entries among which the layout of an ABI looks for a method. -/
inductive Searched (abi : Abi) : List Entry → Prop where
  | all (h : ∀ e ∈ abi.entries, e.isInterface = false) : Searched abi abi.entries
  | first {items : List Entry} (h : FirstInterface abi items) : Searched abi items

theorem Entry.items?_eq_some_iff : e.items? = some items ↔ ∃ name, e = .interface name items := by
  cases e <;> simp [Entry.items?]

theorem Entry.items?_eq_none_iff : e.items? = none ↔ e.isInterface = false := by
  rw [isInterface, Option.isSome_eq_false_iff, Option.isNone_iff_eq_none]

theorem findSome?_items?_eq_some_iff :
    abi.entries.findSome? Entry.items? = some items ↔ FirstInterface abi items := by
  rw [List.findSome?_eq_some_iff]
  simp only [Entry.items?_eq_some_iff, Entry.items?_eq_none_iff]
  constructor
  · rintro ⟨before, _, after, hs, ⟨name, rfl⟩, hb⟩
    exact ⟨before, name, after, hs, hb⟩
  · rintro ⟨before, name, after, hs, hb⟩
    exact ⟨before, _, after, hs, ⟨name, rfl⟩, hb⟩

theorem exists_firstInterface (h : abi.hasInterface = true) : ∃ items, FirstInterface abi items := by
  simp only [← findSome?_items?_eq_some_iff, ← Option.isSome_iff_exists,
    List.findSome?_isSome_iff]
  exact List.any_eq_true.mp h

/-- The items of the first interface are entries of the flat form. -/
theorem FirstInterface.mem_flatten (h : FirstInterface abi items) (he : e ∈ items) :
    e ∈ abi.flatten.entries := by
  obtain ⟨before, name, after, hs, -⟩ := h
  have hi : Entry.interface name items ∈ abi.entries := by rw [hs]; simp
  exact List.mem_flatMap.mpr ⟨_, hi, he⟩

/-! ## Lookups -/

theorem method?_flat (abi : Abi) (name : String) :
    Layout.flat.method? abi name = .ok (abi.entries.findSome? (Entry.callable? name)) := rfl

theorem method?_grouped (h : FirstInterface abi items) (name : String) :
    Layout.grouped.method? abi name = .ok (items.findSome? (Entry.callable? name)) := by
  rw [Layout.method?, findSome?_items?_eq_some_iff.mpr h]

/-- The layout of an ABI searches its entries or the items of its first interface. -/
theorem exists_searched (abi : Abi) : ∃ es, Searched abi es ∧
    ∀ name, abi.layout.method? abi name = .ok (es.findSome? (Entry.callable? name)) := by
  cases hi : abi.hasInterface with
  | true =>
    obtain ⟨items, h⟩ := exists_firstInterface hi
    rw [layout_eq_grouped_iff.mpr hi]
    exact ⟨items, .first h, method?_grouped h⟩
  | false =>
    have hn : ∀ e ∈ abi.entries, e.isInterface = false := by
      intro e he
      exact Bool.eq_false_iff.mpr (List.any_eq_false.mp hi e he)
    rw [layout_eq_flat_iff.mpr hi]
    exact ⟨abi.entries, .all hn, method?_flat abi⟩

/-- The layout of an ABI flattens it as the ABI itself does. It never lacks an interface, and finds
for a name exactly the first callable entry of the name among the entries it searches. -/
theorem layout_finds_first_answer (abi : Abi) :
    abi.layout.flatten abi = abi.flatten ∧
      ∃ es, Searched abi es ∧ ∀ name, ∃ found, abi.layout.method? abi name = .ok found ∧
        (found.isSome = true ↔ ∃ e ∈ es, ∃ f, e.AnswersTo name f) ∧
        ∀ f, found = some f ↔ FirstAnswer name es f := by
  obtain ⟨es, hs, hm⟩ := exists_searched abi
  refine ⟨layout_flatten abi, es, hs, fun name => ⟨_, hm name, ?_, fun f => ?_⟩⟩
  · rw [Option.isSome_iff_exists]
    constructor
    · rintro ⟨f, hf⟩
      obtain ⟨e, he, h⟩ := (findSome?_callable?_eq_some_iff.mp hf).exists_mem
      exact ⟨e, he, f, h⟩
    · rintro ⟨e, he, f, h⟩
      obtain ⟨g, hg⟩ := exists_firstAnswer he h
      exact ⟨g, findSome?_callable?_eq_some_iff.mpr hg⟩
  · exact findSome?_callable?_eq_some_iff

/-- The search of the first interface finds nothing that a search of the flat form would miss, and
each of them finds the signature of a callable entry of the name. If the flat form has only one, it
is found there, and by the search of the first interface exactly if it is an item of that
interface. -/
theorem grouped_search_refines_flat (abi : Abi) (name : String) (h : abi.hasInterface = true) :
    ∃ items, FirstInterface abi items ∧
      (∀ f, Layout.grouped.method? abi name = .ok (some f) →
        (∃ e ∈ abi.flatten.entries, e.AnswersTo name f) ∧
          ∃ g, Layout.flat.method? abi.flatten name = .ok (some g)) ∧
      (∀ g, Layout.flat.method? abi.flatten name = .ok (some g) →
        ∃ e ∈ abi.flatten.entries, e.AnswersTo name g) ∧
      ∀ e f, OnlyAnswer name abi.flatten.entries e f →
        Layout.flat.method? abi.flatten name = .ok (some f) ∧
          (e ∈ items → Layout.grouped.method? abi name = .ok (some f)) ∧
          (e ∉ items → Layout.grouped.method? abi name = .ok none) := by
  obtain ⟨items, hi⟩ := exists_firstInterface h
  refine ⟨items, hi, ?_⟩
  simp only [method?_grouped hi, method?_flat, Except.ok.injEq, findSome?_callable?_eq_some_iff,
    findSome?_callable?_eq_none_iff]
  refine ⟨fun f hf => ?_, fun g hg => hg.exists_mem, fun e f ho => ⟨ho.firstAnswer, ?_, ?_⟩⟩
  · obtain ⟨e, he, ha⟩ := hf.exists_mem
    exact ⟨⟨e, hi.mem_flatten he, ha⟩, exists_firstAnswer (hi.mem_flatten he) ha⟩
  · intro he
    obtain ⟨g, hg⟩ := exists_firstAnswer he ho.answersTo
    -- what is found among the items is the only entry of the name, so it has the same signature
    obtain ⟨e', he', ha⟩ := hg.exists_mem
    obtain rfl := ho.eq (hi.mem_flatten he') ha
    obtain rfl := ho.answersTo.unique ha
    exact hg
  · intro he e' he' g ha
    exact he (ho.eq (hi.mem_flatten he') ha ▸ he')

/-! ## Two interfaces -/

/-- A function without inputs and outputs. -/
def bare (name : String) : Signature := ⟨name, [], [], some "external"⟩

/-- An ABI with an event of the name of the function in its first interface, and a second
interface. -/
def pingPong : Abi where
  entries := [.event ⟨"ping", []⟩, .interface "IPing" [.function (bare "ping")],
    .interface "IPong" [.function (bare "pong")]]

/-- The function of the second interface is found in the flat form only. -/
theorem grouped_search_refines_flat_pingPong :
    pingPong.hasInterface = true ∧
      Layout.flat.method? pingPong.flatten "pong" = .ok (some (bare "pong")) ∧
      Layout.grouped.method? pingPong "pong" = .ok none := by
  have h : pingPong.hasInterface = true := rfl
  obtain ⟨items, hi, -, -, ho⟩ := grouped_search_refines_flat pingPong "pong" h
  have hs := findSome?_items?_eq_some_iff.mpr hi
  have hitems : items = [.function (bare "ping")] := (Option.some.inj hs).symm
  obtain ⟨hf, -, hg⟩ := ho (.function (bare "pong")) (bare "pong")
    ⟨[.event ⟨"ping", []⟩, .function (bare "ping")], [], rfl, ⟨rfl, rfl⟩, by
      simp [Entry.AnswersTo, Entry.signature?, bare]⟩
  exact ⟨h, hf, hg (by simp [hitems, bare])⟩

end ContractCall.Abi
