import ContractCall.Proofs.Contract.Flattening

/-!
# The declarations of a contract

A contract flattens its ABI once for its methods, and its structs and enums are collected from that
flat form as if it were an ABI of its own, that is, after a second flattening. So an interface that
one flattening leaves behind adds its declarations to those of the contract, although none of its
items is an entry of the flat form.

* `get?_declared_unfolded`: what a further flattening does to the declarations of some sort: each is
  as before, or comes from an interface.
* `declarations_of_isShallow`: in an ABI without interfaces in interfaces there is no difference.
* `sameDeclarations_iff_leftBehind`: exactly which declarations make one.
-/

namespace ContractCall

namespace Abi

variable {α : Type}

/-- The declarations of one sort among entries, by name. A later one replaces an earlier one. -/
def declared (pick : Entry → Option α) (nameOf : α → String) (entries : List Entry) :
    List (String × α) :=
  Assoc.ofList ((entries.filterMap pick).map fun d => (nameOf d, d))

variable {pick : Entry → Option α} {nameOf : α → String} {entries : List Entry} {n : String} {d : α}

/-- Some item of an interface among the entries gives this declaration. -/
def InInterface (pick : Entry → Option α) (entries : List Entry) (d : α) : Prop :=
  ∃ name items, Entry.interface name items ∈ entries ∧ ∃ i ∈ items, pick i = some d

theorem InInterface.cons (h : InInterface pick entries d) (e : Entry) :
    InInterface pick (e :: entries) d := by
  obtain ⟨name, items, hm, hi⟩ := h
  exact ⟨name, items, List.mem_cons_of_mem e hm, hi⟩

theorem InInterface.append (h : InInterface pick entries d) (es : List Entry) :
    InInterface pick (entries ++ es) d := by
  obtain ⟨name, items, hm, hi⟩ := h
  exact ⟨name, items, List.mem_append_left es hm, hi⟩

/-- A declaration that a further flattening takes from an interface among the entries, and that
counts. -/
def LeftBehind (pick : Entry → Option α) (nameOf : α → String) (entries : List Entry) (d : α) :
    Prop :=
  InInterface pick entries d ∧
    Assoc.get? (declared pick nameOf (entries.flatMap Entry.unfolded)) (nameOf d) = some d

theorem get?_declared_append (es fs : List Entry) (n : String) :
    Assoc.get? (declared pick nameOf (es ++ fs)) n =
      (Assoc.get? (declared pick nameOf fs) n).or (Assoc.get? (declared pick nameOf es) n) := by
  rw [declared, List.filterMap_append, List.map_append, Assoc.get?_ofList_append]
  rfl

theorem mem_of_get?_declared (h : Assoc.get? (declared pick nameOf entries) n = some d) :
    nameOf d = n ∧ ∃ e ∈ entries, pick e = some d := by
  have hm := Assoc.mem_of_mem_ofList (Assoc.mem_of_get? h)
  obtain ⟨d', hd, heq⟩ := List.mem_map.mp hm
  cases heq
  exact ⟨rfl, List.mem_filterMap.mp hd⟩

theorem get?_declared_singleton_interface (hp : ∀ name items, pick (.interface name items) = none)
    (name : String) (items : List Entry) (n : String) :
    Assoc.get? (declared pick nameOf [.interface name items]) n = none := by
  rw [declared, List.filterMap_cons_none (hp name items)]
  rfl

/-- The declarations of one entry, before and after it is replaced by its items. -/
theorem get?_declared_unfolded_entry (hp : ∀ name items, pick (.interface name items) = none)
    (e : Entry) (n : String) :
    Assoc.get? (declared pick nameOf e.unfolded) n = Assoc.get? (declared pick nameOf [e]) n ∨
      ∃ d, Assoc.get? (declared pick nameOf e.unfolded) n = some d ∧ InInterface pick [e] d := by
  cases hi : e.isInterface with
  | false => exact .inl (by rw [unfolded_of_not_isInterface hi])
  | true =>
    cases e with
    | interface name items =>
      rw [get?_declared_singleton_interface hp, Entry.unfolded]
      cases hd : Assoc.get? (declared pick nameOf items) n with
      | none => exact .inl rfl
      | some d =>
        obtain ⟨-, hm⟩ := mem_of_get?_declared hd
        exact .inr ⟨d, rfl, name, items, List.mem_cons_self, hm⟩
    | _ => cases hi

/-- A declaration found after a further flattening is the one found before, or an interface among
the entries gives it. The induction is on the entries from the first to the last, and the last
declaration of a name is the one that counts. -/
theorem get?_declared_unfolded (hp : ∀ name items, pick (.interface name items) = none)
    (entries : List Entry) (n : String) :
    Assoc.get? (declared pick nameOf (entries.flatMap Entry.unfolded)) n =
        Assoc.get? (declared pick nameOf entries) n ∨
      ∃ d, Assoc.get? (declared pick nameOf (entries.flatMap Entry.unfolded)) n = some d ∧
        InInterface pick entries d := by
  induction entries with
  | nil => exact .inl rfl
  | cons e rest ih =>
    rw [List.flatMap_cons, get?_declared_append, ← List.singleton_append, get?_declared_append]
    rcases ih with ih | ⟨d, hd, hi⟩
    · rw [ih]
      cases hr : Assoc.get? (declared pick nameOf rest) n with
      | some d => exact .inl rfl
      | none =>
        rw [Option.none_or, Option.none_or]
        refine (get?_declared_unfolded_entry hp e n).imp_right ?_
        rintro ⟨d, hd, hi⟩
        exact ⟨d, hd, hi.append rest⟩
    · exact .inr ⟨d, by rw [hd]; rfl, hi.cons e⟩

/-- A further flattening keeps all declarations exactly if those that it takes from interfaces
counted before. -/
theorem declared_unfolded_agree_iff (hp : ∀ name items, pick (.interface name items) = none) :
    (∀ n, Assoc.get? (declared pick nameOf (entries.flatMap Entry.unfolded)) n =
        Assoc.get? (declared pick nameOf entries) n) ↔
      ∀ d, LeftBehind pick nameOf entries d →
        Assoc.get? (declared pick nameOf entries) (nameOf d) = some d := by
  constructor
  · rintro h d ⟨-, hd⟩
    rwa [← h]
  · intro h n
    rcases get?_declared_unfolded hp entries n with he | ⟨d, hd, hi⟩
    · exact he
    · obtain ⟨rfl, -⟩ := mem_of_get?_declared hd
      rw [hd, h d ⟨hi, hd⟩]

/-- All declarations that count after a further flattening are among the entries exactly if those
that it takes from interfaces are. -/
theorem declared_unfolded_mem_iff (hp : ∀ name items, pick (.interface name items) = none) :
    (∀ n d, Assoc.get? (declared pick nameOf (entries.flatMap Entry.unfolded)) n = some d →
        ∃ e ∈ entries, pick e = some d) ↔
      ∀ d, LeftBehind pick nameOf entries d → ∃ e ∈ entries, pick e = some d := by
  constructor
  · rintro h d ⟨-, hd⟩
    exact h _ d hd
  · intro h n d hd
    obtain ⟨rfl, -⟩ := mem_of_get?_declared hd
    rcases get?_declared_unfolded hp entries (nameOf d) with he | ⟨d', hd', hi⟩
    · exact (mem_of_get?_declared (he ▸ hd)).2
    · rw [hd] at hd'
      cases hd'
      exact h d ⟨hi, hd⟩

theorem exists_struct?_iff {s : Struct} :
    (∃ e ∈ entries, e.struct? = some s) ↔ Entry.struct s ∈ entries := by
  simp only [Entry.struct?_eq_some_iff, exists_eq_right]

theorem exists_enum?_iff {s : Enum} :
    (∃ e ∈ entries, e.enum? = some s) ↔ Entry.enum s ∈ entries := by
  simp only [Entry.enum?_eq_some_iff, exists_eq_right]

end Abi

namespace Contract

open Abi

variable {abi : Abi}

/-- The contract has the structs and enums of its ABI. -/
def SameDeclarations (abi : Abi) : Prop :=
  (∀ n, Assoc.get? (ofAbi abi).decls.structs n = Assoc.get? abi.structs n) ∧
    ∀ n, Assoc.get? (ofAbi abi).decls.enums n = Assoc.get? abi.enums n

/-- Every struct and enum of the contract is an entry of its flat form. -/
def DeclaresEntries (abi : Abi) : Prop :=
  (∀ n s, Assoc.get? (ofAbi abi).decls.structs n = some s →
      Entry.struct s ∈ (ofAbi abi).abi.entries) ∧
    ∀ n e, Assoc.get? (ofAbi abi).decls.enums n = some e →
      Entry.enum e ∈ (ofAbi abi).abi.entries

/-- A struct of the contract that an interface left in its flat form gives. -/
def LeftStruct (abi : Abi) (s : Struct) : Prop :=
  InInterface Entry.struct? (ofAbi abi).abi.entries s ∧
    Assoc.get? (ofAbi abi).decls.structs s.name = some s

/-- An enum of the contract that an interface left in its flat form gives. -/
def LeftEnum (abi : Abi) (e : Enum) : Prop :=
  InInterface Entry.enum? (ofAbi abi).abi.entries e ∧
    Assoc.get? (ofAbi abi).decls.enums e.name = some e

theorem structs_eq_declared (abi : Abi) :
    abi.structs = declared Entry.struct? Struct.name (ofAbi abi).abi.entries := by
  rw [ofAbi_abi]
  rfl

theorem enums_eq_declared (abi : Abi) :
    abi.enums = declared Entry.enum? Enum.name (ofAbi abi).abi.entries := by
  rw [ofAbi_abi]
  rfl

theorem decls_ofAbi_of_isShallow (h : abi.IsShallow) :
    (ofAbi abi).decls = ⟨abi.structs, abi.enums⟩ := by
  rw [ofAbi_decls, Abi.structs, Abi.enums, flatten_flatten h, Abi.structs, Abi.enums]

/-- Where no interface is an item of an interface, a contract has the declarations of its ABI, and
they are entries of its flat form. -/
theorem declarations_of_isShallow (h : abi.IsShallow) :
    SameDeclarations abi ∧ DeclaresEntries abi := by
  rw [SameDeclarations, DeclaresEntries, decls_ofAbi_of_isShallow h]
  refine ⟨⟨fun n => rfl, fun n => rfl⟩, fun n s hn => ?_, fun n e hn => ?_⟩
  · rw [structs_eq_declared] at hn
    exact exists_struct?_iff.mp (mem_of_get?_declared hn).2
  · rw [enums_eq_declared] at hn
    exact exists_enum?_iff.mp (mem_of_get?_declared hn).2

/-- A contract has the declarations of its ABI exactly if those that it takes from an interface left
in its flat form are the ABI's own, and they are entries of the flat form exactly if those are. -/
theorem sameDeclarations_iff_leftBehind (abi : Abi) :
    (SameDeclarations abi ↔
      (∀ s, LeftStruct abi s → Assoc.get? abi.structs s.name = some s) ∧
        ∀ e, LeftEnum abi e → Assoc.get? abi.enums e.name = some e) ∧
    (DeclaresEntries abi ↔
      (∀ s, LeftStruct abi s → Entry.struct s ∈ (ofAbi abi).abi.entries) ∧
        ∀ e, LeftEnum abi e → Entry.enum e ∈ (ofAbi abi).abi.entries) := by
  have hs : ∀ name items, Entry.struct? (.interface name items) = none := fun _ _ => rfl
  have he : ∀ name items, Entry.enum? (.interface name items) = none := fun _ _ => rfl
  refine ⟨and_congr ?_ ?_, and_congr ?_ ?_⟩
  · rw [structs_eq_declared]
    exact declared_unfolded_agree_iff hs
  · rw [enums_eq_declared]
    exact declared_unfolded_agree_iff he
  · simp only [← exists_struct?_iff]
    exact declared_unfolded_mem_iff hs
  · simp only [← exists_enum?_iff]
    exact declared_unfolded_mem_iff he

/-! ## A struct two interfaces deep -/

/-- An ABI with an interface in an interface that declares a struct. -/
def nestedPoint : Abi :=
  ⟨[.interface "IOuter" [.interface "IInner" [.struct ⟨"Point", none, []⟩]]]⟩

/-- The struct is one of the contract, but neither of the ABI nor an entry of the flat form. -/
theorem not_sameDeclarations_nestedPoint :
    ¬ SameDeclarations nestedPoint ∧ ¬ DeclaresEntries nestedPoint := by
  have hc : Assoc.get? (ofAbi nestedPoint).decls.structs "Point" =
      some ⟨"Point", none, []⟩ := rfl
  constructor
  · intro h
    have ha : Assoc.get? nestedPoint.structs "Point" = none := rfl
    rw [h.1, ha] at hc
    cases hc
  · intro h
    have hm := h.1 _ _ hc
    have hf : (ofAbi nestedPoint).abi.entries =
        [.interface "IInner" [.struct ⟨"Point", none, []⟩]] := rfl
    rw [hf] at hm
    cases List.mem_singleton.mp hm

end Contract

end ContractCall
