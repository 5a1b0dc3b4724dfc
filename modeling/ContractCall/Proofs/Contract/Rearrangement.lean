import ContractCall.Abi.Decode
import ContractCall.Proofs.Check.Agreement
import ContractCall.Proofs.Contract.Declarations
import ContractCall.Proofs.Contract.Mutability
import Mathlib.Data.List.FinRange
import Mathlib.Logic.Equiv.Defs

/-!
# Rearranged entries

Entries of one kind and one name compete: of the methods of a name the first counts, of the structs
and enums of a name the last. Others do not, so it matters neither in which order they stand nor in
which interface.

* `Rearranged key l l'`: the list `l'` has the members of `l`, moved by a bijection of the places
  under which members with the same key stay in order.
* `filter_eq_of_rearranged`: what both lists have under one key.
* `get?_declared_eq_getLast?`: look-up among declarations, as a search among those of the name.
* `check_eq_of_rearranged`: contracts whose flat forms are rearranged, both with interfaces or both
  without, judge every call alike.
-/

namespace ContractCall

/-! ## Lists -/

section

variable {α κ : Type} {key : α → κ} {l l' : List α}

/-- The members of `l` are those of `l'`, in an order that differs only between members with
different keys. -/
def Rearranged (key : α → κ) (l l' : List α) : Prop :=
  ∃ place : Fin l.length ≃ Fin l'.length, (∀ i, l'[place i] = l[i]) ∧
    ∀ i j, i < j → key l[i] = key l[j] → place i < place j

variable [DecidableEq κ] {k : κ}

/-- The places of the members with a key. -/
def placesOf (key : α → κ) (k : κ) (l : List α) : List (Fin l.length) :=
  (List.finRange l.length).filter fun i => key l[i] = k

theorem mem_placesOf {i : Fin l.length} : i ∈ placesOf key k l ↔ key l[i] = k := by
  simp [placesOf]

theorem sorted_placesOf (key : α → κ) (k : κ) (l : List α) :
    (placesOf key k l).Pairwise (· < ·) :=
  (List.pairwise_lt_finRange _).filter _

theorem map_placesOf (key : α → κ) (k : κ) (l : List α) :
    (placesOf key k l).map (fun i => l[i]) = l.filter fun x => key x = k := by
  conv_rhs => rw [← List.map_getElem_finRange l, List.filter_map]
  rfl

/-- The members with one key are the same in both lists, and in the same order. Their places in one
list, moved, are their places in the other: both are sorted, and they have the same members. -/
theorem filter_eq_of_rearranged (h : Rearranged key l l') (k : κ) :
    l.filter (fun x => key x = k) = l'.filter fun x => key x = k := by
  obtain ⟨place, hs, hk⟩ := h
  have hsorted' : (placesOf key k l').Pairwise (· < ·) := sorted_placesOf key k l'
  have hsorted : ((placesOf key k l).map place).Pairwise (· < ·) := by
    rw [List.pairwise_map]
    refine (sorted_placesOf key k l).imp_of_mem fun {i j} hi hj hij => ?_
    exact hk i j hij ((mem_placesOf.mp hi).trans (mem_placesOf.mp hj).symm)
  have hperm : ((placesOf key k l).map place).Perm (placesOf key k l') := by
    rw [List.perm_ext_iff_of_nodup (hsorted.imp ne_of_lt) (hsorted'.imp ne_of_lt)]
    intro j
    obtain ⟨i, rfl⟩ := place.surjective j
    rw [List.mem_map_of_injective place.injective, mem_placesOf, mem_placesOf, hs]
  have hplaces : (placesOf key k l).map place = placesOf key k l' :=
    hperm.eq_of_pairwise (fun _ _ _ _ hij hji => absurd hji hij.asymm) hsorted hsorted'
  calc l.filter (fun x => key x = k)
      = (placesOf key k l).map fun i => l[i] := (map_placesOf key k l).symm
    _ = (placesOf key k l).map fun i => l'[place i] := List.map_congr_left fun i _ => (hs i).symm
    _ = (placesOf key k l').map fun j => l'[j] := by rw [← hplaces, List.map_map]; rfl
    _ = l'.filter (fun x => key x = k) := map_placesOf key k l'

/-- A search that only members with one key answer finds the same in both lists. -/
theorem filterMap_eq_of_rearranged {β : Type} {g : α → Option β} (h : Rearranged key l l')
    (hg : ∀ x y, g x = some y → key x = k) :
    l.filterMap g = l'.filterMap g := by
  have hf (m : List α) : m.filterMap g = (m.filter fun x => key x = k).filterMap g := by
    rw [List.filterMap_filter]
    refine List.filterMap_congr fun x _ => ?_
    by_cases hx : key x = k
    · simp [hx]
    · rw [if_neg (by simpa using hx)]
      exact Option.eq_none_iff_forall_ne_some.mpr fun y hy => hx (hg x y hy)
  rw [hf l, hf l', filter_eq_of_rearranged h k]

end

namespace Abi

/-! ## Entries of one kind and name -/

/-- The kind of an entry. -/
def Entry.tag : Entry → Decode.Tag
  | function _ => .function
  | constructor _ => .constructor
  | l1Handler _ => .l1Handler
  | struct _ => .struct
  | enum _ => .enum
  | interface _ _ => .interface
  | event _ => .event
  | impl _ => .impl

/-- The kind and the name of an entry. -/
def Entry.key (e : Entry) : Decode.Tag × String :=
  (e.tag, e.name)

variable {α : Type} {pick : Entry → Option α} {nameOf : α → String} {tag : Decode.Tag}
  {entries entries' : List Entry}

/-- The declarations of a sort are the entries of one kind, with their names. -/
def Picks (pick : Entry → Option α) (nameOf : α → String) (tag : Decode.Tag) : Prop :=
  ∀ e d, pick e = some d → e.key = (tag, nameOf d)

theorem picks_function? : Picks Entry.function? Signature.name .function := by
  intro e f h
  rw [Entry.function?_eq_some_iff.mp h]
  rfl

theorem picks_constructor? : Picks Entry.constructor? Signature.name .constructor := by
  intro e f h
  rw [Entry.constructor?_eq_some_iff.mp h]
  rfl

theorem picks_struct? : Picks Entry.struct? Struct.name .struct := by
  intro e s h
  rw [Entry.struct?_eq_some_iff.mp h]
  rfl

theorem picks_enum? : Picks Entry.enum? Enum.name .enum := by
  intro e s h
  rw [Entry.enum?_eq_some_iff.mp h]
  rfl

/-- The declarations of one sort and one name are the same after a rearrangement, and in the same
order. -/
theorem named_eq_of_rearranged (hp : Picks pick nameOf tag)
    (h : Rearranged Entry.key entries entries') (n : String) :
    (entries.filterMap pick).filter (fun d => nameOf d == n) =
      (entries'.filterMap pick).filter (fun d => nameOf d == n) := by
  rw [List.filter_filterMap, List.filter_filterMap]
  refine filterMap_eq_of_rearranged h (k := (tag, n)) fun e d he => ?_
  obtain ⟨he, hn⟩ := Option.filter_eq_some_iff.mp he
  rw [hp e d he, beq_iff_eq.mp hn]

/-- The last declaration of a name is the one that counts. -/
theorem get?_declared_eq_getLast? (pick : Entry → Option α) (nameOf : α → String)
    (entries : List Entry) (n : String) : Assoc.get? (declared pick nameOf entries) n =
      ((entries.filterMap pick).filter fun d => nameOf d == n).getLast? := by
  induction entries with
  | nil => rfl
  | cons e rest ih =>
    rw [← List.singleton_append, get?_declared_append, ih, List.filterMap_append,
      List.filter_append, List.getLast?_append]
    congr 1
    cases hd : pick e with
    | none => rw [declared, List.filterMap_cons_none hd]; rfl
    | some d =>
      rw [declared, List.filterMap_cons_some hd]
      by_cases hn : nameOf d = n
      · simp [Assoc.ofList, Assoc.put, hn]
      · simp [Assoc.ofList, Assoc.put, hn]

theorem get?_declared_of_rearranged (hp : Picks pick nameOf tag)
    (h : Rearranged Entry.key entries entries') (n : String) :
    Assoc.get? (declared pick nameOf entries) n = Assoc.get? (declared pick nameOf entries') n := by
  rw [get?_declared_eq_getLast?, get?_declared_eq_getLast?, named_eq_of_rearranged hp h]

/-- An interface among the items of an interface is an entry of the flat form. -/
theorem isShallow_of_hasInterface_flatten {abi : Abi} (h : abi.flatten.hasInterface = false) :
    abi.IsShallow := by
  intro e he items hi i hm
  rw [hasInterface, List.any_eq_false] at h
  refine eq_false_of_ne_true (h i (List.mem_flatMap.mpr ⟨e, he, ?_⟩))
  cases e with
  | interface name items => cases hi; exact hm
  | _ => cases hi

end Abi

namespace Contract

open Abi

variable {c c' : Contract}

/-! ## The two searches -/

theorem method?_of_rearranged (h : Rearranged Entry.key c.abi.entries c'.abi.entries) (use : Use)
    (method : String) : c.method? use method = c'.method? use method := by
  cases use with
  | deploy =>
    have hn := named_eq_of_rearranged picks_constructor? h method
    simp only [method?, ← List.head?_filter]
    rw [constructors, constructors, hn]
  | call | invoke =>
    have hn := named_eq_of_rearranged picks_function? h method
    simp only [method?, ← List.head?_filter]
    rw [functions, functions, hn]

theorem isAvailable_of_rearranged (h : Rearranged Entry.key c.abi.entries c'.abi.entries)
    (use : Use) (method : String) : c.isAvailable use method = c'.isAvailable use method := by
  cases use with
  | deploy => rfl
  | call | invoke =>
    have hn := named_eq_of_rearranged picks_function? h method
    simp only [isAvailable, ← List.any_filter]
    rw [functions, functions, hn]

/-! ## The outcome of a call -/

/-- Contracts of one layout with rearranged entries and with declarations that are the same at every
name judge every call alike. -/
theorem check_congr (hl : c.layout = c'.layout)
    (he : Rearranged Entry.key c.abi.entries c'.abi.entries)
    (hd : ∀ n, c.decls.SameAt c'.decls n) (use : Use) (method : String) (args : List Arg) :
    c.check use method args = c'.check use method args := by
  have ha : c.decls.AgreeOn (fun _ => True) c'.decls :=
    ⟨fun _ _ _ => trivial, fun n _ _ => hd n⟩
  have hf (f : Signature) : c.checkArgs f args = c'.checkArgs f args := by
    rw [checkArgs, checkArgs, hl, Check.args_congr ha fun _ _ => trivial]
  rw [check, check, isAvailable_of_rearranged he, method?_of_rearranged he]
  simp only [hf]

/-- Two ABIs, both with interfaces or both without, whose flat forms have the same entries, those of
one kind and one name in the same order, judge every call alike: the outcome is the same, and so is
every field of a refusal. -/
theorem check_eq_of_rearranged (A B : Abi) (hi : A.hasInterface = B.hasInterface)
    (hA : A.IsShallow) (hB : B.IsShallow)
    (h : Rearranged Entry.key A.flatten.entries B.flatten.entries) (use : Use) (method : String)
    (args : List Arg) :
    (ofAbi A).check use method args = (ofAbi B).check use method args := by
  have hl : A.layout = B.layout := by
    cases hb : B.hasInterface with
    | true => rw [layout_eq_grouped_iff.mpr hb, layout_eq_grouped_iff.mpr (hi.trans hb)]
    | false => rw [layout_eq_flat_iff.mpr hb, layout_eq_flat_iff.mpr (hi.trans hb)]
  refine check_congr hl (by rwa [ofAbi_abi, ofAbi_abi]) (fun n => ?_) use method args
  rw [decls_ofAbi_of_isShallow hA, decls_ofAbi_of_isShallow hB]
  have hs : Assoc.get? A.structs n = Assoc.get? B.structs n :=
    get?_declared_of_rearranged picks_struct? h n
  have he : Assoc.get? A.enums n = Assoc.get? B.enums n :=
    get?_declared_of_rearranged picks_enum? h n
  exact ⟨hs, by rw [CairoType.isEnum, CairoType.isEnum, he]⟩

/-! ## Functions moved between interfaces -/

/-- An ABI with both functions of a name in an interface and a third function outside. -/
def priceAndStore : Abi :=
  ⟨[.interface "IPrice" [.function readPrice, .function enablePrice], .function store]⟩

/-- The third function moved into the interface and to the front, and the last one moved out. -/
def storeAndPrice : Abi :=
  ⟨[.interface "IStore" [.function store, .function readPrice], .function enablePrice]⟩

/-- Each place moves up by one, and the last one to the front. -/
def rotate : Fin 3 ≃ Fin 3 where
  toFun i := i + 1
  invFun i := i - 1
  left_inv := by decide
  right_inv := by decide

theorem rearranged_storeAndPrice :
    Rearranged Entry.key priceAndStore.flatten.entries storeAndPrice.flatten.entries := by
  refine ⟨rotate, ?_, by decide⟩
  show ∀ i : Fin 3, _
  intro i
  match i with
  | 0 | 1 | 2 => rfl

/-- The calls of a name with two functions have the same outcome for both ABIs. -/
theorem check_eq_storeAndPrice :
    Rearranged Entry.key priceAndStore.flatten.entries storeAndPrice.flatten.entries ∧
      (ofAbi priceAndStore).check .call "price" [.bool true] =
        (ofAbi storeAndPrice).check .call "price" [.bool true] :=
  ⟨rearranged_storeAndPrice,
    check_eq_of_rearranged priceAndStore storeAndPrice rfl (isShallow_of_hasInterface_flatten rfl)
      (isShallow_of_hasInterface_flatten rfl) rearranged_storeAndPrice .call "price" _⟩

end Contract

end ContractCall
