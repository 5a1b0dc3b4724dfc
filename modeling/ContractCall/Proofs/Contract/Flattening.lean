import ContractCall.Proofs.Check.FirstFault
import ContractCall.Proofs.Contract.Arity

/-!
# Calls of a flattened ABI

An ABI whose interfaces hold no interfaces loses all of them by flattening. Its contract and that of
its flat form have the same methods and declarations (`ofAbi_flatten`) and differ in their layout
only, so they differ in how many arguments a method takes.

* `checkArgs_withLayout_eq_iff`: under two layouts the same arguments get different outcomes exactly
  if the arities differ, since a wrong number of arguments is never confused with another refusal.
* `check_ne_check_flatten_iff`: exactly the calls that select a grouped method with a length are
  judged differently.
-/

namespace ContractCall

/-- No interface has an interface among its items. -/
def Abi.IsShallow (abi : Abi) : Prop :=
  ∀ e ∈ abi.entries, ∀ items, e.items? = some items → ∀ i ∈ items, i.isInterface = false

namespace Abi

theorem hasInterface_flatten {abi : Abi} (h : abi.IsShallow) : abi.flatten.hasInterface = false := by
  rw [hasInterface, List.any_eq_false]
  intro i hi
  obtain ⟨e, he, hi⟩ := List.mem_flatMap.mp hi
  rw [Bool.not_eq_true]
  cases e with
  | interface n items => exact h _ he items rfl i hi
  | _ => obtain rfl := List.mem_singleton.mp hi; rfl

/-- Flattening a second time changes nothing. -/
theorem flatten_flatten {abi : Abi} (h : abi.IsShallow) : abi.flatten.flatten = abi.flatten :=
  flatten_of_not_hasInterface (hasInterface_flatten h)

end Abi

namespace Contract

/-- The same methods and declarations under another layout. -/
def withLayout (c : Contract) (layout : Abi.Layout) : Contract := { c with layout := layout }

variable {c : Contract} {use : Use} {method : String} {args : List Arg} {f : Abi.Signature}

theorem ofAbi_flatten {abi : Abi} (h : abi.IsShallow) :
    ofAbi abi.flatten = (ofAbi abi).withLayout .flat := by
  have ha : (ofAbi abi.flatten).abi = (ofAbi abi).abi := by
    rw [ofAbi_abi, ofAbi_abi, Abi.flatten_flatten h]
  have hd : (ofAbi abi.flatten).decls = (ofAbi abi).decls := by
    rw [ofAbi_decls, ofAbi_decls, Abi.flatten_flatten h]
  have hl : (ofAbi abi.flatten).layout = .flat :=
    Abi.layout_eq_flat_iff.mpr (Abi.hasInterface_flatten h)
  rw [withLayout, ← ha, ← hd, ← hl]

theorem checkArgs_of_length_ne (h : args.length ≠ c.layout.arity f) :
    c.checkArgs f args = .error (.refusal (.argumentCount (c.layout.arity f) args.length)) :=
  if_pos h

/-- A number of arguments other than the arity is the only reason for that refusal. -/
theorem length_ne_of_checkArgs {expected got : Nat}
    (h : c.checkArgs f args = .error (.refusal (.argumentCount expected got))) :
    expected = c.layout.arity f ∧ args.length ≠ c.layout.arity f := by
  unfold checkArgs at h
  split at h
  · rename_i hl
    cases h
    exact ⟨rfl, hl⟩
  · cases hc : Check.args c.decls f args with
    | ok u => rw [hc] at h; cases h
    | error r =>
      rw [hc] at h
      cases h
      exact absurd hc Check.args_ne_argumentCount

theorem checkArgs_withLayout_eq_iff {l l' : Abi.Layout} :
    (c.withLayout l).checkArgs f args = (c.withLayout l').checkArgs f args ↔
      l.arity f = l'.arity f := by
  constructor
  · intro h
    by_cases hl : args.length = l.arity f
    · by_cases hl' : args.length = l'.arity f
      · exact hl.symm.trans hl'
      · rw [checkArgs_of_length_ne (c := c.withLayout l') hl'] at h
        exact absurd hl (length_ne_of_checkArgs h).2
    · rw [checkArgs_of_length_ne (c := c.withLayout l) hl] at h
      exact (length_ne_of_checkArgs h.symm).1
  · intro h
    unfold checkArgs
    rw [show (c.withLayout l).layout.arity f = (c.withLayout l').layout.arity f from h]
    rfl

/-- Two layouts judge a call differently exactly if it selects a method of different arities. -/
theorem check_withLayout_ne_iff {l l' : Abi.Layout} :
    (c.withLayout l).check use method args ≠ (c.withLayout l').check use method args ↔
      c.isAvailable use method = true ∧
        ∃ f, c.method? use method = some f ∧ l.arity f ≠ l'.arity f := by
  have ha (l : Abi.Layout) : (c.withLayout l).isAvailable use method = c.isAvailable use method := by
    cases use <;> rfl
  have hm (l : Abi.Layout) : (c.withLayout l).method? use method = c.method? use method := by
    cases use <;> rfl
  unfold check
  rw [ha, ha, hm, hm]
  by_cases hav : c.isAvailable use method = true
  · rw [if_pos hav, if_pos hav]
    cases hf : c.method? use method with
    | none => simp
    | some f => simp [hav, checkArgs_withLayout_eq_iff]
  · simp [hav]

theorem isShallow_groupedStore : groupedStore.IsShallow := by
  intro e he items hi i hm
  obtain rfl := List.mem_singleton.mp he
  cases hi
  obtain rfl := List.mem_singleton.mp hm
  rfl

/-- The calls that an ABI and its flat form judge differently, in the outcome or in a field of the
refusal, are exactly those of an ABI with interfaces that select a method with a length. -/
theorem check_ne_check_flatten_iff (abi : Abi) (hs : abi.IsShallow) (use : Use) (method : String)
    (args : List Arg) :
    (ofAbi abi).check use method args ≠ (ofAbi abi.flatten).check use method args ↔
      abi.hasInterface = true ∧ (ofAbi abi).isAvailable use method = true ∧
        ∃ f, (ofAbi abi).method? use method = some f ∧
          ∃ p ∈ f.inputs, CairoType.isLength p.name = true := by
  have hne (f : Abi.Signature) : abi.layout.arity f ≠ Abi.Layout.flat.arity f ↔
      abi.hasInterface = true ∧ f.lengths ≠ [] := by
    rw [Abi.Layout.arity_flat, Ne, Abi.Layout.arity_eq_length_slots_iff]
    simp
  rw [ofAbi_flatten hs]
  refine (check_withLayout_ne_iff (c := ofAbi abi) (l := abi.layout)).trans ?_
  simp only [hne, Abi.Signature.lengths_ne_nil_iff]
  constructor
  · rintro ⟨ha, f, hm, hi, hp⟩
    exact ⟨hi, ha, f, hm, hp⟩
  · rintro ⟨hi, ha, f, hm, hp⟩
    exact ⟨ha, f, hm, hi, hp⟩

/-- Two arguments fit the function of the interface and are one too many in the flat form. -/
theorem check_ne_check_flatten_store :
    groupedStore.IsShallow ∧
      (ofAbi groupedStore).check .invoke "store" [.array [], .bool true] ≠
        (ofAbi groupedStore.flatten).check .invoke "store" [.array [], .bool true] :=
  ⟨isShallow_groupedStore,
    (check_ne_check_flatten_iff groupedStore isShallow_groupedStore .invoke "store" _).mpr
      ⟨rfl, rfl, store, method?_groupedStore, _, List.mem_cons_self, by decide⟩⟩

end Contract

end ContractCall
