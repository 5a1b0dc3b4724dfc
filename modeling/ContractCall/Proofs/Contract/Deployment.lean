import ContractCall.Proofs.Contract.Errors

/-!
# Deployments

A deployment is checked against the first constructor of the requested name. Where there is none of
the name `constructor`, a deployment without arguments passes. That is meant for a contract without
constructor, but the lookup goes by the name, and a constructor of another name is passed over.

* `Takes`: the arguments are those of a constructor.
* `Guarded`: a contract without constructor is deployed without arguments, any other one with the
  arguments of a constructor.
* `Bypassed`: the two ways around the declared constructors.
* `check_deploy_eq_ok_iff`: when a deployment is well formed.
* `guarded_iff_not_bypassed`: a well-formed deployment is guarded, except in those two ways.
-/

namespace ContractCall.Contract

open Abi

variable {abi : Abi} {method : String} {args : List Arg} {f : Signature}

/-- The flat form of the ABI has this constructor. -/
def IsConstructor (abi : Abi) (f : Signature) : Prop :=
  Entry.constructor f ∈ abi.flatten.entries

/-- There is one argument for each slot, and the arguments pass the check. -/
structure Takes (abi : Abi) (f : Signature) (args : List Arg) : Prop where
  count : args.length = f.slots.length
  fits : Check.args (ofAbi abi).decls f args = .ok ()

/-- No constructor is left out by a deployment with these arguments. -/
inductive Guarded (abi : Abi) (args : List Arg) : Prop where
  | bare (h : ∀ f, ¬ IsConstructor abi f) (ha : args = [])
  | taken {f : Signature} (hf : IsConstructor abi f) (h : Takes abi f args)

/-- Every constructor has another name than the one that is looked for and needs arguments, or the
one that is found counts its lengths as arguments and no constructor takes the arguments given. -/
inductive Bypassed (abi : Abi) : String → List Arg → Prop where
  /-- The lookup goes by the name: there are constructors, and each has another one. -/
  | renamed (hd : ∃ f, IsConstructor abi f)
    (h : ∀ f, IsConstructor abi f → f.name ≠ "constructor" ∧ f.slots ≠ []) :
    Bypassed abi "constructor" []
  /-- The condition is `hi`, `hf` and `hl`: in a grouped ABI, the constructor that is found declares
  lengths, which count as arguments. `h` only leaves out arguments that some constructor happens to
  take. -/
  | padded {method : String} {args : List Arg} {f : Signature} (hi : abi.hasInterface = true)
    (hf : (ofAbi abi).method? .deploy method = some f) (hl : f.lengths ≠ [])
    (h : ∀ g, IsConstructor abi g → ¬ Takes abi g args) : Bypassed abi method args

/-! ## Arguments of a constructor -/

theorem takes_iff_eachChecked : Takes abi f args ↔ EachChecked (ofAbi abi) f args := by
  constructor
  · intro h
    obtain ⟨-, hc⟩ := args_eq_ok_iff_eachChecked.mp h.fits
    rwa [← h.count, List.take_length] at hc
  · intro h
    have hl : args.length = f.slots.length := h.length_eq.symm
    refine ⟨hl, args_eq_ok_iff_eachChecked.mpr ⟨hl.ge, ?_⟩⟩
    rwa [← hl, List.take_length]

/-- Exactly a constructor without slots takes no arguments. -/
theorem takes_nil_iff : Takes abi f [] ↔ f.slots = [] := by
  rw [takes_iff_eachChecked, EachChecked, List.forall₂_nil_right_iff]

/-- The arguments that pass are those of the constructor, unless lengths count as arguments. -/
theorem takes_iff_of_checkArgs (h : (ofAbi abi).checkArgs f args = .ok ()) :
    Takes abi f args ↔ abi.hasInterface = false ∨ f.lengths = [] := by
  obtain ⟨-, -, he⟩ := eachChecked_of_checkArgs h
  exact takes_iff_eachChecked.trans (he.trans Layout.arity_eq_length_slots_iff)

/-! ## The lookup of a constructor -/

theorem isConstructor_of_method? (h : (ofAbi abi).method? .deploy method = some f) :
    IsConstructor abi f ∧ f.name = method := by
  have h : (ofAbi abi).constructors.find? (fun f => f.name == method) = some f := h
  have hn := List.find?_some h
  exact ⟨mem_constructors_ofAbi.mp (List.mem_of_find?_eq_some h), beq_iff_eq.mp hn⟩

/-- A deployment passes the check of the constructor of the name, or has no arguments where there is
none of the name `constructor`. -/
theorem check_deploy_eq_ok_iff : (ofAbi abi).check .deploy method args = .ok () ↔
    (∃ f, (ofAbi abi).method? .deploy method = some f ∧ (ofAbi abi).checkArgs f args = .ok ()) ∨
      (¬ Constructs abi method ∧ method = "constructor" ∧ args = []) := by
  have hav : (ofAbi abi).isAvailable .deploy method = true := rfl
  rw [check_eq_ok_iff, method?_deploy_eq_none_iff]
  simp only [hav, true_and]

/-! ## Guarded deployments -/

/-- A deployment that finds its constructor is unguarded only because of lengths. -/
theorem guarded_iff_of_method? (hm : (ofAbi abi).method? .deploy method = some f)
    (hc : (ofAbi abi).checkArgs f args = .ok ()) :
    Guarded abi args ↔ ¬ Bypassed abi method args := by
  obtain ⟨hf, hn⟩ := isConstructor_of_method? hm
  constructor
  · intro hg hb
    cases hb with
    | renamed hd h => exact (h f hf).1 hn
    | padded hi hm' hl h =>
      cases hg with
      | bare hno ha => exact hno f hf
      | taken hg ht => exact h _ hg ht
  · intro hb
    by_cases ht : ∃ g, IsConstructor abi g ∧ Takes abi g args
    · obtain ⟨g, hg, ht⟩ := ht
      exact .taken hg ht
    · have hno (g : Signature) (hg : IsConstructor abi g) : ¬ Takes abi g args :=
        fun h => ht ⟨g, hg, h⟩
      have hnot := mt (takes_iff_of_checkArgs hc).mpr (hno f hf)
      rw [not_or, Bool.not_eq_false] at hnot
      exact absurd (.padded hnot.1 hm hnot.2 hno) hb

/-- A deployment that finds no constructor is unguarded only because of other names. -/
theorem guarded_iff_of_not_constructs (hn : ¬ Constructs abi "constructor") :
    Guarded abi [] ↔ ¬ Bypassed abi "constructor" [] := by
  constructor
  · intro hg hb
    cases hb with
    | renamed hd h =>
      cases hg with
      | bare hno ha =>
        obtain ⟨f, hf⟩ := hd
        exact hno f hf
      | taken hf ht => exact (h _ hf).2 (takes_nil_iff.mp ht)
    | padded hi hm hl h =>
      rw [method?_deploy_eq_none_iff.mpr hn] at hm
      cases hm
  · intro hb
    by_cases hd : ∃ f, IsConstructor abi f
    · refine Classical.byContradiction fun hg => hb (.renamed hd fun f hf => ⟨?_, ?_⟩)
      · exact fun hname => hn ⟨f, hf, hname⟩
      · exact fun hs => hg (.taken hf (takes_nil_iff.mpr hs))
    · exact .bare (fun f hf => hd ⟨f, hf⟩) rfl

/-- A well-formed deployment of a contract without constructor has no arguments, and any other one
has arguments that a constructor takes, except where all constructors are passed over for their
names or the one that is found counts its lengths as arguments. -/
theorem guarded_iff_not_bypassed (abi : Abi) (method : String) (args : List Arg)
    (h : (ofAbi abi).check .deploy method args = .ok ()) :
    Guarded abi args ↔ ¬ Bypassed abi method args := by
  rcases check_deploy_eq_ok_iff.mp h with ⟨f, hm, hc⟩ | ⟨hn, rfl, rfl⟩
  · exact guarded_iff_of_method? hm hc
  · exact guarded_iff_of_not_constructs hn

/-! ## One constructor -/

/-- An ABI with one constructor of this name, which takes an owner. -/
def owned (name : String) : Abi :=
  ⟨[.constructor ⟨name, [⟨"owner", "core::felt252"⟩], [], none⟩]⟩

/-- The constructor is found by its name and takes the owner. -/
theorem guarded_iff_not_bypassed_owned :
    (ofAbi (owned "constructor")).check .deploy "constructor" [.number 1] = .ok () ∧
      Guarded (owned "constructor") [.number 1] := by
  have h : (ofAbi (owned "constructor")).check .deploy "constructor" [.number 1] = .ok () := by
    decide
  refine ⟨h, (guarded_iff_not_bypassed _ _ _ h).mpr fun hb => ?_⟩
  cases hb with
  | padded hi => cases hi

/-- A constructor of another name is passed over, and the contract is deployed without an owner. -/
theorem not_guarded_owned_init :
    (ofAbi (owned "init")).check .deploy "constructor" [] = .ok () ∧
      ¬ Guarded (owned "init") [] := by
  refine ⟨by decide, fun hg => ?_⟩
  cases hg with
  | bare hno => exact hno _ List.mem_cons_self
  | taken hf ht =>
    obtain rfl := Entry.constructor.inj (List.mem_singleton.mp hf)
    exact absurd ht.count (by decide)

end ContractCall.Contract
