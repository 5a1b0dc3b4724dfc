import ContractCall.Proofs.Contract.Lookup

/-!
# Mutability of the called function

A call wants a function that only reads, an invocation one that does not. Availability is decided
over all functions of the name, but the arguments are checked against the first of them, whatever
its mutability. Names may repeat, also across the interfaces of an ABI.

* `serves_of_check`: a well-formed call whose first function of the name has the wanted mutability
  is one that this function serves.
* `check_ofView_serves_iff`: exactly when a call is well formed, and that a function of the wanted
  mutability serves it where the first function of the name has that mutability.
-/

namespace ContractCall.Contract

/-- Some function of this name and mutability is in the flat form of the ABI. -/
def Offers (abi : Abi) (view : Bool) (method : String) : Prop :=
  ∃ f, Abi.Entry.function f ∈ abi.flatten.entries ∧ f.name = method ∧ f.isView = view

/-- Some function of this name and mutability in the flat form of the ABI takes these arguments:
their number is its arity, and each passes the check for its slot. -/
def Serves (abi : Abi) (view : Bool) (method : String) (args : List Arg) : Prop :=
  ∃ f, Abi.Entry.function f ∈ abi.flatten.entries ∧ f.name = method ∧ f.isView = view ∧
    args.length = abi.layout.arity f ∧ Check.args (ofAbi abi).decls f args = .ok ()

variable {abi : Abi} {view : Bool} {method : String} {args : List Arg} {f : Abi.Signature}

theorem isAvailable_ofAbi_ofView :
    (ofAbi abi).isAvailable (.ofView view) method = true ↔ Offers abi view method := by
  simp only [isAvailable_ofView, mem_functions_ofAbi, Offers]

/-- The selected function is one of the flat form and has the name. -/
theorem mem_entries_of_method? (h : (ofAbi abi).method? (.ofView view) method = some f) :
    Abi.Entry.function f ∈ abi.flatten.entries ∧ f.name = method := by
  rw [method?_ofView] at h
  have hn := List.find?_some h
  exact ⟨mem_functions_ofAbi.mp (List.mem_of_find?_eq_some h), beq_iff_eq.mp hn⟩

/-- A call is well formed if a function of the wanted mutability is there and the first function of
the name takes the arguments. -/
theorem check_ofView_eq_ok_iff : (ofAbi abi).check (.ofView view) method args = .ok () ↔
    Offers abi view method ∧ ∃ f, (ofAbi abi).method? (.ofView view) method = some f ∧
      args.length = abi.layout.arity f ∧ Check.args (ofAbi abi).decls f args = .ok () := by
  have hu : Use.ofView view ≠ .deploy := by cases view <;> nofun
  rw [check_eq_ok_iff, isAvailable_ofAbi_ofView]
  simp only [checkArgs_eq_ok_iff, hu, false_and, and_false, or_false]
  rfl

/-- The first function of the name serves a well-formed call that wants its mutability. -/
theorem serves_of_check (hm : (ofAbi abi).method? (.ofView view) method = some f)
    (hv : f.isView = view) (h : (ofAbi abi).check (.ofView view) method args = .ok ()) :
    Serves abi view method args := by
  obtain ⟨-, g, hg, hl, hc⟩ := check_ofView_eq_ok_iff.mp h
  rw [hm] at hg
  cases hg
  obtain ⟨hf, hn⟩ := mem_entries_of_method? hm
  exact ⟨f, hf, hn, hv, hl, hc⟩

/-- A well-formed call is one for which a function of the wanted mutability is there and the first
function of the name takes the arguments. Where that first function has the wanted mutability, it
serves the call. -/
theorem check_ofView_serves_iff (abi : Abi) (view : Bool) (method : String) (args : List Arg) :
    ((ofAbi abi).check (.ofView view) method args = .ok () ↔
      Offers abi view method ∧ ∃ f, (ofAbi abi).method? (.ofView view) method = some f ∧
        args.length = abi.layout.arity f ∧ Check.args (ofAbi abi).decls f args = .ok ()) ∧
    ∀ f, (ofAbi abi).method? (.ofView view) method = some f → f.isView = view →
      (ofAbi abi).check (.ofView view) method args = .ok () → Serves abi view method args :=
  ⟨check_ofView_eq_ok_iff, fun _ hm hv h => serves_of_check hm hv h⟩

/-! ## A name with both mutabilities -/

/-- A function that only reads. -/
def readPrice : Abi.Signature where
  name := "price"
  inputs := [⟨"token", "core::felt252"⟩]
  outputs := [⟨none, "core::integer::u256"⟩]
  stateMutability := some "view"

/-- A function of the same name that changes the state. -/
def enablePrice : Abi.Signature where
  name := "price"
  inputs := [⟨"enabled", "core::bool"⟩]
  outputs := []
  stateMutability := some "external"

/-- An ABI with both, the reading one first. -/
def twoPrices : Abi := ⟨[.function readPrice, .function enablePrice]⟩

/-- A call is served by the reading function, which is the first of the name. -/
theorem serves_twoPrices :
    (ofAbi twoPrices).check .call "price" [.text "0x1"] = .ok () ∧
      Serves twoPrices true "price" [.text "0x1"] := by
  have h : (ofAbi twoPrices).check .call "price" [.text "0x1"] = .ok () := rfl
  exact ⟨h, (check_ofView_serves_iff twoPrices true "price" _).2 readPrice rfl rfl h⟩

/-- An invocation with the arguments of the reading function passes. -/
theorem not_serves_twoPrices :
    (ofAbi twoPrices).check .invoke "price" [.text "0x1"] = .ok () ∧
      ¬ Serves twoPrices false "price" [.text "0x1"] := by
  refine ⟨rfl, ?_⟩
  rintro ⟨f, hf, -, hv, -, hc⟩
  have hf : f = readPrice ∨ f = enablePrice := by
    simpa [twoPrices, Abi.flatten, Abi.Entry.unfolded] using hf
  obtain rfl | rfl := hf
  · have hr : readPrice.isView = true := rfl
    rw [hr] at hv
    cases hv
  · have he : Check.args (ofAbi twoPrices).decls enablePrice [.text "0x1"] =
        .error (.typeMismatch "enabled" "core::bool" "Boolean" "string") := rfl
    rw [he] at hc
    cases hc

end ContractCall.Contract
