import ContractCall.Proofs.Contract.Flattening
import ContractCall.Proofs.Contract.Mutability

/-!
# The errors of a call

A call that is not well formed fails at one of three places: the lookup of the method, the count of
the arguments, or the check of the arguments against the slots.

* `Lacks abi method args use sort`: the lookup fails, and messages call what is missing `sort`.
* `Selects c use method f`: the lookup succeeds with the method `f`.
* `checkArgs_eq_error_iff`, `check_eq_error_iff`: the errors of the last two places, and those of a
  whole call.
* `checkArgs_ne_missingArgument`: a call with as many arguments as its method takes has one for each
  slot, since the arity is never below the number of slots.
* `check_errors`: the errors of a contract made from an ABI. None says that an argument or an
  interface is missing or that the ABI is malformed.
-/

namespace ContractCall

/-- A refusal of a value in an argument does not say that the argument is missing. -/
theorem Typing.FirstFault.ne_missingArgument {decls : Declarations} {name type arg : String}
    {a : Arg} {i : Nat} : ¬ FirstFault decls name type a (.missingArgument arg i) := by
  intro h
  generalize hr : Refusal.missingArgument arg i = r at h
  induction h with
  | here _ _ h => cases h <;> cases hr
  | item _ _ _ ih => exact ih hr

/-- Every slot counts as an argument. -/
theorem Abi.Layout.length_slots_le_arity (layout : Abi.Layout) (f : Abi.Signature) :
    f.slots.length ≤ layout.arity f := by
  cases layout with
  | flat => exact Nat.le_refl _
  | grouped =>
    rw [arity_grouped]
    omega

namespace Contract

/-- Some constructor of this name is in the flat form of the ABI. -/
def Constructs (abi : Abi) (method : String) : Prop :=
  ∃ f, Abi.Entry.constructor f ∈ abi.flatten.entries ∧ f.name = method

/-- No method of the name serves the use. The last index is the word for what is missing. A contract
without constructor may be deployed without arguments. -/
inductive Lacks (abi : Abi) (method : String) (args : List Arg) : Use → String → Prop where
  | call (h : ¬ Offers abi true method) : Lacks abi method args .call "viewable"
  | invoke (h : ¬ Offers abi false method) : Lacks abi method args .invoke "invocable"
  | deploy (h : ¬ Constructs abi method) (ha : ¬ (method = "constructor" ∧ args = [])) :
    Lacks abi method args .deploy "deploy"

/-- The lookup of a method for a use succeeds. -/
def Selects (c : Contract) (use : Use) (method : String) (f : Abi.Signature) : Prop :=
  c.isAvailable use method = true ∧ c.method? use method = some f

variable {c : Contract} {use : Use} {method : String} {args : List Arg} {f : Abi.Signature}
  {abi : Abi} {e : Error}

/-! ## The arguments -/

theorem checkArgs_eq_error_iff : c.checkArgs f args = .error e ↔
    (args.length ≠ c.layout.arity f ∧
      e = .refusal (.argumentCount (c.layout.arity f) args.length)) ∨
    (args.length = c.layout.arity f ∧
      ∃ r, Check.args c.decls f args = .error r ∧ e = .refusal r) := by
  unfold checkArgs
  by_cases hl : args.length = c.layout.arity f
  · rw [if_neg (not_not.mpr hl)]
    cases Check.args c.decls f args with
    | ok u => simp [hl, Except.mapError]
    | error r => simp [hl, Except.mapError, eq_comm]
  · rw [if_pos hl]
    simp [hl, eq_comm]

/-- An argument is missing only where there are fewer arguments than slots. -/
theorem length_lt_of_args_eq_missingArgument {decls : Declarations} {arg : String} {i : Nat}
    (h : Check.args decls f args = .error (.missingArgument arg i)) :
    args.length < f.slots.length := by
  obtain ⟨j, p, hp, -, ⟨hj, -⟩ | ⟨a, -, hv⟩⟩ := Check.slots_eq_error h
  · rw [← hj]
    exact (List.getElem?_eq_some_iff.mp hp).1
  · exact absurd (Check.firstFault_of_value hv) Typing.FirstFault.ne_missingArgument

theorem checkArgs_ne_missingArgument {arg : String} {i : Nat} :
    c.checkArgs f args ≠ .error (.refusal (.missingArgument arg i)) := by
  intro h
  rcases checkArgs_eq_error_iff.mp h with ⟨-, he⟩ | ⟨hl, r, hr, he⟩
  · cases he
  · cases he
    have hlt := length_lt_of_args_eq_missingArgument hr
    have hle := c.layout.length_slots_le_arity f
    omega

/-! ## The lookup -/

theorem method?_deploy_eq_none_iff :
    (ofAbi abi).method? .deploy method = none ↔ ¬ Constructs abi method := by
  have hd : (ofAbi abi).method? .deploy method =
      (ofAbi abi).constructors.find? fun f => f.name == method := rfl
  rw [hd, List.find?_eq_none]
  simp only [mem_constructors_ofAbi, Constructs, beq_iff_eq, not_exists, not_and]

/-- The lookup succeeds, or fails as `Lacks` says, except for a deployment without arguments of a
contract without constructor. -/
theorem selects_or_lacks (abi : Abi) (use : Use) (method : String) (args : List Arg) :
    (∃ f, Selects (ofAbi abi) use method f) ∨ (∃ sort, Lacks abi method args use sort) ∨
      (use = .deploy ∧ ¬ Constructs abi method ∧ method = "constructor" ∧ args = []) := by
  have hview (view : Bool) (ho : Offers abi view method) :
      ∃ f, Selects (ofAbi abi) (.ofView view) method f := by
    have ha := isAvailable_ofAbi_ofView.mpr ho
    obtain ⟨f, hf⟩ := exists_method?_of_isAvailable ha
    exact ⟨f, ha, hf⟩
  cases use with
  | call =>
    by_cases ho : Offers abi true method
    · exact .inl (hview true ho)
    · exact .inr (.inl ⟨_, .call ho⟩)
  | invoke =>
    by_cases ho : Offers abi false method
    · exact .inl (hview false ho)
    · exact .inr (.inl ⟨_, .invoke ho⟩)
  | deploy =>
    by_cases hc : Constructs abi method
    · have hm := mt method?_deploy_eq_none_iff.mp (not_not.mpr hc)
      obtain ⟨f, hf⟩ := Option.ne_none_iff_exists'.mp hm
      exact .inl ⟨f, rfl, hf⟩
    · by_cases hb : method = "constructor" ∧ args = []
      · exact .inr (.inr ⟨rfl, hc, hb⟩)
      · exact .inr (.inl ⟨_, .deploy hc hb⟩)

theorem check_of_selects (h : Selects c use method f) :
    c.check use method args = c.checkArgs f args := by
  rw [check, if_pos h.1, h.2]

theorem check_of_not_offers {view : Bool} (h : ¬ Offers abi view method) :
    (ofAbi abi).check (.ofView view) method args = notFound (wanted (.ofView view)) method := by
  rw [check, if_neg (mt isAvailable_ofAbi_ofView.mp h)]

theorem check_of_lacks {sort : String} (h : Lacks abi method args use sort) :
    (ofAbi abi).check use method args = notFound sort method := by
  cases h with
  | call h =>
    show (ofAbi abi).check (.ofView true) method args = notFound (wanted (.ofView true)) method
    exact check_of_not_offers h
  | invoke h =>
    show (ofAbi abi).check (.ofView false) method args = notFound (wanted (.ofView false)) method
    exact check_of_not_offers h
  | deploy h ha =>
    have hav : (ofAbi abi).isAvailable .deploy method = true := rfl
    rw [check, if_pos hav, method?_deploy_eq_none_iff.mpr h]
    simp only [true_and, List.isEmpty_iff, if_neg ha]
    rfl

theorem check_of_bare (h : ¬ Constructs abi "constructor") :
    (ofAbi abi).check .deploy "constructor" [] = .ok () := by
  have hav : (ofAbi abi).isAvailable .deploy "constructor" = true := rfl
  rw [check, if_pos hav, method?_deploy_eq_none_iff.mpr h]
  rfl

theorem Lacks.sort_eq {sort : String} (h : Lacks abi method args use sort) : sort = wanted use := by
  cases h <;> rfl

/-- The words for missing methods are not those of the uses that call functions. -/
theorem wanted_ne (use : Use) : wanted use ≠ "call" ∧ wanted use ≠ "invoke" := by
  cases use <;> decide

/-! ## The call -/

/-- A call fails because its lookup fails or because the selected method refuses the arguments. -/
theorem check_eq_error_iff : (ofAbi abi).check use method args = .error e ↔
    (∃ sort, Lacks abi method args use sort ∧ e = .abi (.methodNotFound sort method)) ∨
      ∃ f, Selects (ofAbi abi) use method f ∧ (ofAbi abi).checkArgs f args = .error e := by
  constructor
  · intro h
    rcases selects_or_lacks abi use method args with ⟨f, hf⟩ | ⟨sort, hs⟩ | ⟨rfl, hc, rfl, rfl⟩
    · exact .inr ⟨f, hf, by rwa [check_of_selects hf] at h⟩
    · rw [check_of_lacks hs] at h
      cases h
      exact .inl ⟨sort, hs, rfl⟩
    · rw [check_of_bare hc] at h
      cases h
  · rintro (⟨sort, hs, rfl⟩ | ⟨f, hf, h⟩)
    · exact check_of_lacks hs
    · rw [check_of_selects hf, h]

theorem checkArgs_ne_abi {error : AbiError} : c.checkArgs f args ≠ .error (.abi error) := by
  intro h
  rcases checkArgs_eq_error_iff.mp h with ⟨-, he⟩ | ⟨-, r, -, he⟩ <;> cases he

/-- Of the errors of an ABI, a call has only that of its lookup. -/
theorem check_eq_abi_iff {error : AbiError} :
    (ofAbi abi).check use method args = .error (.abi error) ↔
      ∃ sort, Lacks abi method args use sort ∧ error = .methodNotFound sort method := by
  rw [check_eq_error_iff]
  constructor
  · rintro (⟨sort, hs, he⟩ | ⟨f, -, h⟩)
    · exact ⟨sort, hs, Error.abi.inj he⟩
    · exact absurd h checkArgs_ne_abi
  · rintro ⟨sort, hs, rfl⟩
    exact .inl ⟨sort, hs, rfl⟩

theorem check_eq_methodNotFound_iff {sort name : String} :
    (ofAbi abi).check use method args = .error (.abi (.methodNotFound sort name)) ↔
      name = method ∧ Lacks abi method args use sort := by
  rw [check_eq_abi_iff]
  constructor
  · rintro ⟨sort', hs, he⟩
    cases he
    exact ⟨rfl, hs⟩
  · rintro ⟨rfl, hs⟩
    exact ⟨sort, hs, rfl⟩

/-- The numbers of a refused number of arguments are the arity and the number itself. -/
theorem checkArgs_eq_argumentCount_iff {expected got : Nat} :
    c.checkArgs f args = .error (.refusal (.argumentCount expected got)) ↔
      args.length ≠ c.layout.arity f ∧ expected = c.layout.arity f ∧ got = args.length := by
  constructor
  · intro h
    obtain ⟨-, hl⟩ := length_ne_of_checkArgs h
    rw [checkArgs_of_length_ne hl] at h
    cases h
    exact ⟨hl, rfl, rfl⟩
  · rintro ⟨hl, rfl, rfl⟩
    exact checkArgs_of_length_ne hl

/-- No call of a contract misses an argument, an interface or a readable ABI. A method is missing
exactly where the ABI has none for the use, and is called by the word of `Lacks`, which is neither
`call` nor `invoke`. Where the lookup succeeds, a number of arguments other than the arity is
refused with these two numbers, whatever the arguments are, and only then. -/
theorem check_errors (abi : Abi) (use : Use) (method : String) (args : List Arg) :
    (∀ arg index,
      (ofAbi abi).check use method args ≠ .error (.refusal (.missingArgument arg index))) ∧
    (∀ name, (ofAbi abi).check use method args ≠ .error (.abi (.missingInterface name))) ∧
    (∀ cause, (ofAbi abi).check use method args ≠ .error (.abi (.invalidJson cause))) ∧
    (∀ sort name, (ofAbi abi).check use method args = .error (.abi (.methodNotFound sort name)) ↔
      name = method ∧ Lacks abi method args use sort) ∧
    (∀ name, (ofAbi abi).check use method args ≠ notFound "call" name ∧
      (ofAbi abi).check use method args ≠ notFound "invoke" name) ∧
    ∀ expected got,
      (ofAbi abi).check use method args = .error (.refusal (.argumentCount expected got)) ↔
        ∃ f, Selects (ofAbi abi) use method f ∧ args.length ≠ abi.layout.arity f ∧
          expected = abi.layout.arity f ∧ got = args.length := by
  refine ⟨fun arg index h => ?_, fun name h => ?_, fun cause h => ?_,
    fun sort name => check_eq_methodNotFound_iff, fun name => ⟨fun h => ?_, fun h => ?_⟩,
    fun expected got => ?_⟩
  · obtain ⟨sort, -, he⟩ | ⟨f, -, h⟩ := check_eq_error_iff.mp h
    · cases he
    · exact checkArgs_ne_missingArgument h
  · obtain ⟨sort, -, he⟩ := check_eq_abi_iff.mp h
    cases he
  · obtain ⟨sort, -, he⟩ := check_eq_abi_iff.mp h
    cases he
  · obtain ⟨-, hs⟩ := check_eq_methodNotFound_iff.mp h
    exact (wanted_ne use).1 hs.sort_eq.symm
  · obtain ⟨-, hs⟩ := check_eq_methodNotFound_iff.mp h
    exact (wanted_ne use).2 hs.sort_eq.symm
  · rw [check_eq_error_iff]
    constructor
    · rintro (⟨sort, -, he⟩ | ⟨f, hf, h⟩)
      · cases he
      · exact ⟨f, hf, checkArgs_eq_argumentCount_iff.mp h⟩
    · rintro ⟨f, hf, h⟩
      exact .inr ⟨f, hf, checkArgs_eq_argumentCount_iff.mpr h⟩

end Contract

end ContractCall
