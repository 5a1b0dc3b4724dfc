import ContractCall.CairoType
import ContractCall.Error

/-!
# Generations and layouts of ABIs

The oldest ABIs list everything flat with legacy types, later ones flat with qualified types, and
the newest group functions in interfaces. `generation` tells them apart.

The `Layout` of an ABI, flat or grouped, decides how a method is looked up and how many arguments it
takes: in a flat ABI the parameters that hold the length of an array take none.
-/

namespace ContractCall.Abi

/-- The generations of ABIs. -/
inductive Generation where
  | legacy
  | qualified
  | grouped
deriving DecidableEq

/-- The number of a generation. -/
def Generation.number : Generation → Nat
  | legacy => 0
  | qualified => 1
  | grouped => 2

/-- The type of a signature's first input, or else of its first output. -/
def Signature.firstType? (f : Signature) : Option String :=
  (f.inputs.head?.map Param.type).or (f.outputs.head?.map Output.type)

/-- The generation of an ABI: grouped if it has an interface, else by the first type that a function
mentions. -/
def generation (abi : Abi) : Generation :=
  if abi.hasInterface then .grouped
  else
    match (abi.entries.filterMap Entry.function?).findSome? Signature.firstType? with
    | some type => if CairoType.isQualified type then .qualified else .legacy
    | none => .legacy

/-- How the entries of an ABI are arranged. -/
inductive Layout where
  | flat
  | grouped
deriving DecidableEq

/-- The layout of an ABI. -/
def layout (abi : Abi) : Layout :=
  match abi.generation with
  | .grouped => .grouped
  | _ => .flat

/-- The signature of a callable entry of this name. -/
def Entry.callable? (name : String) (e : Entry) : Option Signature :=
  e.signature?.filter fun f => f.name == name

namespace Layout

/-- The number of arguments that a function takes. -/
def arity : Layout → Signature → Nat
  | flat, f => (f.inputs.filter fun p => !CairoType.isLength p.name).length
  | grouped, f => f.inputs.length

/-- The first callable entry of this name. A grouped ABI is searched only in its first interface. -/
def method? (layout : Layout) (abi : Abi) (name : String) : Except AbiError (Option Signature) :=
  match layout with
  | flat => .ok (abi.entries.findSome? (Entry.callable? name))
  | grouped =>
    match abi.entries.findSome? Entry.items? with
    | some items => .ok (items.findSome? (Entry.callable? name))
    | none => .error (.missingInterface name)

/-- The ABI without its interfaces. -/
def flatten : Layout → Abi → Abi
  | flat, abi => abi
  | grouped, abi => abi.flatten

end Layout

theorem generation_eq_grouped_iff {abi : Abi} :
    abi.generation = .grouped ↔ abi.hasInterface = true := by
  unfold generation
  by_cases h : abi.hasInterface = true
  · simp [h]
  · rw [if_neg h]
    cases (abi.entries.filterMap Entry.function?).findSome? Signature.firstType? with
    | none => simp [h]
    | some type =>
      by_cases hq : CairoType.isQualified type = true <;> simp [hq, h]

/-- Exactly the ABIs with an interface are grouped. -/
theorem layout_eq_grouped_iff {abi : Abi} : abi.layout = .grouped ↔ abi.hasInterface = true := by
  rw [← generation_eq_grouped_iff]
  unfold layout
  cases abi.generation <;> simp

theorem layout_eq_flat_iff {abi : Abi} : abi.layout = .flat ↔ abi.hasInterface = false := by
  rw [← Bool.not_eq_true, ← layout_eq_grouped_iff]
  cases abi.layout <;> simp

/-- The layout of an ABI flattens it as the ABI itself does. -/
theorem layout_flatten (abi : Abi) : abi.layout.flatten abi = abi.flatten := by
  cases hl : abi.layout with
  | flat => exact (flatten_of_not_hasInterface (layout_eq_flat_iff.mp hl)).symm
  | grouped => rfl

/-- Only callable entries of the name are found. -/
theorem Entry.callable?_eq_some_iff {name : String} {e : Entry} {f : Signature} :
    e.callable? name = some f ↔ e.signature? = some f ∧ f.name = name := by
  rw [callable?, Option.filter_eq_some_iff, beq_iff_eq]

end ContractCall.Abi
