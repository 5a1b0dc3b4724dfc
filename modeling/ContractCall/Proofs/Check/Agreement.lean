import ContractCall.Proofs.Check.FirstFault

/-!
# What a check reads of the declarations

A type that `isBuiltin` recognises has its kind whatever is declared. For any other type a check
looks up the struct of that name and asks whether an enum of that name is declared (`SameAt`), and
the types of the items of an array are the only further ones it comes to.

* `AgreeOn types decls decls'`: the set of types has with each array the type of its items, and both
  declarations are the same at each of them that is not builtin.
* `value_congr`, `args_congr`: declarations that agree on the types of a check give it the same
  outcome, every field of a refusal included.
-/

namespace ContractCall

namespace CairoType

/-- The text of the type alone decides its kind. -/
def isBuiltin (type : String) : Bool :=
  isFelt type || isUint type || isLiteral type || isBool type || isArray type

end CairoType

namespace Declarations

open CairoType

/-- Both declare the same struct of this name or none, and an enum of this name or none. -/
structure SameAt (decls decls' : Declarations) (name : String) : Prop where
  struct : Assoc.get? decls.structs name = Assoc.get? decls'.structs name
  enum : isEnum name decls = isEnum name decls'

/-- The types are closed under taking items, and both declarations are the same at each of them whose
kind is not in its text. -/
structure AgreeOn (types : String → Prop) (decls decls' : Declarations) : Prop where
  element : ∀ type, types type → isArray type = true → types (elementType type)
  same : ∀ type, types type → isBuiltin type = false → SameAt decls decls' type

end Declarations

namespace CairoType

variable {decls decls' : Declarations} {type element : String}

/-- Declarations that are the same at a type give it the same kind. -/
theorem classify_congr (h : isBuiltin type = false → decls.SameAt decls' type) :
    classify decls type = classify decls' type := by
  unfold classify
  by_cases hb : isBuiltin type = true
  · -- one of the tests before those for structs and enums holds, in both chains
    simp only [isBuiltin, Bool.or_eq_true] at hb
    obtain (((hf | hu) | hl) | hb) | ha := hb
    · rw [if_pos hf, if_pos hf]
    · obtain ⟨w, hw⟩ := Option.isSome_iff_exists.mp hu
      simp only [hw]
    · obtain ⟨which, hw⟩ := Option.isSome_iff_exists.mp hl
      simp only [hw]
    · simp only [hb, if_true]
    · simp only [ha, if_true]
  · obtain ⟨hs, he⟩ := h (eq_false_of_ne_true hb)
    rw [isStruct, isStruct, hs, he]

theorem isArray_of_classify (hk : classify decls type = some (.array element)) :
    isArray type = true ∧ element = elementType type := by
  unfold classify at hk
  repeat' split at hk
  all_goals first | exact ⟨‹_›, by cases hk; rfl⟩ | cases hk

end CairoType

namespace Check

open CairoType

variable {types : String → Prop} {decls decls' : Declarations} {name type : String} {arg : Arg}

/-- A builtin type is no struct: it would be one without any declarations. -/
theorem isBuiltin_of_classify_struct (hk : classify decls type = some .struct) :
    isBuiltin type = false := by
  refine eq_false_of_ne_true fun hb => ?_
  have hc : classify decls type = classify ⟨[], []⟩ type :=
    classify_congr fun h => absurd hb (by rw [h]; exact Bool.false_ne_true)
  obtain ⟨decl, hd⟩ := exists_struct_of_classify (hc ▸ hk)
  cases hd

theorem struct_congr (h : decls.SameAt decls' type) :
    struct decls name type arg = struct decls' name type arg := by
  unfold struct
  rw [h.struct]

/-- Items with the same outcomes make lists with the same outcome. -/
theorem items_congr {k : Kind} {given : List Arg}
    (h : ∀ item ∈ given, kind decls name type k item = kind decls' name type k item) :
    items decls name type k given = items decls' name type k given := by
  induction given with
  | nil => rw [items, items]
  | cons item rest ih =>
    rw [items, items, h item List.mem_cons_self,
      ih fun other ho => h other (List.mem_cons_of_mem item ho)]

/-- One level of an array type: the kind of the items is the same, and so is the check of each. -/
theorem kind_array_congr {element : String}
    (hc : classify decls element = classify decls' element)
    (h : ∀ given k, arg = .array given → classify decls element = some k →
      ∀ item ∈ given, kind decls name element k item = kind decls' name element k item) :
    kind decls name type (.array element) arg = kind decls' name type (.array element) arg := by
  rw [kind.eq_def, kind.eq_def decls']
  dsimp only
  rw [← hc]
  cases arg with
  | array given =>
    cases hk : classify decls element with
    | none => rfl
    | some k => simp only [items_congr (h given k rfl hk)]
  | _ => rfl

/-- The check against the kind of a type. The induction is on the nesting of arrays, and the type of
the items is one of the types again. -/
theorem kind_congr (h : decls.AgreeOn types decls') {k : Kind} (ht : types type)
    (hk : classify decls type = some k) :
    kind decls name type k arg = kind decls' name type k arg := by
  induction arg using Arg.itemInduction generalizing type k with
  | step arg ih =>
    cases k with
    | array element =>
      obtain ⟨ha, rfl⟩ := isArray_of_classify hk
      have he : types (elementType type) := h.element type ht ha
      refine kind_array_congr (classify_congr (h.same _ he)) fun given k hg hk item hm => ?_
      exact ih given hg item hm he hk
    | struct =>
      rw [kind, kind]
      exact struct_congr (h.same type ht (isBuiltin_of_classify_struct hk))
    | _ => rw [kind, kind]

/-- The check of an argument against one of the types on which the declarations agree. -/
theorem value_congr (h : decls.AgreeOn types decls') (ht : types type) :
    value decls name type arg = value decls' name type arg := by
  unfold value
  rw [← classify_congr (h.same type ht)]
  cases hk : classify decls type with
  | some k => exact kind_congr h ht hk
  | none => rfl

theorem slots_congr (h : decls.AgreeOn types decls') {ps : List Abi.Param}
    (hp : ∀ p ∈ ps, types p.type) (position : Nat) (given : List Arg) :
    slots decls position ps given = slots decls' position ps given := by
  induction ps generalizing position given with
  | nil => rw [slots, slots]
  | cons p rest ih =>
    cases given with
    | nil => rw [slots, slots]
    | cons arg further =>
      rw [slots, slots, value_congr h (hp p List.mem_cons_self),
        ih fun q hq => hp q (List.mem_cons_of_mem p hq)]

/-- The check of a call reads the declarations only at the types of its slots and, through arrays,
of their items. -/
theorem args_congr (h : decls.AgreeOn types decls') {f : Abi.Signature}
    (hp : ∀ p ∈ f.slots, types p.type) (given : List Arg) :
    args decls f given = args decls' f given :=
  slots_congr h hp 0 given

end Check

end ContractCall
