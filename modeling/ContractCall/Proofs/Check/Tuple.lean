import ContractCall.Proofs.CairoType
import ContractCall.Proofs.Check.Acceptance

/-!
# Parenthesised types

A type in parentheses is a tuple whatever its components are, unless a star stands in it: a star
anywhere makes a type an array, and arrays are tried before tuples.

* `isArray_iff_of_head?`: a star is the only way for a type in parentheses to be an array.
* `classify_parenthesized`: the kind of a type in parentheses that is not declared.
* `parenthesized_iff_unstarred`: it is a tuple, and accepts what tuples accept, exactly if there is no
  star in it. So a pair with a pointer is none (`not_tuple_pointerPair`).
-/

namespace ContractCall

namespace CairoType

variable {decls : Declarations} {type start : String} {c : Char}

theorem head?_of_startsWith (h : startsWith type start = true) (hs : start.toList.head? = some c) :
    type.toList.head? = some c := by
  obtain ⟨rest, hr⟩ := List.isPrefixOf_iff_prefix.mp h
  rw [← hr, List.head?_append, hs]
  rfl

/-- A type in parentheses is an array only by a star, as it does not start with a path. -/
theorem isArray_iff_of_head? (h : type.toList.head? = some '(') :
    isArray type = true ↔ '*' ∈ type.toList := by
  have hpath {start : String} (hs : start.toList.head? = some 'c') :
      startsWith type start = false := by
    refine eq_false_of_ne_true fun ht => ?_
    rw [head?_of_startsWith ht hs] at h
    cases h
  rw [isArray, hpath (by decide), hpath (by decide), Bool.or_false, Bool.or_false,
    List.contains_iff_mem]

/-- No type that is known by its name starts with a parenthesis, so that only an array is tried
before a tuple where nothing of this name is declared. -/
theorem classify_parenthesized (hopen : type.toList.head? = some '(')
    (hclose : type.toList.getLast? = some ')') (hs : isStruct type decls = false)
    (he : isEnum type decls = false) : classify decls type =
      if '*' ∈ type.toList then some (.array (elementType type)) else some .tuple := by
  have hscalar : ∀ t ∈ scalarTypes, t.toList.head? ≠ some '(' := by decide
  have hmem : type ∉ scalarTypes := fun hm => hscalar type hm hopen
  have ht : isTuple type = true := by
    rw [isTuple, hopen, hclose]
    rfl
  rw [classify_of_not_mem_scalarTypes decls hmem, hs, he, ht]
  simp only [isArray_iff_of_head? hopen, Bool.false_eq_true, if_false, if_true]

end CairoType

namespace Check

open CairoType Typing

variable {decls : Declarations} {name type element : String} {a : Arg}

theorem value_eq_ok_iff_fitsTuple (hk : classify decls type = some .tuple) :
    value decls name type a = .ok () ↔ FitsTuple a := by
  rw [value_eq_ok_iff, accepts_iff_fitsKind hk, FitsKind]

/-- An array type refuses what a tuple accepts. -/
theorem value_ne_ok_of_fitsTuple (hk : classify decls type = some (.array element))
    (ha : FitsTuple a) : value decls name type a ≠ .ok () := by
  rw [Ne, value_eq_ok_iff, accepts_iff_fitsKind hk]
  rintro (⟨-, s, rfl, -⟩ | ⟨items, rfl, -⟩)
  · cases ha
  · cases ha

/-- A type that starts and ends with a parenthesis and is declared neither as a struct nor as an enum
is a tuple exactly if there is no star in it, whatever else stands between the parentheses. Exactly
then it accepts the tuples and the objects and nothing else. A star makes it an array, which accepts
none of them. -/
theorem parenthesized_iff_unstarred (decls : Declarations) (name type : String)
    (hopen : type.toList.head? = some '(') (hclose : type.toList.getLast? = some ')')
    (hs : Assoc.get? decls.structs type = none) (he : Assoc.get? decls.enums type = none) :
    (classify decls type = some .tuple ↔ '*' ∉ type.toList) ∧
    ((∀ a, value decls name type a = .ok () ↔ FitsTuple a) ↔ '*' ∉ type.toList) ∧
    ('*' ∈ type.toList → classify decls type = some (.array (elementType type)) ∧
      ∀ a, FitsTuple a → value decls name type a ≠ .ok ()) := by
  have hk : classify decls type =
      if '*' ∈ type.toList then some (.array (elementType type)) else some .tuple :=
    classify_parenthesized hopen hclose (by rw [isStruct, hs]; rfl) (by rw [isEnum, he]; rfl)
  by_cases hstar : '*' ∈ type.toList
  · rw [if_pos hstar] at hk
    have hrefused : ∀ a, FitsTuple a → value decls name type a ≠ .ok () :=
      fun a ha => value_ne_ok_of_fitsTuple hk ha
    refine ⟨iff_of_false (by rw [hk]; nofun) (not_not_intro hstar), iff_of_false (fun h => ?_)
      (not_not_intro hstar), fun _ => ⟨hk, hrefused⟩⟩
    exact hrefused (.tuple []) (.tuple []) ((h _).mpr (.tuple []))
  · rw [if_neg hstar] at hk
    exact ⟨iff_of_true hk hstar, iff_of_true (fun a => value_eq_ok_iff_fitsTuple hk) hstar,
      fun h => absurd h hstar⟩

/-- A pair of an array and a pair. -/
def nestedPair : String :=
  "(core::array::Array::<core::felt252>, (felt, core::bool))"

/-- Its components are not looked at, nor are those of the argument. -/
theorem parenthesized_iff_unstarred_nestedPair :
    nestedPair.toList.head? = some '(' ∧ nestedPair.toList.getLast? = some ')' ∧
      '*' ∉ nestedPair.toList ∧ classify ⟨[], []⟩ nestedPair = some .tuple ∧
      value ⟨[], []⟩ "pair" nestedPair (.tuple [.bool true]) = .ok () ∧
      value ⟨[], []⟩ "pair" nestedPair (.array []) ≠ .ok () := by
  have hopen : nestedPair.toList.head? = some '(' := by decide
  have hclose : nestedPair.toList.getLast? = some ')' := by decide
  have hstar : '*' ∉ nestedPair.toList := by decide
  obtain ⟨hk, hv, -⟩ := parenthesized_iff_unstarred ⟨[], []⟩ "pair" nestedPair hopen hclose rfl rfl
  have hv := hv.mpr hstar
  refine ⟨hopen, hclose, hstar, hk.mpr hstar, (hv _).mpr (.tuple _), fun hok => ?_⟩
  cases (hv _).mp hok

/-- A pair of a pointer and a felt is no tuple: it is an array of pairs of felts and refuses a
pair. -/
theorem not_tuple_pointerPair :
    ("(felt*, felt)".toList.head? = some '(' ∧ "(felt*, felt)".toList.getLast? = some ')' ∧
      isStruct "(felt*, felt)" ⟨[], []⟩ = false ∧ isEnum "(felt*, felt)" ⟨[], []⟩ = false) ∧
    classify ⟨[], []⟩ "(felt*, felt)" = some (.array "(felt, felt)") ∧
    value ⟨[], []⟩ "pair" "(felt*, felt)" (.tuple [.array [], .number 1]) =
      .error (.typeMismatch "pair" "(felt*, felt)" "Array" "tuple") :=
  ⟨⟨by decide, by decide, rfl, rfl⟩, by decide, rfl⟩

end Check

end ContractCall
