import ContractCall.CairoType

/-!
# Array types built and read

The type string of an array or a span of items of any type, whatever text that type is.

* `Wrapper.of`, `nest`: a type wrapped once, and by a list of wrappers from the outermost on.
* `elementType_of`: the type of the items is the text that was wrapped.
* `classify_of_isArray`: an array is taken for one, whatever is declared.
* `classify_of`: so a wrapped type is an array of what was wrapped, whatever that is.
-/

namespace ContractCall.CairoType

/-- The generic types of arrays. -/
inductive Wrapper where
  | array
  | span
deriving DecidableEq

namespace Wrapper

/-- The path of the generic type. -/
def path : Wrapper → String
  | array => "core::array::Array::"
  | span => "core::array::Span::"

/-- The type of an array, or of a span, of items of this type. -/
def of (w : Wrapper) (item : String) : String :=
  w.path ++ "<" ++ item ++ ">"

end Wrapper

/-- The type with these wrappers around it, the outermost first. -/
def nest (ws : List Wrapper) (leaf : String) : String :=
  ws.foldr Wrapper.of leaf

@[simp] theorem nest_nil (leaf : String) : nest [] leaf = leaf := rfl

@[simp] theorem nest_cons (w : Wrapper) (ws : List Wrapper) (leaf : String) :
    nest (w :: ws) leaf = w.of (nest ws leaf) := rfl

/-! ## Texts with a common start -/

theorem startsWith_append (start rest : String) : startsWith (start ++ rest) start = true := by
  rw [startsWith, String.toList_append]
  exact List.isPrefixOf_iff_prefix.mpr (List.prefix_append _ _)

/-! ## Brackets -/

theorem dropWhile_append_of_not_mem {c : Char} {before rest : List Char} (h : c ∉ before) :
    (before ++ c :: rest).dropWhile (· != c) = c :: rest := by
  have hne : ∀ d ∈ before, (d != c) = true := by
    intro d hd
    refine bne_iff_ne.mpr ?_
    rintro rfl
    exact h hd
  rw [List.dropWhile_append_of_pos hne, List.dropWhile_cons_of_neg (by simp)]

/-- The first opening and the last closing bracket enclose the text between them, whatever brackets
it has itself. -/
theorem betweenBrackets_append {before inner after : List Char} (hb : '<' ∉ before)
    (ha : '>' ∉ after) : betweenBrackets (before ++ '<' :: (inner ++ '>' :: after)) = inner := by
  have ha : '>' ∉ after.reverse := mt List.mem_reverse.mp ha
  have hr : (inner ++ '>' :: after).reverse = after.reverse ++ '>' :: inner.reverse := by simp
  rw [betweenBrackets, dropWhile_append_of_not_mem hb, List.drop_succ_cons, List.drop_zero, hr,
    dropWhile_append_of_not_mem ha, List.drop_succ_cons, List.drop_zero, List.reverse_reverse]

/-! ## One wrapper -/

theorem toList_of (w : Wrapper) (item : String) :
    (w.of item).toList = w.path.toList ++ '<' :: (item.toList ++ ['>']) := by
  simp [Wrapper.of, String.toList_append]

theorem isArray_of (w : Wrapper) (item : String) : isArray (w.of item) = true := by
  have hp : startsWith (w.of item) w.path = true := by
    rw [Wrapper.of, String.append_assoc, String.append_assoc]
    exact startsWith_append _ _
  rw [isArray]
  cases w with
  | array => rw [show startsWith _ "core::array::Array::" = true from hp, Bool.or_true, Bool.true_or]
  | span => rw [show startsWith _ "core::array::Span::" = true from hp, Bool.or_true]

theorem isQualified_of (w : Wrapper) (item : String) : isQualified (w.of item) = true := by
  rw [isQualified, toList_of]
  cases w <;> rfl

/-- The items of a wrapped type have the type that was wrapped: the path has no bracket in front of
the first one, and nothing follows the last one. -/
theorem elementType_of (w : Wrapper) (item : String) : elementType (w.of item) = item := by
  have hp : '<' ∉ w.path.toList := by
    cases w <;> decide
  rw [elementType, isQualified_of, if_pos rfl, toList_of,
    betweenBrackets_append hp List.not_mem_nil, String.ofList_toList]

/-! ## Kinds -/

/-- The types that are known by their names alone. They are tried before all others. -/
def scalarTypes : List String :=
  "felt" :: "core::felt252" :: Width.all.map Width.typeName ++
    ["core::starknet::class_hash::ClassHash",
      "core::starknet::contract_address::ContractAddress", "core::bool"]

/-- The tests for all other types, in their order. -/
theorem classify_of_not_mem_scalarTypes {type : String} (decls : Declarations)
    (h : type ∉ scalarTypes) : classify decls type =
      if isArray type then some (.array (elementType type))
      else if isStruct type decls then some .struct
      else if isEnum type decls then
        some (.enum (if isOption type then .option else if isResult type then .result else .custom))
      else if isTuple type then some .tuple
      else none := by
  have hne {t : String} (ht : t ∈ scalarTypes) : type ≠ t := by
    rintro rfl
    exact h ht
  have hf : isFelt type = false := by
    simp [isFelt, hne (t := "felt") (by decide), hne (t := "core::felt252") (by decide)]
  have hu : Width.ofType? type = none := by
    refine List.find?_eq_none.mpr fun w _ => ?_
    have hw : w.typeName ∈ scalarTypes := by
      cases w <;> decide
    simpa using (hne hw).symm
  have hl : Literal.ofType? type = none := by
    rw [Literal.ofType?, if_neg (hne (by decide)), if_neg (hne (by decide))]
  have hb : isBool type = false := by
    simpa [isBool] using hne (t := "core::bool") (by decide)
  simp [classify, hf, hu, hl, hb]

/-- An array is taken for one whatever is declared. -/
theorem classify_of_isArray {type : String} (decls : Declarations) (h : isArray type = true) :
    classify decls type = some (.array (elementType type)) := by
  have hscalar : ∀ t ∈ scalarTypes, isArray t = false := by decide
  have hmem : type ∉ scalarTypes := fun hm => by
    rw [hscalar type hm] at h
    cases h
  rw [classify_of_not_mem_scalarTypes decls hmem, if_pos h]

/-- A wrapped type is an array of what was wrapped. -/
theorem classify_of (decls : Declarations) (w : Wrapper) (item : String) :
    classify decls (w.of item) = some (.array item) := by
  rw [classify_of_isArray decls (isArray_of w item), elementType_of]

/-- Felts are tried before everything else. -/
theorem classify_of_isFelt {type : String} (decls : Declarations) (h : isFelt type = true) :
    classify decls type = some .felt := by
  rw [classify, if_pos h]

end ContractCall.CairoType
