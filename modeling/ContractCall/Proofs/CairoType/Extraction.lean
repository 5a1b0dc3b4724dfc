import ContractCall.Proofs.CairoType.Leaf
import Mathlib.Data.List.Chain

/-!
# Array types taken apart

An array type is built around the type of its items, either as an `Array` or a `Span` of any text or
by one more star behind a pointer. Taking the type of the items undoes this, one level at a time.

* `pointer base stars`: a type with stars behind it. Its base has no star of its own and no path.
* `Wraps type item`: the type is one level around the type of its items.
* `itemTypes type`: the types that are come to by taking the type of the items again and again.
* `extraction_undoes_construction`: a type built level by level is taken apart into the types it was
  built from.
-/

namespace ContractCall.CairoType

variable {base type item : String} {wrapped : List String} {s : List Char} {stars : Nat}

/-! ## Pointers -/

/-- The type with this many stars behind it. -/
def pointer (base : String) (stars : Nat) : String :=
  base ++ String.ofList (List.replicate stars '*')

theorem toList_pointer (base : String) (stars : Nat) :
    (pointer base stars).toList = base.toList ++ List.replicate stars '*' := by
  simp [pointer]

theorem hasPathMark_iff : hasPathMark s = true ↔ "::".toList <:+: s := by
  fun_induction hasPathMark s with
  | case1 rest => exact iff_of_true rfl (List.prefix_append "::".toList rest).isInfix
  | case2 c rest hne ih =>
    rw [ih, List.infix_cons_iff]
    refine (or_iff_right fun hp => ?_).symm
    obtain ⟨after, ha⟩ := hp
    cases ha
    exact hne after rfl rfl
  | case3 => decide

/-- Stars behind a text without a path make none: a part of both would end in a star. -/
theorem not_path_infix_pointer (hp : ¬ "::".toList <:+: base.toList) :
    ¬ "::".toList <:+: (pointer base stars).toList := by
  have hpath : "::".toList = List.replicate 2 ':' := by decide
  have hstar {l : List Char} (hl : ':' ∈ l) : ¬ l <:+: List.replicate stars '*' := fun h =>
    absurd (List.eq_of_mem_replicate (h.subset hl)) (by decide)
  rw [toList_pointer, List.infix_append_iff]
  rintro (h | h | ⟨front, back, he, hf, hb⟩)
  · exact hp h
  · exact hstar (by decide) h
  · have hnil : back = [] := List.eq_nil_iff_forall_not_mem.mpr fun c hc => by
      have hmem : c ∈ List.replicate 2 ':' := by
        rw [← hpath, he]
        exact List.mem_append_right front hc
      exact hstar (List.eq_of_mem_replicate hmem ▸ hc) hb.isInfix
    rw [hnil, List.append_nil] at he
    exact hp (he ▸ hf.isInfix)

theorem isQualified_pointer (hp : ¬ "::".toList <:+: base.toList) :
    isQualified (pointer base stars) = false :=
  eq_false_of_ne_true fun h => not_path_infix_pointer hp (hasPathMark_iff.mp h)

theorem isArray_pointer (base : String) (stars : Nat) :
    isArray (pointer base (stars + 1)) = true := by
  rw [isArray, toList_pointer, List.replicate_succ]
  simp

/-- The items of a pointer have one star less: the first star is the first one behind the base. -/
theorem elementType_pointer (hs : '*' ∉ base.toList) (hp : ¬ "::".toList <:+: base.toList) :
    elementType (pointer base (stars + 1)) = pointer base stars := by
  rw [elementType, isQualified_pointer hp, if_neg Bool.false_ne_true, toList_pointer,
    List.erase_append_right _ hs, List.replicate_succ, List.erase_cons_head, ← toList_pointer,
    String.ofList_toList]

/-! ## Levels -/

/-- The first type is one level around the second one, the type of its items. -/
inductive Wraps : String → String → Prop where
  | generic (w : Wrapper) (item : String) : Wraps (w.of item) item
  | pointer {base : String} (hs : '*' ∉ base.toList) (hp : ¬ "::".toList <:+: base.toList)
      (stars : Nat) : Wraps (pointer base (stars + 1)) (pointer base stars)

theorem Wraps.isArray (h : Wraps type item) : isArray type = true := by
  cases h with
  | generic w => exact isArray_of w item
  | pointer => exact isArray_pointer _ _

theorem Wraps.elementType_eq (h : Wraps type item) : elementType type = item := by
  cases h with
  | generic w => exact elementType_of w item
  | pointer hs hp => exact elementType_pointer hs hp

theorem Wraps.classify_eq (decls : Declarations) (h : Wraps type item) :
    classify decls type = some (.array item) := by
  rw [classify_of_isArray decls h.isArray, h.elementType_eq]

/-! ## Taking the type of the items again and again -/

/-- The type of the items, that of the items' items and so on while these are arrays, the innermost
last. -/
def itemTypes (type : String) : List String :=
  if isArray type then elementType type :: itemTypes (elementType type) else []
termination_by type.length
decreasing_by exact length_elementType_lt ‹isArray type = true›

theorem itemTypes_of_not_isArray (h : isArray type = false) : itemTypes type = [] := by
  rw [itemTypes, if_neg (ne_true_of_eq_false h)]

theorem Wraps.itemTypes_eq (h : Wraps type item) : itemTypes type = item :: itemTypes item := by
  rw [itemTypes, if_pos h.isArray, h.elementType_eq]

/-- The levels come off in turn, and then those of the innermost type. -/
theorem itemTypes_of_isChain (h : List.IsChain Wraps (type :: wrapped)) :
    itemTypes type = wrapped ++ itemTypes (wrapped.getLastD type) := by
  induction wrapped generalizing type with
  | nil => rfl
  | cons item wrapped ih =>
    obtain ⟨hw, hrest⟩ := List.isChain_cons_cons.mp h
    rw [hw.itemTypes_eq, ih hrest, List.getLastD_cons, List.cons_append]

/-- An `Array` and a `Span` of any text are arrays of items of this type, and a text without a star
or a path and with stars behind it is an array of what has one star less, whatever is declared. So
a type that was built level by level is taken apart into the types it was built from, the innermost
last, and nothing further comes off if that is no array. -/
theorem extraction_undoes_construction :
    (∀ decls item, classify decls ("core::array::Array::<" ++ item ++ ">") = some (.array item) ∧
      classify decls ("core::array::Span::<" ++ item ++ ">") = some (.array item)) ∧
    (∀ decls base stars, '*' ∉ base.toList → ¬ "::".toList <:+: base.toList →
      classify decls (pointer base (stars + 1)) = some (.array (pointer base stars))) ∧
    ∀ type wrapped, List.IsChain Wraps (type :: wrapped) →
      itemTypes type = wrapped ++ itemTypes (wrapped.getLastD type) ∧
        (isArray (wrapped.getLastD type) = false → itemTypes type = wrapped) := by
  refine ⟨fun decls item => ⟨classify_of decls .array item, classify_of decls .span item⟩,
    fun decls base stars hs hp => (Wraps.pointer hs hp stars).classify_eq decls,
    fun type wrapped h => ⟨itemTypes_of_isChain h, fun hl => ?_⟩⟩
  rw [itemTypes_of_isChain h, itemTypes_of_not_isArray hl, List.append_nil]

/-- Spans of pointers to pointers, around a text with brackets of its own. -/
theorem extraction_undoes_construction_pointers :
    ('*' ∉ "a>b<c".toList ∧ ¬ "::".toList <:+: "a>b<c".toList ∧
      classify ⟨[], []⟩ (pointer "a>b<c" 2) = some (.array (pointer "a>b<c" 1))) ∧
    List.IsChain Wraps
      [Wrapper.span.of (pointer "a>b<c" 2), pointer "a>b<c" 2, pointer "a>b<c" 1,
        pointer "a>b<c" 0] ∧
    isArray (pointer "a>b<c" 0) = false ∧
    itemTypes (Wrapper.span.of (pointer "a>b<c" 2)) = ["a>b<c**", "a>b<c*", "a>b<c"] := by
  obtain ⟨-, hstars, hchain⟩ := extraction_undoes_construction
  have hs : '*' ∉ "a>b<c".toList := by decide
  have hp : ¬ "::".toList <:+: "a>b<c".toList := by decide
  have hc : List.IsChain Wraps
      [Wrapper.span.of (pointer "a>b<c" 2), pointer "a>b<c" 2, pointer "a>b<c" 1,
        pointer "a>b<c" 0] := by
    refine .cons_cons (.generic _ _) (.cons_cons (.pointer hs hp _) (.cons_cons (.pointer hs hp _) ?_))
    exact .singleton _
  have hl : isArray (pointer "a>b<c" 0) = false := by decide
  refine ⟨⟨hs, hp, hstars _ _ 1 hs hp⟩, hc, hl, ?_⟩
  rw [(hchain _ _ hc).2 hl]
  decide

end ContractCall.CairoType
