import ContractCall.Proofs.CairoType

/-!
# The leaf of an array type

Taking the type of the items again and again ends, since each step shortens the text of the type.

* `length_elementType_lt`: the items of an array have a shorter type, whatever the text.
* `leaf`: the first type on this way that is no array. It is the type itself where that is none.
* `leaf_nest`: wrappers around a type keep its leaf.
-/

namespace ContractCall.CairoType

variable {type item : String} {s : List Char}

/-! ## Shorter types -/

theorem length_betweenBrackets_lt (hs : s ≠ []) : (betweenBrackets s).length < s.length := by
  have hpos : 0 < s.length := List.length_pos_iff.mpr hs
  have hopen := (List.dropWhile_sublist (· != '<') (l := s)).length_le
  have hclose := (List.dropWhile_sublist (· != '>')
    (l := ((s.dropWhile (· != '<')).drop 1).reverse)).length_le
  simp only [betweenBrackets, List.length_reverse, List.length_drop] at hclose ⊢
  omega

/-- A type that starts as a generic array does is qualified. -/
theorem isQualified_of_startsWith (h : startsWith type "core::array::Array::" = true ∨
    startsWith type "core::array::Span::" = true) : isQualified type = true := by
  rcases h with h | h
  all_goals
    obtain ⟨rest, hr⟩ := List.isPrefixOf_iff_prefix.mp h
    rw [isQualified, ← hr]
    rfl

/-- The type of the items is shorter. Either what encloses it is left out or a star is: an array
type without a path is a pointer. -/
theorem length_elementType_lt (h : isArray type = true) :
    (elementType type).length < type.length := by
  rw [elementType, String.length_ofList, ← String.length_toList]
  simp only [isArray, Bool.or_eq_true, or_assoc, List.contains_iff_mem] at h
  split
  · rename_i hq
    refine length_betweenBrackets_lt fun hnil => ?_
    rw [isQualified, hnil] at hq
    cases hq
  · rename_i hq
    have hstar : '*' ∈ type.toList := h.resolve_right fun hp => hq (isQualified_of_startsWith hp)
    have hpos : 0 < type.toList.length := List.length_pos_of_mem hstar
    rw [List.length_erase_of_mem hstar]
    omega

/-! ## The leaf -/

/-- The type of the innermost items: of the items' items and so on while these are arrays. -/
def leaf (type : String) : String :=
  if isArray type then leaf (elementType type) else type
termination_by type.length
decreasing_by exact length_elementType_lt ‹isArray type = true›

theorem leaf_of_isArray (h : isArray type = true) : leaf type = leaf (elementType type) := by
  rw [leaf, if_pos h]

theorem leaf_of_not_isArray (h : isArray type = false) : leaf type = type := by
  rw [leaf, if_neg (ne_true_of_eq_false h)]

theorem leaf_of (w : Wrapper) (item : String) : leaf (w.of item) = leaf item := by
  rw [leaf_of_isArray (isArray_of w item), elementType_of]

theorem leaf_nest (ws : List Wrapper) (item : String) : leaf (nest ws item) = leaf item := by
  induction ws with
  | nil => rfl
  | cons w ws ih => rw [nest_cons, leaf_of, ih]

end ContractCall.CairoType
