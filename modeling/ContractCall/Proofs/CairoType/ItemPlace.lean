import ContractCall.Proofs.CairoType.Leaf
import ContractCall.Proofs.Text.Place
import Mathlib.Data.List.TakeWhile
import Mathlib.Logic.Function.Iterate

/-!
# Where the type of the items stands

In a type with a path the type of the items is the text between two places, counted in bytes: behind
the first opening angle bracket and in front of the last closing one, where these are in this order.

* `Parted s before inner after`: how these two brackets part a text.
* `itemPlace?`: their places; `itemPlace?_eq_some_iff` says how the type is parted there.
* `toByteArray_elementType`: the type of the items is the slice between them.
* `elementType_slice_and_descent`: this slice lies inside the text and cuts no character, and taking
  the type of the items ends after at most as many steps as the type has characters.
-/

namespace ContractCall.CairoType

open Text
open String (utf8Len)

variable {type : String} {s before inner after : List Char} {start stop : Nat}

/-! ## Brackets -/

/-- The first opening and the last closing bracket part the text in three. -/
structure Parted (s before inner after : List Char) : Prop where
  eq : s = before ++ '<' :: (inner ++ '>' :: after)
  before : '<' ∉ before
  after : '>' ∉ after

theorem Parted.betweenBrackets_eq (h : Parted s before inner after) : betweenBrackets s = inner := by
  rw [h.eq, betweenBrackets_append h.before h.after]

theorem Parted.eq_append (h : Parted s before inner after) :
    s = before ++ ['<'] ++ (inner ++ '>' :: after) := by
  rw [h.eq, List.append_assoc, List.singleton_append]

/-- The brackets enclose nothing unless one opens in front of one that closes. -/
theorem betweenBrackets_eq_nil_or_parted (s : List Char) :
    betweenBrackets s = [] ∨ ∃ before inner after, Parted s before inner after := by
  have hnone {c : Char} {l : List Char} (h : c ∉ l) : l.dropWhile (· != c) = [] :=
    List.dropWhile_eq_nil_iff.mpr fun d hd => bne_iff_ne.mpr fun he => h (he ▸ hd)
  by_cases ho : '<' ∈ s
  · obtain ⟨before, rest, rfl, hb⟩ := List.eq_append_cons_of_mem ho
    by_cases hc : '>' ∈ rest
    · obtain ⟨inner, after, rfl, ha⟩ := exists_last_of_mem hc
      exact .inr ⟨before, inner, after, rfl, hb, ha⟩
    · refine .inl ?_
      rw [betweenBrackets, dropWhile_append_of_not_mem hb, List.drop_succ_cons, List.drop_zero,
        hnone (List.mem_reverse.not.mpr hc)]
      rfl
  · refine .inl ?_
    rw [betweenBrackets, hnone ho]
    rfl

/-! ## The slice -/

/-- The places that enclose the type of the items: behind the first opening bracket and in front of
the last closing one. -/
def itemPlace? (type : String) : Option (Nat × Nat) :=
  match firstPlace? '<' type.toList, lastPlace? '>' type.toList with
  | some opening, some closing => if opening < closing then some (opening + 1, closing) else none
  | _, _ => none

/-- The places tell how the brackets part the type. -/
theorem itemPlace?_eq_some_iff : itemPlace? type = some (start, stop) ↔
    ∃ before inner after, Parted type.toList before inner after ∧
      start = utf8Len (before ++ ['<']) ∧ stop = start + utf8Len inner := by
  have hsize (l : List Char) : utf8Len (l ++ ['<']) = utf8Len l + 1 := by
    rw [String.utf8Len_append]
    rfl
  have hsize' (l inner : List Char) :
      utf8Len (l ++ '<' :: inner) = utf8Len (l ++ ['<']) + utf8Len inner := by
    rw [← String.utf8Len_append, List.append_assoc]
    rfl
  constructor
  · intro h
    unfold itemPlace? at h
    split at h
    · rename_i opening closing ho hc
      obtain ⟨before, rest, hs, hb, rfl⟩ := firstPlace?_eq_some_iff.mp ho
      obtain ⟨front, after, hs', ha, rfl⟩ := lastPlace?_eq_some_iff.mp hc
      split at h
      · rename_i hlt
        cases h
        obtain ⟨inner, rfl, rfl⟩ := exists_between (hs.symm.trans hs') hlt
        exact ⟨before, inner, after, ⟨hs, hb, ha⟩, (hsize before).symm, by rw [hsize', hsize]⟩
      · cases h
    · cases h
  · rintro ⟨before, inner, after, ⟨hs, hb, ha⟩, rfl, rfl⟩
    have ho : firstPlace? '<' type.toList = some (utf8Len before) := by
      rw [hs, firstPlace?_append hb]
    have hc : lastPlace? '>' type.toList = some (utf8Len (before ++ ['<']) + utf8Len inner) := by
      rw [hs, ← hsize', ← List.cons_append, ← List.append_assoc, lastPlace?_append ha]
    have hlt : utf8Len before < utf8Len (before ++ ['<']) + utf8Len inner := by
      rw [hsize]
      omega
    rw [itemPlace?, ho, hc]
    dsimp only
    rw [if_pos hlt, hsize]

/-- The places are in order, and no character lies across one. -/
theorem bounds_of_itemPlace? (h : itemPlace? type = some (start, stop)) : start ≤ stop ∧
    String.Pos.Raw.IsValid type ⟨start⟩ ∧ String.Pos.Raw.IsValid type ⟨stop⟩ := by
  obtain ⟨before, inner, after, hp, rfl, rfl⟩ := itemPlace?_eq_some_iff.mp h
  have hstop : type.toList = before ++ ['<'] ++ inner ++ '>' :: after := by
    rw [hp.eq_append, List.append_assoc _ inner]
  refine ⟨Nat.le_add_right _ _, isValid_of_toList_eq hp.eq_append, ?_⟩
  rw [← String.utf8Len_append]
  exact isValid_of_toList_eq hstop

theorem toByteArray_elementType (hq : isQualified type = true)
    (h : itemPlace? type = some (start, stop)) :
    (elementType type).toByteArray = type.toByteArray.extract start stop := by
  obtain ⟨before, inner, after, hp, rfl, rfl⟩ := itemPlace?_eq_some_iff.mp h
  rw [elementType, if_pos hq, extract_of_toList_eq hp.eq_append, hp.betweenBrackets_eq]

theorem elementType_eq_empty (hq : isQualified type = true) (h : itemPlace? type = none) :
    elementType type = "" := by
  rw [elementType, if_pos hq]
  obtain hnil | ⟨before, inner, after, hp⟩ := betweenBrackets_eq_nil_or_parted type.toList
  · rw [hnil, String.ofList_nil]
  · have hsome := itemPlace?_eq_some_iff.mpr ⟨before, inner, after, hp, rfl, rfl⟩
    rw [h] at hsome
    cases hsome

/-! ## Descent -/

theorem elementType_sublist (type : String) : (elementType type).toList.Sublist type.toList := by
  rw [elementType, String.toList_ofList]
  split
  · obtain hnil | ⟨before, inner, after, hp⟩ := betweenBrackets_eq_nil_or_parted type.toList
    · rw [hnil]
      exact List.nil_sublist _
    · rw [hp.betweenBrackets_eq, hp.eq]
      exact ((List.sublist_append_left inner _).cons '<').trans (List.sublist_append_right before _)
  · exact List.erase_sublist

/-- The items of an array have a type of fewer bytes. -/
theorem utf8ByteSize_elementType_lt (h : isArray type = true) :
    (elementType type).utf8ByteSize < type.utf8ByteSize := by
  have hl := length_elementType_lt h
  rw [← String.length_toList, ← String.length_toList] at hl
  rw [← String.utf8Len_toList, ← String.utf8Len_toList]
  exact utf8Len_lt_of_sublist (elementType_sublist type) hl

/-- Each step on the way to the leaf takes at least one character off. -/
theorem exists_iterate_not_isArray (type : String) : ∃ steps ≤ type.length,
    isArray (elementType^[steps] type) = false ∧
      ∀ n < steps, isArray (elementType^[n] type) = true := by
  fun_induction leaf type with
  | case1 type h ih =>
    obtain ⟨steps, hle, hend, hmid⟩ := ih
    have hlt := length_elementType_lt h
    refine ⟨steps + 1, by omega, hend, fun n hn => ?_⟩
    cases n with
    | zero => exact h
    | succ n => exact hmid n (Nat.lt_of_succ_lt_succ hn)
  | case2 type h =>
    exact ⟨0, Nat.zero_le _, eq_false_of_ne_true h, fun n hn => absurd hn (Nat.not_lt_zero n)⟩

/-- Where the type of the items is cut out of the text of a type, both ends of the slice lie inside
the text, in order and between characters, and where it is not it is empty. The items of an array
have a shorter type, in characters as in bytes. So taking the type of the items again and again
comes to a type that is no array, after no more steps than the type has characters. -/
theorem elementType_slice_and_descent (type : String) :
    (∀ start stop, itemPlace? type = some (start, stop) →
      start ≤ stop ∧ stop ≤ type.utf8ByteSize ∧
        String.Pos.Raw.IsValid type ⟨start⟩ ∧ String.Pos.Raw.IsValid type ⟨stop⟩ ∧
        (isQualified type = true →
          (elementType type).toByteArray = type.toByteArray.extract start stop)) ∧
    (isQualified type = true → itemPlace? type = none → elementType type = "") ∧
    (isArray type = true → (elementType type).length < type.length ∧
      (elementType type).utf8ByteSize < type.utf8ByteSize) ∧
    ∃ steps ≤ type.length, isArray (elementType^[steps] type) = false ∧
      ∀ n < steps, isArray (elementType^[n] type) = true := by
  refine ⟨fun start stop h => ?_, elementType_eq_empty,
    fun h => ⟨length_elementType_lt h, utf8ByteSize_elementType_lt h⟩,
    exists_iterate_not_isArray type⟩
  obtain ⟨hle, hstart, hstop⟩ := bounds_of_itemPlace? h
  exact ⟨hle, hstop.le_utf8ByteSize, hstart, hstop, fun hq => toByteArray_elementType hq h⟩

/-- Letters of two bytes in front of the brackets and between them, and brackets in the wrong order. -/
theorem elementType_slice_and_descent_sharpS :
    (itemPlace? "größe::<ß*>" = some (10, 13) ∧
      String.Pos.Raw.IsValid "größe::<ß*>" ⟨10⟩ ∧ String.Pos.Raw.IsValid "größe::<ß*>" ⟨13⟩ ∧
      isQualified "größe::<ß*>" = true ∧ elementType "größe::<ß*>" = "ß*" ∧
      "ß*".toByteArray = "größe::<ß*>".toByteArray.extract 10 13) ∧
    (isArray "größe::<ß*>" = true ∧ "ß*".utf8ByteSize < "größe::<ß*>".utf8ByteSize) ∧
    isQualified "ß::>*<" = true ∧ itemPlace? "ß::>*<" = none ∧ elementType "ß::>*<" = "" := by
  obtain ⟨hslice, -, hshort, -⟩ := elementType_slice_and_descent "größe::<ß*>"
  obtain ⟨-, hempty, -⟩ := elementType_slice_and_descent "ß::>*<"
  have hp : itemPlace? "größe::<ß*>" = some (10, 13) := by decide
  have hq : isQualified "größe::<ß*>" = true := by decide
  have ha : isArray "größe::<ß*>" = true := by decide
  have he : elementType "größe::<ß*>" = "ß*" := by decide
  have hq' : isQualified "ß::>*<" = true := by decide
  have hp' : itemPlace? "ß::>*<" = none := by decide
  obtain ⟨-, -, hstart, hstop, hbytes⟩ := hslice 10 13 hp
  rw [he] at hbytes hshort
  exact ⟨⟨hp, hstart, hstop, hq, he, hbytes hq⟩, ⟨ha, (hshort ha).2⟩, hq', hp', hempty hq' hp'⟩

end ContractCall.CairoType
