import Mathlib.Data.String.Basic

/-!
# Places of characters and slices

Places in a text are counted in the bytes of UTF-8, and a slice is what stands between two of them.

* `firstPlace?`, `lastPlace?`: the place of the first and of the last occurrence of a character, the
  number of bytes in front of it (`firstPlace?_eq_some_iff`, `lastPlace?_eq_some_iff`).
* `exists_between`: of two characters at different places the later one stands behind the other.
* `isValid_of_toList_eq`: the place behind a first part of a text is a boundary of characters.
* `extract_of_toList_eq`: the slice behind such a part.
* `utf8Len_lt_of_sublist`: fewer characters are fewer bytes.
-/

namespace ContractCall.Text

open String (utf8Len)

variable {c : Char} {s t before middle after : List Char} {text : String} {place : Nat}

/-- The place of the first occurrence of a character, in bytes. -/
def firstPlace? (c : Char) : List Char → Option Nat
  | [] => none
  | d :: rest => if d = c then some 0 else (firstPlace? c rest).map (· + d.utf8Size)

/-- The place of the last occurrence of a character, in bytes. -/
def lastPlace? (c : Char) : List Char → Option Nat
  | [] => none
  | d :: rest =>
    match lastPlace? c rest with
    | some place => some (place + d.utf8Size)
    | none => if d = c then some 0 else none

/-! ## Occurrences -/

theorem firstPlace?_eq_none (h : c ∉ s) : firstPlace? c s = none := by
  induction s with
  | nil => rfl
  | cons d rest ih =>
    rw [List.mem_cons, not_or] at h
    rw [firstPlace?, if_neg (Ne.symm h.1), ih h.2]
    rfl

theorem firstPlace?_append (h : c ∉ before) :
    firstPlace? c (before ++ c :: after) = some (utf8Len before) := by
  induction before with
  | nil => exact if_pos rfl
  | cons d before ih =>
    rw [List.mem_cons, not_or] at h
    rw [List.cons_append, firstPlace?, if_neg (Ne.symm h.1), ih h.2]
    rfl

/-- The place of the first occurrence is the number of bytes in front of it. -/
theorem firstPlace?_eq_some_iff : firstPlace? c s = some place ↔
    ∃ before after, s = before ++ c :: after ∧ c ∉ before ∧ utf8Len before = place := by
  constructor
  · intro h
    by_cases hc : c ∈ s
    · obtain ⟨before, after, rfl, hb⟩ := List.eq_append_cons_of_mem hc
      rw [firstPlace?_append hb] at h
      exact ⟨before, after, rfl, hb, Option.some.inj h⟩
    · rw [firstPlace?_eq_none hc] at h
      cases h
  · rintro ⟨before, after, rfl, hb, rfl⟩
    exact firstPlace?_append hb

theorem lastPlace?_eq_none (h : c ∉ s) : lastPlace? c s = none := by
  induction s with
  | nil => rfl
  | cons d rest ih =>
    rw [List.mem_cons, not_or] at h
    rw [lastPlace?, ih h.2]
    exact if_neg (Ne.symm h.1)

theorem lastPlace?_append (h : c ∉ after) :
    lastPlace? c (before ++ c :: after) = some (utf8Len before) := by
  induction before with
  | nil =>
    rw [List.nil_append, lastPlace?, lastPlace?_eq_none h]
    exact if_pos rfl
  | cons d before ih =>
    rw [List.cons_append, lastPlace?, ih]
    rfl

theorem exists_last_of_mem (h : c ∈ s) : ∃ before after, s = before ++ c :: after ∧ c ∉ after := by
  obtain ⟨after, before, hs, hc⟩ := List.eq_append_cons_of_mem (List.mem_reverse.mpr h)
  refine ⟨before.reverse, after.reverse, ?_, List.mem_reverse.not.mpr hc⟩
  rw [← List.reverse_reverse s, hs]
  simp

/-- The place of the last occurrence is the number of bytes in front of it. -/
theorem lastPlace?_eq_some_iff : lastPlace? c s = some place ↔
    ∃ before after, s = before ++ c :: after ∧ c ∉ after ∧ utf8Len before = place := by
  constructor
  · intro h
    by_cases hc : c ∈ s
    · obtain ⟨before, after, rfl, ha⟩ := exists_last_of_mem hc
      rw [lastPlace?_append ha] at h
      exact ⟨before, after, rfl, ha, Option.some.inj h⟩
    · rw [lastPlace?_eq_none hc] at h
      cases h
  · rintro ⟨before, after, rfl, ha, rfl⟩
    exact lastPlace?_append ha

/-- What stands between two characters, the second of them at a later place. -/
theorem exists_between {d : Char} {front rest : List Char}
    (h : before ++ c :: after = front ++ d :: rest) (hlt : utf8Len before < utf8Len front) :
    ∃ middle, front = before ++ c :: middle ∧ after = middle ++ d :: rest := by
  obtain ⟨behind, rfl, hr⟩ | ⟨behind, rfl, -⟩ := List.append_eq_append_iff.mp h
  · cases behind with
    | nil =>
      rw [List.append_nil] at hlt
      exact absurd hlt (Nat.lt_irrefl _)
    | cons e middle =>
      cases hr
      exact ⟨middle, rfl, rfl⟩
  · rw [String.utf8Len_append] at hlt
    omega

/-! ## Slices -/

/-- The end of a first part of a text is a boundary of characters. -/
theorem isValid_of_toList_eq (h : text.toList = before ++ after) :
    String.Pos.Raw.IsValid text ⟨utf8Len before⟩ := by
  refine String.Pos.Raw.isValid_iff_exists_append.mpr
    ⟨String.ofList before, String.ofList after, ?_, ?_⟩
  · rw [← String.ofList_append, ← h, String.ofList_toList]
  · rw [String.Pos.Raw.ext_iff, String.byteIdx_rawEndPos, String.utf8ByteSize_ofList]

theorem extract_middle (b m a : ByteArray) :
    (b ++ (m ++ a)).extract b.size (b.size + m.size) = m :=
  calc (b ++ (m ++ a)).extract (b.size + 0) (b.size + m.size)
      = (m ++ a).extract 0 m.size := ByteArray.extract_append_size_add
    _ = m := ByteArray.extract_append_eq_left rfl

/-- The bytes between the ends of a first part and of the part behind it are those of the latter. -/
theorem extract_of_toList_eq (h : text.toList = before ++ (middle ++ after)) :
    text.toByteArray.extract (utf8Len before) (utf8Len before + utf8Len middle) =
      (String.ofList middle).toByteArray := by
  have hsize (l : List Char) : utf8Len l = (String.ofList l).toByteArray.size := by
    rw [String.size_toByteArray, String.utf8ByteSize_ofList]
  have hbytes : text.toByteArray = (String.ofList before).toByteArray ++
      ((String.ofList middle).toByteArray ++ (String.ofList after).toByteArray) := by
    rw [← String.toByteArray_append, ← String.toByteArray_append, ← String.ofList_append,
      ← String.ofList_append, ← h, String.ofList_toList]
  rw [hsize, hsize, hbytes]
  exact extract_middle _ _ _

/-- A part with fewer characters has fewer bytes. -/
theorem utf8Len_lt_of_sublist (h : s.Sublist t) (hl : s.length < t.length) :
    utf8Len s < utf8Len t := by
  induction h with
  | slnil => exact absurd hl (Nat.lt_irrefl 0)
  | cons d h ih =>
    have hle := String.utf8Len_le_of_sublist h
    have hpos := d.utf8Size_pos
    rw [String.utf8Len_cons]
    omega
  | cons_cons d h ih =>
    have hlt := ih (Nat.lt_of_succ_lt_succ hl)
    rw [String.utf8Len_cons, String.utf8Len_cons]
    omega

end ContractCall.Text
