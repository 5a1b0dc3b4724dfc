import ContractCall.Text.Ranges

/-!
# White space

`isBlank` is the property `White_Space` of Unicode, `trim` drops such characters at both ends of a
text and nowhere else.
-/

namespace ContractCall.Text

/-- The code points at which white space begins or ends. -/
def blankBounds : List Nat :=
  [0x9, 0xe, 0x20, 0x21, 0x85, 0x86, 0xa0, 0xa1, 0x1680, 0x1681, 0x2000, 0x200b, 0x2028, 0x202a,
    0x202f, 0x2030, 0x205f, 0x2060, 0x3000, 0x3001]

/-- The character is white space. -/
def isBlank (c : Char) : Bool :=
  within blankBounds c.toNat

/-- The text without the white space at its start. -/
def trimLeft (s : List Char) : List Char :=
  s.dropWhile isBlank

/-- The text without the white space at its ends. -/
def trim (s : List Char) : List Char :=
  (trimLeft (trimLeft s).reverse).reverse

/-- What starts with no blank is left as it is by `trimLeft`. -/
theorem trimLeft_cons_of_not {c : Char} {s : List Char} (h : isBlank c = false) :
    trimLeft (c :: s) = c :: s := by
  simp [trimLeft, h]

theorem trimLeft_of_forall_not {s : List Char} (h : ∀ c ∈ s, isBlank c = false) :
    trimLeft s = s := by
  cases s with
  | nil => rfl
  | cons c rest => exact trimLeft_cons_of_not (h c List.mem_cons_self)

/-- The visible characters of ASCII are not white space. -/
theorem isBlank_eq_false_of_visible {c : Char} (h : 0x21 ≤ c.toNat) (h' : c.toNat < 0x7f) :
    isBlank c = false := by
  rw [isBlank, within, blankBounds]
  simp only [withinFrom]
  rw [if_neg (by omega), if_neg (by omega), if_neg (by omega), if_neg (by omega),
    if_pos (by omega)]
  rfl

/-- White space around a text without any is dropped. -/
theorem trim_append {before body after : List Char} (hb : ∀ c ∈ before, isBlank c = true)
    (ha : ∀ c ∈ after, isBlank c = true) (h : ∀ c ∈ body, isBlank c = false) :
    trim (before ++ body ++ after) = body := by
  have hl : trimLeft (before ++ body ++ after) = trimLeft (body ++ after) := by
    rw [trimLeft, List.append_assoc, List.dropWhile_append_of_pos hb]
    rfl
  cases body with
  | nil =>
    have hn : trimLeft after = [] := by
      simpa [trimLeft] using @List.dropWhile_append_of_pos _ isBlank after [] ha
    rw [trim, hl, List.nil_append, hn]
    rfl
  | cons c rest =>
    have hr : trimLeft (after.reverse ++ (c :: rest).reverse) = (c :: rest).reverse := by
      rw [trimLeft, List.dropWhile_append_of_pos (by simpa using ha)]
      exact trimLeft_of_forall_not fun d hd => h d (List.mem_reverse.mp hd)
    rw [trim, hl, List.cons_append, trimLeft_cons_of_not (h c List.mem_cons_self),
      ← List.cons_append, List.reverse_append, hr, List.reverse_reverse]

/-- What `trim` drops is white space before and after what it leaves. -/
theorem exists_eq_append_trim (s : List Char) : ∃ before after, s = before ++ trim s ++ after ∧
    (∀ c ∈ before, isBlank c = true) ∧ (∀ c ∈ after, isBlank c = true) := by
  have hl : s.takeWhile isBlank ++ trimLeft s = s := List.takeWhile_append_dropWhile
  have hr : (trimLeft s).reverse.takeWhile isBlank ++ trimLeft (trimLeft s).reverse =
      (trimLeft s).reverse := List.takeWhile_append_dropWhile
  have ht : trim s ++ ((trimLeft s).reverse.takeWhile isBlank).reverse = trimLeft s := by
    rw [trim, ← List.reverse_append, hr, List.reverse_reverse]
  refine ⟨s.takeWhile isBlank, ((trimLeft s).reverse.takeWhile isBlank).reverse, ?_, ?_, ?_⟩
  · rw [List.append_assoc, ht, hl]
  · exact List.all_eq_true.mp List.all_takeWhile
  · exact fun c hc => List.all_eq_true.mp List.all_takeWhile c (List.mem_reverse.mp hc)

end ContractCall.Text
