import ContractCall.Proofs.Numeral

/-!
# The numerals of an integer

An integer has many numerals: the digits of its magnitude to the base ten or, behind a mark, to the
base sixteen, in either case and with any number of zeros in front, a minus sign before them where it
is negative, and white space at both ends.

* `Written base n digits`, `Unsigned n s`, `Signed n s` and `Spells n text` name these forms, each in
  terms of the one before it. The digits are those that `Nat.toDigits` gives, so nothing here depends
  on a reader.
* `digit?_toLower`, `ofDigits_zeros_append`: neither the case of digits nor zeros in front of them
  change a value.
* `written_iff`: every run of digits is a written form of its positional value, and of no other.
* `integer?_of_spells`: every numeral of an integer is read as that integer.
-/

namespace ContractCall.Numeral

variable {base n d : Nat} {digits init s : List Char} {c : Char}

/-- The digits of a natural number in a base, in either case and behind any number of zeros. -/
def Written (base n : Nat) (digits : List Char) : Prop :=
  ∃ zeros, digits.map Char.toLower = List.replicate zeros '0' ++ Nat.toDigits base n

/-- A decimal or a marked hexadecimal numeral of a natural number. -/
inductive Unsigned (n : Nat) : List Char → Prop where
  | decimal {digits : List Char} (h : Written 10 n digits) : Unsigned n digits
  | hexadecimal {mark : Char} {digits : List Char} (hm : mark = 'x' ∨ mark = 'X')
      (h : Written 16 n digits) : Unsigned n ('0' :: mark :: digits)

/-- A numeral of a natural number, or one behind a minus sign for the negated number. -/
inductive Signed : Int → List Char → Prop where
  | natural {n : Nat} {s : List Char} (h : Unsigned n s) : Signed n s
  | negated {n : Nat} {s : List Char} (h : Unsigned n s) : Signed (-n) ('-' :: s)

/-- The text is a numeral of the integer, with or without white space at its ends. -/
def Spells (n : Int) (text : String) : Prop :=
  ∃ before numeral after, text.toList = before ++ numeral ++ after ∧
    (∀ c ∈ before, Text.isBlank c = true) ∧ (∀ c ∈ after, Text.isBlank c = true) ∧
    Signed n numeral

/-! ## Digits -/

/-- The three ranges of digits, as numbers. -/
theorem digit?_eq_ite (c : Char) : digit? c =
    if 48 ≤ c.toNat ∧ c.toNat ≤ 57 then some (c.toNat - 48)
    else if 97 ≤ c.toNat ∧ c.toNat ≤ 102 then some (c.toNat - 87)
    else if 65 ≤ c.toNat ∧ c.toNat ≤ 70 then some (c.toNat - 55)
    else none := by
  simp only [digit?, Char.le_def, UInt32.le_iff_toNat_le]
  rfl

/-- A digit lies in one of the three ranges. -/
theorem ranges_of_digit? (h : digit? c = some d) :
    (48 ≤ c.toNat ∧ c.toNat ≤ 57 ∧ d = c.toNat - 48) ∨
      (97 ≤ c.toNat ∧ c.toNat ≤ 102 ∧ d = c.toNat - 87) ∨
      (65 ≤ c.toNat ∧ c.toNat ≤ 70 ∧ d = c.toNat - 55) := by
  rw [digit?_eq_ite] at h
  grind

theorem toNat_toLower (c : Char) :
    c.toLower.toNat = if 65 ≤ c.toNat ∧ c.toNat ≤ 90 then c.toNat + 32 else c.toNat := by
  unfold Char.toLower
  split
  · rename_i h
    have hc : 65 ≤ c.toNat ∧ c.toNat ≤ 90 := by
      simpa [UInt32.le_iff_toNat_le] using h
    rw [if_pos hc]
    show (c.val + ('a'.val - 'A'.val)).toNat = c.toNat + 32
    rw [UInt32.toNat_add, Char.toNat_val]
    exact Nat.mod_eq_of_lt (show c.toNat + 32 < 2 ^ 32 by omega)
  · rename_i h
    rw [if_neg fun hc => h (by simpa [UInt32.le_iff_toNat_le] using hc)]

/-- The case of a digit does not matter. -/
theorem digit?_toLower (c : Char) : digit? c.toLower = digit? c := by
  rw [digit?_eq_ite, digit?_eq_ite, toNat_toLower]
  grind

theorem isDigitOf_toLower (base : Nat) (c : Char) :
    isDigitOf base c.toLower = isDigitOf base c := by
  unfold isDigitOf
  rw [digit?_toLower]

theorem isHexDigit_of_isDigitOf (h : isDigitOf base c = true) : isHexDigit c = true := by
  unfold isDigitOf at h
  split at h
  · rename_i d hd
    exact isHexDigit_eq_true.mpr ⟨d, hd⟩
  · cases h

theorem isDigit_of_isDigitOf_ten (h : isDigitOf 10 c = true) : c.isDigit = true := by
  unfold isDigitOf at h
  split at h
  · rename_i d hd
    have hr := ranges_of_digit? hd
    have hlt : d < 10 := of_decide_eq_true h
    refine Char.isDigit_iff_toNat.mpr ?_
    show 48 ≤ c.toNat ∧ c.toNat ≤ 57
    omega
  · cases h

theorem not_isBlank_of_isHexDigit (h : isHexDigit c = true) : Text.isBlank c = false := by
  obtain ⟨d, hd⟩ := isHexDigit_eq_true.mp h
  have hr := ranges_of_digit? hd
  exact Text.isBlank_eq_false_of_visible (by omega) (by omega)

theorem isDigitOf_eq_true : isDigitOf base c = true ↔ ∃ d, digit? c = some d ∧ d < base := by
  unfold isDigitOf
  cases digit? c <;> simp

theorem isDigitOf_sixteen (c : Char) : isDigitOf 16 c = isHexDigit c := by
  rw [Bool.eq_iff_iff, isDigitOf_eq_true, isHexDigit_eq_true]
  exact ⟨fun ⟨d, h, _⟩ => ⟨d, h⟩, fun ⟨d, h⟩ => ⟨d, h, digit?_lt h⟩⟩

theorem isDigitOf_ten (c : Char) : isDigitOf 10 c = c.isDigit := by
  rw [Bool.eq_iff_iff]
  refine ⟨isDigit_of_isDigitOf_ten, fun h => ?_⟩
  have hr : 48 ≤ c.toNat ∧ c.toNat ≤ 57 := Char.isDigit_iff_toNat.mp h
  rw [isDigitOf, digit?_eq_ite, if_pos hr]
  exact decide_eq_true (show c.toNat - 48 < 10 by omega)

/-- A digit in lowercase is the one that is written for its value. -/
theorem digitChar_eq_toLower (h : digit? c = some d) : Nat.digitChar d = c.toLower := by
  have hd : d < 16 := digit?_lt h
  have hw : ∀ d < 16, (Nat.digitChar d).toNat = if d < 10 then d + 48 else d + 87 := by decide
  have hr := ranges_of_digit? h
  refine Char.toNat_inj.mp ?_
  rw [hw d hd, toNat_toLower]
  split <;> split <;> omega

theorem isDigitOf_of_mem_toDigits (hb : 1 < base) (hb' : base ≤ 16) (h : c ∈ Nat.toDigits base n) :
    isDigitOf base c = true := by
  obtain ⟨d, hd, rfl⟩ := exists_digitChar_of_mem_toDigits hb h
  rw [isDigitOf, digit?_digitChar (by omega)]
  exact decide_eq_true hd

/-! ## Written digits -/

theorem ofDigits_map_toLower (base : Nat) (digits : List Char) :
    ofDigits base (digits.map Char.toLower) = ofDigits base digits := by
  simp only [ofDigits, List.foldl_map, digit?_toLower]

/-- Zeros in front of digits add nothing. -/
theorem ofDigits_zeros_append (base zeros : Nat) (digits : List Char) :
    ofDigits base (List.replicate zeros '0' ++ digits) = ofDigits base digits := by
  induction zeros with
  | zero => rfl
  | succ zeros ih =>
    have h0 : digit? '0' = some 0 := by decide
    rw [← ih, List.replicate_succ, List.cons_append]
    simp [ofDigits, h0]

theorem Written.ne_nil (h : Written base n digits) : digits ≠ [] := by
  rintro rfl
  obtain ⟨zeros, h⟩ := h
  have hl := congrArg List.length h
  have hp : 0 < (Nat.toDigits base n).length := Nat.length_toDigits_pos
  simp at hl
  omega

theorem Written.isDigitOf (hb : 1 < base) (hb' : base ≤ 16) (h : Written base n digits) :
    ∀ c ∈ digits, isDigitOf base c = true := by
  obtain ⟨zeros, h⟩ := h
  intro c hc
  have hl : c.toLower ∈ List.replicate zeros '0' ++ Nat.toDigits base n :=
    h ▸ List.mem_map_of_mem hc
  rw [← isDigitOf_toLower]
  rcases List.mem_append.mp hl with hl | hl
  · rw [List.eq_of_mem_replicate hl]
    exact decide_eq_true (show 0 < base by omega)
  · exact isDigitOf_of_mem_toDigits hb hb' hl

theorem Written.ofDigits_eq (hb : 1 < base) (hb' : base ≤ 16) (h : Written base n digits) :
    ofDigits base digits = n := by
  obtain ⟨zeros, h⟩ := h
  rw [← ofDigits_map_toLower, h, ofDigits_zeros_append, ofDigits_toDigits hb hb']

/-- Digits are a written form of one number only. -/
theorem Written.unique {m : Nat} (hb : 1 < base) (hb' : base ≤ 16) (hn : Written base n digits)
    (hm : Written base m digits) : n = m := by
  rw [← hn.ofDigits_eq hb hb', hm.ofDigits_eq hb hb']

/-- One more digit behind written ones. -/
theorem Written.append_digit (hb : 1 < base) (h : Written base n init) (hc : digit? c = some d)
    (hd : d < base) : Written base (n * base + d) (init ++ [c]) := by
  obtain ⟨zeros, h⟩ := h
  have hw : (init ++ [c]).map Char.toLower =
      List.replicate zeros '0' ++ (Nat.toDigits base n ++ Nat.toDigits base d) := by
    rw [List.map_append, h, Nat.toDigits_of_lt_base hd, digitChar_eq_toLower hc, List.append_assoc]
    rfl
  rcases Nat.eq_zero_or_pos n with rfl | hn
  · -- the zero that was written for `0` is now one in front
    refine ⟨zeros + 1, ?_⟩
    rw [hw, Nat.toDigits_zero, Nat.zero_mul, Nat.zero_add, List.replicate_succ', List.append_assoc]
  · refine ⟨zeros, ?_⟩
    rw [hw, Nat.toDigits_append_toDigits hb hn hd, Nat.mul_comm]

/-- More digits behind written ones, read from there on. -/
theorem Written.append (hb : 1 < base) (h : Written base n init)
    (hd : ∀ c ∈ digits, Numeral.isDigitOf base c = true) :
    Written base (digits.foldl (fun n c => n * base + (digit? c).getD 0) n) (init ++ digits) := by
  induction digits generalizing n init with
  | nil => simpa using h
  | cons c rest ih =>
    obtain ⟨hc, hr⟩ := List.forall_mem_cons.mp hd
    obtain ⟨d, hc, hlt⟩ := isDigitOf_eq_true.mp hc
    have h := ih (h.append_digit hb hc hlt) hr
    rw [List.append_assoc] at h
    rwa [List.foldl_cons, hc]

/-- Every non-empty run of digits is a written form of its positional value. -/
theorem written_iff (hb : 1 < base) (hb' : base ≤ 16) : Written base n digits ↔
    digits ≠ [] ∧ (∀ c ∈ digits, isDigitOf base c = true) ∧ ofDigits base digits = n := by
  constructor
  · exact fun h => ⟨h.ne_nil, h.isDigitOf hb hb', h.ofDigits_eq hb hb'⟩
  · rintro ⟨hne, hd, rfl⟩
    obtain ⟨c, rest, rfl⟩ := List.exists_cons_of_ne_nil hne
    obtain ⟨hc, hr⟩ := List.forall_mem_cons.mp hd
    obtain ⟨d, hc, hlt⟩ := isDigitOf_eq_true.mp hc
    have h1 : Written base d [c] :=
      ⟨0, by rw [Nat.toDigits_of_lt_base hlt, digitChar_eq_toLower hc]; rfl⟩
    have h := h1.append hb hr
    rw [ofDigits, List.foldl_cons, hc, Nat.zero_mul, Nat.zero_add]
    exact h

theorem toLower_of_mem_lowerDigits : ∀ c ∈ lowerDigits, c.toLower = c := by
  have h : lowerDigits.all (fun c => c.toLower == c) = true := by decide
  exact fun c hc => beq_iff_eq.mp (List.all_eq_true.mp h c hc)

theorem map_toLower_of_lower (h : ∀ c ∈ digits, c ∈ lowerDigits) :
    digits.map Char.toLower = digits := by
  have hl : ∀ c ∈ digits, c.toLower = id c := fun c hc => toLower_of_mem_lowerDigits c (h c hc)
  exact (List.map_congr_left hl).trans (List.map_id digits)

/-- Shortest digits are written ones. -/
theorem written_toDigits (hb : 1 < base) (hb' : base ≤ 16) (n : Nat) :
    Written base n (Nat.toDigits base n) :=
  ⟨0, map_toLower_of_lower fun _ hc => mem_lowerDigits_of_mem_toDigits hb hb' hc⟩

/-- What `toHex` writes is a numeral. -/
theorem spells_toHex (n : Nat) : Spells n (toHex n) := by
  refine ⟨[], (toHex n).toList, [], by simp, by simp, by simp, ?_⟩
  rw [toList_toHex]
  exact .natural (.hexadecimal (.inl rfl) (written_toDigits (by decide) (by decide) n))

/-! ## Reading -/

/-- A decimal numeral has no mark. -/
theorem afterMark?_of_isDigit (h : ∀ c ∈ s, c.isDigit = true) : afterMark? s = none := by
  unfold afterMark?
  split
  · exact absurd (h 'x' (by simp)) (by decide)
  · exact absurd (h 'X' (by simp)) (by decide)
  · rfl

theorem Unsigned.unsigned?_eq (h : Unsigned n s) : unsigned? s = some (n : Int) := by
  cases h with
  | decimal h =>
    have hd : ∀ c ∈ s, c.isDigit = true := fun c hc =>
      isDigit_of_isDigitOf_ten (h.isDigitOf (by decide) (by decide) c hc)
    have hw : isWholeChars s = true := by
      simpa [isWholeChars, h.ne_nil] using hd
    rw [unsigned?, afterMark?_of_isDigit hd]
    simp only [hw, if_true]
    rw [h.ofDigits_eq (by decide) (by decide)]
  | @hexadecimal mark digits hm h =>
    have ha : afterMark? ('0' :: mark :: digits) = some digits := by
      rcases hm with rfl | rfl <;> rfl
    have hd : ∀ c ∈ digits, isHexDigit c = true := fun c hc =>
      isHexDigit_of_isDigitOf (h.isDigitOf (by decide) (by decide) c hc)
    rw [unsigned?, ha]
    show hexInteger? digits = some (n : Int)
    rw [hexInteger?_of_digits h.ne_nil hd, h.ofDigits_eq (by decide) (by decide)]

/-- A numeral without a sign holds digits and marks only. -/
theorem Unsigned.mem (h : Unsigned n s) : ∀ c ∈ s, isHexDigit c = true ∨ c = 'x' ∨ c = 'X' := by
  have hw {base : Nat} {digits : List Char} (hb : 1 < base) (hb' : base ≤ 16)
      (h : Written base n digits) : ∀ c ∈ digits, isHexDigit c = true ∨ c = 'x' ∨ c = 'X' :=
    fun c hc => .inl (isHexDigit_of_isDigitOf (h.isDigitOf hb hb' c hc))
  cases h with
  | decimal h => exact hw (by decide) (by decide) h
  | hexadecimal hm h =>
    rw [List.forall_mem_cons, List.forall_mem_cons]
    exact ⟨.inl (by decide), .inr hm, hw (by decide) (by decide) h⟩

theorem Unsigned.visible (h : Unsigned n s) : ∀ c ∈ s, c ≠ '-' ∧ Text.isBlank c = false := by
  intro c hc
  rcases h.mem c hc with hd | rfl | rfl
  · exact ⟨(ne_of_isHexDigit hd).1, not_isBlank_of_isHexDigit hd⟩
  · decide
  · decide

theorem Signed.signed?_eq {n : Int} (h : Signed n s) : signed? s = some n := by
  cases h with
  | natural h =>
    unfold signed?
    split
    · exact absurd rfl (h.visible '-' (by simp)).1
    · exact h.unsigned?_eq
  | negated h =>
    rw [signed?, h.unsigned?_eq]
    rfl

theorem Signed.not_isBlank {n : Int} (h : Signed n s) : ∀ c ∈ s, Text.isBlank c = false := by
  cases h with
  | natural h => exact fun c hc => (h.visible c hc).2
  | negated h => exact List.forall_mem_cons.mpr ⟨by decide, fun c hc => (h.visible c hc).2⟩

/-- A numeral of an integer is read as that integer, whichever form it has. -/
theorem integer?_of_spells {n : Int} {text : String} (h : Spells n text) :
    integer? text = some n := by
  obtain ⟨before, numeral, after, ht, hb, ha, h⟩ := h
  rw [integer?, ht, Text.trim_append hb ha h.not_isBlank]
  exact h.signed?_eq

/-- What `toHex` writes is read as the number that was written. -/
theorem integer?_toHex (n : Nat) : integer? (toHex n) = some (n : Int) :=
  integer?_of_spells (spells_toHex n)

end ContractCall.Numeral
