import ContractCall.Proofs.Numeral.Spelling

/-!
# The texts that are read as integers

`integer?` reads every numeral of an integer, and more: behind the mark of a hexadecimal numeral it
takes one further sign, and underscores after the first digit.

* `Decorated v s`: a hexadecimal numeral with such a sign or underscore. `Padded` adds white space at
  the ends, as `Spells` does for the numerals proper.
* `hexInteger?_eq_some_iff`, `unsigned?_eq_some_iff`, `signed?_eq_some_iff`: what each reader takes,
  each in terms of the one before it.
* `read_iff_spelled_or_decorated`: a text is read as an integer exactly if it is a numeral of it or a
  decorated one.
* `isWhole_eq_true_iff`, `isHex_eq_true_iff`: the texts that are recognised as decimal and as
  hexadecimal. Of these, all but the bare mark are numerals (`IsDecimal.exists_written`,
  `exists_written_of_isHex`).
-/

namespace ContractCall.Numeral

variable {n : Nat} {s : List Char} {c : Char} {v : Int} {text : String}

/-- Hexadecimal digits of a natural number with underscores among them, but none in front. -/
def Grouped (n : Nat) (s : List Char) : Prop :=
  s.head? ≠ some '_' ∧ Written 16 n (s.filter (· != '_'))

/-- Grouped digits behind at most one sign. -/
inductive SignedGrouped : Int → List Char → Prop where
  | bare {n : Nat} {s : List Char} (h : Grouped n s) : SignedGrouped n s
  | plus {n : Nat} {s : List Char} (h : Grouped n s) : SignedGrouped n ('+' :: s)
  | minus {n : Nat} {s : List Char} (h : Grouped n s) : SignedGrouped (-n) ('-' :: s)

/-- The character is a sign or an underscore. -/
def IsDecoration (c : Char) : Prop := c = '-' ∨ c = '+' ∨ c = '_'

/-- A hexadecimal numeral with a sign or an underscore behind its mark. -/
inductive DecoratedUnsigned (v : Int) : List Char → Prop where
  | hexadecimal {mark : Char} {s : List Char} (hm : mark = 'x' ∨ mark = 'X')
      (h : SignedGrouped v s) (hd : ∃ c ∈ s, IsDecoration c) : DecoratedUnsigned v ('0' :: mark :: s)

/-- Such a numeral, or one behind a minus sign for the negated number. -/
inductive Decorated : Int → List Char → Prop where
  | natural {v : Int} {s : List Char} (h : DecoratedUnsigned v s) : Decorated v s
  | negated {v : Int} {s : List Char} (h : DecoratedUnsigned v s) : Decorated (-v) ('-' :: s)

/-- The text is one of these, with or without white space at its ends. -/
def Padded (P : List Char → Prop) (text : String) : Prop :=
  ∃ before body after, text.toList = before ++ body ++ after ∧
    (∀ c ∈ before, Text.isBlank c = true) ∧ (∀ c ∈ after, Text.isBlank c = true) ∧ P body

/-! ## Behind the mark -/

/-- The first character must be a digit, the others may be underscores. -/
theorem hexMagnitude?_eq_some_iff : hexMagnitude? s = some n ↔ Grouped n s := by
  rw [Grouped, written_iff (by decide) (by decide)]
  cases s with
  | nil => simp [hexMagnitude?]
  | cons c rest =>
    by_cases hc : c = '_'
    · simp [hexMagnitude?, hc, show isHexDigit '_' = false from rfl]
    · have hf : (c :: rest).filter (· != '_') = c :: rest.filter (· != '_') :=
        List.filter_cons_of_pos (bne_iff_ne.mpr hc)
      have hall : (isHexDigit c && rest.all fun d => isHexDigit d || d == '_') = true ↔
          ∀ d ∈ (c :: rest).filter (· != '_'), isDigitOf 16 d = true := by
        rw [hf, Bool.and_eq_true, List.forall_mem_cons, isDigitOf_sixteen]
        refine and_congr_right fun _ => ?_
        simp only [List.all_eq_true, List.mem_filter, isDigitOf_sixteen]
        grind
      rw [hexMagnitude?, Option.ite_none_right_eq_some, hall, Option.some.injEq]
      constructor
      · rintro ⟨hd, hn⟩
        exact ⟨by simpa using hc, by simp [hf], hd, hn⟩
      · rintro ⟨-, -, hd, hn⟩
        exact ⟨hd, hn⟩

theorem Grouped.mem (h : Grouped n s) : ∀ c ∈ s, isHexDigit c = true ∨ c = '_' := by
  intro c hc
  by_cases hu : c = '_'
  · exact .inr hu
  · have hf : c ∈ s.filter (· != '_') := List.mem_filter.mpr ⟨hc, bne_iff_ne.mpr hu⟩
    exact .inl (isHexDigit_of_isDigitOf (h.2.isDigitOf (by decide) (by decide) c hf))

/-- Grouped digits do not start with a sign. -/
theorem Grouped.ne_cons (h : Grouped n s) (hc : c = '-' ∨ c = '+') (rest : List Char) :
    s ≠ c :: rest := by
  rintro rfl
  rcases h.mem c List.mem_cons_self with hd | rfl
  · obtain ⟨hm, hp, -⟩ := ne_of_isHexDigit hd
    exact hc.elim hm hp
  · exact absurd hc (by decide)

theorem hexInteger?_minus (s : List Char) :
    hexInteger? ('-' :: s) = (hexMagnitude? s).map fun n : Nat => -(n : Int) := by
  rw [hexInteger?]
  cases hexMagnitude? s <;> rfl

theorem hexInteger?_plus (s : List Char) :
    hexInteger? ('+' :: s) = (hexMagnitude? s).map fun n : Nat => (n : Int) := by
  rw [hexInteger?]
  cases hexMagnitude? s <;> rfl

theorem hexInteger?_bare (hm : ∀ rest, s ≠ '-' :: rest) (hp : ∀ rest, s ≠ '+' :: rest) :
    hexInteger? s = (hexMagnitude? s).map fun n : Nat => (n : Int) := by
  rw [hexInteger?.eq_3 s hm hp]
  cases hexMagnitude? s <;> rfl

theorem hexInteger?_eq_some_iff : hexInteger? s = some v ↔ SignedGrouped v s := by
  constructor
  · intro h
    by_cases hm : ∃ rest, s = '-' :: rest
    · obtain ⟨rest, rfl⟩ := hm
      rw [hexInteger?_minus] at h
      obtain ⟨n, hn, rfl⟩ := Option.map_eq_some_iff.mp h
      exact .minus (hexMagnitude?_eq_some_iff.mp hn)
    by_cases hp : ∃ rest, s = '+' :: rest
    · obtain ⟨rest, rfl⟩ := hp
      rw [hexInteger?_plus] at h
      obtain ⟨n, hn, rfl⟩ := Option.map_eq_some_iff.mp h
      exact .plus (hexMagnitude?_eq_some_iff.mp hn)
    · rw [hexInteger?_bare (not_exists.mp hm) (not_exists.mp hp)] at h
      obtain ⟨n, hn, rfl⟩ := Option.map_eq_some_iff.mp h
      exact .bare (hexMagnitude?_eq_some_iff.mp hn)
  · intro h
    cases h with
    | bare h =>
      rw [hexInteger?_bare (h.ne_cons (.inl rfl)) (h.ne_cons (.inr rfl)),
        hexMagnitude?_eq_some_iff.mpr h]
      rfl
    | plus h =>
      rw [hexInteger?_plus, hexMagnitude?_eq_some_iff.mpr h]
      rfl
    | minus h =>
      rw [hexInteger?_minus, hexMagnitude?_eq_some_iff.mpr h]
      rfl

/-! ## Without white space -/

theorem afterMark?_eq_some_iff {rest : List Char} : afterMark? s = some rest ↔
    ∃ mark, (mark = 'x' ∨ mark = 'X') ∧ s = '0' :: mark :: rest := by
  constructor
  · intro h
    unfold afterMark? at h
    split at h
    · cases h
      exact ⟨'x', .inl rfl, rfl⟩
    · cases h
      exact ⟨'X', .inr rfl, rfl⟩
    · cases h
  · rintro ⟨mark, rfl | rfl, rfl⟩ <;> rfl

/-- Grouped digits are plain ones but for a sign or an underscore. -/
theorem SignedGrouped.written_or_decorated (h : SignedGrouped v s) :
    (∃ n : Nat, v = n ∧ Written 16 n s) ∨ ∃ c ∈ s, IsDecoration c := by
  cases h with
  | @bare n _ h =>
    by_cases hu : '_' ∈ s
    · exact .inr ⟨'_', hu, .inr (.inr rfl)⟩
    · have hf : s.filter (· != '_') = s :=
        List.filter_eq_self.mpr fun c hc => bne_iff_ne.mpr fun he => hu (he ▸ hc)
      exact .inl ⟨n, rfl, hf ▸ h.2⟩
  | plus h => exact .inr ⟨'+', List.mem_cons_self, .inr (.inl rfl)⟩
  | minus h => exact .inr ⟨'-', List.mem_cons_self, .inl rfl⟩

theorem written_ten_of_isWholeChars (h : isWholeChars s = true) :
    Written 10 (ofDigits 10 s) s := by
  rw [isWholeChars, Bool.and_eq_true, List.all_eq_true] at h
  refine (written_iff (by decide) (by decide)).mpr ⟨?_, fun c hc => ?_, rfl⟩
  · rintro rfl
    cases h.1
  · rw [isDigitOf_ten]
    exact h.2 c hc

theorem unsigned?_eq_some_iff : unsigned? s = some v ↔
    (∃ n : Nat, v = n ∧ Unsigned n s) ∨ DecoratedUnsigned v s := by
  constructor
  · intro h
    unfold unsigned? at h
    split at h
    · rename_i digits ha
      obtain ⟨mark, hm, rfl⟩ := afterMark?_eq_some_iff.mp ha
      have hg := hexInteger?_eq_some_iff.mp h
      rcases hg.written_or_decorated with ⟨n, rfl, hw⟩ | hd
      · exact .inl ⟨n, rfl, .hexadecimal hm hw⟩
      · exact .inr (.hexadecimal hm hg hd)
    · split at h
      · rename_i hw
        cases h
        exact .inl ⟨_, rfl, .decimal (written_ten_of_isWholeChars hw)⟩
      · cases h
  · rintro (⟨n, rfl, h⟩ | ⟨hm, h, -⟩)
    · exact h.unsigned?_eq
    · rw [unsigned?, afterMark?_eq_some_iff.mpr ⟨_, hm, rfl⟩]
      exact hexInteger?_eq_some_iff.mpr h

theorem signed?_eq_some_iff : signed? s = some v ↔ Signed v s ∨ Decorated v s := by
  constructor
  · intro h
    unfold signed? at h
    split at h
    · obtain ⟨m, hm, rfl⟩ := Option.map_eq_some_iff.mp h
      rcases unsigned?_eq_some_iff.mp hm with ⟨n, rfl, hn⟩ | hd
      · exact .inl (.negated hn)
      · exact .inr (.negated hd)
    · rcases unsigned?_eq_some_iff.mp h with ⟨n, rfl, hn⟩ | hd
      · exact .inl (.natural hn)
      · exact .inr (.natural hd)
  · rintro (h | h)
    · exact h.signed?_eq
    · cases h with
      | natural h =>
        have hu := unsigned?_eq_some_iff.mpr (.inr h)
        cases h
        exact hu
      | negated h =>
        rw [signed?, unsigned?_eq_some_iff.mpr (.inr h)]
        rfl

/-! ## Numerals and decorated numerals -/

theorem SignedGrouped.mem (h : SignedGrouped v s) :
    ∀ c ∈ s, isHexDigit c = true ∨ IsDecoration c := by
  have hg {n : Nat} {s : List Char} (h : Grouped n s) :
      ∀ c ∈ s, isHexDigit c = true ∨ IsDecoration c :=
    fun c hc => (h.mem c hc).imp_right fun hu => .inr (.inr hu)
  cases h with
  | bare h => exact hg h
  | plus h => exact List.forall_mem_cons.mpr ⟨.inr (.inr (.inl rfl)), hg h⟩
  | minus h => exact List.forall_mem_cons.mpr ⟨.inr (.inl rfl), hg h⟩

theorem IsDecoration.not_isBlank (h : IsDecoration c) : Text.isBlank c = false := by
  rcases h with rfl | rfl | rfl <;> decide

theorem IsDecoration.not_isHexDigit (h : IsDecoration c) : isHexDigit c = false := by
  rcases h with rfl | rfl | rfl <;> decide

theorem DecoratedUnsigned.not_isBlank (h : DecoratedUnsigned v s) :
    ∀ c ∈ s, Text.isBlank c = false := by
  obtain ⟨hm, h, -⟩ := h
  rw [List.forall_mem_cons, List.forall_mem_cons]
  refine ⟨by decide, ?_, fun c hc => ?_⟩
  · rcases hm with rfl | rfl <;> decide
  · rcases h.mem c hc with hd | hd
    · exact not_isBlank_of_isHexDigit hd
    · exact hd.not_isBlank

theorem Decorated.not_isBlank (h : Decorated v s) : ∀ c ∈ s, Text.isBlank c = false := by
  cases h with
  | natural h => exact h.not_isBlank
  | negated h => exact List.forall_mem_cons.mpr ⟨by decide, h.not_isBlank⟩

/-- A numeral without a sign is not decorated. -/
theorem Unsigned.not_isDecoration (h : Unsigned n s) : ∀ c ∈ s, ¬ IsDecoration c := by
  intro c hc hd
  rcases h.mem c hc with hx | rfl | rfl
  · rw [hd.not_isHexDigit] at hx
    cases hx
  · exact absurd hd (by simp [IsDecoration])
  · exact absurd hd (by simp [IsDecoration])

theorem DecoratedUnsigned.not_unsigned (h : DecoratedUnsigned v s) : ¬ Unsigned n s := by
  obtain ⟨hm, -, c, hc, hd⟩ := h
  exact fun hu => hu.not_isDecoration c (List.mem_cons_of_mem _ (List.mem_cons_of_mem _ hc)) hd

/-- No text is both, whatever the numbers. -/
theorem Decorated.not_signed {m : Int} (h : Decorated v s) : ¬ Signed m s := by
  intro hs
  cases h with
  | natural h =>
    cases hs with
    | natural hs => exact h.not_unsigned hs
    | negated hs => cases h
  | negated h =>
    cases hs with
    | natural hs => exact hs.not_isDecoration '-' List.mem_cons_self (.inl rfl)
    | negated hs => exact h.not_unsigned hs

/-! ## White space -/

/-- What stands between the white space at the ends is what `trim` leaves. -/
theorem padded_iff {P : List Char → Prop} (hP : ∀ s, P s → ∀ c ∈ s, Text.isBlank c = false) :
    Padded P text ↔ P (Text.trim text.toList) := by
  constructor
  · rintro ⟨before, body, after, ht, hb, ha, h⟩
    rwa [ht, Text.trim_append hb ha (hP body h)]
  · intro h
    obtain ⟨before, after, ht, hb, ha⟩ := Text.exists_eq_append_trim text.toList
    exact ⟨before, _, after, ht, hb, ha, h⟩

theorem spells_iff : Spells v text ↔ Signed v (Text.trim text.toList) :=
  padded_iff fun _ h => h.not_isBlank

theorem padded_decorated_iff : Padded (Decorated v) text ↔ Decorated v (Text.trim text.toList) :=
  padded_iff fun _ h => h.not_isBlank

/-- A text is read as an integer exactly if it is a numeral of that integer, decorated or not. So the
numerals are all that is read, up to the decorated ones. -/
theorem read_iff_spelled_or_decorated (text : String) :
    (∀ v, integer? text = some v ↔ Spells v text ∨ Padded (Decorated v) text) ∧
    ((∀ v, integer? text = some v ↔ Spells v text) ↔ ∀ v, ¬ Padded (Decorated v) text) := by
  have hr (v : Int) : integer? text = some v ↔ Spells v text ∨ Padded (Decorated v) text := by
    rw [integer?, signed?_eq_some_iff, spells_iff, padded_decorated_iff]
  refine ⟨hr, fun h v hd => ?_, fun h v => ?_⟩
  · have hs := (h v).mp ((hr v).mpr (.inr hd))
    exact (padded_decorated_iff.mp hd).not_signed (spells_iff.mp hs)
  · rw [hr, or_iff_left (h v)]

/-- Two signs, one on each side of the mark, cancel out: this is no numeral, and it is read. -/
theorem not_spelled_twoSigns : integer? "-0x-5" = some 5 ∧ ∀ v, ¬ Spells v "-0x-5" := by
  have hg : Grouped 5 ['5'] := ⟨by decide, 0, by decide⟩
  have hd : Decorated 5 "-0x-5".toList :=
    .negated (.hexadecimal (.inl rfl) (.minus hg) ⟨'-', List.mem_cons_self, .inl rfl⟩)
  exact ⟨by decide, fun v hs => hd.not_signed (spells_iff.mp hs)⟩

/-! ## Recognised decimal numerals -/

/-- The text is a run of decimal digits, at least one. -/
structure IsDecimal (text : String) : Prop where
  ne_empty : text ≠ ""
  isDigit : ∀ c ∈ text.toList, c.isDigit = true

theorem isWhole_eq_true_iff : isWhole text = true ↔ IsDecimal text := by
  have hne : text.toList.isEmpty = false ↔ text ≠ "" := by
    rw [List.isEmpty_eq_false_iff, ne_eq, String.toList_eq_nil_iff]
  rw [isWhole, isWholeChars, Bool.and_eq_true, Bool.not_eq_true', hne, List.all_eq_true]
  exact ⟨fun h => ⟨h.1, h.2⟩, fun h => ⟨h.ne_empty, h.isDigit⟩⟩

/-- Such a text is a written form of a number, possibly with zeros in front. -/
theorem IsDecimal.exists_written (h : IsDecimal text) : ∃ n, Written 10 n text.toList :=
  ⟨_, written_ten_of_isWholeChars (isWhole_eq_true_iff.mpr h)⟩

theorem integer?_of_written (h : Written 10 n text.toList) : integer? text = some (n : Int) :=
  integer?_of_spells ⟨[], text.toList, [], by simp, nofun, nofun, .natural (.decimal h)⟩

/-- Without a mark, it is not recognised as hexadecimal. -/
theorem IsDecimal.isHex_eq_false (h : IsDecimal text) : isHex text = false := by
  rw [isHex, afterMark?_of_isDigit h.isDigit]

/-! ## Recognised hexadecimal numerals -/

theorem isHex_eq_true_iff : isHex text = true ↔ ∃ mark, (mark = 'x' ∨ mark = 'X') ∧
    text.toList = '0' :: mark :: (stripMark text).toList ∧
    ∀ c ∈ (stripMark text).toList, isHexDigit c = true := by
  rw [isHex, stripMark]
  cases h : afterMark? text.toList with
  | none =>
    constructor
    · intro hn
      cases hn
    · rintro ⟨mark, hm, ht, -⟩
      rw [afterMark?_eq_some_iff.mpr ⟨mark, hm, ht⟩] at h
      cases h
  | some rest =>
    obtain ⟨mark, hm, ht⟩ := afterMark?_eq_some_iff.mp h
    rw [List.all_eq_true, String.toList_ofList]
    constructor
    · exact fun hd => ⟨mark, hm, ht, hd⟩
    · rintro ⟨-, -, -, hd⟩
      exact hd

/-- A recognised text with a digit is read as the number that its digits are a form of. -/
theorem exists_written_of_isHex (h : isHex text = true) (hne : stripMark text ≠ "") :
    ∃ n : Nat, Written 16 n (stripMark text).toList ∧ integer? text = some (n : Int) := by
  obtain ⟨mark, hm, ht, hd⟩ := isHex_eq_true_iff.mp h
  have hw : Written 16 (ofDigits 16 (stripMark text).toList) (stripMark text).toList := by
    refine (written_iff (by decide) (by decide)).mpr ⟨?_, fun c hc => ?_, rfl⟩
    · exact fun he => hne (String.toList_eq_nil_iff.mp he)
    · rw [isDigitOf_sixteen]
      exact hd c hc
  refine ⟨_, hw, integer?_of_spells ⟨[], text.toList, [], by simp, nofun, nofun, ?_⟩⟩
  rw [ht]
  exact .natural (.hexadecimal hm hw)

/-- The bare mark is recognised and denotes nothing. -/
theorem integer?_of_isHex_of_stripMark_eq (h : isHex text = true) (he : stripMark text = "") :
    integer? text = none := by
  obtain ⟨mark, hm, ht, -⟩ := isHex_eq_true_iff.mp h
  rw [he] at ht
  rw [integer?, ht]
  rcases hm with rfl | rfl <;> decide

end ContractCall.Numeral
