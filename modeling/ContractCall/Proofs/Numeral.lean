import ContractCall.Numeral

/-!
# Digits written and read

`Numeral.toHex` writes a natural number as a marked hexadecimal numeral. Its digits are those of
`Nat.toDigits`, and they are read as the number.

* `Shortest digits`: lowercase digits without a needless zero in front; `shortest_toDigits` says
  that such digits are written.
* `ofDigits_toDigits`: the positional value of the written digits, in any base up to sixteen.
* `hexInteger?_of_digits`: a run of hexadecimal digits is read as its positional value.
* `isHex_toHex`: a written numeral is recognised.
-/

namespace ContractCall.Numeral

/-- The digits that are written, the smallest first. -/
def lowerDigits : List Char := "0123456789abcdef".toList

/-- The digits of a hexadecimal numeral in its shortest lowercase form: at least one, and a zero in
front only where it is the whole numeral. -/
structure Shortest (digits : List Char) : Prop where
  ne_nil : digits ≠ []
  lower : ∀ c ∈ digits, c ∈ lowerDigits
  zero : digits.head? = some '0' → digits = ['0']

/-! ## Writing -/

theorem digit?_digitChar {d : Nat} (h : d < 16) : digit? (Nat.digitChar d) = some d := by
  revert d
  decide

theorem digitChar_mem_lowerDigits {d : Nat} (h : d < 16) : Nat.digitChar d ∈ lowerDigits := by
  revert d
  decide

/-- The digits of a number have its value. -/
theorem ofDigits_toDigits {base : Nat} (hb : 1 < base) (hb' : base ≤ 16) (n : Nat) :
    ofDigits base (Nat.toDigits base n) = n := by
  induction n using Nat.strongRecOn with
  | ind n ih =>
    have hd {d : Nat} (h : d < base) : (digit? (Nat.digitChar d)).getD 0 = d := by
      rw [digit?_digitChar (Nat.lt_of_lt_of_le h hb')]
      rfl
    rw [Nat.toDigits_eq_if hb]
    split
    · rename_i hn
      simp [ofDigits, hd hn]
    · rename_i hn
      have hlt : n / base < n := Nat.div_lt_self (by omega) hb
      rw [ofDigits_append_singleton, ih _ hlt, hd (Nat.mod_lt n (by omega)), Nat.mul_comm]
      exact Nat.div_add_mod n base

/-- Every written character is that of a digit. -/
theorem exists_digitChar_of_mem_toDigits {base n : Nat} {c : Char} (hb : 1 < base)
    (h : c ∈ Nat.toDigits base n) : ∃ d < base, c = Nat.digitChar d := by
  induction n using Nat.strongRecOn with
  | ind n ih =>
    rw [Nat.toDigits_eq_if hb] at h
    split at h
    · rename_i hn
      exact ⟨n, hn, List.mem_singleton.mp h⟩
    · rename_i hn
      rcases List.mem_append.mp h with h | h
      · exact ih (n / base) (Nat.div_lt_self (by omega) hb) h
      · exact ⟨n % base, Nat.mod_lt n (by omega), List.mem_singleton.mp h⟩

theorem mem_lowerDigits_of_mem_toDigits {base n : Nat} {c : Char} (hb : 1 < base)
    (hb' : base ≤ 16) (h : c ∈ Nat.toDigits base n) : c ∈ lowerDigits := by
  obtain ⟨d, hd, rfl⟩ := exists_digitChar_of_mem_toDigits hb h
  exact digitChar_mem_lowerDigits (by omega)

/-- Only zero is written with a zero in front. -/
theorem eq_zero_of_head?_toDigits {n : Nat} (h : (Nat.toDigits 16 n).head? = some '0') : n = 0 := by
  induction n using Nat.strongRecOn with
  | ind n ih =>
    rw [Nat.toDigits_eq_if (by decide)] at h
    split at h
    · exact Nat.digitChar_eq_zero.mp (Option.some.inj h)
    · rename_i hn
      obtain ⟨c, rest, hc⟩ := List.exists_cons_of_ne_nil (@Nat.toDigits_ne_nil (n / 16) 16)
      rw [hc] at h
      have := ih (n / 16) (by omega) (hc ▸ h)
      omega

theorem shortest_toDigits (n : Nat) : Shortest (Nat.toDigits 16 n) where
  ne_nil := Nat.toDigits_ne_nil
  lower _ h := mem_lowerDigits_of_mem_toDigits (by decide) (by decide) h
  zero h := by rw [eq_zero_of_head?_toDigits h, Nat.toDigits_zero]

/-! ## Reading -/

theorem isHexDigit_of_mem_lowerDigits : ∀ c ∈ lowerDigits, isHexDigit c = true := by
  have h : lowerDigits.all isHexDigit = true := by decide
  exact List.all_eq_true.mp h

/-- The signs and the underscore are no digits. -/
theorem ne_of_isHexDigit {c : Char} (h : isHexDigit c = true) : c ≠ '-' ∧ c ≠ '+' ∧ c ≠ '_' := by
  refine ⟨?_, ?_, ?_⟩ <;> rintro rfl <;> exact absurd h (by decide)

/-- Digits alone are read as their positional value. -/
theorem hexInteger?_of_digits {digits : List Char} (hne : digits ≠ [])
    (h : ∀ c ∈ digits, isHexDigit c = true) :
    hexInteger? digits = some (ofDigits 16 digits : Int) := by
  have hf : digits.filter (· != '_') = digits := by
    refine List.filter_eq_self.mpr fun c hc => ?_
    exact bne_iff_ne.mpr (ne_of_isHexDigit (h c hc)).2.2
  obtain ⟨c, rest, rfl⟩ := List.exists_cons_of_ne_nil hne
  obtain ⟨hc, hr⟩ := List.forall_mem_cons.mp h
  obtain ⟨hm, hp, -⟩ := ne_of_isHexDigit hc
  have hall : rest.all (fun d => isHexDigit d || d == '_') = true := by
    refine List.all_eq_true.mpr fun d hd => ?_
    rw [hr d hd, Bool.true_or]
  have hv : hexMagnitude? (c :: rest) = some (ofDigits 16 (c :: rest)) := by
    rw [hexMagnitude?, hc, hall, hf]
    rfl
  unfold hexInteger?
  split
  · rename_i he
    cases he
    exact absurd rfl hm
  · rename_i he
    cases he
    exact absurd rfl hp
  · rw [hv]
    rfl

theorem toList_toHex (n : Nat) : (toHex n).toList = '0' :: 'x' :: Nat.toDigits 16 n :=
  String.toList_ofList

/-- A written numeral is recognised. -/
theorem isHex_toHex (n : Nat) : isHex (toHex n) = true := by
  rw [isHex, toList_toHex]
  exact List.all_eq_true.mpr fun c hc =>
    isHexDigit_of_mem_lowerDigits c ((shortest_toDigits n).lower c hc)

end ContractCall.Numeral
