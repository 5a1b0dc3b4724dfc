import ContractCall.Proofs.Numeral.Spelling

/-!
# The canonical numeral of a number

Of the many numerals of a natural number one is canonical: the mark `0x` and the shortest lowercase
digits. `toHex` writes it, and `hexOf?` gives it for every text that is read as the number.

* `Canonical n text`: the text is that numeral of `n`; `canonical_iff` says that `toHex` writes it,
  so that there is no other.
* `hexOf?_eq_some_iff`: the texts with a canonical numeral are those read as a natural number.
* `hexOf?_canonical`: writing and reading are inverse to each other, `hexOf?` keeps what a text
  denotes and changes nothing the second time, and canonical numerals tell numbers apart.
-/

namespace ContractCall.Numeral

variable {n m : Nat} {digits : List Char} {text numeral : String}

/-- The text is the mark `0x` and the shortest lowercase digits of the number. -/
def Canonical (n : Nat) (text : String) : Prop :=
  ∃ digits, text.toList = '0' :: 'x' :: digits ∧ Shortest digits ∧ Written 16 n digits

/-! ## Writing -/

/-- The shortest form of a number is unique: a zero in front of it would be the whole of it. -/
theorem Shortest.eq_toDigits (h : Shortest digits) (hw : Written 16 n digits) :
    digits = Nat.toDigits 16 n := by
  obtain ⟨zeros, hw⟩ := hw
  rw [map_toLower_of_lower h.lower] at hw
  cases zeros with
  | zero => exact hw
  | succ zeros =>
    have hd : digits = ['0'] := h.zero (by rw [hw]; rfl)
    rw [hd, List.replicate_succ, List.cons_append, List.cons.injEq] at hw
    have hn : Nat.toDigits 16 n = [] := (List.append_eq_nil_iff.mp hw.2.symm).2
    exact absurd hn Nat.toDigits_ne_nil

theorem canonical_toHex (n : Nat) : Canonical n (toHex n) :=
  ⟨_, toList_toHex n, shortest_toDigits n, written_toDigits (by decide) (by decide) n⟩

/-- The canonical numeral of a number is the one that is written. -/
theorem canonical_iff : Canonical n text ↔ text = toHex n := by
  constructor
  · rintro ⟨digits, ht, hs, hw⟩
    refine String.toList_inj.mp ?_
    rw [ht, toList_toHex, hs.eq_toDigits hw]
  · rintro rfl
    exact canonical_toHex n

/-- Different numbers have different numerals, since each is read as its own number. -/
theorem toHex_inj : toHex n = toHex m ↔ n = m := by
  refine ⟨fun h => ?_, fun h => h ▸ rfl⟩
  have hi : integer? (toHex n) = integer? (toHex m) := congrArg integer? h
  rw [integer?_toHex, integer?_toHex] at hi
  exact Int.ofNat_inj.mp (Option.some.inj hi)

/-! ## Rewriting -/

theorem hexOf?_eq_some_iff :
    hexOf? text = some numeral ↔ ∃ n : Nat, integer? text = some (n : Int) ∧ Canonical n numeral := by
  simp only [canonical_iff]
  unfold hexOf?
  split
  · rename_i n hn
    constructor
    · intro h
      exact ⟨n, hn, (Option.some.inj h).symm⟩
    · rintro ⟨m, hm, rfl⟩
      have hnm : (n : Int) = m := Option.some.inj (hn.symm.trans hm)
      rw [Int.ofNat_inj.mp hnm]
  · rename_i hn
    constructor
    · intro h
      cases h
    · rintro ⟨m, hm, -⟩
      exact absurd hm (hn m)

/-- A text read as a natural number is rewritten to what is written for the number. -/
theorem hexOf?_of_integer? (h : integer? text = some (n : Int)) : hexOf? text = some (toHex n) :=
  hexOf?_eq_some_iff.mpr ⟨n, h, canonical_toHex n⟩

theorem hexOf?_toHex (n : Nat) : hexOf? (toHex n) = some (toHex n) :=
  hexOf?_of_integer? (integer?_toHex n)

/-- What is written is recognised and read as the number. A text is rewritten exactly if it is read
as an integer that is not negative. What it is rewritten to is the canonical numeral of that integer,
so it is read as the same and rewritten to itself, and two texts are rewritten to one numeral exactly
if they denote the same integer. -/
theorem hexOf?_canonical :
    (∀ n : Nat, isHex (toHex n) = true ∧ integer? (toHex n) = some (n : Int)) ∧
    (∀ text, (hexOf? text).isSome = true ↔ ∃ v, integer? text = some v ∧ 0 ≤ v) ∧
    (∀ text numeral, hexOf? text = some numeral →
      integer? numeral = integer? text ∧ hexOf? numeral = some numeral ∧
        ∃ n : Nat, integer? text = some (n : Int) ∧ Canonical n numeral) ∧
    ∀ s t, (hexOf? s).isSome = true → (hexOf? t).isSome = true →
      (hexOf? s = hexOf? t ↔ integer? s = integer? t) := by
  refine ⟨fun n => ⟨isHex_toHex n, integer?_toHex n⟩, fun text => ?_, fun text numeral h => ?_,
    fun s t hs ht => ?_⟩
  · rw [Option.isSome_iff_exists]
    constructor
    · rintro ⟨numeral, h⟩
      obtain ⟨n, hn, -⟩ := hexOf?_eq_some_iff.mp h
      exact ⟨n, hn, Int.natCast_nonneg n⟩
    · rintro ⟨v, hv, h0⟩
      obtain ⟨n, rfl⟩ := Int.eq_ofNat_of_zero_le h0
      exact ⟨_, hexOf?_of_integer? hv⟩
  · obtain ⟨n, hn, hc⟩ := hexOf?_eq_some_iff.mp h
    have hw : numeral = toHex n := canonical_iff.mp hc
    refine ⟨?_, ?_, n, hn, hc⟩
    · rw [hw, integer?_toHex, hn]
    · rw [hw, hexOf?_toHex]
  · obtain ⟨u, hu⟩ := Option.isSome_iff_exists.mp hs
    obtain ⟨w, hw⟩ := Option.isSome_iff_exists.mp ht
    obtain ⟨n, hn, -⟩ := hexOf?_eq_some_iff.mp hu
    obtain ⟨m, hm, -⟩ := hexOf?_eq_some_iff.mp hw
    rw [hexOf?_of_integer? hn, hexOf?_of_integer? hm, hn, hm, Option.some.injEq, Option.some.injEq,
      toHex_inj, Int.natCast_inj]

/-- Two forms of one number, one with white space, a zero in front and digits in either case. -/
theorem hexOf?_canonical_ff :
    ((hexOf? " 0X0fF ").isSome = true ∧ (hexOf? "255").isSome = true ∧
      integer? " 0X0fF " = integer? "255") ∧
    hexOf? " 0X0fF " = hexOf? "255" ∧ hexOf? "255" = some "0xff" ∧
      integer? "0xff" = integer? "255" ∧ hexOf? "0xff" = some "0xff" := by
  obtain ⟨-, hsome, hkeep, hsame⟩ := hexOf?_canonical
  have hi : integer? " 0X0fF " = some 255 := by decide
  have hi' : integer? "255" = some 255 := by decide
  have hs : (hexOf? " 0X0fF ").isSome = true := (hsome _).mpr ⟨255, hi, by decide⟩
  have hs' : (hexOf? "255").isSome = true := (hsome _).mpr ⟨255, hi', by decide⟩
  have hff : hexOf? "255" = some "0xff" := by decide
  obtain ⟨hv, hfix, -⟩ := hkeep _ _ hff
  exact ⟨⟨hs, hs', hi.trans hi'.symm⟩, (hsame _ _ hs hs').mpr (hi.trans hi'.symm), hff, hv, hfix⟩

end ContractCall.Numeral
