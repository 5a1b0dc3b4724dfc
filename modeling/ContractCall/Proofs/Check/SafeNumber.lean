import ContractCall.Proofs.Check.Uint

/-!
# Numbers that may have lost digits

An unsigned integer may be given as a number. Above `2 ^ 53 - 1` not every integer is one, so the
check refuses such a number, but it does so for the argument itself only and not for the halves of a
split integer.

* `Place`: where a number may stand, as the whole argument or as one of its halves.
* `Occurs decls name w place n`: an accepted argument has the number `n` at that place.
* `numbers_bounded_by_place`: the numbers that occur at each place. Those in the lower half go up to
  the largest of the type or of a half.
* `not_safe_lowHalf`: so a number is accepted as the lower half that is refused as a whole.
-/

namespace ContractCall.Check

open CairoType Typing

variable {decls : Declarations} {name : String} {w : Width} {a b : Arg} {n l h : Int}
  {place : Place}

/-- The places at which the check for an unsigned integer type reads an integer. -/
inductive Place where
  | whole
  | low
  | high

namespace Place

/-- What stands at a place of an argument. -/
def get? : Place → Arg → Option Arg
  | whole, a => some a
  | low, .object members => Assoc.get? members "low"
  | high, .object members => Assoc.get? members "high"
  | _, _ => none

/-- The largest number that is accepted at a place. -/
def largest (w : Width) : Place → Int
  | whole => min (2 ^ 53 - 1) (2 ^ w.bits - 1)
  | low => min (2 ^ 128 - 1) (2 ^ w.bits - 1)
  | high => (2 ^ w.bits - 1) / 2 ^ 128

end Place

/-- Some accepted argument has the number at the place. -/
def Occurs (decls : Declarations) (name : String) (w : Width) (place : Place) (n : Int) : Prop :=
  ∃ a, value decls name w.typeName a = .ok () ∧ place.get? a = some (.number n)

/-- Two numbers as the halves of an integer. -/
def numberHalves (l h : Int) : Arg :=
  .ofMembers [("low", .number l), ("high", .number h)]

theorem numberHalves_eq (l h : Int) :
    numberHalves l h = .object [("high", .number h), ("low", .number l)] := by
  have hlt : "high" < "low" := by decide
  simp [numberHalves, Arg.ofMembers, Arg.putSorted, hlt]

/-! ## What is accepted -/

theorem value_eq_ok_iff_fitsUint :
    value decls name w.typeName a = .ok () ↔ FitsUint w.bits a := by
  rw [value_typeName, uint_eq_ok_iff]

theorem value_number_eq_ok_iff :
    value decls name w.typeName (.number n) = .ok () ↔ n ≤ 2 ^ 53 - 1 ∧ InBits w.bits n := by
  rw [value_eq_ok_iff_fitsUint]
  constructor
  · intro hf
    cases hf with
    | whole hs hd hn =>
      cases hd
      exact ⟨hs n rfl, hn⟩
  · rintro ⟨hs, hn⟩
    refine .whole (fun m hm => ?_) (.number n) hn
    cases hm
    exact hs

theorem value_numberHalves_eq_ok_iff :
    value decls name w.typeName (numberHalves l h) = .ok () ↔
      InBits 128 l ∧ InBits 128 h ∧ l + h * 2 ^ 128 ≤ 2 ^ w.bits - 1 := by
  rw [value_eq_ok_iff_fitsUint, numberHalves_eq]
  exact fitsUint_object_iff_of_denotes rfl rfl (.number l) (.number h)

/-! ## What stands at a place -/

/-- The halves of an accepted object denote integers of 128 bits whose whole fits the type. -/
theorem exists_denotes_of_fitsUint {bits : Nat} {members : List (String × Arg)}
    (hf : FitsUint bits (.object members)) : ∃ low high l h,
      Assoc.get? members "low" = some low ∧ Assoc.get? members "high" = some high ∧
      Denotes low l ∧ Denotes high h ∧
      InBits 128 l ∧ InBits 128 h ∧ l + h * 2 ^ 128 ≤ 2 ^ bits - 1 := by
  cases hf with
  | whole _ hd _ => cases hd
  | split hlow hhigh hl hh hl128 hh128 hn =>
    exact ⟨_, _, _, _, hlow, hhigh, hl, hh, hl128, hh128, hn⟩

theorem exists_denotes_of_low (hv : value decls name w.typeName a = .ok ())
    (hp : Place.low.get? a = some b) : ∃ l h, Denotes b l ∧
      InBits 128 l ∧ InBits 128 h ∧ l + h * 2 ^ 128 ≤ 2 ^ w.bits - 1 := by
  have hf := value_eq_ok_iff_fitsUint.mp hv
  cases a with
  | object members =>
    obtain ⟨low, high, l, h, hlow, -, hl, -, hb⟩ := exists_denotes_of_fitsUint hf
    cases hlow.symm.trans hp
    exact ⟨l, h, hl, hb⟩
  | _ => cases hp

theorem exists_denotes_of_high (hv : value decls name w.typeName a = .ok ())
    (hp : Place.high.get? a = some b) : ∃ l h, Denotes b h ∧
      InBits 128 l ∧ InBits 128 h ∧ l + h * 2 ^ 128 ≤ 2 ^ w.bits - 1 := by
  have hf := value_eq_ok_iff_fitsUint.mp hv
  cases a with
  | object members =>
    obtain ⟨low, high, l, h, -, hhigh, -, hh, hb⟩ := exists_denotes_of_fitsUint hf
    cases hhigh.symm.trans hp
    exact ⟨l, h, hh, hb⟩
  | _ => cases hp

theorem Occurs.bounded (ho : Occurs decls name w place n) : 0 ≤ n ∧ n ≤ place.largest w := by
  obtain ⟨a, hv, hp⟩ := ho
  cases place with
  | whole =>
    cases hp
    obtain ⟨hs, h0, hn⟩ := value_number_eq_ok_iff.mp hv
    exact ⟨h0, Int.le_min.mpr ⟨hs, hn⟩⟩
  | low =>
    obtain ⟨l, h, hd, hl, hh, hn⟩ := exists_denotes_of_low hv hp
    cases hd
    unfold InBits at hl hh
    rw [Place.largest]
    omega
  | high =>
    obtain ⟨l, h, hd, hl, hh, hn⟩ := exists_denotes_of_high hv hp
    cases hd
    unfold InBits at hl hh
    rw [Place.largest]
    omega

/-- No type is wider than two halves. -/
theorem two_pow_bits_le (w : Width) : (2 : Int) ^ w.bits ≤ 2 ^ 256 := by
  cases w <;> decide

theorem occurs_of_bounded (h0 : 0 ≤ n) (hn : n ≤ place.largest w) :
    Occurs decls name w place n := by
  have hz : InBits 128 0 := ⟨by decide, by decide⟩
  cases place with
  | whole =>
    obtain ⟨hs, hn⟩ := Int.le_min.mp hn
    exact ⟨.number n, value_number_eq_ok_iff.mpr ⟨hs, h0, hn⟩, rfl⟩
  | low =>
    obtain ⟨hn128, hn⟩ := Int.le_min.mp hn
    have hw : n + 0 * 2 ^ 128 ≤ 2 ^ w.bits - 1 := by omega
    refine ⟨numberHalves n 0, value_numberHalves_eq_ok_iff.mpr ⟨⟨h0, hn128⟩, hz, hw⟩, ?_⟩
    rw [numberHalves_eq]
    rfl
  | high =>
    have hb := two_pow_bits_le w
    rw [Place.largest] at hn
    have hn128 : InBits 128 n := by
      unfold InBits
      omega
    have hw : 0 + n * 2 ^ 128 ≤ 2 ^ w.bits - 1 := by omega
    refine ⟨numberHalves 0 n, value_numberHalves_eq_ok_iff.mpr ⟨hz, hn128, hw⟩, ?_⟩
    rw [numberHalves_eq]
    rfl

/-- A binary64 number denotes no integer, so it is accepted nowhere. -/
theorem not_float_of_value (hv : value decls name w.typeName a = .ok ()) (x : Binary64) :
    place.get? a ≠ some (.float x) := by
  intro hp
  cases place with
  | whole =>
    cases hp
    cases value_eq_ok_iff_fitsUint.mp hv with
    | whole _ hd _ => cases hd
  | low =>
    obtain ⟨l, h, hd, -⟩ := exists_denotes_of_low hv hp
    cases hd
  | high =>
    obtain ⟨l, h, hd, -⟩ := exists_denotes_of_high hv hp
    cases hd

/-! ## The guard and the places -/

theorem Place.largest_nonneg (place : Place) (w : Width) : 0 ≤ place.largest w := by
  cases place <;> cases w <;> decide

/-- Only the narrow types leave no room above `2 ^ 53 - 1` at any place. -/
theorem largest_le_iff (w : Width) :
    (∀ place : Place, place.largest w ≤ 2 ^ 53 - 1) ↔ w.bits ≤ 32 := by
  constructor
  · intro h
    have hl := h .low
    revert hl
    cases w <;> decide
  · intro h place
    revert h
    cases w <;> cases place <;> decide

/-- A number occurs at a place exactly up to the largest there, and a binary64 number nowhere. As the
lower half a number is judged as it is by itself, but for those above `2 ^ 53 - 1` that the half has
room for. Only a type of at most 32 bits has room for none of them. -/
theorem numbers_bounded_by_place (decls : Declarations) (name : String) (w : Width) :
    (∀ place n, Occurs decls name w place n ↔ 0 ≤ n ∧ n ≤ place.largest w) ∧
    (∀ (place : Place) x, ¬ ∃ a, value decls name w.typeName a = .ok () ∧
      place.get? a = some (.float x)) ∧
    (∀ n, (value decls name w.typeName (numberHalves n 0) = .ok () ↔
        value decls name w.typeName (.number n) = .ok ()) ↔
      ¬ (2 ^ 53 - 1 < n ∧ n ≤ Place.low.largest w)) ∧
    ((∀ place n, Occurs decls name w place n → n ≤ 2 ^ 53 - 1) ↔ w.bits ≤ 32) := by
  have ho (place : Place) (n : Int) :
      Occurs decls name w place n ↔ 0 ≤ n ∧ n ≤ place.largest w :=
    ⟨Occurs.bounded, fun ⟨h0, hn⟩ => occurs_of_bounded h0 hn⟩
  refine ⟨ho, fun place x ⟨a, hv, hp⟩ => not_float_of_value hv x hp, fun n => ?_, ?_⟩
  · rw [value_numberHalves_eq_ok_iff, value_number_eq_ok_iff, Place.largest]
    unfold InBits
    omega
  · rw [← largest_le_iff]
    constructor
    · intro h place
      exact h place _ (occurs_of_bounded (place.largest_nonneg w) (Int.le_refl _))
    · intro h place n hn
      exact Int.le_trans hn.bounded.2 (h place)

/-- The least integer that is no binary64 number is refused as a number by itself, and accepted as
one in the lower half. -/
theorem not_safe_lowHalf :
    value ⟨[], []⟩ "amount" Width.u256.typeName (.number (2 ^ 53 + 1)) =
        .error (.oversizeNumber "amount") ∧
      value ⟨[], []⟩ "amount" Width.u256.typeName (numberHalves (2 ^ 53 + 1) 0) = .ok () ∧
      Place.low.get? (numberHalves (2 ^ 53 + 1) 0) = some (.number (2 ^ 53 + 1)) ∧
      ¬ (2 ^ 53 + 1 : Int) ≤ 2 ^ 53 - 1 := by
  refine ⟨rfl, value_numberHalves_eq_ok_iff.mpr ⟨⟨by decide, by decide⟩, ⟨by decide, by decide⟩,
    by decide⟩, ?_, by decide⟩
  rw [numberHalves_eq]
  rfl

end ContractCall.Check
