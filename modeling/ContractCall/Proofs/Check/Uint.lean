import ContractCall.Proofs.Check.Acceptance
import ContractCall.Proofs.Numeral.Spelling

/-!
# Unsigned integers, whole and split

The check for an unsigned integer type judges the integer that an argument stands for. The form of
the argument matters only where it is a number above `2 ^ 53 - 1`, which is refused.

* `FormOf n a`: the argument is the integer `n` itself or a text that is a numeral of it.
* `Halves members l h`: the members `low` and `high` are forms of `l` and `h`; any others may stand
  beside them.
* `uint_judges_integer`: the same verdict on every form of an integer.
* `split_agrees_with_whole`: the verdict on two halves is the one on their whole.
-/

namespace ContractCall.Check

open CairoType Typing

variable {decls : Declarations} {name type : String} {w : Width} {a : Arg} {n l h : Int}
  {members : List (String × Arg)}

/-- The integer itself, or a text that is a numeral of it. -/
inductive FormOf (n : Int) : Arg → Prop where
  | bigint : FormOf n (.bigint n)
  | text {s : String} (h : Numeral.Spells n s) : FormOf n (.text s)

/-- The object has forms of these integers as its halves. -/
structure Halves (members : List (String × Arg)) (l h : Int) : Prop where
  low : ∃ a, Assoc.get? members "low" = some a ∧ FormOf l a
  high : ∃ a, Assoc.get? members "high" = some a ∧ FormOf h a

theorem FormOf.denotes (h : FormOf n a) : Denotes a n := by
  cases h with
  | bigint => exact .bigint n
  | text h => exact .text (Numeral.integer?_of_spells h)

/-- The check against an unsigned integer type, whatever is declared. -/
theorem value_typeName : value decls name w.typeName a = uint name w.typeName (.uint w) a := by
  rw [value_of_classify (classify_typeName w), kind]

/-! ## The whole form -/

theorem bound_uint : bound n name type (.uint w) =
    if 0 ≤ n ∧ n ≤ 2 ^ w.bits - 1 then .ok () else .error (.outOfRange name type w.rangeLabel) := by
  have hc : (Bound.uint w).contains n = true ↔ 0 ≤ n ∧ n ≤ 2 ^ w.bits - 1 := contains_iff_inBits
  rw [bound]
  simp only [hc]
  rfl

theorem value_bigint :
    value decls name w.typeName (.bigint n) = bound n name w.typeName (.uint w) := by
  rw [value_typeName, uint_of_denotes rfl (.bigint n)]

/-- An integer is judged by the range of the type, and the verdict, the refusal included, is the same
on every text that is a numeral of it and on a number up to `2 ^ 53 - 1`. A number above is refused
for its size. -/
theorem uint_judges_integer (decls : Declarations) (name : String) (w : Width) (n : Int) :
    (value decls name w.typeName (.bigint n) =
      if 0 ≤ n ∧ n ≤ 2 ^ w.bits - 1 then .ok ()
      else .error (.outOfRange name w.typeName w.rangeLabel)) ∧
    (∀ s, Numeral.Spells n s →
      value decls name w.typeName (.text s) = value decls name w.typeName (.bigint n)) ∧
    (n ≤ 2 ^ 53 - 1 →
      value decls name w.typeName (.number n) = value decls name w.typeName (.bigint n)) ∧
    (2 ^ 53 - 1 < n →
      value decls name w.typeName (.number n) = .error (.oversizeNumber name)) := by
  refine ⟨?_, fun s hs => ?_, fun hn => ?_, fun hn => ?_⟩
  · rw [value_bigint, bound_uint]
  · have hd : Denotes (.text s) n := .text (Numeral.integer?_of_spells hs)
    rw [value_bigint, value_typeName, uint_of_denotes rfl hd]
  · have hs : isOversize (.number n) = false := decide_eq_false (Int.not_lt.mpr hn)
    rw [value_bigint, value_typeName, uint_of_denotes hs (.number n)]
  · have hs : isOversize (.number n) = true := decide_eq_true hn
    rw [value_typeName, uint, hs]
    rfl

/-- A negative numeral in mixed case, between blanks, is judged as the integer is. -/
theorem uint_judges_integer_minus255 :
    Numeral.Spells (-255) "\t-0X00fF " ∧
      value ⟨[], []⟩ "amount" Width.u8.typeName (.text "\t-0X00fF ") =
        .error (.outOfRange "amount" Width.u8.typeName "[0, 255]") := by
  have hs : Numeral.Spells (-255) "\t-0X00fF " :=
    ⟨['\t'], "-0X00fF".toList, [' '], by decide, List.forall_mem_singleton.mpr (by decide),
      List.forall_mem_singleton.mpr (by decide), .negated (.hexadecimal (.inr rfl) ⟨2, by decide⟩)⟩
  have h := uint_judges_integer ⟨[], []⟩ "amount" .u8 (-255)
  refine ⟨hs, ?_⟩
  rw [h.2.1 _ hs, h.1]
  rfl

/-! ## The split form -/

/-- Halves in range are put together. -/
theorem uint_of_halves {b : Bound} (hm : Halves members l h) (hl : InBits 128 l)
    (hh : InBits 128 h) :
    uint name type b (.object members) = bound (l + h * 2 ^ 128) name type b := by
  obtain ⟨⟨low, hlow, hfl⟩, ⟨high, hhigh, hfh⟩⟩ := hm
  have hw : wholeOrSplit name type (.object members) = .ok (l + h * 2 ^ 128) :=
    wholeOrSplit_object_eq_ok_iff.mpr
      ⟨low, high, l, h, hlow, hhigh, ⟨hfl.denotes, hl⟩, ⟨hfh.denotes, hh⟩, rfl⟩
  exact uint_of_wholeOrSplit rfl hw

/-- What a split form stands for, once it is known what its halves denote. -/
theorem fitsUint_object_iff_of_denotes {bits : Nat} {low high : Arg}
    (hlow : Assoc.get? members "low" = some low) (hhigh : Assoc.get? members "high" = some high)
    (hl : Denotes low l) (hh : Denotes high h) :
    FitsUint bits (.object members) ↔
      InBits 128 l ∧ InBits 128 h ∧ l + h * 2 ^ 128 ≤ 2 ^ bits - 1 := by
  constructor
  · intro hf
    cases hf with
    | whole _ hd _ => cases hd
    | split hlow' hhigh' hl' hh' hl128 hh128 hn =>
      cases hlow.symm.trans hlow'
      cases hhigh.symm.trans hhigh'
      obtain rfl := hl'.unique hl
      obtain rfl := hh'.unique hh
      exact ⟨hl128, hh128, hn⟩
  · rintro ⟨hl128, hh128, hn⟩
    exact .split hlow hhigh hl hh hl128 hh128 hn

/-- The integers of the halves are the only ones. -/
theorem fitsUint_object_iff {bits : Nat} (hm : Halves members l h) :
    FitsUint bits (.object members) ↔
      InBits 128 l ∧ InBits 128 h ∧ l + h * 2 ^ 128 ≤ 2 ^ bits - 1 := by
  obtain ⟨⟨low, hlow, hfl⟩, ⟨high, hhigh, hfh⟩⟩ := hm
  exact fitsUint_object_iff_of_denotes hlow hhigh hfl.denotes hfh.denotes

theorem value_object_eq_ok_iff (hm : Halves members l h) :
    value decls name w.typeName (.object members) = .ok () ↔
      InBits 128 l ∧ InBits 128 h ∧ l + h * 2 ^ 128 ≤ 2 ^ w.bits - 1 := by
  rw [value_typeName, uint_eq_ok_iff, fitsUint_object_iff hm]

/-- A whole has one low half in range, and so one high half. -/
theorem halves_unique {l' h' : Int} (hl : InBits 128 l) (hl' : InBits 128 l')
    (he : l + h * 2 ^ 128 = l' + h' * 2 ^ 128) : l = l' ∧ h = h' := by
  unfold InBits at hl hl'
  omega

/-- Two halves are accepted if each has 128 bits and their whole fits the type. The halves of an
integer of 256 bits get the verdict, the refusal included, that the integer gets. Accepted halves of
the same whole are equal, also where they are accepted by different types. -/
theorem split_agrees_with_whole (decls : Declarations) (name : String) (w : Width)
    (members : List (String × Arg)) (l h : Int) (hm : Halves members l h) :
    (value decls name w.typeName (.object members) = .ok () ↔
      (0 ≤ l ∧ l < 2 ^ 128) ∧ (0 ≤ h ∧ h < 2 ^ 128) ∧ l + h * 2 ^ 128 ≤ 2 ^ w.bits - 1) ∧
    (∀ n, 0 ≤ n → n ≤ 2 ^ 256 - 1 → l = n % 2 ^ 128 → h = n / 2 ^ 128 →
      value decls name w.typeName (.object members) =
        value decls name w.typeName (.bigint n)) ∧
    (∀ decls' name' (w' : Width) members' l' h', Halves members' l' h' →
      value decls name w.typeName (.object members) = .ok () →
      value decls' name' w'.typeName (.object members') = .ok () →
      l + h * 2 ^ 128 = l' + h' * 2 ^ 128 → l = l' ∧ h = h') := by
  refine ⟨?_, fun n h0 hn hl hh => ?_, fun decls' name' w' members' l' h' hm' ha ha' he => ?_⟩
  · rw [value_object_eq_ok_iff hm, InBits, InBits, Int.le_sub_one_iff, Int.le_sub_one_iff]
  · have hl128 : InBits 128 l := by
      unfold InBits
      omega
    have hh128 : InBits 128 h := by
      unfold InBits
      omega
    have he : l + h * 2 ^ 128 = n := by omega
    rw [value_typeName, uint_of_halves hm hl128 hh128, he, value_bigint]
  · have hl := (value_object_eq_ok_iff hm).mp ha
    have hl' := (value_object_eq_ok_iff hm').mp ha'
    exact halves_unique hl.1 hl'.1 he

/-- The halves of `2 ^ 128 + 5` as numerals, beside another member. -/
def splitMembers : List (String × Arg) :=
  [("high", .text "0x1"), ("low", .text "005"), ("memo", .bool true)]

/-- They are accepted as the integer is, and refused as it is by a narrower type. -/
theorem split_agrees_with_whole_numerals :
    Halves splitMembers 5 1 ∧
      value ⟨[], []⟩ "amount" Width.u256.typeName (.object splitMembers) = .ok () ∧
      value ⟨[], []⟩ "amount" Width.u128.typeName (.object splitMembers) =
        value ⟨[], []⟩ "amount" Width.u128.typeName (.bigint (2 ^ 128 + 5)) := by
  have hlow : FormOf 5 (.text "005") :=
    .text ⟨[], "005".toList, [], rfl, by simp, by simp, .natural (.decimal ⟨2, by decide⟩)⟩
  have hhigh : FormOf 1 (.text "0x1") := .text (Numeral.spells_toHex 1)
  have hm : Halves splitMembers 5 1 := ⟨⟨_, rfl, hlow⟩, ⟨_, rfl, hhigh⟩⟩
  have h (w : Width) := split_agrees_with_whole ⟨[], []⟩ "amount" w splitMembers 5 1 hm
  refine ⟨hm, (h .u256).1.mpr (by decide), ?_⟩
  exact (h .u128).2.1 (2 ^ 128 + 5) (by decide) (by decide) (by decide) (by decide)

end ContractCall.Check
