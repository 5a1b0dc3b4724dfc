import ContractCall.Check

/-!
# The typing of arguments

Which arguments a type string accepts, stated without the checks of `ContractCall.Check`.

* `Denotes a n`: the scalar `a` is a form of the integer `n`.
* `InBits b n`: the integer `n` is one of the naturals of `b` bits.
* `FitsFelt`, `FitsUint`, `FitsEnum`, `FitsTuple`, `FitsStruct`: what a type of that kind accepts.
* `Accepts decls type a`: the least relation between type strings and arguments that follows the
  kind of the type. It recurs at arrays only: an array is accepted if each item is accepted for the
  type of the items.

A type has one kind, so only the rules of that kind relate it to an argument
(`accepts_iff_fitsKind`).
-/

namespace ContractCall

/-- Induction on the nesting of arrays: what holds of an argument if it holds of its items, where
it is an array, holds of every argument. -/
@[elab_as_elim] theorem Arg.itemInduction {motive : Arg → Prop}
    (step : ∀ a, (∀ items, a = .array items → ∀ b ∈ items, motive b) → motive a) (a : Arg) :
    motive a := by
  refine step a fun items ha b hb => ?_
  exact Arg.itemInduction step b
termination_by sizeOf a
decreasing_by
  have := List.sizeOf_lt_of_mem hb
  simp only [ha, Arg.array.sizeOf_spec]
  omega

namespace Typing

open CairoType

/-- The scalar is a number, an integer of any size or a numeral of this value. -/
inductive Denotes : Arg → Int → Prop where
  | number (n : Int) : Denotes (.number n) n
  | bigint (n : Int) : Denotes (.bigint n) n
  | text {s : String} {n : Int} (h : Numeral.integer? s = some n) : Denotes (.text s) n

/-- A scalar denotes at most one integer. -/
theorem Denotes.unique {a : Arg} {n m : Int} (h : Denotes a n) (h' : Denotes a m) : n = m := by
  cases h with
  | number => cases h'; rfl
  | bigint => cases h'; rfl
  | text h =>
    cases h' with
    | text h' => exact Option.some.inj (h.symm.trans h')

/-- The integer lies in `[0, 2 ^ bits - 1]`. -/
def InBits (bits : Nat) (n : Int) : Prop := 0 ≤ n ∧ n ≤ 2 ^ bits - 1

/-- What a felt accepts: text that is no hexadecimal numeral, whatever its length, or an integer of
252 bits. -/
inductive FitsFelt : Arg → Prop where
  | text {s : String} (h : Numeral.isHex s = false) : FitsFelt (.text s)
  | integer {a : Arg} {n : Int} (h : Denotes a n) (hn : InBits 252 n) : FitsFelt a

/-- What an unsigned integer type of some bits accepts: an integer of these bits that is not given
as a number above `2 ^ 53 - 1`, or an object with two halves of 128 bits whose whole has these
bits. The halves may be given as numbers of any size. -/
inductive FitsUint (bits : Nat) : Arg → Prop where
  | whole {a : Arg} {n : Int} (hs : ∀ m, a = .number m → m ≤ 2 ^ 53 - 1) (h : Denotes a n)
      (hn : InBits bits n) : FitsUint bits a
  | split {members : List (String × Arg)} {low high : Arg} {l h : Int}
      (hlow : Assoc.get? members "low" = some low) (hhigh : Assoc.get? members "high" = some high)
      (hl : Denotes low l) (hh : Denotes high h) (hl128 : InBits 128 l) (hh128 : InBits 128 h)
      (hn : l + h * 2 ^ 128 ≤ 2 ^ bits - 1) : FitsUint bits (.object members)

/-- What an enum type accepts: a variant with its payload in any case, an option or a result only
where the type is one. -/
inductive FitsEnum : EnumSort → Arg → Prop where
  | optionNone : FitsEnum .option .optionNone
  | optionSome (a : Arg) : FitsEnum .option (.optionSome a)
  | resultOk (a : Arg) : FitsEnum .result (.resultOk a)
  | resultErr (a : Arg) : FitsEnum .result (.resultErr a)
  | variant (sort : EnumSort) (name : String) (payload : Arg) :
    FitsEnum sort (.variant name payload)

/-- What a tuple type accepts, whatever its components. -/
inductive FitsTuple : Arg → Prop where
  | tuple (items : List Arg) : FitsTuple (.tuple items)
  | object (members : List (String × Arg)) : FitsTuple (.object members)

/-- What a struct type accepts: an integer of 160 bits for an Ethereum address, else an object with
a value for every declared member. -/
inductive FitsStruct (decls : Declarations) (type : String) : Arg → Prop where
  | ethAddress {a : Arg} {n : Int} (ht : isEthAddress type = true) (h : Denotes a n)
      (hn : InBits 160 n) : FitsStruct decls type a
  | members {given : List (String × Arg)} {decl : Abi.Struct} (ht : isEthAddress type = false)
      (hd : Assoc.get? decls.structs type = some decl)
      (hm : ∀ m ∈ decl.members, ∃ v, Assoc.get? given m.name = some v) :
      FitsStruct decls type (.object given)

/-- The type accepts the argument. -/
inductive Accepts (decls : Declarations) : String → Arg → Prop where
  | felt {type : String} {a : Arg} (hk : classify decls type = some .felt) (h : FitsFelt a) :
    Accepts decls type a
  | literal {type : String} {which : Literal} {a : Arg}
      (hk : classify decls type = some (.literal which)) (h : FitsFelt a) : Accepts decls type a
  | uint {type : String} {w : Width} {a : Arg} (hk : classify decls type = some (.uint w))
      (h : FitsUint w.bits a) : Accepts decls type a
  | bool {type : String} (hk : classify decls type = some .bool) (b : Bool) :
    Accepts decls type (.bool b)
  | longText {type element s : String} (hk : classify decls type = some (.array element))
      (hf : isFelt element = true) (hs : 31 < s.length) : Accepts decls type (.text s)
  | array {type element : String} {items : List Arg}
      (hk : classify decls type = some (.array element))
      (he : ∃ k, classify decls element = some k) (h : ∀ a ∈ items, Accepts decls element a) :
    Accepts decls type (.array items)
  | struct {type : String} {a : Arg} (hk : classify decls type = some .struct)
      (h : FitsStruct decls type a) : Accepts decls type a
  | enum {type : String} {sort : EnumSort} {a : Arg}
      (hk : classify decls type = some (.enum sort)) (h : FitsEnum sort a) : Accepts decls type a
  | tuple {type : String} {a : Arg} (hk : classify decls type = some .tuple) (h : FitsTuple a) :
    Accepts decls type a

/-- What a type of this kind accepts, the items of an array by `Accepts`. -/
def FitsKind (decls : Declarations) (type : String) : Kind → Arg → Prop
  | .felt, a | .literal _, a => FitsFelt a
  | .uint w, a => FitsUint w.bits a
  | .bool, a => ∃ b, a = .bool b
  | .array element, a =>
    (isFelt element = true ∧ ∃ s, a = .text s ∧ 31 < s.length) ∨
      ∃ items, a = .array items ∧ (∃ k, classify decls element = some k) ∧
        ∀ item ∈ items, Accepts decls element item
  | .struct, a => FitsStruct decls type a
  | .enum sort, a => FitsEnum sort a
  | .tuple, a => FitsTuple a

variable {decls : Declarations} {type : String} {a : Arg}

/-- An accepted argument has a type with a kind, and fits that kind. -/
theorem Accepts.fitsKind (h : Accepts decls type a) :
    ∃ k, classify decls type = some k ∧ FitsKind decls type k a := by
  cases h with
  | felt hk h => exact ⟨_, hk, h⟩
  | literal hk h => exact ⟨_, hk, h⟩
  | uint hk h => exact ⟨_, hk, h⟩
  | bool hk b => exact ⟨_, hk, b, rfl⟩
  | longText hk hf hs => exact ⟨_, hk, .inl ⟨hf, _, rfl, hs⟩⟩
  | array hk he h => exact ⟨_, hk, .inr ⟨_, rfl, he, h⟩⟩
  | struct hk h => exact ⟨_, hk, h⟩
  | enum hk h => exact ⟨_, hk, h⟩
  | tuple hk h => exact ⟨_, hk, h⟩

/-- An argument that fits the kind of a type is accepted. -/
theorem FitsKind.accepts {k : Kind} (hk : classify decls type = some k)
    (h : FitsKind decls type k a) : Accepts decls type a := by
  cases k with
  | felt => exact .felt hk h
  | literal which => exact .literal hk h
  | uint w => exact .uint hk h
  | bool => obtain ⟨b, rfl⟩ := h; exact .bool hk b
  | array element =>
    obtain ⟨hf, s, rfl, hs⟩ | ⟨items, rfl, he, hi⟩ := h
    · exact .longText hk hf hs
    · exact .array hk he hi
  | struct => exact .struct hk h
  | enum sort => exact .enum hk h
  | tuple => exact .tuple hk h

/-- A type of a known kind accepts what fits the kind. -/
theorem accepts_iff_fitsKind {k : Kind} (hk : classify decls type = some k) :
    Accepts decls type a ↔ FitsKind decls type k a := by
  refine ⟨fun h => ?_, fun h => h.accepts hk⟩
  obtain ⟨k', hk', hf⟩ := h.fitsKind
  rw [hk] at hk'
  cases hk'
  exact hf

/-- A type without a kind accepts nothing. -/
theorem not_accepts_of_classify_none (hk : classify decls type = none) :
    ¬ Accepts decls type a := by
  intro h
  obtain ⟨k, hk', -⟩ := h.fitsKind
  rw [hk] at hk'
  cases hk'

end Typing

end ContractCall
