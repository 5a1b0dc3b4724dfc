import ContractCall.Proofs.Binary64
import ContractCall.Proofs.Typing

/-!
# What a refusal states

The faults of an argument, in terms of the typing of `ContractCall.Typing`. A refusal states a fact
about one value: the argument itself, or an item of an array at some depth.

* `RangeLabel.max?`: the interval that the label of a range shows, read from the text of the label.
* `Reads a n`: the integer `n` that is compared with the range of a type, whole or split.
* `Fault decls name type a r`: what `r` says is true of the value `a`, checked against `type`. There
  is no rule for a struct type without a declaration: no refusal is due to one.
* `FirstFault decls name type a r`: `r` states a fault of the first value, in depth-first order,
  that its type does not accept. It names the parameter (`FirstFault.parameter?_eq`), at every depth
  of an array.
-/

namespace ContractCall

/-- The parameter that a refusal is about. A wrong number of arguments is about none. -/
def Refusal.parameter? : Refusal → Option String
  | typeMismatch arg .. | outOfRange arg .. | oversizeNumber arg | missingMember arg _
  | unrecognizedEnum arg .. | unhandledType arg _ | missingArgument arg _ => some arg
  | argumentCount .. => none

/-! ## Range labels -/

namespace RangeLabel

/-- The number that a decimal numeral or a power `2^k-1` shows. -/
def endpoint? : List Char → Option Nat
  | '2' :: '^' :: power =>
    if power.dropWhile Char.isDigit = ['-', '1'] then
      (Numeral.ofRun? 10 (power.takeWhile Char.isDigit)).map fun k => 2 ^ k - 1
    else none
  | numeral => Numeral.ofRun? 10 numeral

/-- The largest integer of the interval from zero that a label shows in brackets. -/
def max? (label : String) : Option Nat :=
  match label.toList with
  | '[' :: '0' :: ',' :: ' ' :: rest => endpoint? (rest.takeWhile (· != ']'))
  | _ => none

/-- The label for a half of a split integer. -/
def halves : String := "[0, 2^128-1] for low and high"

/-- The integer lies outside the interval that the label shows. -/
def Excludes (label : String) (n : Int) : Prop :=
  ∃ max : Nat, max? label = some max ∧ ¬ (0 ≤ n ∧ n ≤ max)

end RangeLabel

namespace Typing

open CairoType

/-- A value of one of the members `low` and `high`. -/
def IsHalf (members : List (String × Arg)) (half : Arg) : Prop :=
  Assoc.get? members "low" = some half ∨ Assoc.get? members "high" = some half

/-- The integer of an argument: the one a scalar denotes, or the whole of two halves of 128 bits. -/
inductive Reads : Arg → Int → Prop where
  | scalar {a : Arg} {n : Int} (h : Denotes a n) : Reads a n
  | split {members : List (String × Arg)} {low high : Arg} {l h : Int}
      (hlow : Assoc.get? members "low" = some low) (hhigh : Assoc.get? members "high" = some high)
      (hl : Denotes low l) (hh : Denotes high h) (hl128 : InBits 128 l) (hh128 : InBits 128 h) :
      Reads (.object members) (l + h * 2 ^ 128)

/-- A number above `2 ^ 53 - 1`, where not every integer is a binary64 number. -/
inductive IsOversize : Arg → Prop where
  | number {n : Int} (h : 2 ^ 53 - 1 < n) : IsOversize (.number n)
  | float {x : Binary64} (h : x.Above (2 ^ 53 - 1)) : IsOversize (.float x)

/-- A value that could stand for one of an enum: an option, a result, an object or a tuple. -/
inductive IsEnumLike : Arg → Prop where
  | optionNone : IsEnumLike .optionNone
  | optionSome (a : Arg) : IsEnumLike (.optionSome a)
  | resultOk (a : Arg) : IsEnumLike (.resultOk a)
  | resultErr (a : Arg) : IsEnumLike (.resultErr a)
  | object (members : List (String × Arg)) : IsEnumLike (.object members)
  | tuple (items : List Arg) : IsEnumLike (.tuple items)

/-- What the refusal says is true of the value, checked against the type under the name. -/
inductive Fault (decls : Declarations) (name type : String) : Arg → Refusal → Prop where
  /-- The type has no kind. -/
  | unhandledType {a : Arg} (hk : classify decls type = none) :
    Fault decls name type a (.unhandledType name type)
  /-- The type of the items has no kind. -/
  | unhandledItems {element : String} {items : List Arg}
      (hk : classify decls type = some (.array element)) (he : classify decls element = none) :
      Fault decls name type (.array items) (.unhandledType name type)
  /-- The type does not accept a value of this shape. -/
  | typeMismatch {a : Arg} (expected : String) (h : ¬ Accepts decls type a) :
    Fault decls name type a (.typeMismatch name type expected a.kindName)
  /-- A half denotes no integer. -/
  | halfMismatch {w : Width} {members : List (String × Arg)} {half : Arg} (expected : String)
      (hk : classify decls type = some (.uint w)) (hh : IsHalf members half)
      (h : ∀ n, ¬ Denotes half n) :
      Fault decls name type (.object members) (.typeMismatch name type expected half.kindName)
  /-- The integer is outside the range. -/
  | outOfRange {a : Arg} {n : Int} {label : String} (hw : label ≠ RangeLabel.halves)
      (hn : Reads a n) (h : RangeLabel.Excludes label n) :
      Fault decls name type a (.outOfRange name type label)
  /-- A half is outside the range of halves. -/
  | halfOutOfRange {w : Width} {members : List (String × Arg)} {half : Arg} {n : Int}
      (hk : classify decls type = some (.uint w)) (hh : IsHalf members half)
      (hn : Denotes half n) (h : RangeLabel.Excludes RangeLabel.halves n) :
      Fault decls name type (.object members) (.outOfRange name type RangeLabel.halves)
  /-- A number for an unsigned integer may have lost digits. -/
  | oversizeNumber {w : Width} {a : Arg} (hk : classify decls type = some (.uint w))
      (h : IsOversize a) : Fault decls name type a (.oversizeNumber name)
  /-- A declared member has no value, and those declared before it have one. -/
  | missingMember {decl : Abi.Struct} {given : List (String × Arg)}
      {before after : List Abi.Component} {m : Abi.Component}
      (hk : classify decls type = some .struct) (ht : isEthAddress type = false)
      (hd : Assoc.get? decls.structs type = some decl) (hs : decl.members = before ++ m :: after)
      (hb : ∀ c ∈ before, ∃ v, Assoc.get? given c.name = some v)
      (hm : Assoc.get? given m.name = none) :
      Fault decls name type (.object given) (.missingMember name m.name)
  /-- The enum has no such value. -/
  | unrecognizedEnum {sort : EnumSort} {a : Arg} (hk : classify decls type = some (.enum sort))
      (h : IsEnumLike a) (hf : ¬ FitsEnum sort a) :
      Fault decls name type a (.unrecognizedEnum name type a.display)

/-- The refusal states a fault of the first value, in depth-first order, that its type does not
accept. Where the items of an array can be checked, the fault is one of an item, and all items
before it are accepted. -/
inductive FirstFault (decls : Declarations) (name : String) : String → Arg → Refusal → Prop where
  | here {type : String} {a : Arg} {r : Refusal}
      (hi : ∀ element items, classify decls type = some (.array element) → a = .array items →
        classify decls element = none)
      (ha : ¬ Accepts decls type a) (h : Fault decls name type a r) :
      FirstFault decls name type a r
  | item {type element : String} {before after : List Arg} {a : Arg} {r : Refusal}
      (hk : classify decls type = some (.array element))
      (hb : ∀ b ∈ before, Accepts decls element b) (h : FirstFault decls name element a r) :
      FirstFault decls name type (.array (before ++ a :: after)) r

variable {decls : Declarations} {name type : String} {a : Arg} {r : Refusal}

/-- The items of an array are refused under the array's own name. -/
theorem FirstFault.parameter?_eq (h : FirstFault decls name type a r) :
    r.parameter? = some name := by
  induction h with
  | here _ _ h => cases h <;> rfl
  | item _ _ _ ih => exact ih

end Typing

end ContractCall
