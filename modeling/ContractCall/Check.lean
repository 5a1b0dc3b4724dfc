import ContractCall.Arg
import ContractCall.CairoType
import ContractCall.Refusal
import ContractCall.ShortText
import ContractCall.Split

/-!
# Checking arguments

`value` checks an argument against a type string, `args` checks the arguments of a call against the
declared inputs of a function. Both stop at the first fault.

Each input whose name does not end in `_len` is a slot and takes one argument, by position. The
items of an array are checked one by one, at every depth; the members of a struct must be present,
and those of a tuple are not looked at.
-/

namespace ContractCall

/-- The inputs that take an argument. -/
def Abi.Signature.slots (f : Abi.Signature) : List Abi.Param :=
  f.inputs.filter fun p => !CairoType.isLength p.name

namespace Check

open CairoType

/-- The outcome of a check. -/
abbrev Verdict := Except Refusal Unit

/-- The largest integer up to which every integer is a binary64 number. -/
def maxSafe : Nat := 2 ^ 53 - 1

/-- The largest value of a type, with its range as messages show it. -/
structure Bound where
  max : Nat
  label : String

namespace Bound

/-- The range of a felt. -/
def felt : Bound := ⟨2 ^ 252 - 1, "[0, 2^252-1]"⟩

/-- The range of an unsigned integer type. -/
def uint (w : Width) : Bound := ⟨2 ^ w.bits - 1, w.rangeLabel⟩

/-- The range of an Ethereum address. -/
def ethAddress : Bound := ⟨2 ^ 160 - 1, "[0, 2^160-1]"⟩

/-- The integer lies in the range. -/
def contains (b : Bound) (n : Int) : Bool :=
  decide (0 ≤ n) && decide (n ≤ b.max)

end Bound

/-- What messages call the forms of an integer. -/
def bigNumberish : String := "String, Number or BigInt"

/-- The integer that a scalar denotes. A binary64 number denotes none. -/
def integer? : Arg → Option Int
  | .number n => some n
  | .bigint n => some n
  | .text s => Numeral.integer? s
  | _ => none

/-- The integer lies in the range. -/
def bound (n : Int) (name type : String) (b : Bound) : Verdict :=
  if b.contains n then .ok () else .error (.outOfRange name type b.label)

/-- The integer that the argument denotes, which the type needs. -/
def integer (name type expected : String) (arg : Arg) : Except Refusal Int :=
  match integer? arg with
  | some n => .ok n
  | none => .error (.typeMismatch name type expected arg.kindName)

/-- The argument is text other than a hexadecimal numeral. -/
def isPlainText : Arg → Bool
  | .text s => !Numeral.isHex s
  | _ => false

/-- The argument is text too long for one field element. -/
def isLongText : Arg → Bool
  | .text s => ShortText.isLong s
  | _ => false

/-- A felt is text that is no hexadecimal numeral, or an integer in range. -/
def felt (name type : String) (arg : Arg) : Verdict :=
  if isPlainText arg then .ok ()
  else do
    let n ← integer name type bigNumberish arg
    bound n name type .felt

/-- The argument is a number that may have lost digits. -/
def isOversize : Arg → Bool
  | .number n => decide ((maxSafe : Int) < n)
  | .float x => x.exceeds maxSafe
  | _ => false

/-- A half of a split integer. -/
def half (name type : String) (arg : Arg) : Except Refusal Int := do
  let n ← integer name type bigNumberish arg
  if Split.fitsHalf n then .ok n
  else .error (.outOfRange name type "[0, 2^128-1] for low and high")

/-- The integer of a split or whole form. -/
def wholeOrSplit (name type : String) : Arg → Except Refusal Int
  | .object members =>
    match Assoc.get? members "low", Assoc.get? members "high" with
    | some low, some high => do
      let low ← half name type low
      let high ← half name type high
      .ok (Split.combine low high)
    | _, _ =>
      .error (.typeMismatch name type "String, Number, BigInt or \x7blow, high\x7d"
        (Arg.object members).kindName)
  | arg => integer name type bigNumberish arg

/-- An unsigned integer is an integer in range, whole or as the members `low` and `high` of an
object, and no number that may have lost digits. -/
def uint (name type : String) (b : Bound) (arg : Arg) : Verdict :=
  if isOversize arg then .error (.oversizeNumber name)
  else do
    let n ← wholeOrSplit name type arg
    bound n name type b

/-- A truth value. -/
def bool (name type : String) : Arg → Verdict
  | .bool _ => .ok ()
  | arg => .error (.typeMismatch name type "Boolean" arg.kindName)

/-- An Ethereum address is an integer of 160 bits. -/
def ethAddress (name type : String) (arg : Arg) : Verdict := do
  let n ← integer name type "BigNumberish" arg
  bound n name type .ethAddress

/-- Every declared member has a value. -/
def members (name : String) (given : List (String × Arg)) : List Abi.Component → Verdict
  | [] => .ok ()
  | m :: rest =>
    if (Assoc.get? given m.name).isSome then members name given rest
    else .error (.missingMember name m.name)

/-- A struct is an object with every declared member, whatever the members' values. An Ethereum
address is declared as a struct and given as an integer. -/
def struct (decls : Declarations) (name type : String) (arg : Arg) : Verdict :=
  if isUint256 type then uint name type (.uint .u256) arg
  else if isEthAddress type then ethAddress name type arg
  else
    match arg with
    | .object given =>
      match Assoc.get? decls.structs type with
      | some decl => members name given decl.members
      | none => .error (.unhandledType name type)
    | arg => .error (.typeMismatch name type "object, not array" arg.kindName)

/-- An option is a value of an option type, a result of a result type, and a variant with a payload
of every enum type. -/
def enum (name type : String) (sort : EnumSort) (arg : Arg) : Verdict :=
  match arg, sort with
  | .optionNone, .option | .optionSome _, .option => .ok ()
  | .resultOk _, .result | .resultErr _, .result => .ok ()
  | .variant .., _ => .ok ()
  | .optionNone, _ | .optionSome _, _ | .resultOk _, _ | .resultErr _, _ | .object _, _
  | .tuple _, _ => .error (.unrecognizedEnum name type arg.display)
  | _, _ => .error (.typeMismatch name type "Enum object, not array" arg.kindName)

/-- A tuple is a tuple or an object. -/
def tuple (name type : String) : Arg → Verdict
  | .object _ | .tuple _ => .ok ()
  | arg => .error (.typeMismatch name type "tuple defined as object" arg.kindName)

mutual

/-- Checks an argument against a type of this kind. A long text stands for an array of felts. -/
def kind (decls : Declarations) (name type : String) (k : Kind) (arg : Arg) : Verdict :=
  match k with
  | .felt => felt name type arg
  | .literal _ => felt name type arg
  | .uint w => uint name type (.uint w) arg
  | .bool => bool name type arg
  | .struct => struct decls name type arg
  | .enum sort => enum name type sort arg
  | .tuple => tuple name type arg
  | .array element =>
    if isFelt element && isLongText arg then .ok ()
    else
      match arg with
      | .array given =>
        match classify decls element with
        | some k => items decls name element k given
        | none => .error (.unhandledType name type)
      | arg => .error (.typeMismatch name type "Array" arg.kindName)

/-- Checks each item against a type of this kind. -/
def items (decls : Declarations) (name type : String) (k : Kind) : List Arg → Verdict
  | [] => .ok ()
  | arg :: rest => do
    kind decls name type k arg
    items decls name type k rest

end

/-- Checks an argument against a type. -/
def value (decls : Declarations) (name type : String) (arg : Arg) : Verdict :=
  match classify decls type with
  | some k => kind decls name type k arg
  | none => .error (.unhandledType name type)

/-- Checks the arguments from a position on against the remaining slots. Further arguments are
ignored. -/
def slots (decls : Declarations) (position : Nat) : List Abi.Param → List Arg → Verdict
  | [], _ => .ok ()
  | p :: _, [] => .error (.missingArgument p.name position)
  | p :: rest, arg :: further => do
    value decls p.name p.type arg
    slots decls (position + 1) rest further

/-- Checks the arguments of a call of a function. -/
def args (decls : Declarations) (f : Abi.Signature) (given : List Arg) : Verdict :=
  slots decls 0 f.slots given

end Check

end ContractCall
