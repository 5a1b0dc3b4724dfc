import ContractCall.Binary64.Shortest
import ContractCall.Text.Quoted

/-!
# Call arguments

An argument is a scalar (a truth value, a number, an integer of any size, a text) or composed of
arguments. A number is an integer of 128 bits or a binary64 number. The members of an object are
sorted by key, each key once; `ofMembers` builds such an object.

`display` is the argument as messages show it, `kindName` the word for its shape.
-/

namespace ContractCall

/-- A call argument. -/
inductive Arg where
  | bool (b : Bool)
  | number (n : Int)
  | float (x : Binary64)
  | bigint (n : Int)
  | text (s : String)
  | array (items : List Arg)
  | tuple (items : List Arg)
  /-- The members of a struct or the halves of a split integer, sorted by key. -/
  | object (members : List (String × Arg))
  | optionNone
  | optionSome (value : Arg)
  | resultOk (value : Arg)
  | resultErr (value : Arg)
  /-- A value of a declared enum: its variant and the payload. -/
  | variant (name : String) (payload : Arg)

namespace Arg

/-- The members, sorted by key, with a value for a key in place of the one it had. -/
def putSorted (members : List (String × Arg)) (key : String) (value : Arg) : List (String × Arg) :=
  match members with
  | [] => [(key, value)]
  | (k, v) :: rest =>
    if key < k then (key, value) :: (k, v) :: rest
    else if k = key then (k, value) :: rest
    else (k, v) :: putSorted rest key value

/-- The object with these members, of which the last with a key counts. -/
def ofMembers (members : List (String × Arg)) : Arg :=
  .object (members.foldl (fun sorted m => putSorted sorted m.1 m.2) [])

/-- An integer of 256 bits as its two halves. -/
def split (low high : Nat) : Arg :=
  ofMembers [("low", .bigint low), ("high", .bigint high)]

/-- The word for the shape of an argument. -/
def kindName : Arg → String
  | bool _ => "boolean"
  | number _ | float _ => "number"
  | bigint _ => "bigint"
  | text _ => "string"
  | array _ => "array"
  | tuple _ => "tuple"
  | object _ => "object"
  | optionNone | optionSome _ => "CairoOption"
  | resultOk _ | resultErr _ => "CairoResult"
  | variant .. => "CairoCustomEnum"

/-- The argument is not a scalar. -/
def isComposite : Arg → Bool
  | bool _ | number _ | float _ | bigint _ | text _ => false
  | _ => true

/-- A binary64 number with its shortest digits, a tie going up, and no exponent. -/
def floatText : Binary64 → String
  | .nan => "NaN"
  | .infinite negative => if negative then "-inf" else "inf"
  | .finite negative m e => (if negative then "-" else "") ++ (Binary64.shortest .up m e).positional

mutual

/-- The argument as messages show it. -/
def display : Arg → String
  | bool true => "true"
  | bool false => "false"
  | number n => Numeral.decimalInt n
  | float x => floatText x
  | bigint n => Numeral.decimalInt n ++ "n"
  | text s => Text.quote s
  | array items => "[" ++ ", ".intercalate (displayItems items) ++ "]"
  | tuple items => "(" ++ ", ".intercalate (displayItems items) ++ ")"
  | object members => "\x7b" ++ ", ".intercalate (displayMembers members) ++ "\x7d"
  | optionNone => "None"
  | optionSome v => "Some(" ++ display v ++ ")"
  | resultOk v => "Ok(" ++ display v ++ ")"
  | resultErr v => "Err(" ++ display v ++ ")"
  | variant name payload => name ++ "(" ++ display payload ++ ")"

/-- Each item as messages show it. -/
def displayItems : List Arg → List String
  | [] => []
  | v :: rest => display v :: displayItems rest

/-- Each member as messages show it. -/
def displayMembers : List (String × Arg) → List String
  | [] => []
  | (k, v) :: rest => (k ++ ": " ++ display v) :: displayMembers rest

end

mutual

/-- Equality of arguments: the same shape with the same parts. Binary64 numbers are compared by
value. -/
def same : Arg → Arg → Bool
  | bool a, bool b => a == b
  | number a, number b => a == b
  | float a, float b => a.same b
  | bigint a, bigint b => a == b
  | text a, text b => a == b
  | array a, array b => sameItems a b
  | tuple a, tuple b => sameItems a b
  | object a, object b => sameMembers a b
  | optionNone, optionNone => true
  | optionSome a, optionSome b => same a b
  | resultOk a, resultOk b => same a b
  | resultErr a, resultErr b => same a b
  | variant a v, variant b w => a == b && same v w
  | _, _ => false

/-- The lists have equal items. -/
def sameItems : List Arg → List Arg → Bool
  | [], [] => true
  | a :: as, b :: bs => same a b && sameItems as bs
  | _, _ => false

/-- The lists have equal members. -/
def sameMembers : List (String × Arg) → List (String × Arg) → Bool
  | [], [] => true
  | (k, a) :: as, (l, b) :: bs => k == l && same a b && sameMembers as bs
  | _, _ => false

end

end Arg

end ContractCall
