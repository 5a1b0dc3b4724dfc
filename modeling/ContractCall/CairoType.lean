import ContractCall.Abi

/-!
# Type strings

An ABI gives types as text, such as `core::integer::u256`, `(core::felt252, core::bool)` or
`core::array::Array::<core::felt252>`. The predicates recognise each kind of type by its text or,
for structs and enums, by the declarations of the ABI. They overlap; `classify` resolves that in the
order felt, unsigned integer, literal, bool, array, struct, enum, tuple.

`elementType` gives the type of an array's items.
-/

namespace ContractCall

/-- The structs and enums that an ABI declares, by name. -/
structure Declarations where
  structs : List (String × Abi.Struct)
  enums : List (String × Abi.Enum)

namespace CairoType

/-- The unsigned integer types. -/
inductive Width where
  | u8
  | u16
  | u32
  | u64
  | u128
  | u256
deriving DecidableEq

namespace Width

/-- All widths, the narrowest first. -/
def all : List Width := [u8, u16, u32, u64, u128, u256]

/-- The type string. -/
def typeName : Width → String
  | u8 => "core::integer::u8"
  | u16 => "core::integer::u16"
  | u32 => "core::integer::u32"
  | u64 => "core::integer::u64"
  | u128 => "core::integer::u128"
  | u256 => "core::integer::u256"

/-- The number of bits. -/
def bits : Width → Nat
  | u8 => 8
  | u16 => 16
  | u32 => 32
  | u64 => 64
  | u128 => 128
  | u256 => 256

/-- The range of values as messages show it. -/
def rangeLabel : Width → String
  | u8 => "[0, 255]"
  | u16 => "[0, 65535]"
  | u32 => "[0, 4294967295]"
  | u64 => "[0, 2^64-1]"
  | u128 => "[0, 2^128-1]"
  | u256 => "[0, 2^256-1]"

/-- The width of a type string. -/
def ofType? (type : String) : Option Width :=
  all.find? fun w => w.typeName == type

end Width

/-- The types whose values range as those of a felt. -/
inductive Literal where
  | classHash
  | contractAddress
deriving DecidableEq

/-- The literal type of a type string. -/
def Literal.ofType? (type : String) : Option Literal :=
  if type = "core::starknet::class_hash::ClassHash" then some classHash
  else if type = "core::starknet::contract_address::ContractAddress" then some contractAddress
  else none

/-- The sorts of declared enums. -/
inductive EnumSort where
  | option
  | result
  | custom
deriving DecidableEq

/-- The kinds of types. -/
inductive Kind where
  | felt
  | uint (width : Width)
  | literal (which : Literal)
  | bool
  /-- An array with the type of its items. -/
  | array (element : String)
  | struct
  | enum (sort : EnumSort)
  | tuple
deriving DecidableEq

/-- The text starts with another one. -/
def startsWith (text : String) (start : String) : Bool :=
  start.toList.isPrefixOf text.toList

/-- Two colons stand next to each other. -/
def hasPathMark : List Char → Bool
  | ':' :: ':' :: _ => true
  | _ :: rest => hasPathMark rest
  | [] => false

/-- The type is a field element. -/
def isFelt (type : String) : Bool :=
  type == "felt" || type == "core::felt252"

/-- The type is an unsigned integer. -/
def isUint (type : String) : Bool :=
  (Width.ofType? type).isSome

/-- The type is the unsigned integer of 256 bits. -/
def isUint256 (type : String) : Bool :=
  type == Width.u256.typeName

/-- The type is a literal. -/
def isLiteral (type : String) : Bool :=
  (Literal.ofType? type).isSome

/-- The type is a truth value. -/
def isBool (type : String) : Bool :=
  type == "core::bool"

/-- The type is an array: a pointer with a star, an `Array` or a `Span`. -/
def isArray (type : String) : Bool :=
  type.toList.contains '*' || startsWith type "core::array::Array::" ||
    startsWith type "core::array::Span::"

/-- The type is a declared struct. -/
def isStruct (type : String) (decls : Declarations) : Bool :=
  (Assoc.get? decls.structs type).isSome

/-- The type is a declared enum. -/
def isEnum (type : String) (decls : Declarations) : Bool :=
  (Assoc.get? decls.enums type).isSome

/-- The type is an `Option`. -/
def isOption (type : String) : Bool :=
  startsWith type "core::option::Option::"

/-- The type is a `Result`. -/
def isResult (type : String) : Bool :=
  startsWith type "core::result::Result::"

/-- The type is parenthesised. -/
def isTuple (type : String) : Bool :=
  type.toList.head? == some '(' && type.toList.getLast? == some ')'

/-- The type is an Ethereum address. -/
def isEthAddress (type : String) : Bool :=
  type == "core::starknet::eth_address::EthAddress"

/-- The type is qualified by a path, as all types of the later ABI generations are. -/
def isQualified (type : String) : Bool :=
  hasPathMark type.toList

/-- The name is that of a parameter which holds the length of the array after it. -/
def isLength (name : String) : Bool :=
  "_len".toList.isSuffixOf name.toList

/-- What stands between the first opening and the last closing angle bracket, and nothing where they
do not enclose a text. -/
def betweenBrackets (s : List Char) : List Char :=
  let opened := (s.dropWhile (· != '<')).drop 1
  ((opened.reverse.dropWhile (· != '>')).drop 1).reverse

/-- The type of an array's items: the argument of an `Array` or `Span`, or a pointer type without
its first star. -/
def elementType (type : String) : String :=
  String.ofList <|
    if isQualified type then betweenBrackets type.toList else type.toList.erase '*'

/-- The kind of a type, none for an unsupported one. -/
def classify (decls : Declarations) (type : String) : Option Kind :=
  if isFelt type then some .felt
  else if let some width := Width.ofType? type then some (.uint width)
  else if let some which := Literal.ofType? type then some (.literal which)
  else if isBool type then some .bool
  else if isArray type then some (.array (elementType type))
  else if isStruct type decls then some .struct
  else if isEnum type decls then
    some (.enum (if isOption type then .option else if isResult type then .result else .custom))
  else if isTuple type then some .tuple
  else none

theorem Width.ofType?_typeName (w : Width) : Width.ofType? w.typeName = some w := by
  cases w <;> decide

end CairoType

end ContractCall
