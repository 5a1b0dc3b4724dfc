import ContractCall.Settings.Value
import ContractCall.Text.Pieces

/-!
# Places in settings

A key of the outermost table may name a place further inside: `logging.level` is the member `level`
of the table `logging`, and `logging[0]` the first item of a list. `resolve` puts every value at its
place. Tables that come to the same place are merged, member by member; a value that stands in the
way of a place gives way to a table or a list.
-/

namespace ContractCall.Settings

/-- A step from a value to one inside of it. -/
inductive Step where
  | member (key : String)
  /-- The item with this index, which counts from the end when it is negative. -/
  | item (index : Int)
deriving DecidableEq

namespace Step

/-- The character may stand in a name. -/
def isNameChar (c : Char) : Bool :=
  c.isAlphanum || c == ' ' || c == '_' || c == '-'

/-- The character is white space around an index. -/
def isGap (c : Char) : Bool :=
  c == ' ' || c == '\t'

/-- The text without white space at its ends. -/
def strip (s : List Char) : List Char :=
  ((s.dropWhile isGap).reverse.dropWhile isGap).reverse

/-- The index that a text between brackets gives. -/
def index? (s : List Char) : Option Int :=
  let n? := match strip s with
    | '-' :: digits => (Numeral.ofRun? 10 digits).map fun n => -(n : Int)
    | digits => (Numeral.ofRun? 10 digits).map fun n => (n : Int)
  n?.filter Value.isInteger

/-- The steps to items that follow a name, in brackets of their own. -/
def items? : List (List Char) → Option (List Step)
  | [] => none
  | [[]] => some []
  | [_] => none
  | piece :: rest =>
    match piece with
    | '[' :: s => (index? s).bind fun i => (items? rest).map (item i :: ·)
    | _ => none

/-- The steps that a part of a key between points names: a name, and perhaps indices. -/
def ofPart? (s : List Char) : Option (List Step) :=
  let name := s.takeWhile isNameChar
  if name.isEmpty then none
  else (items? (Text.pieces ']' (s.dropWhile isNameChar))).map
    (member (String.ofList name) :: ·)

/-- The steps to the place that a key names. A key that is not made of such parts names itself. -/
def ofKey (key : String) : List Step :=
  match (Text.pieces '.' key.toList).mapM ofPart? with
  | some parts => parts.flatten
  | none => [member key]

end Step

namespace Value

/-- The items of a list, and none of any other value. -/
def items : Value → List Value
  | list vs => vs
  | _ => []

mutual

/-- A value that comes to the place of another. A table is merged into it. -/
def mergedInto (old : Option Value) : Value → Value
  | table [] => old.getD (table [])
  | table new => table (mergedMembers ((old.map members).getD []) new)
  | v => v

/-- The members with further ones merged into them. -/
def mergedMembers (old : List (String × Value)) : List (String × Value) → List (String × Value)
  | [] => old
  | (k, v) :: rest => mergedMembers (Assoc.put old k (v.mergedInto (Assoc.get? old k))) rest

end

/-- The position of an index in a list of so many items. -/
def position (length : Nat) : Int → Nat
  | .ofNat i => i
  | .negSucc i => length - (i + 1)

/-- The items with one of them changed. The list grows to hold it. -/
def changeItem (items : List Value) (i : Nat) (change : Value → Value) : List Value :=
  let items := items ++ List.replicate (i + 1 - items.length) nothing
  items.set i (change (items.getD i nothing))

/-- The value with another one at a place. -/
def setAt (new : Value) : List Step → Value → Value
  | [], _ => new
  | [.member k], v => table (Assoc.put v.members k (new.mergedInto (Assoc.get? v.members k)))
  | .member k :: steps, v =>
    table (Assoc.put v.members k (setAt new steps ((Assoc.get? v.members k).getD nothing)))
  | .item i :: steps, v =>
    list (changeItem v.items (position v.items.length i) (setAt new steps))

end Value

/-- The members with every value at the place that its key names. -/
def resolve (given : List (String × Value)) : List (String × Value) :=
  let document := given.foldl (fun v m => Value.setAt m.2 (Step.ofKey m.1) v) (Value.table [])
  document.members

end ContractCall.Settings
