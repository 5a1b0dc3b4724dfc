import ContractCall.Binary64.Text
import ContractCall.Settings.Value
import ContractCall.Settings.Yaml.Token.Property

/-!
# Nodes of a document

What a document means: scalars, lists and tables whose keys may be any nodes. A scalar without
quotes and tag is nothing, a truth value, an integer or a binary64 number when it is written like
one, and a text otherwise; a tag of the language asks for one of these.

`Node.value?` gives the value of settings. The special numbers are known as numbers in one spelling
and have a value in another, so that most of them have none.
-/

namespace ContractCall.Settings.Yaml

/-- What a part of a document means. -/
inductive Node where
  /-- A scalar that is not what its tag says, or an alias within the node that it stands for. -/
  | unknown
  | nothing
  | bool (b : Bool)
  | integer (n : Int)
  /-- A number as it is written. -/
  | number (text : String)
  | text (s : String)
  | list (items : List Node)
  | table (members : List (Node × Node))
deriving Inhabited

namespace Node

/-- A run of digits with at most one sign, as an integer of settings. -/
def integer? (base : Nat) (s : List Char) : Option Int :=
  (Numeral.ofSignedRun? base s).filter Value.isInteger

/-- The spellings of the special numbers. -/
def specials : List String :=
  [".inf", ".Inf", ".INF", "+.inf", "+.Inf", "+.INF", "-.inf", "-.Inf", "-.INF", ".nan", "NaN",
    ".NAN"]

/-- The text is written like a number. -/
def isNumber (s : String) : Bool :=
  specials.contains s || (Binary64.ofText? s.toList).isSome

/-- An integer with a mark for its base, with a sign of its own behind a plus sign, or a plain one.
-/
def anyInteger? (s : List Char) : Option Int :=
  let marked := match s with
    | '0' :: 'x' :: ds => integer? 16 ds
    | '0' :: 'o' :: ds => integer? 8 ds
    | '+' :: ds => integer? 10 ds
    | _ => none
  marked.or (integer? 10 s)

/-- What a scalar without quotes and tag means. -/
def ofPlain (s : String) : Node :=
  if s = "~" ∨ s = "null" then nothing
  else if s = "true" then bool true
  else if s = "false" then bool false
  else
    match anyInteger? s.toList with
    | some n => integer n
    | none => if isNumber s then number s else text s

/-- What a scalar without quotes and with a tag means. -/
def ofTagged (t : Tag) (s : String) : Node :=
  if !t.isOwn then text s
  else if t.name = "bool" then
    if s = "true" then bool true else if s = "false" then bool false else unknown
  else if t.name = "int" then ((integer? 10 s.toList).map integer).getD unknown
  else if t.name = "float" then if isNumber s then number s else unknown
  else if t.name = "null" then if s = "~" ∨ s = "null" then nothing else unknown
  else text s

/-- What a scalar means. -/
def ofScalar (isPlain : Bool) (tag : Option Tag) (s : String) : Node :=
  match isPlain, tag with
  | false, _ => text s
  | true, none => ofPlain s
  | true, some t => ofTagged t s

/-- The members of a table whose keys and values are listed in turn. Where an unknown node should be
a key, the next node is the key. -/
def pairs : List Node → List (Node × Node)
  | [] => []
  | unknown :: rest => pairs rest
  | [_] => []
  | k :: v :: rest => (k, v) :: pairs rest

/-- The text of a node that is one. -/
def text? : Node → Option String
  | text s => some s
  | _ => none

mutual

/-- The value of settings that a node gives. -/
def value? : Node → Option Value
  | unknown => some .nothing
  | nothing => some .nothing
  | bool b => some (.bool b)
  | integer n => some (.integer n)
  | number s => (Binary64.ofText? s.toList).map .float
  | text s => some (.text s)
  | list items => (values? items).map .list
  | table members => (membersFrom? [] members).map .table

/-- The values of items. -/
def values? : List Node → Option (List Value)
  | [] => some []
  | n :: rest =>
    match value? n, values? rest with
    | some v, some vs => some (v :: vs)
    | _, _ => none

/-- The members with the values of further ones. Those whose key is no text or comes again later do
not count. -/
def membersFrom? (before : List (String × Value)) : List (Node × Node) →
    Option (List (String × Value))
  | [] => some before
  | (k, n) :: rest =>
    match k.text? with
    | none => membersFrom? before rest
    | some key =>
      if rest.any fun m => m.1.text? == some key then membersFrom? before rest
      else
        match value? n with
        | some v => membersFrom? (Assoc.put before key v) rest
        | none => none

end

end Node

end ContractCall.Settings.Yaml
