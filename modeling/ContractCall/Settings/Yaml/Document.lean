import ContractCall.Settings.Yaml.Node
import ContractCall.Settings.Yaml.Token

/-!
# Documents from tokens

`Node.ofTokens?` gives the node that the tokens of a document describe. A key or a value that is
missing is nothing. An anchor names the node behind it for the aliases that follow.

The readers of nested nodes take a bound on the number of their steps.
-/

namespace ContractCall.Settings.Yaml

/-- The anchors of a document. Each has a number, since a name may be given again. -/
structure Anchors where
  count : Nat
  numbers : List (String × Nat)
  /-- The nodes that are complete. -/
  nodes : List (Nat × Node)

namespace Anchors

/-- No anchor was met yet. -/
def none : Anchors := ⟨0, [], []⟩

/-- Meets an anchor. -/
def add (a : Anchors) (name : String) : Anchors :=
  ⟨a.count + 1, Assoc.put a.numbers name a.count, a.nodes⟩

/-- The node of an anchor is complete. -/
def complete (a : Anchors) (number : Option Nat) (n : Node) : Anchors :=
  match number with
  | some i => { a with nodes := (i, n) :: a.nodes }
  | _ => a

/-- The node that an alias stands for, if there is an anchor of this name. -/
def find? (a : Anchors) (name : String) : Option Node :=
  (Assoc.get? a.numbers name).map fun i => (a.nodes.lookup i).getD .unknown

end Anchors

/-- What is written before a node: the number of its anchor and its tag. -/
structure Properties where
  number : Option Nat
  tag : Option Tag

/-- The properties at the start of the tokens, and what follows them. -/
def Properties.take (a : Anchors) : List Token → Properties × Anchors × List Token
  | .anchor name :: .tag t :: rest => (⟨some a.count, some t⟩, a.add name, rest)
  | .tag t :: .anchor name :: rest => (⟨some a.count, some t⟩, a.add name, rest)
  | .anchor name :: rest => (⟨some a.count, none⟩, a.add name, rest)
  | .tag t :: rest => (⟨none, some t⟩, a, rest)
  | ts => (⟨none, none⟩, a, ts)

/-- A node, the anchors met so far, and what follows the node. -/
abbrev Parsed := Option (Node × Anchors × List Token)

/-- A node that is not written, between these tokens. -/
def missing (a : Anchors) (ts : List Token) : Parsed :=
  some (.nothing, a, ts)

/-- No node comes before this token in a table of lines. -/
def Token.endsMember (t : Token) : Bool :=
  t == key || t == value || t == blockEnd

/-- No node comes before this token in a list of lines in the column of its key. -/
def Token.endsEntry (t : Token) : Bool :=
  t == entry || t.endsMember

/-- The tokens behind a comma. -/
def afterComma? : List Token → Option (List Token)
  | .comma :: rest => some rest
  | _ => none

/-- The next token is one of these. -/
def startsWith (which : Token → Bool) : List Token → Bool
  | [] => false
  | t :: _ => which t

mutual

/-- Reads a node, which may be one of lines or not, and may be a list in the column of its key or
not. -/
def node? : Nat → Bool → Bool → Anchors → List Token → Parsed
  | 0, _, _, _, _ => none
  | fuel + 1, block, inColumn, a, ts =>
    match ts with
    | .alias name :: rest => (a.find? name).map fun n => (n, a, rest)
    | _ =>
      let (properties, a, ts) := Properties.take a ts
      match content? fuel block inColumn properties a ts with
      | some (n, a, rest) => some (n, a.complete properties.number n, rest)
      | none => none

/-- Reads a node behind its properties. With properties the node itself may be missing; then it is
an empty scalar. -/
def content? : Nat → Bool → Bool → Properties → Anchors → List Token → Parsed
  | 0, _, _, _, _, _ => none
  | fuel + 1, block, inColumn, properties, a, ts =>
    match ts, block, inColumn with
    | .entry :: _, _, true => entries? fuel [] a ts
    | .scalar isPlain s :: rest, _, _ => some (.ofScalar isPlain properties.tag s, a, rest)
    | .listStart :: rest, _, _ => items? fuel true [] a rest
    | .tableStart :: rest, _, _ => members? fuel true [] a rest
    | .blockList :: rest, true, _ => blockItems? fuel [] a rest
    | .blockTable :: rest, true, _ => blockMembers? fuel [] a rest
    | ts, _, _ =>
      if properties.number.isSome || properties.tag.isSome then
        some (.ofScalar true properties.tag "", a, ts)
      else none

/-- Reads the further items of a list in the column of its key. -/
def entries? : Nat → List Node → Anchors → List Token → Parsed
  | 0, _, _, _ => none
  | fuel + 1, before, a, ts =>
    match ts with
    | .entry :: rest =>
      match if startsWith Token.endsEntry rest then missing a rest
          else node? fuel true false a rest with
      | some (n, a, rest) => entries? fuel (n :: before) a rest
      | none => none
    | ts => some (.list before.reverse, a, ts)

/-- Reads the further items of a list of lines. -/
def blockItems? : Nat → List Node → Anchors → List Token → Parsed
  | 0, _, _, _ => none
  | fuel + 1, before, a, ts =>
    match ts with
    | .blockEnd :: rest => some (.list before.reverse, a, rest)
    | .entry :: rest =>
      match if startsWith (fun t => t == .entry || t == .blockEnd) rest then missing a rest
          else node? fuel true false a rest with
      | some (n, a, rest) => blockItems? fuel (n :: before) a rest
      | none => none
    | _ => none

/-- Reads a key or a value of a table of lines, which may be missing. -/
def blockPart? : Nat → Anchors → List Token → Parsed
  | 0, _, _ => none
  | fuel + 1, a, ts =>
    if startsWith Token.endsMember ts then missing a ts else node? fuel true true a ts

/-- Reads the further members of a table of lines. The keys and values before are given from the
last to the first. -/
def blockMembers? : Nat → List Node → Anchors → List Token → Parsed
  | 0, _, _, _ => none
  | fuel + 1, before, a, ts =>
    match ts with
    | .blockEnd :: rest => some (.table (Node.pairs before.reverse), a, rest)
    | .key :: rest =>
      match blockPart? fuel a rest with
      | some (k, a, rest) => blockValue? fuel (k :: before) a rest
      | none => none
    | .value :: _ => blockValue? fuel (.nothing :: before) a ts
    | _ => none

/-- Reads the value behind a key and the further members. -/
def blockValue? : Nat → List Node → Anchors → List Token → Parsed
  | 0, _, _, _ => none
  | fuel + 1, before, a, ts =>
    match ts with
    | .value :: rest =>
      match blockPart? fuel a rest with
      | some (v, a, rest) => blockMembers? fuel (v :: before) a rest
      | none => none
    | ts => blockMembers? fuel (.nothing :: before) a ts

/-- Reads the further items of a list in brackets, at its start or behind an item. -/
def items? : Nat → Bool → List Node → Anchors → List Token → Parsed
  | 0, _, _, _, _ => none
  | fuel + 1, isFirst, before, a, ts =>
    match if isFirst || startsWith (· == .listEnd) ts then some ts else afterComma? ts with
    | some (.listEnd :: rest) => some (.list before.reverse, a, rest)
    | some (.key :: rest) =>
      match pair? fuel a rest with
      | some (n, a, rest) => items? fuel false (n :: before) a rest
      | none => none
    | some ts =>
      match node? fuel false false a ts with
      | some (n, a, rest) => items? fuel false (n :: before) a rest
      | none => none
    | none => none

/-- Reads an item that is a key and its value: a table of one member. Where the key is missing, the
token in its place is passed over. -/
def pair? : Nat → Anchors → List Token → Parsed
  | 0, _, _ => none
  | fuel + 1, a, ts =>
    match if startsWith (fun t => t == .value || t == .comma || t == .listEnd) ts then
        missing a (ts.drop 1) else node? fuel false false a ts with
    | some (k, a, .value :: rest) =>
      match if startsWith (fun t => t == .comma || t == .listEnd) rest then missing a rest
          else node? fuel false false a rest with
      | some (v, a, rest) => some (.table (Node.pairs [k, v]), a, rest)
      | none => none
    | some (k, a, rest) => some (.table (Node.pairs [k, .nothing]), a, rest)
    | none => none

/-- Reads the further members of a table in braces, at its start or behind a member. -/
def members? : Nat → Bool → List Node → Anchors → List Token → Parsed
  | 0, _, _, _, _ => none
  | fuel + 1, isFirst, before, a, ts =>
    match if isFirst || startsWith (· == .tableEnd) ts then some ts else afterComma? ts with
    | some (.tableEnd :: rest) => some (.table (Node.pairs before.reverse), a, rest)
    | some (.key :: rest) =>
      match if startsWith (fun t => t == .value || t == .comma || t == .tableEnd) rest then
          missing a rest else node? fuel false false a rest with
      | some (k, a, rest) => memberValue? fuel (k :: before) a rest
      | none => none
    | some (.value :: rest) => memberValue? fuel (.nothing :: before) a (.value :: rest)
    | some ts =>
      match node? fuel false false a ts with
      | some (k, a, rest) => members? fuel false (.nothing :: k :: before) a rest
      | none => none
    | none => none

/-- Reads the value behind a key and the further members. -/
def memberValue? : Nat → List Node → Anchors → List Token → Parsed
  | 0, _, _, _ => none
  | fuel + 1, before, a, ts =>
    match ts with
    | .value :: rest =>
      match if startsWith (fun t => t == .comma || t == .tableEnd) rest then missing a rest
          else node? fuel false false a rest with
      | some (v, a, rest) => members? fuel false (v :: before) a rest
      | none => none
    | ts => members? fuel false (.nothing :: before) a ts

end

namespace Node

/-- A token that belongs to no node. -/
def isOutside (t : Token) : Bool :=
  t == .directive || t == .documentStart || t == .documentEnd

/-- The node at the start of a document, and what follows it. Directives come with a mark behind
them, and behind a mark there may be no node. -/
def first? (ts : List Token) : Option (Node × List Token) :=
  let read (ts : List Token) :=
    (node? (4 * ts.length + 4) true false .none ts).map fun (n, _, rest) => (n, rest)
  if startsWith (fun t => t == .directive || t == .documentStart) ts then
    match ts.dropWhile (· == .directive) with
    | .documentStart :: rest =>
      if rest.isEmpty || startsWith isOutside rest then some (nothing, rest) else read rest
    | _ => none
  else read ts

/-- The node of a document. No tokens describe nothing, and a second document is too much. -/
def ofTokens? (ts : List Token) : Option Node :=
  if ts.isEmpty then some nothing
  else
    match first? ts with
    | some (n, rest) => if rest.all (· == .documentEnd) then some n else none
    | none => none

end Node

end ContractCall.Settings.Yaml
