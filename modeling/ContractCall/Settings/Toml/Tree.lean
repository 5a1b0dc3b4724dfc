import ContractCall.Settings.Value

/-!
# Tables under construction

A TOML document builds its tables piece by piece: a header opens one, an assignment adds to the one
that is open, and both may name a path of keys. `Tree` keeps for each table how it came about, since
a table may be opened by a header only once and extended by dotted keys only where dotted keys made
it.
-/

namespace ContractCall.Settings.Toml

/-- How a table came about. -/
inductive Origin where
  /-- A header names a table inside of it. -/
  | implied
  /-- It has a header of its own. -/
  | headed
  /-- A dotted key goes through it. -/
  | dotted
deriving DecidableEq

/-- What a key stands for while the document is read. The latest of several tables under one key
comes first. -/
inductive Tree where
  | leaf (v : Value)
  | table (origin : Origin) (members : List (String × Tree))
  | tables (items : List (List (String × Tree)))
deriving Inhabited

namespace Tree

/-- The members of a table under construction. -/
abbrev Members := List (String × Tree)

/-- Changes the table to which a header's keys lead. Tables on the way that are not there yet are
made; of several tables under a key the latest is meant. A header does not lead through what dotted
keys made. -/
def update? (change : Members → Option Members) : List String → Members → Option Members
  | [], ms => change ms
  | k :: ks, ms =>
    match Assoc.get? ms k with
    | none => (update? change ks []).map fun sub => Assoc.put ms k (table .implied sub)
    | some (table origin sub) =>
      if origin = .dotted then none
      else (update? change ks sub).map fun sub => Assoc.put ms k (table origin sub)
    | some (tables (last :: before)) =>
      (update? change ks last).map fun last => Assoc.put ms k (tables (last :: before))
    | some _ => none

/-- Opens the table under a key, which must not have a header yet. -/
def open? (key : String) (ms : Members) : Option Members :=
  match Assoc.get? ms key with
  | none => some (Assoc.put ms key (table .headed []))
  | some (table .implied sub) => some (Assoc.put ms key (table .headed sub))
  | some _ => none

/-- Opens one more table under a key for several tables. -/
def openItem? (key : String) (ms : Members) : Option Members :=
  match Assoc.get? ms key with
  | none => some (Assoc.put ms key (tables [[]]))
  | some (tables items) => some (Assoc.put ms key (tables ([] :: items)))
  | some _ => none

/-- Gives a value to a dotted key, which must not have one yet. -/
def assign? (v : Value) : List String → Members → Option Members
  | [], _ => none
  | [k], ms => if (Assoc.get? ms k).isSome then none else some (Assoc.put ms k (leaf v))
  | k :: ks, ms =>
    match Assoc.get? ms k with
    | none => (assign? v ks []).map fun sub => Assoc.put ms k (table .dotted sub)
    | some (table .dotted sub) =>
      (assign? v ks sub).map fun sub => Assoc.put ms k (table .dotted sub)
    | some _ => none

mutual

/-- The finished value. -/
def value : Tree → Value
  | leaf v => v
  | table _ ms => .table (values ms)
  | tables items => .list (itemValues items).reverse

/-- The finished members. -/
def values : List (String × Tree) → List (String × Value)
  | [] => []
  | (k, t) :: rest => (k, value t) :: values rest

/-- The finished tables. -/
def itemValues : List (List (String × Tree)) → List Value
  | [] => []
  | ms :: rest => .table (values ms) :: itemValues rest

end

end Tree

end ContractCall.Settings.Toml
