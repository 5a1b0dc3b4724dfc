import ContractCall.Settings.Toml.Literal
import ContractCall.Settings.Toml.Quoted
import ContractCall.Settings.Toml.Tree

/-!
# TOML documents

`read?` gives the members of a TOML document: assignments of values to keys, gathered under the
headers of their tables. A key is a bare word or a string, and dots make a path of several. Values
are strings, numbers, truth values, dates, arrays and tables in braces. A key given twice, a table
opened twice and anything else out of order make the document unreadable.

The readers of nested values take a bound on their depth, for which the length of the text is
enough.
-/

namespace ContractCall.Settings.Toml

/-- The text without a comment at its start. -/
def skipComment : List Char → List Char
  | '#' :: rest => rest.dropWhile isPlain
  | s => s

/-- What follows when nothing but a comment stands before the end of the line. -/
def lineEnd? (s : List Char) : Option (List Char) :=
  match skipComment (skipSpace s) with
  | [] => some []
  | '\n' :: rest => some rest
  | _ => none

/-- The text without the white space, line ends and comments at its start. -/
def skipGaps (inComment : Bool) : List Char → List Char
  | [] => []
  | c :: rest =>
    if c = '\n' then skipGaps false rest
    else if inComment ∧ isPlain c then skipGaps true rest
    else if isSpace c then skipGaps false rest
    else if c = '#' then skipGaps true rest
    else c :: rest

/-- The character may stand in a bare key. -/
def isBare (c : Char) : Bool :=
  c.isAlphanum || c == '_' || c == '-'

/-- A key at the start of the text, and what follows it. -/
def key? (s : List Char) : Option (String × List Char) :=
  match shortString? s with
  | some found => some found
  | none =>
    let word := s.takeWhile isBare
    if word.isEmpty then none else some (String.ofList word, s.dropWhile isBare)

/-- A path of keys with dots between them, and what follows it. -/
def path? : Nat → List Char → Option (List String × List Char)
  | 0, _ => none
  | fuel + 1, s =>
    match key? (skipSpace s) with
    | none => none
    | some (k, rest) =>
      match skipSpace rest with
      | '.' :: rest => (path? fuel rest).map fun (ks, rest) => (k :: ks, rest)
      | rest => some ([k], rest)

/-- The character may stand in a number or a word. -/
def isLiteralChar (c : Char) : Bool :=
  isBare c || c == '+' || c == '.' || c == ':'

/-- The length of the number, date or word at the start of the text. Between a day and a time there
may be a space. -/
def literalLength (s : List Char) : Nat :=
  let day := (s.takeWhile isBare).length
  match Date.isDay (s.take day), s.drop day with
  | true, ' ' :: rest =>
    if (rest.takeWhile isBare).isEmpty then day else day + 1 + (rest.takeWhile isLiteralChar).length
  | _, _ => (s.takeWhile isLiteralChar).length

/-- A number, date or word at the start of the text, and what follows it. -/
def scalar? (s : List Char) : Option (Value × List Char) :=
  (literal? (s.take (literalLength s))).map fun v => (v, s.drop (literalLength s))

mutual

/-- A value at the start of the text, and what follows it. -/
def value? : Nat → List Char → Option (Value × List Char)
  | 0, _ => none
  | fuel + 1, s =>
    match s with
    | '[' :: rest => items? fuel [] (skipGaps false rest)
    | '\x7b' :: rest =>
      match skipSpace rest with
      | '\x7d' :: rest => some (.table [], rest)
      | rest => members? fuel [] rest
    | _ =>
      match string? s with
      | some (text, rest) => some (.text text, rest)
      | none => scalar? s

/-- The further items of an array, up to its end. Those before them are given from the last to the
first. -/
def items? : Nat → List Value → List Char → Option (Value × List Char)
  | 0, _, _ => none
  | _ + 1, before, ']' :: rest => some (.list before.reverse, rest)
  | fuel + 1, before, s =>
    match value? fuel s with
    | none => none
    | some (v, rest) =>
      match skipGaps false rest with
      | ',' :: rest => items? fuel (v :: before) (skipGaps false rest)
      | ']' :: rest => some (.list (v :: before).reverse, rest)
      | _ => none

/-- The further members of a table in braces, up to its end, after those before them. -/
def members? : Nat → Tree.Members → List Char → Option (Value × List Char)
  | 0, _, _ => none
  | fuel + 1, before, s =>
    match assignment? fuel s with
    | none => none
    | some ((path, v), rest) =>
      match Tree.assign? v path before with
      | none => none
      | some ms =>
        match skipSpace rest with
        | ',' :: rest => members? fuel ms rest
        | '\x7d' :: rest => some (.table (Tree.values ms), rest)
        | _ => none

/-- A path of keys and the value assigned to it at the start of the text, and what follows. -/
def assignment? : Nat → List Char → Option ((List String × Value) × List Char)
  | 0, _ => none
  | fuel + 1, s =>
    match path? s.length s with
    | some (path, '=' :: rest) =>
      (value? fuel (skipSpace rest)).map fun (v, rest) => ((path, v), rest)
    | _ => none

end

/-- A document while it is read: its members, and the keys that lead to the open table. -/
structure Draft where
  root : Tree.Members
  place : List String

namespace Draft

/-- Opens the table to which a path leads, as `change` opens one under the last key. -/
def open? (change : String → Tree.Members → Option Tree.Members) (d : Draft) (path : List String) :
    Option Draft :=
  match path.getLast? with
  | none => none
  | some key => (Tree.update? (change key) path.dropLast d.root).map fun root => ⟨root, path⟩

/-- Gives a value to a path of keys in the open table. -/
def assign? (d : Draft) (path : List String) (v : Value) : Option Draft :=
  (Tree.update? (Tree.assign? v path) d.place d.root).map fun root => ⟨root, d.place⟩

/-- Reads a line that is not empty and gives what follows its last part. -/
def statement? (d : Draft) (s : List Char) : Option (Draft × List Char) :=
  match s with
  | '[' :: '[' :: rest =>
    match path? rest.length rest with
    | some (path, ']' :: ']' :: rest) => (d.open? Tree.openItem? path).map fun d => (d, rest)
    | _ => none
  | '[' :: rest =>
    match path? rest.length rest with
    | some (path, ']' :: rest) => (d.open? Tree.open? path).map fun d => (d, rest)
    | _ => none
  | s =>
    match assignment? (2 * s.length + 2) s with
    | some ((path, v), rest) => (d.assign? path v).map fun d => (d, rest)
    | none => none

/-- Reads the statements of a text, each on a line of its own. -/
def statements? (d : Draft) : Nat → List Char → Option Draft
  | 0, _ => none
  | fuel + 1, s =>
    match skipGaps false s with
    | [] => some d
    | s =>
      match d.statement? s with
      | none => none
      | some (d, rest) =>
        match lineEnd? rest with
        | none => none
        | some rest => statements? d fuel rest

end Draft

/-- The members of a document, unless it cannot be read. -/
def read? (text : String) : Option (List (String × Value)) :=
  let s := foldLineEnds text.toList
  (Draft.statements? ⟨[], []⟩ (s.length + 1) s).map fun d => Tree.values d.root

end ContractCall.Settings.Toml
