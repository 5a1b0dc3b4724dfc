import ContractCall.Json.Token

/-!
# Reading JSON documents

`read?` gives the value of a document as it is written, repeated keys included. Arrays and objects
may be nested to a depth of 127.

The tokens drive a machine: its stack holds the arrays and objects that are open, and its `Expect`
says what may come next.
-/

namespace ContractCall.Json

/-- An open array with the items before the present one, or an open object with the members before
it and the present key. The latest comes first. -/
inductive Frame where
  | array (before : List Json)
  | object (before : List Member) (key : String)

/-- What may come next. -/
inductive Expect where
  /-- A value. -/
  | value
  /-- The first item of an array, or its end. -/
  | itemOrEnd
  /-- The first key of an object, or its end. -/
  | keyOrEnd
  /-- A further key of the object with these members. -/
  | key (before : List Member)
  /-- The colon behind a key. -/
  | colon (before : List Member) (key : String)
  /-- What follows a complete value. -/
  | after (v : Json)

/-- The state of the reading machine. -/
structure Progress where
  expect : Expect
  stack : List Frame

namespace Progress

/-- Nothing is read yet. -/
def start : Progress := ⟨.value, []⟩

/-- The number of arrays and objects that may be open at once. -/
def maxDepth : Nat := 127

/-- A value starts with this token. -/
def open? (stack : List Frame) : Token → Option Progress
  | .scalar v => some ⟨.after v, stack⟩
  | .openArray => if stack.length < maxDepth then some ⟨.itemOrEnd, stack⟩ else none
  | .openObject => if stack.length < maxDepth then some ⟨.keyOrEnd, stack⟩ else none
  | _ => none

/-- The state after one more token. -/
def step? : Progress → Token → Option Progress
  | ⟨.value, stack⟩, t => open? stack t
  | ⟨.itemOrEnd, stack⟩, .closeArray => some ⟨.after (.array []), stack⟩
  | ⟨.itemOrEnd, stack⟩, t => open? (.array [] :: stack) t
  | ⟨.keyOrEnd, stack⟩, .closeObject => some ⟨.after (.object []), stack⟩
  | ⟨.keyOrEnd, stack⟩, .scalar (.string k) => some ⟨.colon [] k, stack⟩
  | ⟨.key before, stack⟩, .scalar (.string k) => some ⟨.colon before k, stack⟩
  | ⟨.colon before k, stack⟩, .colon => some ⟨.value, .object before k :: stack⟩
  | ⟨.after v, .array before :: stack⟩, .comma => some ⟨.value, .array (v :: before) :: stack⟩
  | ⟨.after v, .array before :: stack⟩, .closeArray =>
    some ⟨.after (.array (v :: before).reverse), stack⟩
  | ⟨.after v, .object before k :: stack⟩, .comma => some ⟨.key ((k, v) :: before), stack⟩
  | ⟨.after v, .object before k :: stack⟩, .closeObject =>
    some ⟨.after (.object ((k, v) :: before).reverse), stack⟩
  | _, _ => none

/-- The value that has been read, if it is complete. -/
def result? : Progress → Option Json
  | ⟨.after v, []⟩ => some v
  | _ => none

end Progress

/-- The value of a document as it is written. -/
def read? (s : String) : Option Json :=
  (Token.tokens? s.toList).bind fun tokens =>
    (tokens.foldlM Progress.step? Progress.start).bind Progress.result?

/-- The value a document stands for, repeated keys resolved. -/
def parse? (s : String) : Option Json :=
  (read? s).map dedup

end ContractCall.Json
