import ContractCall.Settings.Characters

/-!
# Characters in their places

A document is read as the list of its characters, each with its place: how many characters, line
feeds, and characters since the last line feed come before it. A line ends at a line feed or at a
carriage return, and a carriage return in front of a line feed is part of it. A NUL ends the
document.
-/

namespace ContractCall.Settings.Yaml

/-- A character and its place. -/
structure Placed where
  char : Char
  index : Nat
  line : Nat
  column : Nat

/-- The characters of a text that starts at this place. -/
def placedFrom (index line column : Nat) : List Char → List Placed
  | [] => []
  | c :: rest =>
    ⟨c, index, line, column⟩ ::
      if c = '\n' then placedFrom (index + 1) (line + 1) 0 rest
      else placedFrom (index + 1) line (column + 1) rest

/-- The characters of a document. -/
def source (text : String) : List Placed :=
  placedFrom 0 0 0 (foldLineEnds (text.toList.takeWhile (· != '\x00')))

/-- The character ends a line. -/
def isBreak (c : Char) : Bool :=
  c == '\n' || c == '\r'

/-- The character is white space. -/
def isGap (c : Char) : Bool :=
  isSpace c || isBreak c

/-- The character parts the members of a list in brackets or a table in braces. -/
def isFlowMark (c : Char) : Bool :=
  [',', '[', ']', '\x7b', '\x7d'].contains c

/-- The character may stand in the name of an anchor or a tag. -/
def isNameChar (c : Char) : Bool :=
  c.isAlphanum || c == '_' || c == '-'

/-- White space or the end of the document comes next. -/
def atGap : List Placed → Bool
  | [] => true
  | p :: _ => isGap p.char

/-- The next character is one of these. -/
def isNext (which : Char → Bool) : List Placed → Bool
  | [] => false
  | p :: _ => which p.char

/-- A line starts here with three times this character and then white space: the mark between
documents. -/
def isMark (mark : Char) : List Placed → Bool
  | p :: q :: r :: rest =>
    p.column == 0 && p.char == mark && q.char == mark && r.char == mark && atGap rest
  | _ => false

/-- A mark between documents stands here. -/
def atMark (s : List Placed) : Bool :=
  isMark '-' s || isMark '.' s

/-- The name at the start, and what follows it. -/
def name (s : List Placed) : List Char × List Placed :=
  ((s.takeWhile fun p => isNameChar p.char).map Placed.char, s.dropWhile fun p => isNameChar p.char)

/-- What follows the spaces and tabs at the start. -/
def skipSpaces (s : List Placed) : List Placed :=
  s.dropWhile fun p => isSpace p.char

/-- What follows the line when nothing but a comment is left of it. -/
def lineEnd? (s : List Placed) : Option (List Placed) :=
  let s := skipSpaces s
  match if isNext (· == '#') s then s.dropWhile fun p => !isBreak p.char else s with
  | [] => some []
  | p :: rest => if isBreak p.char then some rest else none

/-! ### Gaps within a scalar -/

/-- White space within a scalar. -/
inductive Gap where
  | none
  /-- Spaces and tabs, from the last to the first. -/
  | spaces (cs : List Char)
  /-- A line end, which counts as a space or as nothing, and further ones. -/
  | breaks (isSpace : Bool) (more : Nat)

namespace Gap

/-- The gap with one more character of white space. -/
def add (c : Char) : Gap → Gap
  | none => if isBreak c then breaks true 0 else spaces [c]
  | spaces cs => if isBreak c then breaks true 0 else spaces (c :: cs)
  | breaks space more => breaks space (if isBreak c then more + 1 else more)

/-- What the gap means within a scalar, from the last character to the first: of several line ends
the first means nothing, and white space around line ends neither. -/
def text : Gap → List Char
  | none => []
  | spaces cs => cs
  | breaks true 0 => [' ']
  | breaks _ more => List.replicate more '\n'

/-- There is a line end in the gap. -/
def hasBreak : Gap → Bool
  | breaks .. => true
  | _ => false

/-- There is white space. -/
def isSome : Gap → Bool
  | none => false
  | _ => true

end Gap

end ContractCall.Settings.Yaml
