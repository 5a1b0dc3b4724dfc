import ContractCall.Settings.Yaml.Source

/-!
# Tags, anchors and directives

A tag is `!` or `!!` and a name, or a name in angle brackets; only the difference between `!!` and
all else matters. An anchor gives a name to a node, an alias stands for the node of that name. A
directive is a line at the start of a document; it has to be of the right form but has no effect.
-/

namespace ContractCall.Settings.Yaml

/-- A tag: whether it is one of the language's own, and its name. -/
structure Tag where
  isOwn : Bool
  name : String
deriving DecidableEq

/-- The character may stand in the name of a tag. -/
def isTagChar (c : Char) : Bool :=
  isNameChar c || [';', '/', '?', ':', '@', '&', '=', '+', '$', ',', '.', '!', '~', '*', '\x27',
    '(', ')', '[', ']'].contains c

/-- The number of octets that follow this one in the code of a character. -/
def following? (octet : Nat) : Option Nat :=
  if octet < 0x80 then some 0
  else if octet < 0xc0 then none
  else if octet < 0xe0 then some 1
  else if octet < 0xf0 then some 2
  else if octet < 0xf8 then some 3
  else none

/-- The name of a tag, from the last character to the first, and what follows it. A percent sign
gives an octet of a character's code, of which so many are missing; the octets are read as a number.
-/
def tagName? (read : List Char) (missing code : Nat) : List Placed →
    Option (List Char × List Placed)
  | [] => if missing = 0 then some (read, []) else none
  | p :: rest =>
    if p.char = '%' then
      match rest with
      | a :: b :: rest =>
        if Numeral.isHexDigit a.char && Numeral.isHexDigit b.char then
          let octet := Numeral.ofDigits 16 [a.char, b.char]
          let code := if missing = 0 then octet else code * 256 + octet
          let missing? := if missing = 0 then following? octet
            else if 0x80 ≤ octet ∧ octet < 0xc0 then some (missing - 1) else none
          match missing? with
          | none => none
          | some 0 =>
            if code.isValidChar then tagName? (Char.ofNat code :: read) 0 0 rest else none
          | some missing => tagName? read missing code rest
        else none
      | _ => none
    else if missing ≠ 0 then none
    else if isTagChar p.char then tagName? (p.char :: read) 0 0 rest
    else some (read, p :: rest)

/-- A name of a tag that is not empty. -/
def fullTagName? (s : List Placed) : Option (List Char × List Placed) :=
  (tagName? [] 0 0 s).filter fun found => !found.1.isEmpty

/-- A tag behind its exclamation mark, and what follows it. -/
def tag? (s : List Placed) : Option (Tag × List Placed) := do
  let (tag, rest) ←
    if isNext (· == '<') s then do
      let (read, rest) ← fullTagName? (s.drop 1)
      if isNext (· == '>') rest then some (⟨false, String.ofList read.reverse⟩, rest.drop 1)
      else none
    else if isNext (· == '!') (name s).2 then do
      let (read, rest) ← fullTagName? ((name s).2.drop 1)
      some (⟨(name s).1.isEmpty, String.ofList read.reverse⟩, rest)
    else do
      let (read, rest) ← tagName? (name s).1.reverse 0 0 (name s).2
      some (⟨false, String.ofList read.reverse⟩, rest)
  if atGap rest then some (tag, rest) else none

/-- The name of an anchor or an alias, and what follows it. -/
def anchor? (s : List Placed) : Option (String × List Placed) :=
  let (word, rest) := name s
  let ends := atGap rest || isNext (['?', ':', ',', ']', '\x7d', '%', '@', '\x60'].contains ·) rest
  if !word.isEmpty && ends then some (String.ofList word, rest) else none

/-- What follows a number of one to nine digits. -/
def versionNumber? (s : List Placed) : Option (List Placed) :=
  let digits := s.takeWhile fun p => p.char.isDigit
  if 1 ≤ digits.length ∧ digits.length ≤ 9 then some (s.drop digits.length) else none

/-- What follows the version of the language. -/
def version? (s : List Placed) : Option (List Placed) := do
  let s ← versionNumber? (skipSpaces s)
  if isNext (· == '.') s then versionNumber? (s.drop 1) else none

/-- What follows a prefix for tags and what it stands for. -/
def tagPrefix? (s : List Placed) : Option (List Placed) := do
  let s := skipSpaces s
  if !isNext (· == '!') s then none
  else
    let (word, rest) := name (s.drop 1)
    let closed := isNext (· == '!') rest
    if !closed && !word.isEmpty then none
    else
      let (_, rest) ← fullTagName? (skipSpaces (if closed then rest.drop 1 else rest))
      if atGap rest then some rest else none

/-- What follows the line of a directive, which is given behind its percent sign. -/
def directive? (s : List Placed) : Option (List Placed) := do
  let (word, rest) := name s
  if word.isEmpty || !atGap rest then none
  else
    let rest ←
      if word = ['Y', 'A', 'M', 'L'] then version? rest
      else if word = ['T', 'A', 'G'] then tagPrefix? rest
      else some (rest.dropWhile fun p => !isBreak p.char)
    lineEnd? rest

end ContractCall.Settings.Yaml
