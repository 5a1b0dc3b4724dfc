import ContractCall.Settings.Characters
import ContractCall.Text.Alphanumeric
import ContractCall.Text.Blank

/-!
# Patterns of field values

A level filter may ask for a field whose value matches a regular expression. `Pattern.check` says
whether a text is one that a level filter can use and what is wrong with it if not.

A pattern is built from letters, points, anchors, classes in brackets and groups in parentheses,
with bars between alternatives and repetition marks behind what they repeat. Properties of letters
beyond ASCII are not known here: a pattern that needs them (a class like `\d`, letters of either
case) is good only where it is limited to ASCII by the flag `-u`, and then it may not match anything
beyond. A filter stands in braces of its own, so a pattern holds no closing brace, and whatever is
opened with a brace is malformed.
-/

namespace ContractCall.Settings.Pattern

/-- What is wrong with a pattern. -/
inductive Fault where
  | malformed
  /-- It asks for the edge of a word of letters beyond ASCII. -/
  | wordEdge
deriving DecidableEq

/-- The wording of a fault. -/
def Fault.message : Fault → String
  | malformed => "error building NFA"
  | wordEdge => "unsupported regex feature for DFAs: cannot build DFAs for regexes with Unicode " ++
      "word boundaries; switch to ASCII word boundaries, or heuristically enable Unicode word " ++
      "boundaries or use a different regex engine"

/-- What the flags of a pattern say at some place of it. -/
structure Flags where
  /-- Letters stand for both of their cases. -/
  caseless : Bool
  /-- The pattern is not limited to ASCII. -/
  wide : Bool
  /-- White space and comments between the parts mean nothing. -/
  spaced : Bool

namespace Flags

/-- The flags at the start of a pattern. -/
def standard : Flags := ⟨false, true, false⟩

/-- The flags after one is set. The flags that change only what is matched are not kept. -/
def set (f : Flags) (letter : Char) (value : Bool) : Flags :=
  if letter = 'i' then { f with caseless := value }
  else if letter = 'u' then { f with wide := value }
  else if letter = 'x' then { f with spaced := value }
  else f

/-- The text without white space and comments at its start, in a comment or not. -/
def skipGaps (inComment : Bool) : List Char → List Char
  | [] => []
  | c :: rest =>
    if inComment then skipGaps (c != '\n') rest
    else if Text.isBlank c then skipGaps false rest
    else if c = '#' then skipGaps true rest
    else c :: rest

/-- The text without what means nothing at its start. -/
def skip (f : Flags) (s : List Char) : List Char :=
  if f.spaced then skipGaps false s else s

/-- A letter may stand here, which is given by its byte or not. -/
def allowsLetter (f : Flags) (c : Char) (isByte : Bool) : Bool :=
  if f.wide then !f.caseless else !isByte || decide (c.toNat < 0x80)

/-- A letter may be a member of a class here. -/
def allowsMember (f : Flags) (c : Char) : Bool :=
  f.wide || decide (c.toNat < 0x80)

/-- A class in brackets may stand here. -/
def allowsClass (f : Flags) (negated : Bool) : Bool :=
  if f.wide then !f.caseless else !negated

/-- The flags that are listed at the start of a text, the sign behind the list, and what follows it.
The letters of the list so far are given from the last to the first. -/
def read? (f : Flags) (seen : List Char) : List Char → Option (Flags × Char × List Char)
  | [] => none
  | c :: rest =>
    if c = ':' ∨ c = ')' then
      if seen.head? = some '-' ∨ (c = ')' ∧ seen.isEmpty) then none else some (f, c, rest)
    else if seen.contains c then none
    else if c = '-' then read? f (c :: seen) rest
    else if ['i', 'm', 's', 'U', 'u', 'R', 'x'].contains c then
      read? (f.set c (!seen.contains '-')) (c :: seen) rest
    else none

end Flags

/-- What an escape stands for. -/
inductive Escape where
  | letter (c : Char) (isByte : Bool)
  /-- A class of digits, white space or letters of words, or all but these. -/
  | named (negated : Bool)
  | wordEdge
  | anchor

/-- The letter given by so many more hexadecimal digits, and what follows them. -/
def code? (f : Flags) (read : List Char) : Nat → List Char → Option (Char × List Char)
  | 0, s => (ofCodePoint? read).map fun c => (c, s)
  | missing + 1, s =>
    match f.skip s with
    | [] => none
    | c :: rest => if Numeral.isHexDigit c then code? f (read ++ [c]) missing rest else none

/-- The escape behind a backslash, and what follows it. -/
def escape? (f : Flags) : List Char → Option (Escape × List Char)
  | [] => none
  | c :: rest =>
    if c = 'x' then (code? f [] 2 rest).map fun (c, rest) => (.letter c true, rest)
    else if c = 'u' then (code? f [] 4 rest).map fun (c, rest) => (.letter c false, rest)
    else if c = 'U' then (code? f [] 8 rest).map fun (c, rest) => (.letter c false, rest)
    else if ['d', 's', 'w'].contains c then some (.named false, rest)
    else if ['D', 'S', 'W'].contains c then some (.named true, rest)
    else if ['b', 'B', '<', '>'].contains c then some (.wordEdge, rest)
    else if ['A', 'z'].contains c then some (.anchor, rest)
    else if c = 'a' then some (.letter '\x07' false, rest)
    else if c = 'f' then some (.letter '\x0c' false, rest)
    else if c = 't' then some (.letter '\t' false, rest)
    else if c = 'n' then some (.letter '\n' false, rest)
    else if c = 'r' then some (.letter '\r' false, rest)
    else if c = 'v' then some (.letter '\x0b' false, rest)
    else if c.isAlphanum || decide (0x80 ≤ c.toNat) then none
    else some (.letter c false, rest)

/-! ### Classes in brackets -/

/-- The names of the classes that are written between colons. -/
def classNames : List String :=
  ["alnum", "alpha", "ascii", "blank", "cntrl", "digit", "graph", "lower", "print", "punct",
    "space", "upper", "word", "xdigit"]

/-- The class of ASCII behind its opening bracket, whether it is negated, and what follows it. -/
def asciiClass? : List Char → Option (Bool × List Char)
  | ':' :: s =>
    let negated := s.head? == some '^'
    let s := if negated then s.drop 1 else s
    match s.dropWhile (· != ':') with
    | ':' :: ']' :: rest =>
      if classNames.contains (String.ofList (s.takeWhile (· != ':'))) then some (negated, rest)
      else none
    | _ => none
  | _ => none

/-- What follows the dashes at the start of a class, of which there were some already or not. A
bracket that closes the class right at its start is a member. -/
def dashes? (f : Flags) (found : Bool) : Nat → List Char → Option (List Char)
  | 0, _ => none
  | fuel + 1, s =>
    match f.skip s with
    | [] => none
    | '-' :: rest => dashes? f true fuel rest
    | ']' :: rest => some (if found then ']' :: rest else rest)
    | s => some s

/-- What follows the opening of a class. -/
def opening? (f : Flags) (s : List Char) : Option (List Char) :=
  let s := f.skip s
  let negated := s.head? == some '^'
  if f.allowsClass negated then
    dashes? f false (s.length + 1) (if negated then s.drop 1 else s)
  else none

/-- A single member of a class or an end of a range, and what follows it. -/
def member? (f : Flags) : List Char → Option (Escape × List Char)
  | [] => none
  | '\\' :: rest => escape? f rest
  | c :: rest => some (.letter c false, rest)

/-- What follows a member or a range of a class. -/
def range? (f : Flags) (s : List Char) : Option (List Char) :=
  match member? f s with
  | some (.letter low _, rest) =>
    match f.skip rest with
    | [] => none
    | '-' :: after =>
      match f.skip after with
      | ']' :: _ => if f.allowsMember low then some ('-' :: after) else none
      | '-' :: _ => if f.allowsMember low then some ('-' :: after) else none
      | high =>
        match member? f high with
        | some (.letter high _, rest) =>
          if low ≤ high ∧ f.allowsMember low ∧ f.allowsMember high then some rest else none
        | _ => none
    | rest => if f.allowsMember low then some rest else none
  | some (.named negated, rest) => if f.wide || negated then none else some rest
  | _ => none

/-- What follows a class, of which so many brackets inside of the outermost one are open. -/
def class? (f : Flags) : Nat → Nat → List Char → Option (List Char)
  | 0, _, _ => none
  | fuel + 1, depth, s =>
    match f.skip s with
    | [] => none
    | '[' :: rest =>
      match asciiClass? rest with
      | some (negated, rest) =>
        if f.allowsClass negated then class? f fuel depth rest else none
      | none => (opening? f rest).bind (class? f fuel (depth + 1))
    | ']' :: rest => if depth = 0 then some rest else class? f fuel (depth - 1) rest
    | '&' :: '&' :: rest => class? f fuel depth rest
    | '-' :: '-' :: rest => class? f fuel depth rest
    | '~' :: '~' :: rest => class? f fuel depth rest
    | s => (range? f s).bind (class? f fuel depth)

/-! ### Groups -/

/-- Where the reading of a pattern stands. -/
structure Progress where
  flags : Flags
  /-- The flags around each open group, the innermost first. -/
  around : List Flags
  /-- The names that groups have. -/
  names : List String
  /-- There is something to repeat. -/
  repeatable : Bool
  /-- A wide edge of a word was asked for. -/
  edge : Bool

namespace Progress

/-- Nothing is read yet. -/
def start : Progress := ⟨.standard, [], [], false, false⟩

/-- Something was read that can be repeated. -/
def withPart (p : Progress) : Progress :=
  { p with repeatable := true }

/-- A group was opened, within which the flags are these. -/
def enter (p : Progress) (flags : Flags) : Progress :=
  { p with flags := flags, around := p.flags :: p.around, repeatable := false }

/-- The innermost group was closed. -/
def leave? (p : Progress) : Option Progress :=
  match p.around with
  | [] => none
  | flags :: around => some { p with flags := flags, around := around, repeatable := true }

end Progress

/-- The text may be the name of a group. -/
def isName : List Char → Bool
  | [] => false
  | c :: rest =>
    (c == '_' || (Text.isAlphanumeric c && !c.isDigit)) &&
      rest.all fun c => ['_', '.', '[', ']'].contains c || Text.isAlphanumeric c

/-- A group with a name, behind the bracket that opens the name. -/
def namedGroup? (p : Progress) (s : List Char) : Option (Progress × List Char) :=
  let name := s.takeWhile (· != '>')
  match s.dropWhile (· != '>') with
  | _ :: rest =>
    if isName name && !p.names.contains (String.ofList name) then
      some ({ p with names := String.ofList name :: p.names }.enter p.flags, rest)
    else none
  | [] => none

/-- A group behind its opening parenthesis, or flags that are set. -/
def group? (p : Progress) (s : List Char) : Option (Progress × List Char) :=
  match p.flags.skip s with
  | '?' :: 'P' :: '<' :: rest => namedGroup? p rest
  | '?' :: '<' :: rest => namedGroup? p rest
  | '?' :: rest =>
    match p.flags.read? [] rest with
    | some (flags, ':', rest) => some (p.enter flags, rest)
    | some (flags, _, rest) => some ({ p with flags := flags, repeatable := false }, rest)
    | none => none
  | s => some (p.enter p.flags, s)

/-- An escape outside of a class. -/
def escaped? (p : Progress) (s : List Char) : Option (Progress × List Char) :=
  match escape? p.flags s with
  | some (.letter c isByte, rest) =>
    if p.flags.allowsLetter c isByte then some (p.withPart, rest) else none
  | some (.named negated, rest) =>
    if p.flags.wide || negated then none else some (p.withPart, rest)
  | some (.wordEdge, rest) => some ({ p.withPart with edge := p.edge || p.flags.wide }, rest)
  | some (.anchor, rest) => some (p.withPart, rest)
  | none => none

/-- A part of a pattern that starts with this character, and what follows it. -/
def part? (p : Progress) (c : Char) (rest : List Char) : Option (Progress × List Char) :=
  if c = '(' then group? p rest
  else if c = ')' then p.leave?.map fun p => (p, rest)
  else if c = '|' then some ({ p with repeatable := false }, rest)
  else if c = '[' then
    ((opening? p.flags rest).bind (class? p.flags (rest.length + 1) 0)).map (p.withPart, ·)
  else if c = '?' ∨ c = '*' ∨ c = '+' then
    if p.repeatable then some (p, if rest.head? = some '?' then rest.drop 1 else rest) else none
  else if c = '\\' then escaped? p rest
  else if c = '\x7b' then none
  else if c = '.' then if p.flags.wide then some (p.withPart, rest) else none
  else if c = '^' ∨ c = '$' ∨ p.flags.allowsLetter c false then some (p.withPart, rest)
  else none

/-- Reads a pattern to its end. -/
def read? : Nat → Progress → List Char → Option Progress
  | 0, _, _ => none
  | fuel + 1, p, s =>
    match p.flags.skip s with
    | [] => if p.around.isEmpty then some p else none
    | c :: rest => (part? p c rest).bind fun (p, rest) => read? fuel p rest

/-- Says what is wrong with a pattern. -/
def check (s : List Char) : Except Fault Unit :=
  match read? (s.length + 1) .start s with
  | none => .error .malformed
  | some p => if p.edge then .error .wordEdge else .ok ()

end ContractCall.Settings.Pattern
