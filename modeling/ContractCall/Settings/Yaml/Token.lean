import ContractCall.Settings.Yaml.Token.Block
import ContractCall.Settings.Yaml.Token.Plain
import ContractCall.Settings.Yaml.Token.Property
import ContractCall.Settings.Yaml.Token.Quoted

/-!
# Tokens of a document

`Token.ofText?` turns a document into tokens: the scalars and their properties, the marks of lists
in brackets and tables in braces, and marks for what the layout means, that is, where lists and
tables of indented lines begin and end and which token begins a key.

That a token begins a key is known only when the colon behind the key is read. `Reading` keeps the
place of a token that may, one for each open bracket and one outside of them, and puts the mark
before it in that case. Such a key stands on one line and has no more than 1024 characters.
-/

namespace ContractCall.Settings.Yaml

/-- A part of a document. -/
inductive Token where
  | directive
  | documentStart
  | documentEnd
  /-- A list of indented lines begins. -/
  | blockList
  /-- A table of indented lines begins. -/
  | blockTable
  /-- A list or table of indented lines ends. -/
  | blockEnd
  | listStart
  | listEnd
  | tableStart
  | tableEnd
  | comma
  /-- An item of a list of indented lines follows. -/
  | entry
  /-- A key follows. -/
  | key
  /-- The value of a key follows. -/
  | value
  | alias (name : String)
  | anchor (name : String)
  | tag (t : Tag)
  | scalar (isPlain : Bool) (text : String)
deriving DecidableEq

/-- A token that may begin a key. -/
structure Candidate where
  /-- The number of tokens before it. -/
  number : Nat
  place : Placed
  /-- It stands where only a key may stand. -/
  required : Bool

namespace Candidate

/-- What is read from this place on is too far away for the candidate's colon. -/
def isStale (c : Candidate) (p : Placed) : Bool :=
  decide (c.place.line < p.line) || decide (c.place.index + 1024 < p.index)

/-- The candidate as seen from this place, unless it should have been a key by now. -/
def refreshed? (p : Placed) : Option Candidate → Option (Option Candidate)
  | none => some none
  | some c => if c.isStale p then if c.required then none else some none else some (some c)

end Candidate

/-- Where the reading of a document stands. -/
structure Reading where
  /-- The tokens from the last to the first. -/
  tokens : List Token
  /-- The number of the tokens. -/
  count : Nat
  /-- A key may begin here. -/
  keyAllowed : Bool
  /-- What may begin a key, and for each open bracket what may have done so before it. -/
  candidate : Option Candidate
  around : List (Option Candidate)
  /-- The indentations of the open lists and tables of lines, the innermost first. -/
  indents : List Nat
  /-- Behind a scalar in quotes that ends here a colon needs no space. -/
  behindQuotes : Option Nat

namespace Reading

/-- Nothing is read yet. -/
def start : Reading := ⟨[], 0, true, none, [], [], none⟩

/-- A bracket is open. -/
def inFlow (r : Reading) : Bool :=
  !r.around.isEmpty

/-- One more token. -/
def push (r : Reading) (t : Token) : Reading :=
  { r with tokens := t :: r.tokens, count := r.count + 1 }

/-- One more token, behind which a key may begin or not. -/
def pushWith (r : Reading) (t : Token) (keyAllowed : Bool) : Reading :=
  { r.push t with keyAllowed := keyAllowed }

/-- Ends the lists and tables of lines whose indentation this test calls too large. -/
def unrollWhile (tooLarge : Nat → Bool) (r : Reading) : List Nat → Reading
  | [] => { r with indents := [] }
  | n :: ns =>
    if tooLarge n then unrollWhile tooLarge (r.push .blockEnd) ns else { r with indents := n :: ns }

/-- Ends the lists and tables of lines that are indented more than this column. -/
def unroll (r : Reading) (column : Nat) : Reading :=
  if r.inFlow then r else r.unrollWhile (fun n => decide (column < n)) r.indents

/-- Ends all lists and tables of lines. -/
def unrollAll (r : Reading) : Reading :=
  if r.inFlow then r else r.unrollWhile (fun _ => true) r.indents

/-- A list or table of lines begins with something in this column. -/
def opensBlock (r : Reading) (column : Nat) : Bool :=
  !r.inFlow && match r.indents with
    | [] => true
    | n :: _ => decide (n < column)

/-- Begins a list or table of lines in this column, if there is not one there. -/
def roll (r : Reading) (column : Nat) (t : Token) : Reading :=
  if r.opensBlock column then { r.push t with indents := column :: r.indents } else r

/-- Gives up the candidate, unless it has to become a key. -/
def drop? (r : Reading) : Option Reading :=
  match r.candidate with
  | some c => if c.required then none else some { r with candidate := none }
  | none => some r

/-- Makes the token that comes next a candidate, where a key may begin. -/
def mark? (r : Reading) (p : Placed) : Option Reading :=
  if r.keyAllowed then
    r.drop?.map fun r =>
      { r with candidate := some ⟨r.count, p, r.inFlow && r.indents.head? == some p.column⟩ }
  else some r

/-- Looks at the candidates from this place. -/
def refresh? (r : Reading) (p : Placed) : Option Reading := do
  let candidate ← Candidate.refreshed? p r.candidate
  let around ← r.around.mapM (Candidate.refreshed? p)
  return { r with candidate := candidate, around := around }

/-- Puts the marks for a key, which begins a table or not, before the token with this number. -/
def insertKey (r : Reading) (number : Nat) (opens : Bool) : Reading :=
  let marks := if opens then [Token.key, Token.blockTable] else [Token.key]
  let behind := r.count - number
  { r with
    tokens := r.tokens.take behind ++ marks ++ r.tokens.drop behind
    count := r.count + marks.length }

/-- Reads an item's dash. -/
def entry? (r : Reading) (p : Placed) : Option Reading :=
  if r.inFlow || !r.keyAllowed then none
  else (r.roll p.column .blockList).drop?.map fun r => r.pushWith .entry true

/-- Reads a key's question mark. -/
def key? (r : Reading) (p : Placed) : Option Reading :=
  if !r.inFlow && !r.keyAllowed then none
  else (r.roll p.column .blockTable).drop?.map fun r => r.pushWith .key (!r.inFlow)

/-- Reads a colon. Without a candidate the key before it is missing or has a mark of its own. -/
def value? (r : Reading) (p : Placed) : Option Reading :=
  match r.candidate with
  | some c =>
    let column := c.place.column
    let opens := r.opensBlock column
    let r := r.insertKey c.number opens
    let indents := if opens then column :: r.indents else r.indents
    some { r.pushWith .value false with candidate := none, indents := indents }
  | none =>
    if !r.inFlow && !r.keyAllowed then none
    else some ((r.roll p.column .blockTable).pushWith .value (!r.inFlow))

/-- Reads an opening bracket. At most 255 are open. -/
def open? (r : Reading) (p : Placed) (t : Token) : Option Reading := do
  let r ← r.mark? p
  if 255 ≤ r.around.length then none
  else some { r.pushWith t true with candidate := none, around := r.candidate :: r.around }

/-- Reads a closing bracket. -/
def close? (r : Reading) (t : Token) : Option Reading :=
  r.drop?.map fun r =>
    match r.around with
    | [] => r.pushWith t false
    | c :: around => { r.pushWith t false with candidate := c, around := around }

/-- Reads a mark between documents or a directive. -/
def boundary? (r : Reading) (t : Token) : Option Reading :=
  r.unrollAll.drop?.map fun r => r.pushWith t false

/-- Reads a scalar without quotes. -/
def plain? (r : Reading) (p : Placed) (s : List Placed) : Option (Reading × List Placed) := do
  let r ← r.mark? p
  let indent := match r.indents with
    | [] => 0
    | n :: _ => n + 1
  let found ← Yaml.plain? r.inFlow indent [] .none s
  return (r.pushWith (.scalar true (String.ofList found.read.reverse)) found.lineEnded, found.rest)

/-- Reads a scalar behind its opening quote. -/
def quoted? (r : Reading) (p : Placed) (s : List Placed) : Option (Reading × List Placed) := do
  let r ← r.mark? p
  let (read, rest) ← Yaml.quoted? (p.char == '"') [] (.text .none) s
  let r := r.pushWith (.scalar false (String.ofList read.reverse)) false
  return ({ r with behindQuotes := rest.head?.map Placed.index }, rest)

/-- Reads a scalar of lines behind its first character. -/
def block? (r : Reading) (p : Placed) (s : List Placed) : Option (Reading × List Placed) := do
  let r ← r.mark? p
  let (text, rest) ← Yaml.block? (p.char == '|') r.indents.head? s
  return (r.pushWith (.scalar false (String.ofList text)) true, rest)

/-- Reads an alias or an anchor behind its first character. -/
def anchor? (r : Reading) (p : Placed) (s : List Placed) : Option (Reading × List Placed) := do
  let r ← r.mark? p
  let (name, rest) ← Yaml.anchor? s
  return (r.pushWith (if p.char = '*' then .alias name else .anchor name) false, rest)

/-- Reads a tag behind its first character. -/
def tag? (r : Reading) (p : Placed) (s : List Placed) : Option (Reading × List Placed) := do
  let r ← r.mark? p
  let (tag, rest) ← Yaml.tag? s
  return (r.pushWith (.tag tag) false, rest)

/-- A colon in this place has a key before it or a value behind it. -/
def isValue (r : Reading) (p : Placed) (rest : List Placed) : Bool :=
  atGap rest || (r.inFlow && (isNext isFlowMark rest || r.behindQuotes == some p.index))

/-- Reads the token that starts with a character, and gives what follows it. -/
def step? (r : Reading) (p : Placed) (rest : List Placed) : Option (Reading × List Placed) :=
  let c := p.char
  let only (r? : Option Reading) := r?.map fun r => (r, rest)
  if p.column = 0 ∧ c = '%' then do return (← r.boundary? .directive, ← directive? rest)
  else if isMark '-' (p :: rest) then (r.boundary? .documentStart).map (·, rest.drop 2)
  else if isMark '.' (p :: rest) then (r.boundary? .documentEnd).map (·, rest.drop 2)
  else if c = '[' then only (r.open? p .listStart)
  else if c = '\x7b' then only (r.open? p .tableStart)
  else if c = ']' then only (r.close? .listEnd)
  else if c = '\x7d' then only (r.close? .tableEnd)
  else if c = ',' then only (r.drop?.map fun r => r.pushWith .comma true)
  else if c = '-' ∧ atGap rest then only (r.entry? p)
  else if c = '?' ∧ atGap rest then only (r.key? p)
  else if c = ':' ∧ r.isValue p rest then only (r.value? p)
  else if c = '*' ∨ c = '&' then r.anchor? p rest
  else if c = '!' then r.tag? p rest
  else if (c = '|' ∨ c = '>') ∧ !r.inFlow then r.block? p rest
  else if c = '\x27' ∨ c = '"' then r.quoted? p rest
  else if c = '%' ∨ c = '@' ∨ c = '\x60' then none
  else r.plain? p (p :: rest)

/-- Skips white space, line ends and comments up to a token. Outside of brackets a key may begin
behind a line end, and a tab does not stand before a key. -/
def skip (r : Reading) (inComment : Bool) : List Placed → Reading × List Placed
  | [] => (r, [])
  | p :: rest =>
    if isBreak p.char then skip { r with keyAllowed := r.keyAllowed || !r.inFlow } false rest
    else if inComment || p.char == '#' then skip r true rest
    else if p.char = ' ' ∨ (p.char = '\t' ∧ (r.inFlow ∨ !r.keyAllowed)) then skip r false rest
    else (r, p :: rest)

/-- Reads all tokens. The number bounds their number. -/
def finish? : Nat → Reading → List Placed → Option (List Token)
  | 0, _, _ => none
  | fuel + 1, r, s =>
    match r.skip false s with
    | (r, []) => some r.unrollAll.tokens.reverse
    | (r, p :: rest) => do
      let r ← r.refresh? p
      let (r, rest) ← (r.unroll p.column).step? p rest
      finish? fuel r rest

end Reading

/-- The tokens of a document, unless it cannot be read. -/
def Token.ofText? (text : String) : Option (List Token) :=
  let s := source text
  Reading.finish? (s.length + 1) .start s

end ContractCall.Settings.Yaml
