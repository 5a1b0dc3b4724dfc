import ContractCall.Settings.Yaml.Source

/-!
# Scalars of indented lines

A scalar behind `|` or `>` consists of the lines that follow with at least its indentation, which is
given by a digit or found from its first line. Behind `|` the line ends are kept, behind `>` one
between two lines that start with no white space counts as a space. The line ends behind the last
line are cut to one, to none at a minus sign, and kept at a plus sign.
-/

namespace ContractCall.Settings.Yaml

/-- What becomes of the line ends behind the last line. -/
inductive Chomping where
  | clip
  | strip
  | keep

/-- The sign for a way of chomping. -/
def Chomping.ofSign? (c : Char) : Option Chomping :=
  if c = '+' then some keep else if c = '-' then some strip else none

/-- How a scalar of lines is announced: its chomping, and its indentation relative to what is around
it, or zero. -/
structure Header where
  chomping : Chomping
  indent : Nat

namespace Header

/-- The indentation that a digit gives. -/
def indent? (c : Char) : Option Nat :=
  if c = '0' then none else Numeral.digit? c

/-- A sign and a digit, either of which may be missing, in one order or the other, and what follows.
-/
def read? : List Placed → Option (Header × List Placed)
  | [] => some (⟨.clip, 0⟩, [])
  | p :: rest =>
    match Chomping.ofSign? p.char with
    | some chomping =>
      match rest with
      | q :: rest' =>
        if q.char.isDigit then (indent? q.char).map fun n => (⟨chomping, n⟩, rest')
        else some (⟨chomping, 0⟩, rest)
      | [] => some (⟨chomping, 0⟩, [])
    | none =>
      if p.char.isDigit then
        (indent? p.char).map fun n =>
          match rest with
          | q :: rest' =>
            match Chomping.ofSign? q.char with
            | some chomping => (⟨chomping, n⟩, rest')
            | none => (⟨.clip, n⟩, rest)
          | [] => (⟨.clip, n⟩, [])
      else some (⟨.clip, 0⟩, p :: rest)

end Header

/-- The greatest indentation of the blank lines at the start and of the first other line, none of
which may be indented by a tab. -/
def widest? (found : Nat) : List Placed → Option Nat
  | [] => some found
  | p :: rest =>
    if p.char = ' ' then widest? (max found (p.column + 1)) rest
    else if p.char = '\t' then none
    else if isBreak p.char then widest? (max found p.column) rest
    else some (max found p.column)

/-- The lines that were read. -/
structure Lines where
  /-- The characters from the last to the first. -/
  read : List Char
  /-- The end of the last line is still to be written. -/
  ended : Bool
  /-- The number of blank lines behind the last line. -/
  blank : Nat
  /-- The last line starts with white space. -/
  spaced : Bool

namespace Lines

/-- No line is read yet. -/
def none : Lines := ⟨[], false, 0, false⟩

/-- The characters with the end of the last line written, in front of a line that starts with white
space or not. -/
def joined (l : Lines) (literal spaced : Bool) : List Char :=
  let folds := !literal && !l.spaced && !spaced
  let read := if !l.ended then l.read
    else if !folds then '\n' :: l.read
    else if l.blank = 0 then ' ' :: l.read
    else l.read
  List.replicate l.blank '\n' ++ read

/-- Reads lines of this indentation, from within a line or from the start of one. -/
def read? (literal : Bool) (indent : Nat) (l : Lines) (inLine : Bool) : List Placed →
    Option (Lines × List Placed)
  | [] => some (l, [])
  | p :: rest =>
    if inLine then
      if isBreak p.char then read? literal indent { l with ended := true } false rest
      else read? literal indent { l with read := p.char :: l.read } true rest
    else if p.column < indent ∧ p.char = ' ' then read? literal indent l false rest
    else if p.column < indent ∧ p.char = '\t' then .none
    else if isBreak p.char then read? literal indent { l with blank := l.blank + 1 } false rest
    else if p.column = indent then
      let spaced := isSpace p.char
      read? literal indent ⟨p.char :: l.joined literal spaced, false, 0, spaced⟩ true rest
    else some (l, p :: rest)

/-- The text of the lines. -/
def text (l : Lines) : Chomping → List Char
  | .strip => l.read.reverse
  | .clip => ((if l.ended then ['\n'] else []) ++ l.read).reverse
  | .keep =>
    (List.replicate l.blank '\n' ++ (if l.ended then ['\n'] else []) ++ l.read).reverse

end Lines

/-- A scalar of lines behind its first character, inside of something with so many columns of
indentation, or of none. -/
def block? (literal : Bool) (around : Option Nat) (s : List Placed) :
    Option (List Char × List Placed) := do
  let (header, s) ← Header.read? s
  let s ← lineEnd? s
  let least := match around with
    | some n => n + 1
    | none => 1
  let indent ← if header.indent = 0 then (widest? 0 s).map fun n => max n least
    else some ((around.getD 0) + header.indent)
  let (lines, s) ← Lines.read? literal indent .none false s
  return (lines.text header.chomping, s)

end ContractCall.Settings.Yaml
