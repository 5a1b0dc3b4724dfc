import ContractCall.Settings.Yaml.Source

/-!
# Scalars without quotes

A scalar without quotes goes on to a colon in front of white space, to a comment, to a mark of the
list or table around it, or to a line that is not indented enough.
-/

namespace ContractCall.Settings.Yaml

/-- A scalar that was read: its characters from the last to the first, whether a line has ended
behind it, and what follows. -/
structure Plain where
  read : List Char
  lineEnded : Bool
  rest : List Placed

/-- The scalar ends before this character, which comes after a gap or directly. -/
def endsPlain (inFlow : Bool) (indent : Nat) (gap : Gap) (p : Placed) (rest : List Placed) : Bool :=
  (gap.isSome &&
    ((!inFlow && decide (p.column < indent)) || p.char == '#' || atMark (p :: rest))) ||
  (p.char == ':' && (atGap rest || (inFlow && isNext isFlowMark rest))) ||
  (inFlow && isFlowMark p.char)

/-- Reads a scalar whose lines have this indentation at least. A tab does not indent. -/
def plain? (inFlow : Bool) (indent : Nat) (read : List Char) (gap : Gap) :
    List Placed → Option Plain
  | [] => some ⟨read, gap.hasBreak, []⟩
  | p :: rest =>
    if isGap p.char then
      if p.char = '\t' ∧ gap.hasBreak ∧ p.column < indent then none
      else plain? inFlow indent read (gap.add p.char) rest
    else if endsPlain inFlow indent gap p rest then some ⟨read, gap.hasBreak, p :: rest⟩
    else plain? inFlow indent (p.char :: gap.text ++ read) .none rest

end ContractCall.Settings.Yaml
