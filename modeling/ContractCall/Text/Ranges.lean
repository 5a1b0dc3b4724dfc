/-!
# Sets of code points

A set of numbers given by the ascending list of its bounds: membership begins at the first, ends
before the second, begins again at the third, and so on.
-/

namespace ContractCall.Text

/-- Membership in the set with these bounds, begun with the answer for the numbers below them. -/
def withinFrom (inside : Bool) : List Nat → Nat → Bool
  | [], _ => inside
  | b :: bounds, n => if n < b then inside else withinFrom (!inside) bounds n

/-- Membership in the set with these ascending bounds. -/
def within (bounds : List Nat) (n : Nat) : Bool :=
  withinFrom false bounds n

end ContractCall.Text
