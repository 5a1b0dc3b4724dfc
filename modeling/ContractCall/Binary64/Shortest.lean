import ContractCall.Binary64
import ContractCall.Numeral

/-!
# The shortest decimal form of a binary64 number

Among the decimal numbers that round to a binary64 number, `shortest` gives the one with the fewest
digits, and of these the nearest. Which of two equally near ones it gives is for the caller to say.

The numbers that round to it fill an interval. The coarsest decimal grid with a point in the
interval gives the fewest digits, and where a grid has a point in it, one of the value's two
neighbours on the grid is such a point.

`Decimal.positional` and `Decimal.scientific` write the result.
-/

namespace ContractCall

/-- The number `digits * 10 ^ exponent`. -/
structure Decimal where
  digits : Nat
  exponent : Int
deriving DecidableEq

/-- Which of two equally near numbers is meant. -/
inductive Tie where
  /-- The larger. -/
  | up
  /-- The one with the even last digit. -/
  | even
deriving DecidableEq

/-- The number above is meant, given the last digits of the one below. -/
def Tie.goesUp (tie : Tie) (below : Nat) : Bool :=
  match tie with
  | up => true
  | even => below % 2 == 1

namespace Binary64

/-- The lower end of the numbers that round to `m * 2 ^ e`, in units of `2 ^ (e - 2)`. Below a power
of two the neighbours are closer. -/
def lowerEnd (m : Nat) (e : Int) : Nat :=
  if m = 2 ^ 52 ∧ minExponent < e then 4 * m - 1 else 4 * m - 2

/-- The upper end of the numbers that round to `m * 2 ^ e`, in units of `2 ^ (e - 2)`. -/
def upperEnd (m : Nat) : Nat :=
  4 * m + 2

/-- The multiple of `10 ^ k` that is nearest to `m * 2 ^ e` among its two neighbours that round to
it. The ends of the interval round to it when `m` is even. -/
def gridPoint? (tie : Tie) (m : Nat) (e k : Int) : Option Nat :=
  let closer := fun (toAbove toBelow below : Nat) =>
    decide (toAbove < toBelow) || (toAbove == toBelow && tie.goesUp below)
  let step := 10 ^ k.toNat * 2 ^ (2 - e).toNat
  let unit := 10 ^ (-k).toNat * 2 ^ (e - 2).toNat
  let value := 4 * m * unit
  let inside := fun c : Nat =>
    if m % 2 = 0 then
      decide (lowerEnd m e * unit ≤ c * step) && decide (c * step ≤ upperEnd m * unit)
    else decide (lowerEnd m e * unit < c * step) && decide (c * step < upperEnd m * unit)
  let below := value / step
  let above := below + 1
  if inside below then
    if inside above && closer (above * step - value) (value - below * step) below then some above
    else some below
  else if inside above then some above
  else none

/-- The exponents of ten to try, from the coarsest grid to the finest. -/
def gridExponents : List Int :=
  (List.range 634).map fun (i : Nat) => 309 - (i : Int)

/-- The shortest decimal number that rounds to `m * 2 ^ e`. -/
def shortest (tie : Tie) (m : Nat) (e : Int) : Decimal :=
  if m = 0 then ⟨0, 0⟩
  else
    let point? := fun k => (gridPoint? tie m e k).map fun digits => (⟨digits, k⟩ : Decimal)
    (gridExponents.findSome? point?).getD ⟨m, e⟩

end Binary64

namespace Decimal

/-- So many zeros. -/
def zeros (n : Int) : List Char :=
  List.replicate n.toNat '0'

/-- Integer part, point and fraction, without an exponent. A whole number gets no point. -/
def positional (d : Decimal) : String :=
  let ds := Nat.toDigits 10 d.digits
  let point := (ds.length : Int) + d.exponent
  String.ofList <|
    if 0 ≤ d.exponent then ds ++ zeros d.exponent
    else if 0 < point then ds.take point.toNat ++ '.' :: ds.drop point.toNat
    else '0' :: '.' :: zeros (-point) ++ ds

/-- The exponent of ten of the first digit. -/
def magnitude (d : Decimal) : Int :=
  (Nat.toDigits 10 d.digits).length + d.exponent - 1

/-- One digit, the other digits behind a point, and the exponent with its sign. -/
def scientific (d : Decimal) : String :=
  let mark := if d.magnitude < 0 then "e-" else "e+"
  let power := mark ++ Numeral.decimal d.magnitude.natAbs
  match Nat.toDigits 10 d.digits with
  | [] => power
  | [first] => String.ofList [first] ++ power
  | first :: rest => String.ofList (first :: '.' :: rest) ++ power

end Decimal

end ContractCall
