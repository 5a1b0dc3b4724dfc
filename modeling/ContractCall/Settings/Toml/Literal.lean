import ContractCall.Binary64.Text
import ContractCall.Settings.Toml.Date
import ContractCall.Settings.Value

/-!
# Literals of TOML

`literal?` reads a run of characters that is no string: a truth value, a number or a date. Between
two digits of a number there may be an underscore. A decimal number has no superfluous zero at its
start, and an integer fits into 64 bits. A date counts as its text.
-/

namespace ContractCall.Settings.Toml

/-- The digits of a run in which single underscores separate digits. -/
def digitsOf? (isDigit : Char → Bool) : List Char → Option (List Char)
  | [] => none
  | [c] => if isDigit c then some [c] else none
  | c :: '_' :: rest => if isDigit c then (digitsOf? isDigit rest).map (c :: ·) else none
  | c :: rest => if isDigit c then (digitsOf? isDigit rest).map (c :: ·) else none

/-- A decimal number without sign and without a superfluous zero. -/
def wholeOf? (s : List Char) : Option (List Char) :=
  (digitsOf? Char.isDigit s).bind fun ds =>
    if ds.head? = some '0' ∧ 1 < ds.length then none else some ds

/-- An integer in the base that its mark names. -/
def markedInteger? (base : Nat) (s : List Char) : Option Value :=
  (digitsOf? (Numeral.isDigitOf base) s).bind fun ds => Value.ofInteger? (Numeral.ofDigits base ds)

/-- A minus sign or none, and the text behind it. -/
def signOf : List Char → Bool × List Char
  | '-' :: s => (true, s)
  | s => (false, s)

/-- A decimal integer. -/
def integer? (s : List Char) : Option Value :=
  let (negative, rest) := signOf s
  (wholeOf? rest).bind fun ds =>
    let n : Int := Numeral.ofDigits 10 ds
    Value.ofInteger? (if negative then -n else n)

/-- The digits of an exponent with its mark and sign, or nothing when there is no exponent. -/
def exponentText? : List Char → Option (List Char)
  | [] => some []
  | c :: '+' :: ds =>
    if c = 'e' ∨ c = 'E' then (digitsOf? Char.isDigit ds).map ('e' :: ·) else none
  | c :: rest =>
    if c = 'e' ∨ c = 'E' then
      let (negative, ds) := signOf rest
      (digitsOf? Char.isDigit ds).map fun ds => (if negative then ['e', '-'] else ['e']) ++ ds
    else none

/-- The character marks an exponent. -/
def isExponentMark (c : Char) : Bool :=
  c == 'e' || c == 'E'

/-- A decimal number with a fraction, an exponent or both, or the name of a special number. -/
def float? (s : List Char) : Option Value :=
  let (negative, rest) := signOf s
  if rest = ['i', 'n', 'f'] then some (.float (.infinite negative))
  else if rest = ['n', 'a', 'n'] then some (.float .nan)
  else
    let mantissa := rest.takeWhile fun c => !isExponentMark c
    let whole := mantissa.takeWhile (· != '.')
    let fraction? := match mantissa.dropWhile (· != '.') with
      | '.' :: ds => (digitsOf? Char.isDigit ds).map ('.' :: ·)
      | _ => some []
    match wholeOf? whole, fraction?, exponentText? (rest.dropWhile fun c => !isExponentMark c) with
    | some _, some [], some [] => none
    | some whole, some fraction, some exponent =>
      match Binary64.magnitude? negative (whole ++ fraction ++ exponent) with
      | some x => if x.isFinite then some (.float x) else none
      | none => none
    | _, _, _ => none

/-- A number without a plus sign. -/
def number? (s : List Char) : Option Value :=
  match s with
  | '0' :: 'x' :: rest => markedInteger? 16 rest
  | '0' :: 'o' :: rest => markedInteger? 8 rest
  | '0' :: 'b' :: rest => markedInteger? 2 rest
  | _ => (integer? s).or (float? s)

/-- The value of a run of characters that is no string. A plus sign may stand before every number,
also before one with a minus sign. -/
def literal? (s : List Char) : Option Value :=
  match s with
  | ['t', 'r', 'u', 'e'] => some (.bool true)
  | ['f', 'a', 'l', 's', 'e'] => some (.bool false)
  | '+' :: rest => number? rest
  | _ => (number? s).or ((Date.ofText? s).map fun d => .text d.text)

end ContractCall.Settings.Toml
