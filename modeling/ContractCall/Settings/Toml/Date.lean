import ContractCall.Numeral

/-!
# Dates and times of TOML

A day, a time of day or both, and then perhaps the distance from universal time. `Date.ofText?`
reads one, `Date.text` writes it in its plain form: with `T` between day and time, and of the digits
of a fraction of a second the first nine, without zeros at their end.
-/

namespace ContractCall.Settings.Toml

/-- A day of some year. -/
structure Day where
  year : List Char
  month : List Char
  day : List Char
deriving DecidableEq

/-- A time of day. -/
structure Time where
  hour : List Char
  minute : List Char
  second : List Char
  fraction : List Char
deriving DecidableEq

/-- The distance from universal time. -/
inductive Offset where
  | universal
  | hours (behind : Bool) (hours minutes : List Char)
deriving DecidableEq

/-- A day, a time or both. The digits are kept as they are written. -/
inductive Date where
  | day (d : Day)
  | time (t : Time)
  | moment (d : Day) (t : Time) (offset : Option Offset)
deriving DecidableEq

/-- So many digits at the start of the text, and what follows them. -/
def digits? (count : Nat) (s : List Char) : Option (List Char × List Char) :=
  let ds := s.take count
  if ds.length = count ∧ ds.all Char.isDigit then some (ds, s.drop count) else none

/-- The digits denote a number from the first bound to the second. -/
def isBetween (low high : Nat) (ds : List Char) : Bool :=
  decide (low ≤ Numeral.ofDigits 10 ds) && decide (Numeral.ofDigits 10 ds ≤ high)

/-- So many digits behind a separator. -/
def digitsBehind? (separator : Char) (count : Nat) : List Char → Option (List Char × List Char)
  | [] => none
  | c :: rest => if c = separator then digits? count rest else none

namespace Day

/-- A day at the start of the text, and what follows it. -/
def read? (s : List Char) : Option (Day × List Char) := do
  let (year, s) ← digits? 4 s
  let (month, s) ← digitsBehind? '-' 2 s
  let (day, s) ← digitsBehind? '-' 2 s
  if isBetween 1 12 month && isBetween 1 31 day then some (⟨year, month, day⟩, s) else none

/-- The plain form of a day. -/
def text (d : Day) : List Char :=
  d.year ++ '-' :: d.month ++ '-' :: d.day

end Day

namespace Time

/-- The fraction of a second at the start of the text, which may be missing, and what follows it. -/
def fraction? : List Char → Option (List Char × List Char)
  | '.' :: s =>
    let ds := s.takeWhile Char.isDigit
    if ds.isEmpty then none else some (ds, s.drop ds.length)
  | s => some ([], s)

/-- A time at the start of the text, and what follows it. -/
def read? (s : List Char) : Option (Time × List Char) := do
  let (hour, s) ← digits? 2 s
  let (minute, s) ← digitsBehind? ':' 2 s
  let (second, s) ← digitsBehind? ':' 2 s
  let (fraction, s) ← fraction? s
  if isBetween 0 24 hour && isBetween 0 59 minute && isBetween 0 59 second then
    some (⟨hour, minute, second, fraction⟩, s)
  else none

/-- The plain form of a time. -/
def text (t : Time) : List Char :=
  let fraction := ((t.fraction.take 9).reverse.dropWhile (· == '0')).reverse
  t.hour ++ ':' :: t.minute ++ ':' :: t.second ++
    (if fraction.isEmpty then [] else '.' :: fraction)

end Time

namespace Offset

/-- The distance that the whole text gives, which may be missing. -/
def read? : List Char → Option (Option Offset)
  | [] => some none
  | c :: s =>
    if c = 'Z' ∨ c = 'z' then if s.isEmpty then some (some universal) else none
    else if c = '+' ∨ c = '-' then do
      let (hour, s) ← digits? 2 s
      let (minute, s) ← digitsBehind? ':' 2 s
      if s.isEmpty then some (some (hours (c == '-') hour minute)) else none
    else none

/-- The plain form of a distance. No hours are not behind. -/
def text : Offset → List Char
  | universal => ['Z']
  | hours behind hour minute =>
    (if behind && hour != ['0', '0'] then '-' else '+') :: hour ++ ':' :: minute

end Offset

namespace Date

/-- The run of letters and digits begins like a day. -/
def isDay (s : List Char) : Bool :=
  (Day.read? s).isSome

/-- The date that the whole text gives. -/
def ofText? (s : List Char) : Option Date :=
  match Day.read? s with
  | some (d, []) => some (day d)
  | some (d, c :: rest) =>
    if c = 'T' ∨ c = 't' ∨ c = ' ' then
      match Time.read? rest with
      | some (t, rest) => (Offset.read? rest).map (moment d t)
      | none => none
    else none
  | none =>
    match Time.read? s with
    | some (t, []) => some (time t)
    | _ => none

/-- The plain form of a date. -/
def text : Date → String
  | day d => String.ofList d.text
  | time t => String.ofList t.text
  | moment d t offset =>
    String.ofList (d.text ++ 'T' :: t.text ++ ((offset.map Offset.text).getD []))

end Date

end ContractCall.Settings.Toml
