import ContractCall.Binary64.Text
import ContractCall.Settings.Pattern
import ContractCall.Text.Bytes
import ContractCall.Text.Lower
import ContractCall.Text.Pieces

/-!
# Level filters

A level filter is a list of directives between commas. A directive is a level, the name of a target,
or a target, a span with fields, or both, and then perhaps a level behind an equals sign: `info`,
`net`, `net=debug`, `net[request{id=7}]=trace`. A name that is no level is that of a target, so a
bare word is never at fault.

`LevelFilter.check` says whether a text is a filter and what is wrong with it if not.
-/

namespace ContractCall.Settings

/-- What is wrong with a level filter. -/
inductive LevelFilter.Fault where
  /-- A directive is not of the right form. -/
  | directive
  /-- What stands behind the equals sign is no level. -/
  | level
  /-- The value of a field is no pattern. -/
  | field (fault : Pattern.Fault)
deriving DecidableEq

namespace LevelFilter

/-- The wording of a fault. -/
def Fault.message : Fault → String
  | directive => "invalid filter directive"
  | field fault => "invalid field filter: " ++ fault.message
  | level => "error parsing level filter: expected one of \"off\", \"error\", \"warn\", " ++
      "\"info\", \"debug\", \"trace\", or a number 0-5"

/-- The words for levels. -/
def words : List String :=
  ["off", "error", "warn", "info", "debug", "trace"]

/-- The text is the number of a level. -/
def isNumber (s : List Char) : Bool :=
  let digits := match s with
    | '+' :: rest => rest
    | _ => s
  Numeral.isWholeChars digits && decide (Numeral.ofDigits 10 digits ≤ 5)

/-- The text is a level: a word in letters of either case, or a number. -/
def isLevel (s : List Char) : Bool :=
  words.contains (Text.lower s) || isNumber s

/-- The text behind the equals sign, which may be empty. -/
def checkLevel (s : List Char) : Except Fault Unit :=
  if s.isEmpty || isLevel s then .ok () else .error .level

/-- The text of a field: a name and perhaps the value it should have. A value is a number or else a
pattern. -/
def checkField (s : List Char) : Except Fault Unit :=
  match Text.pieces '=' s with
  | _ :: value :: _ =>
    if (Binary64.ofText? value).isSome then .ok () else (Pattern.check value).mapError .field
  | _ => .ok ()

/-! A directive is read without the white space around it. The places of its parts are counted in
bytes, and the parts are what stands at these places of the directive as it was given, with the
white space: a level with white space around it is none. -/

/-- The text behind a span, at this place. -/
def checkTarget (given : List Char) (place : Nat) : List Char → Except Fault Unit
  | [] => .ok ()
  | c :: _ =>
    if c = '=' then checkLevel (Text.dropBytes (place + 1) given) else .error .directive

/-- The text behind the fields of a span, at this place. -/
def checkFieldsEnd (given : List Char) (place : Nat) : List Char → Except Fault Unit
  | [] => .error .directive
  | c :: rest => if c = ']' then checkTarget given (place + 1) rest else .error .directive

/-- The text within the braces of a span, which hold a field, at this place. -/
def checkFields (given : List Char) (start place : Nat) : List Char → Except Fault Unit
  | [] => .error .directive
  | c :: rest =>
    if c = '\x7d' then
      if place = start then .error .directive
      else do
        checkField (Text.takeBytes (place - start) (Text.dropBytes start given))
        checkFieldsEnd given (place + 1) rest
    else checkFields given start (place + c.utf8Size) rest

/-- The text within the brackets of a span, at this place. -/
def checkSpan (given : List Char) (place : Nat) : List Char → Except Fault Unit
  | [] => .error .directive
  | c :: rest =>
    if c = ']' then checkTarget given (place + 1) rest
    else if c = '\x7b' then checkFields given (place + 1) (place + 1) rest
    else checkSpan given (place + c.utf8Size) rest

/-- The text behind the first character of a name, at this place. -/
def checkName (given : List Char) (place : Nat) : List Char → Except Fault Unit
  | [] => .ok ()
  | c :: rest =>
    if c = '=' then checkLevel (Text.dropBytes (place + 1) given)
    else if c = '[' then checkSpan given (place + 1) rest
    else checkName given (place + c.utf8Size) rest

/-- The character may begin a name. -/
def startsName (c : Char) : Bool :=
  c == '-' || c == ':' || c == '_' || Text.isAlphanumeric c

/-- A directive as it was given. -/
def checkDirective (given : List Char) : Except Fault Unit :=
  match Text.trim given with
  | [] => .error .directive
  | c :: rest =>
    if c = '[' then checkSpan given 1 rest
    else if startsName c then checkName given c.utf8Size rest
    else .error .directive

/-- Checks a filter directive by directive. Nothing between two commas is no directive. -/
def check (s : String) : Except Fault Unit :=
  ((Text.pieces ',' s.toList).filter fun piece => !piece.isEmpty).forM checkDirective

end LevelFilter

end ContractCall.Settings
