import ContractCall.Contract

/-!
# Command lines

A command line names a settings file, if it is not the usual one, and a command with its own options
and words. `CommandLine.parse?` reads it, or refuses it as a whole.

The value of an option stands behind an equals sign, right behind the letter of a short option, or
in a word of its own, which does not start with a hyphen unless it is only a hyphen. An option is
given once. Behind the word `--` every word stands for itself.
-/

namespace ContractCall

/-- What the command line asks for. -/
inductive Command where
  /-- The selector of a name or a number. -/
  | selector (value : String)
  /-- The flat form of the ABI in a file. -/
  | legacy (abi : String)
  /-- The signature of a method of the ABI in a file. -/
  | method (abi name : String)
  /-- A check of a call with the arguments of a JSON text. -/
  | validate (abi method args : String) (use : Use)
deriving DecidableEq

/-- A settings file and a command. -/
structure CommandLine where
  settings : String
  command : Command
deriving DecidableEq

namespace Command

/-- The file with the ABI that the command is about. -/
def abiPath? : Command → Option String
  | selector _ => none
  | legacy abi | method abi _ | validate abi .. => some abi

end Command

namespace CommandLine

/-- The options of all commands. -/
inductive Flag where
  | settings
  | abi
  | method
  | args
  | use
deriving DecidableEq

namespace Flag

/-- The long name of an option. -/
def name : Flag → String
  | settings => "config"
  | abi => "abi"
  | method => "method"
  | args => "args"
  | use => "kind"

/-- The letter of an option that has a short name. -/
def letter? : Flag → Option Char
  | settings => some 'c'
  | abi => some 'a'
  | method => some 'm'
  | args => none
  | use => some 'k'

end Flag

/-- A word of a command line. -/
inductive Word where
  | plain (s : String)
  /-- An option, perhaps with its value. -/
  | option (flag : Flag) (value : Option String)
  /-- Behind it every word stands for itself. -/
  | escape
  /-- It looks like an option but is none of the present command. -/
  | unknown

/-- The value behind an equals sign, if there is one. -/
def attached? : List Char → Option String
  | [] => none
  | _ :: value => some (String.ofList value)

/-- A word that may be one of these options. -/
def Word.ofText (flags : List Flag) (s : String) : Word :=
  match s.toList with
  | ['-', '-'] => .escape
  | '-' :: '-' :: rest =>
    let name := String.ofList (rest.takeWhile (· != '='))
    match flags.find? fun f => f.name == name with
    | some flag => .option flag (attached? (rest.dropWhile (· != '=')))
    | none => .unknown
  | '-' :: letter :: rest =>
    match flags.find? fun f => f.letter? == some letter with
    | some flag =>
      match rest with
      | [] => .option flag none
      | c :: value => .option flag (some (String.ofList (if c = '=' then value else c :: value)))
    | none => .unknown
  | _ => .plain s

/-- The word can be the value of the option before it. -/
def isValue (s : String) : Bool :=
  match s.toList with
  | '-' :: _ :: _ => false
  | _ => true

/-- The options that were given, and the words behind or among them. -/
structure Given where
  options : List (Flag × String)
  words : List String

namespace Given

/-- The value of an option. -/
def get? (g : Given) (flag : Flag) : Option String :=
  (g.options.find? fun o => o.1 == flag).map Prod.snd

/-- The value of an option that names a file. -/
def path? (g : Given) (flag : Flag) : Option String :=
  (g.get? flag).filter fun path => !path.isEmpty

/-- One more option, unless it was given before. -/
def put? (g : Given) (flag : Flag) (value : String) : Option Given :=
  if (g.get? flag).isSome then none else some ⟨g.options ++ [(flag, value)], g.words⟩

end Given

/-- Reads words with options among them. With `leading` the options end at the first other word. -/
def read? (flags : List Flag) (leading : Bool) (g : Given) : List String → Option Given
  | [] => some g
  | w :: rest =>
    match Word.ofText flags w with
    | .unknown => none
    | .escape => if leading then none else some ⟨g.options, g.words ++ rest⟩
    | .plain s =>
      if leading then some ⟨g.options, s :: rest⟩
      else read? flags leading ⟨g.options, g.words ++ [s]⟩ rest
    | .option flag (some value) =>
      match g.put? flag value with
      | some g => read? flags leading g rest
      | none => none
    | .option flag none =>
      match rest with
      | [] => none
      | value :: rest =>
        if isValue value then
          match g.put? flag value with
          | some g => read? flags leading g rest
          | none => none
        else none

/-- The options and words of a command. -/
def own? (flags : List Flag) (words : List String) : Option Given :=
  read? flags false ⟨[], []⟩ words

/-- The use that an option names, or else an invocation. -/
def use? (g : Given) : Option Use :=
  match g.get? .use with
  | some word => Use.ofWord? word
  | none => some .invoke

/-- The command of this name with the words that follow it. -/
def command? (name : String) (words : List String) : Option Command :=
  if name = "selector" then
    match own? [] words with
    | some ⟨_, [value]⟩ => some (.selector value)
    | _ => none
  else if name = "legacy" then do
    let g ← own? [.abi] words
    let abi ← g.path? .abi
    match g.words with
    | [] => some (.legacy abi)
    | _ => none
  else if name = "method" then do
    let g ← own? [.abi] words
    let abi ← g.path? .abi
    match g.words with
    | [method] => some (.method abi method)
    | _ => none
  else if name = "validate" then do
    let g ← own? [.abi, .method, .args, .use] words
    let abi ← g.path? .abi
    let method ← g.get? .method
    let use ← use? g
    match g.words with
    | [] => some (.validate abi method ((g.get? .args).getD "[]") use)
    | _ => none
  else none

/-- The settings file that is used when none is named. -/
def usualSettings : String := "starkcall.toml"

/-- The settings file that the options name. -/
def settings? (g : Given) : Option String :=
  match g.get? .settings with
  | some _ => g.path? .settings
  | none => some usualSettings

/-- The command line that the words make up. -/
def parse? (words : List String) : Option CommandLine := do
  let g ← read? [.settings] true ⟨[], []⟩ words
  let settings ← settings? g
  match g.words with
  | [] => none
  | name :: rest => return ⟨settings, ← command? name rest⟩

end CommandLine

end ContractCall
