import ContractCall.Json.Reader
import ContractCall.Settings.Place
import ContractCall.Settings.Toml
import ContractCall.Settings.Yaml

/-!
# Settings documents

The ending of a file's name says in which format its text is read. What is read is a table of
settings; a document that holds something else counts as an empty one. Each value of the outermost
table is put at the place that its key names.
-/

namespace ContractCall.Settings

/-- The format of a settings document. -/
inductive Format where
  | toml
  | json
  | yaml
deriving DecidableEq

namespace Format

/-- The part of a path behind its last slash. -/
def fileName (path : List Char) : List Char :=
  (path.reverse.takeWhile (· != '/')).reverse

/-- The part of a file's name behind its last point, if there is something before that point. -/
def ending? (name : List Char) : Option (List Char) :=
  let reversed := name.reverse
  match reversed.dropWhile (· != '.') with
  | '.' :: _ :: _ => some (reversed.takeWhile (· != '.')).reverse
  | _ => none

/-- The endings that stand for a format. -/
def endings : List String :=
  ["toml", "json", "yaml", "yml"]

/-- The format that an ending stands for. -/
def ofEnding? (ending : String) : Option Format :=
  if ending = "toml" then some toml
  else if ending = "json" then some json
  else if ending = "yaml" ∨ ending = "yml" then some yaml
  else none

/-- The format of the file with this path. -/
def ofPath? (path : String) : Option Format :=
  (ending? (fileName path.toList)).bind fun ending => ofEnding? (String.ofList ending)

end Format

/-- The text without the mark of byte order at its start. -/
def withoutMark (text : String) : String :=
  match text.toList with
  | c :: rest => if c.toNat = 0xfeff then String.ofList rest else text
  | [] => text

/-- The settings that a text in this format gives, unless it cannot be read. Only TOML may begin
with the mark of byte order. -/
def read? (format : Format) (text : String) : Option (List (String × Value)) :=
  let members? := match format with
    | .toml => Toml.read? (withoutMark text)
    | .json => (Json.parse? text).map fun v => (Value.ofJson v).members
    | .yaml => (Yaml.read? text).map Value.members
  members?.map resolve

end ContractCall.Settings
