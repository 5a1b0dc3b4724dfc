import ContractCall.Settings.Value

/-!
# Logging settings

A level filter, the format of the lines and whether a line names its target, each with a default.
The settings are read from a table by name or from a list by position; what is not given has its
default.
-/

namespace ContractCall.Settings

/-- How a log line is laid out. -/
inductive LogFormat where
  | json
  | pretty
  | compact
deriving DecidableEq

namespace LogFormat

/-- The format that a word names, in letters of either case. Any other word means `compact`. -/
def ofWord (s : String) : LogFormat :=
  let word := Text.lower s.toList
  if word = "json" then json else if word = "pretty" then pretty else compact

end LogFormat

/-- The settings of the log. -/
structure Logging where
  level : String
  format : String
  includeTarget : Bool
deriving DecidableEq

namespace Logging

/-- Warnings in the compact format, without targets. -/
def standard : Logging := ⟨"warn", "compact", false⟩

/-- The format of the lines. -/
def lineFormat (l : Logging) : LogFormat :=
  LogFormat.ofWord l.format

/-- The settings with these values given. -/
def ofGiven? (level format includeTarget : Option Value) : Option Logging := do
  let level ← match level with
    | some v => v.text?
    | none => some standard.level
  let format ← match format with
    | some v => v.text?
    | none => some standard.format
  let includeTarget ← match includeTarget with
    | some v => v.flag?
    | none => some standard.includeTarget
  return ⟨level, format, includeTarget⟩

/-- The settings that a value describes. -/
def ofValue? : Value → Option Logging
  | .table members =>
    ofGiven? (Assoc.get? members "level") (Assoc.get? members "format")
      (Assoc.get? members "include_target")
  | .list items => ofGiven? items[0]? items[1]? items[2]?
  | _ => none

/-- The settings under the key `logging` of a document. -/
def ofDocument? (document : List (String × Value)) : Option Logging :=
  match Assoc.get? document "logging" with
  | some v => ofValue? v
  | none => some standard

end Logging

end ContractCall.Settings
