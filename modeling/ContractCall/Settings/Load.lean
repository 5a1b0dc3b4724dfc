import ContractCall.Files
import ContractCall.Settings.Document
import ContractCall.Settings.Logging

/-!
# Loading settings

The logging settings of a settings file. Where there is no file everything has its default. The path
of a folder stands for a file beside it that has the folder's name and the ending of a format.
-/

namespace ContractCall.Settings

/-- Why a settings file is of no use. -/
inductive Fault where
  /-- It has no known format, or no text in this format. -/
  | unreadable
  /-- A setting has a value of the wrong sort. -/
  | unfit
deriving DecidableEq

/-- The wording of a fault. -/
def Fault.message : Fault → String
  | unreadable => "Failed to build configuration"
  | unfit => "Failed to deserialize configuration"

/-- The paths of the files beside a folder that hold settings in its name. -/
def beside (path : String) : List String :=
  let parts := (Text.pieces '/' path.toList).reverse.dropWhile fun p => p == [] || p == ['.']
  match parts with
  | [] => []
  | name :: _ =>
    if name = ['.', '.'] then []
    else
      let folder := String.ofList (List.intercalate ['/'] parts.reverse)
      Format.endings.map fun ending => folder ++ "." ++ ending

/-- The path that is meant: where there is a folder, that of a file beside it, if there is one. -/
def source (look : String → Node) (path : String) : String :=
  match look path with
  | .folder => ((beside path).find? fun p => (look p).content?.isSome).getD path
  | _ => path

/-- The settings document that a path leads to. -/
def document (path : String) : Node → Except Fault (List (String × Value))
  | .missing => .ok []
  | .text content =>
    match (Format.ofPath? path).bind fun format => read? format content with
    | some members => .ok members
    | none => .error .unreadable
  | _ => .error .unreadable

/-- The logging settings that a path leads to. -/
def load (look : String → Node) (path : String) : Except Fault Logging :=
  let path := source look path
  match document path (look path) with
  | .error f => .error f
  | .ok members =>
    match Logging.ofDocument? members with
    | some logging => .ok logging
    | none => .error .unfit

/-- Without a file the settings are the standard ones. -/
theorem load_of_missing {look : String → Node} {path : String} (h : look path = .missing) :
    load look path = .ok Logging.standard := by
  simp [load, source, h, document]
  rfl

end ContractCall.Settings
