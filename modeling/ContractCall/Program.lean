import ContractCall.Abi.Document
import ContractCall.Abi.Encode
import ContractCall.Arg.OfJson
import ContractCall.CommandLine
import ContractCall.Json.Printer
import ContractCall.Selector
import ContractCall.Settings.LevelFilter
import ContractCall.Settings.Load

/-!
# The program

`Program.run` gives the outcome of a command line: what is printed, or why not. Settings come first,
then the filter of the log, then the command. The files it reads are given by the function `look`.
-/

namespace ContractCall

/-- Why a command fails. -/
inductive Failure where
  | settings (fault : Settings.Fault)
  | logging (fault : Settings.LevelFilter.Fault)
  /-- The file with the ABI cannot be read. -/
  | noAbi (path : String)
  /-- The file holds no ABI. -/
  | notAbi (path : String)
  | abi (error : AbiError)
  | noMethod (name : String)
  /-- The arguments are not a JSON array. -/
  | arguments
  | refused (error : Error)
deriving DecidableEq

/-- The wording of a failure. -/
def Failure.message : Failure → String
  | settings fault => fault.message
  | logging fault => "Failed to initialize logging: " ++ fault.message
  | noAbi path => "Failed to read abi file " ++ Text.quote path
  | notAbi path => "Failed to parse abi file " ++ Text.quote path
  | abi error => error.message
  | noMethod name => "Method " ++ name ++ " not found"
  | arguments => "Arguments must be a JSON array"
  | refused error => error.message

/-- What becomes of a command line. -/
inductive Outcome where
  /-- It is not understood. -/
  | misused
  | failed (cause : Failure)
  | printed (text : String)
deriving DecidableEq

/-- The exit status that reports an outcome. -/
def Outcome.status : Outcome → Nat
  | printed _ => 0
  | failed _ => 1
  | misused => 2

/-- What an outcome prints. -/
def Outcome.output : Outcome → String
  | printed text => text
  | _ => ""

namespace Program

/-- The ABI that a path leads to. -/
def abi (path : String) (node : Node) : Except Failure Abi :=
  match node with
  | .text content =>
    match Abi.ofText? content with
    | some abi => .ok abi
    | none => .error (.notAbi path)
  | _ => .error (.noAbi path)

/-- The arguments that a text gives. -/
def args (text : String) : Except Failure (List Arg) :=
  match Json.parse? text with
  | some (.array items) => .ok (items.map Arg.ofJson)
  | _ => .error .arguments

/-- A JSON document to print. -/
def document (v : Json) : String :=
  v.pretty ++ "\n"

/-- What a command prints. -/
def perform (look : String → Node) : Command → Except Failure String
  | .selector value => .ok (Selector.ofText value ++ "\n")
  | .legacy path => do
    let abi ← abi path (look path)
    return document (abi.layout.flatten abi).toJson
  | .method path name => do
    let abi ← abi path (look path)
    match abi.layout.method? abi name with
    | .error e => .error (.abi e)
    | .ok none => .error (.noMethod name)
    | .ok (some f) => return document f.toJson
  | .validate path method text use => do
    let abi ← abi path (look path)
    let args ← args text
    ((Contract.ofAbi abi).check use method args).mapError .refused
    return "ok\n"

/-- What a command line prints once it is understood. -/
def execute (look : String → Node) (line : CommandLine) : Except Failure String := do
  let logging ← (Settings.load look line.settings).mapError .settings
  (Settings.LevelFilter.check logging.level).mapError .logging
  perform look line.command

/-- The outcome of a command line. -/
def run (look : String → Node) (words : List String) : Outcome :=
  match CommandLine.parse? words with
  | none => .misused
  | some line =>
    match execute look line with
    | .ok text => .printed text
    | .error cause => .failed cause

/-- Only a command that succeeds prints something. -/
theorem output_run_of_status_ne {look : String → Node} {words : List String}
    (h : (run look words).status ≠ 0) : (run look words).output = "" := by
  cases hr : run look words with
  | printed text => simp [hr, Outcome.status] at h
  | _ => rfl

end Program

end ContractCall
