import ContractCall.Program

/-!
# The command line program

Looks up the files that a command line needs, runs it and reports its outcome: what it prints on the
standard output, the cause of a failure on the standard error.
-/

namespace ContractCall.Main

/-- What a path leads to among the files of the system. -/
def look (path : String) : IO Node := do
  try
    return .text (← IO.FS.readFile path)
  catch
    | .noFileOrDirectory .. => return .missing
    | .inappropriateType .. => return .folder
    | _ => return .unreadable

/-- The files that a command line needs. -/
def files (line : CommandLine) : IO (List (String × Node)) :=
  let settings := line.settings :: Settings.beside line.settings
  (settings ++ line.command.abiPath?.toList).mapM fun path => do return (path, ← look path)

/-- The outcome of a command line. -/
def outcome (words : List String) : IO Outcome := do
  match CommandLine.parse? words with
  | none => return Program.run (fun _ => .missing) words
  | some line =>
    let found ← files line
    return Program.run (fun path => (Assoc.get? found path).getD .missing) words

/-- Prints what an outcome says. -/
def report : Outcome → IO Unit
  | .printed text => IO.print text
  | .failed cause => IO.eprintln ("Error: " ++ cause.message)
  | .misused => IO.eprintln "Usage: starkcall [-c FILE] selector|legacy|method|validate ..."

end ContractCall.Main

/-- Runs the command line. -/
def main (words : List String) : IO UInt32 := do
  let outcome ← ContractCall.Main.outcome words
  ContractCall.Main.report outcome
  return outcome.status.toUInt32
