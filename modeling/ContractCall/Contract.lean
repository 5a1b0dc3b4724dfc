import ContractCall.Abi.Layout
import ContractCall.Check

/-!
# Contracts

A contract is an ABI prepared for the checking of calls: its layout, its flat form and the structs
and enums it declares. `check` says whether a call of a method with some arguments is well formed.

A function that only reads is called, any other function is invoked, and a constructor is deployed.
A contract without a constructor is deployed without arguments.
-/

namespace ContractCall

/-- What a call is for. -/
inductive Use where
  | deploy
  | call
  | invoke
deriving DecidableEq

namespace Use

/-- The use in capitals. -/
def label : Use → String
  | deploy => "DEPLOY"
  | call => "CALL"
  | invoke => "INVOKE"

/-- The use in small letters. -/
def word : Use → String
  | deploy => "deploy"
  | call => "call"
  | invoke => "invoke"

/-- The use that a word in small letters names. -/
def ofWord? (s : String) : Option Use :=
  if s = deploy.word then some deploy
  else if s = call.word then some call
  else if s = invoke.word then some invoke
  else none

theorem ofWord?_word (u : Use) : ofWord? u.word = some u := by
  cases u <;> decide

end Use

/-- An ABI prepared for the checking of calls. -/
structure Contract where
  layout : Abi.Layout
  abi : Abi
  decls : Declarations

namespace Contract

/-- The contract of an ABI. -/
def ofAbi (abi : Abi) : Contract :=
  let flat := abi.layout.flatten abi
  ⟨abi.layout, flat, ⟨flat.structs, flat.enums⟩⟩

/-- The functions. -/
def functions (c : Contract) : List Abi.Signature :=
  c.abi.entries.filterMap Abi.Entry.function?

/-- The constructors. -/
def constructors (c : Contract) : List Abi.Signature :=
  c.abi.entries.filterMap Abi.Entry.constructor?

/-- The first method of this name for this use. -/
def method? (c : Contract) (use : Use) (name : String) : Option Abi.Signature :=
  match use with
  | .deploy => c.constructors.find? fun f => f.name == name
  | .call | .invoke => c.functions.find? fun f => f.name == name

/-- Some function of this name only reads, or does not, as the use wants it. -/
def isAvailable (c : Contract) (use : Use) (name : String) : Bool :=
  match use with
  | .deploy => true
  | .call => c.functions.any fun f => f.name == name && f.isView
  | .invoke => c.functions.any fun f => f.name == name && !f.isView

/-- What messages call a method that the use needs. -/
def wanted : Use → String
  | .deploy => "deploy"
  | .call => "viewable"
  | .invoke => "invocable"

/-- There is no such method. -/
def notFound (sort method : String) : Except Error Unit :=
  .error (.abi (.methodNotFound sort method))

/-- Checks the number of arguments, then each of them. -/
def checkArgs (c : Contract) (f : Abi.Signature) (args : List Arg) : Except Error Unit :=
  if args.length ≠ c.layout.arity f then
    .error (.refusal (.argumentCount (c.layout.arity f) args.length))
  else (Check.args c.decls f args).mapError Error.refusal

/-- Checks a call of a method. -/
def check (c : Contract) (use : Use) (method : String) (args : List Arg) : Except Error Unit :=
  if c.isAvailable use method then
    match c.method? use method with
    | some f => checkArgs c f args
    | none =>
      if use = .deploy ∧ method = "constructor" ∧ args.isEmpty then .ok ()
      else notFound use.word method
  else notFound (wanted use) method

/-- The numbers of entries, structs and enums. -/
def summary (c : Contract) : String :=
  "CallData \x7b entries: " ++ toString c.abi.entries.length ++ ", structs: " ++
    toString c.decls.structs.length ++ ", enums: " ++ toString c.decls.enums.length ++ " \x7d"

end Contract

end ContractCall
