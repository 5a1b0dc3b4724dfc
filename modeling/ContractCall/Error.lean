import ContractCall.Refusal

/-!
# Errors

`AbiError` lists what can go wrong when an ABI is read or searched, `Error` everything that the
library reports: such an error, the refusal of arguments, or a fault in the settings, the files or
the data around them.
-/

namespace ContractCall

/-- What can go wrong when an ABI is read or searched. -/
inductive AbiError where
  /-- There is no interface in which to look for the method. -/
  | missingInterface (method : String)
  /-- There is no method of the wanted sort. -/
  | methodNotFound (sort method : String)
  /-- The text or value is not an ABI. -/
  | invalidJson (cause : String)
deriving DecidableEq

/-- The wording of an error. -/
def AbiError.message : AbiError → String
  | missingInterface method => "ABI has no interface entry to look up method " ++ method
  | methodNotFound sort method => sort ++ " method " ++ method ++ " not found in abi"
  | invalidJson cause => "Invalid ABI json: " ++ cause

/-- Everything that the library reports. -/
inductive Error where
  | abi (error : AbiError)
  | refusal (cause : Refusal)
  | config (cause : String)
  | io (cause : String)
  | serialization (cause : String)
deriving DecidableEq

/-- The wording of an error. The causes of a refusal are worded without an introduction. -/
def Error.message : Error → String
  | abi error => "ABI error: " ++ error.message
  | refusal cause => cause.message
  | config cause => "Configuration error: " ++ cause
  | io cause => "I/O error: " ++ cause
  | serialization cause => "Serialization error: " ++ cause

end ContractCall
