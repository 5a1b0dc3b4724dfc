/-!
# Why arguments are refused

`Refusal` lists the causes for which the arguments of a call are refused, `message` words them.
-/

namespace ContractCall

/-- Why the arguments of a call are refused. `arg` is the name of the parameter and `type` the type
string that the value was checked against. -/
inductive Refusal where
  /-- The value has the wrong shape. -/
  | typeMismatch (arg type expected found : String)
  /-- The value's integer lies outside the range. -/
  | outOfRange (arg type range : String)
  /-- The value is a number too large to be exact. -/
  | oversizeNumber (arg : String)
  /-- The value lacks a member of its struct. -/
  | missingMember (arg member : String)
  /-- The value is no value of its enum. -/
  | unrecognizedEnum (arg type found : String)
  /-- The type is not supported. -/
  | unhandledType (arg type : String)
  /-- There is no value for the parameter. -/
  | missingArgument (arg : String) (index : Nat)
  /-- There are too few or too many arguments. -/
  | argumentCount (expected got : Nat)
deriving DecidableEq

namespace Refusal

/-- The wording of a cause. -/
def message : Refusal → String
  | typeMismatch arg type expected found =>
    "Validate: arg " ++ arg ++ " of cairo type " ++ type ++ " should be type (" ++ expected ++
      "), but is " ++ found
  | outOfRange arg type range =>
    "Validate: arg " ++ arg ++ " cairo typed " ++ type ++ " should be in range " ++ range
  | oversizeNumber arg =>
    "Validation: Parameter " ++ arg ++
      " is too large to be typed as Number use (BigInt or String)"
  | missingMember arg member => "Validate: arg " ++ arg ++ " should have a property " ++ member
  | unrecognizedEnum arg type found =>
    "Validate Enum: argument " ++ arg ++ ", type " ++ type ++ ", value received " ++ found ++
      ", is not an Enum."
  | unhandledType arg type => "Validate Unhandled: argument " ++ arg ++ ", type " ++ type
  | missingArgument arg index =>
    "Validate: no value supplied for arg " ++ arg ++ " at position " ++ toString index
  | argumentCount expected got =>
    "Invalid number of arguments, expected " ++ toString expected ++ " arguments, but got " ++
      toString got

end Refusal

end ContractCall
