import ContractCall.Abi.Decode
import ContractCall.Error
import ContractCall.Json.Reader

/-!
# ABI documents

An ABI is read from the text of a JSON document as the document is written, so that a known field
given twice is noticed, or from the value that a document stands for.
-/

namespace ContractCall.Abi

/-- The ABI of a JSON document, unless the text is no document or the document no ABI. -/
def ofText? (text : String) : Option Abi :=
  match (Json.read? text).map ofJson with
  | some (.ok abi) => some abi
  | _ => none

/-- The ABI of a JSON document. What is wrong with the text is told in some wording, with the place
where it is wrong. -/
def ofText (wording : String → String) (text : String) : Except AbiError Abi :=
  match ofText? text with
  | some abi => .ok abi
  | none => .error (.invalidJson (wording text))

/-- The ABI of a JSON value. -/
def ofValue (v : Json) : Except AbiError Abi :=
  (ofJson v).mapError fun fault => .invalidJson fault.message

end ContractCall.Abi
