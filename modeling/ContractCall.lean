import ContractCall.Arg.ToJson
import ContractCall.Main
import ContractCall.Proofs.Typing
import ContractCall.Proofs.Check.Acceptance
import ContractCall.Proofs.Contract.Arity
import ContractCall.Proofs.Contract.Flattening
import ContractCall.Proofs.Contract.Mutability
import ContractCall.Proofs.Abi.Nesting
import ContractCall.Proofs.Contract.Declarations
import ContractCall.Proofs.Binary64
import ContractCall.Proofs.Fault
import ContractCall.Proofs.Check.FirstFault
import ContractCall.Proofs.Json.Distinct
import ContractCall.Proofs.Outcome
import ContractCall.Proofs.Abi.RoundTrip
import ContractCall.Proofs.Selector
import ContractCall.Proofs.Contract.Errors
import ContractCall.Proofs.Contract.Shown
import ContractCall.Proofs.Contract.Rearrangement
import ContractCall.Proofs.Abi.Documents
import ContractCall.Proofs.Abi.Search
import ContractCall.Proofs.Contract.Deployment
import ContractCall.Proofs.Numeral.Reading
import ContractCall.Proofs.Check.Uint
import ContractCall.Proofs.Check.Felt
import ContractCall.Proofs.CairoType
import ContractCall.Proofs.Check.Nest
import ContractCall.Proofs.Check.SafeNumber
import ContractCall.Proofs.Check.Text
import ContractCall.Proofs.Numeral.Canonical
import ContractCall.Proofs.Arg.RoundTrip
import ContractCall.Proofs.Selector.Text
import ContractCall.Proofs.CairoType.Leaf
import ContractCall.Proofs.Check.Unrelated
import ContractCall.Proofs.Abi.Content
import ContractCall.Proofs.Abi.Steps
import ContractCall.Proofs.Binary64.Rounding
import ContractCall.Proofs.Check.IntegerLiteral
import ContractCall.Proofs.Check.Levels
import ContractCall.Proofs.CairoType.Extraction
import ContractCall.Proofs.CairoType.ItemPlace
import ContractCall.Proofs.Text.Place
import ContractCall.Proofs.Check.Tuple
import ContractCall.Proofs.Selector.Number
