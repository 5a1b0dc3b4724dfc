import ContractCall.Settings.Yaml.Document

/-!
# YAML documents

`read?` gives the value of a document: its text is taken apart into tokens, the tokens describe a
node, and the node gives the value.
-/

namespace ContractCall.Settings.Yaml

/-- The value of a document, unless it cannot be read. -/
def read? (text : String) : Option Value :=
  ((Token.ofText? text).bind Node.ofTokens?).bind Node.value?

end ContractCall.Settings.Yaml
