/-!
# Small letters

`lower` puts the capital letters of ASCII into small form and leaves every other character. To
compare a text with a word in small letters of ASCII that has no `k`, this is enough: the only other
character whose small form is such a letter is the sign of the kelvin.
-/

namespace ContractCall.Text

/-- The text with capital letters of ASCII in small form. -/
def lower (s : List Char) : String :=
  String.ofList (s.map Char.toLower)

end ContractCall.Text
