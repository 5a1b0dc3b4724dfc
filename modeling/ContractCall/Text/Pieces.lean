/-!
# Pieces of a text

`pieces` cuts a text at every occurrence of a separator. There is one more piece than there are
separators, and with the separators put back the pieces are the text.
-/

namespace ContractCall.Text

/-- The parts of a text between separators, empty ones included. -/
def pieces (separator : Char) : List Char → List (List Char)
  | [] => [[]]
  | c :: rest =>
    if c = separator then [] :: pieces separator rest
    else
      match pieces separator rest with
      | [] => [[c]]
      | piece :: others => (c :: piece) :: others

end ContractCall.Text
