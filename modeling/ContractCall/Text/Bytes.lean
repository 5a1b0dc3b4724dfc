/-!
# Parts of a text by bytes

Places in a text counted in the bytes of UTF-8. `dropBytes` and `takeBytes` cut a text at such a
place; one within a character counts as the place behind it.
-/

namespace ContractCall.Text

/-- The text behind its first bytes. -/
def dropBytes : Nat → List Char → List Char
  | _, [] => []
  | 0, s => s
  | n + 1, c :: rest => dropBytes (n + 1 - c.utf8Size) rest

/-- The first bytes of a text. -/
def takeBytes : Nat → List Char → List Char
  | _, [] => []
  | 0, _ => []
  | n + 1, c :: rest => c :: takeBytes (n + 1 - c.utf8Size) rest

end ContractCall.Text
