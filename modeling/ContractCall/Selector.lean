import ContractCall.Bytes
import ContractCall.Keccak
import ContractCall.Numeral
import ContractCall.Power

/-!
# Entry point selectors

A function or event is identified by the Keccak-256 digest of its name, cut to its low 250 bits so
that it fits into a field element. `ofName` hashes a name; `ofText` also takes a selector already
written as a numeral.
-/

namespace ContractCall.Selector

/-- The number of bits of a selector. -/
def bits : Nat := 250

/-- The big-endian integer of the digest of a byte string. -/
def digestNat (bytes : List UInt8) : Nat :=
  Bytes.ofBytes (Keccak.digest bytes).toList

/-- The low 250 bits of the digest of a name's UTF-8 bytes. -/
def hash (name : String) : Nat :=
  digestNat name.toUTF8.toList % 2 ^ bits

/-- The selector of a name, as a hexadecimal numeral. -/
def ofName (name : String) : String :=
  Numeral.toHex (hash name)

/-- The selector of a name or of a numeral: a hexadecimal numeral is its own selector, a decimal one
is written in hexadecimal, and anything else is a name. -/
def ofText (s : String) : String :=
  if Numeral.isHex s then s
  else if Numeral.isWhole s then (Numeral.hexOf? s).getD (ofName s)
  else ofName s

/-- The whole digest of a number's shortest big-endian bytes, as a hexadecimal numeral. -/
def ofNat (n : Nat) : String :=
  Numeral.toHex (digestNat (Bytes.toBytes n))

/-- A selector is below `2 ^ 250`. -/
theorem hash_lt (name : String) : hash name < 2 ^ bits :=
  Nat.mod_lt _ (Nat.two_pow_pos _)

end ContractCall.Selector
