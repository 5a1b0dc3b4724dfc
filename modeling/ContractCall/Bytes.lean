/-!
# Big-endian bytes

`ofBytes` reads a byte string as a natural number, `toBytes` writes the shortest byte string of one;
zero is one zero byte.
-/

namespace ContractCall.Bytes

/-- The number that the bytes denote, the most significant first. -/
def ofBytes (bytes : List UInt8) : Nat :=
  bytes.foldl (fun n b => n * 256 + b.toNat) 0

/-- The shortest bytes of a number, the most significant first and never none. -/
def toBytes (n : Nat) : List UInt8 :=
  if n < 256 then [n.toUInt8] else toBytes (n / 256) ++ [(n % 256).toUInt8]

theorem ofBytes_append_singleton (bytes : List UInt8) (b : UInt8) :
    ofBytes (bytes ++ [b]) = ofBytes bytes * 256 + b.toNat := by
  simp [ofBytes]

/-- Reading the written bytes gives the number back. -/
theorem ofBytes_toBytes (n : Nat) : ofBytes (toBytes n) = n := by
  fun_induction toBytes n with
  | case1 n h => simp [ofBytes, Nat.mod_eq_of_lt h]
  | case2 n h ih =>
    rw [ofBytes_append_singleton, ih]
    simp
    omega

end ContractCall.Bytes
