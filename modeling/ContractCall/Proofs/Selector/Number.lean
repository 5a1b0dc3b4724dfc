import ContractCall.Proofs.Numeral.Canonical
import ContractCall.Proofs.Selector

/-!
# The hash of a number

`Selector.ofNat` hashes the shortest big-endian bytes of a number. They are also what the digits of
its hexadecimal numeral denote when they are read two by two.

* `Bytes.ofDigitPairs?`: the bytes that hexadecimal digits denote, two digits for each.
* `Numeral.evenLength`: the digits behind a zero where their number is odd.
* `ofDigitPairs?_toDigits`: the digits of a number, made even, denote its shortest bytes.
* `ofNat_hashes_digitPairs`: the hash of a number is that of these bytes, which no other number has.
-/

namespace ContractCall

open Numeral

variable {high low : Char} {digits : List Char} {bytes : List UInt8} {n m x y : Nat}

/-- The bytes that hexadecimal digits denote, two digits for each and the more significant first. -/
def Bytes.ofDigitPairs? : List Char → Option (List UInt8)
  | [] => some []
  | [_] => none
  | high :: low :: rest =>
    match digit? high, digit? low, ofDigitPairs? rest with
    | some x, some y, some bytes => some ((16 * x + y).toUInt8 :: bytes)
    | _, _, _ => none

/-- The digits, behind a zero where their number is odd. -/
def Numeral.evenLength (digits : List Char) : List Char :=
  if digits.length % 2 = 0 then digits else '0' :: digits

/-! ## Pairs of digits -/

theorem Bytes.ofDigitPairs?_append_pair (h : Bytes.ofDigitPairs? digits = some bytes)
    (hx : digit? high = some x) (hy : digit? low = some y) :
    Bytes.ofDigitPairs? (digits ++ [high, low]) = some (bytes ++ [(16 * x + y).toUInt8]) := by
  fun_induction Bytes.ofDigitPairs? digits generalizing bytes with
  | case1 =>
    cases h
    simp [Bytes.ofDigitPairs?, hx, hy]
  | case2 => cases h
  | case3 high' low' rest x' y' init hrest hy' hx' ih =>
    cases h
    simp [Bytes.ofDigitPairs?, hx', hy', ih hrest]
  | case4 => cases h

theorem Numeral.evenLength_append_pair (digits : List Char) (high low : Char) :
    evenLength (digits ++ [high, low]) = evenLength digits ++ [high, low] := by
  have hl : (digits ++ [high, low]).length % 2 = digits.length % 2 := by
    rw [List.length_append]
    exact Nat.add_mod_right _ 2
  unfold evenLength
  rw [hl]
  split <;> rfl

/-- A number has two digits more than its part above the lowest byte. -/
theorem Numeral.toDigits_eq_append_pair (h : 256 ≤ n) : Nat.toDigits 16 n =
    Nat.toDigits 16 (n / 256) ++ [Nat.digitChar (n / 16 % 16), Nat.digitChar (n % 16)] := by
  rw [Nat.toDigits_eq_if (by decide), if_neg (by omega), Nat.toDigits_eq_if (n := n / 16) (by decide),
    if_neg (by omega), Nat.div_div_eq_div_mul, List.append_assoc]
  rfl

/-- The digits of a number, made even, denote its shortest bytes. The lowest byte is the last two
digits, and the parity of those in front of it stays the same. -/
theorem ofDigitPairs?_toDigits (n : Nat) :
    Bytes.ofDigitPairs? (evenLength (Nat.toDigits 16 n)) = some (Bytes.toBytes n) := by
  have hpair {digits : List Char} {bytes : List UInt8} {x y : Nat}
      (h : Bytes.ofDigitPairs? digits = some bytes) (hx : x < 16) (hy : y < 16) :
      Bytes.ofDigitPairs? (digits ++ [Nat.digitChar x, Nat.digitChar y]) =
        some (bytes ++ [(16 * x + y).toUInt8]) :=
    Bytes.ofDigitPairs?_append_pair h (digit?_digitChar hx) (digit?_digitChar hy)
  fun_induction Bytes.toBytes n with
  | case1 n h =>
    by_cases hn : n < 16
    · have hd : evenLength (Nat.toDigits 16 n) = [] ++ [Nat.digitChar 0, Nat.digitChar n] := by
        rw [Nat.toDigits_of_lt_base hn]
        rfl
      rw [hd, hpair rfl (by decide) hn, Nat.mul_zero, Nat.zero_add, List.nil_append]
    · have hd : evenLength (Nat.toDigits 16 n) =
          [] ++ [Nat.digitChar (n / 16), Nat.digitChar (n % 16)] := by
        rw [Nat.toDigits_eq_if (by decide), if_neg hn, Nat.toDigits_of_lt_base (by omega)]
        exact evenLength_append_pair [] _ _
      rw [hd, hpair rfl (by omega) (Nat.mod_lt n (by decide)), Nat.div_add_mod, List.nil_append]
  | case2 n h ih =>
    have hbyte : 16 * (n / 16 % 16) + n % 16 = n % 256 := by omega
    rw [toDigits_eq_append_pair (by omega), evenLength_append_pair,
      hpair ih (Nat.mod_lt _ (by decide)) (Nat.mod_lt _ (by decide)), hbyte]

/-! ## The hash -/

theorem Bytes.toBytes_inj : Bytes.toBytes n = Bytes.toBytes m ↔ n = m := by
  refine ⟨fun h => ?_, fun h => h ▸ rfl⟩
  rw [← Bytes.ofBytes_toBytes n, h, Bytes.ofBytes_toBytes]

namespace Selector

/-- The digits of the numeral of a number, behind a zero where they are odd in number, denote its
shortest bytes, two digits for each. Zero has one zero byte, and no two numbers have the same bytes.
The hash of the number is the canonical numeral of the whole digest of these bytes. -/
theorem ofNat_hashes_digitPairs (n : Nat) :
    Bytes.ofDigitPairs? (evenLength (stripMark (toHex n)).toList) = some (Bytes.toBytes n) ∧
    Canonical
      (Nat.ofDigits 256 ((Keccak.digest (Bytes.toBytes n)).toList.map UInt8.toNat).reverse)
      (ofNat n) ∧
    Bytes.toBytes 0 = [0] ∧
    ∀ m, Bytes.toBytes m = Bytes.toBytes n ↔ m = n := by
  have hd : (stripMark (toHex n)).toList = Nat.toDigits 16 n := by
    rw [stripMark, toList_toHex]
    exact String.toList_ofList
  refine ⟨?_, ?_, ?_, fun m => Bytes.toBytes_inj⟩
  · rw [hd, ofDigitPairs?_toDigits]
  · rw [canonical_iff, ← Bytes.ofBytes_eq_ofDigits]
    rfl
  · rw [Bytes.toBytes, if_pos (by decide)]
    rfl

end Selector

end ContractCall
