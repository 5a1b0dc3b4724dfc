/-!
# Keccak-256

The sponge over the permutation of 1600 bits with the padding whose first bit follows the message
directly. `digest` maps a byte string to its 32 bytes.

The state is twenty-five lanes; the lane of column `x` and row `y` stands at `x + 5 * y`. A round is
the five layers `theta`, `rho` and `pi` (here one step), `chi` and `iota`.
-/

namespace ContractCall.Keccak

/-- The twenty-five lanes. -/
abbrev State := Vector UInt64 25

/-- The lane of column `x` and row `y`, both taken modulo five. -/
def lane (s : State) (x y : Nat) : UInt64 :=
  s[x % 5 + 5 * (y % 5)]

/-- The state with the given lane in each column and row. -/
def build (f : Nat → Nat → UInt64) : State :=
  Vector.ofFn fun i => f (i.val % 5) (i.val / 5)

/-- Rotation of a lane to the left by fewer than 64 bits. -/
def rotate (v : UInt64) (n : Nat) : UInt64 :=
  if n = 0 then v else v <<< n.toUInt64 ||| v >>> (64 - n).toUInt64

/-- The exclusive or of a column. -/
def parity (s : State) (x : Nat) : UInt64 :=
  lane s x 0 ^^^ lane s x 1 ^^^ lane s x 2 ^^^ lane s x 3 ^^^ lane s x 4

/-- Each lane takes in the parities of the column to its left and of the rotated one to its right.
-/
def theta (s : State) : State :=
  let parities : Vector UInt64 5 := Vector.ofFn fun x => parity s x.val
  let mix : Vector UInt64 5 := Vector.ofFn fun x =>
    parities[(x.val + 4) % 5] ^^^ rotate parities[(x.val + 1) % 5] 1
  build fun x y => lane s x y ^^^ mix[x % 5]

/-- How far the lane at each position is rotated. -/
def offsets : Vector Nat 25 :=
  #v[0, 1, 62, 28, 27, 36, 44, 6, 55, 20, 3, 10, 43, 25, 39, 41, 45, 15, 21, 8, 18, 2, 61, 56, 14]

/-- Each lane is rotated by its own offset, and the lanes change places. -/
def rhoPi (s : State) : State :=
  build fun x y => rotate (lane s (x + 3 * y) x) offsets[(x + 3 * y) % 5 + 5 * (x % 5)]

/-- Each lane takes in its two right-hand neighbours in the row. -/
def chi (s : State) : State :=
  build fun x y => lane s x y ^^^ (~~~ lane s (x + 1) y &&& lane s (x + 2) y)

/-- The first lane takes in the round's constant. -/
def iota (constant : UInt64) (s : State) : State :=
  s.set 0 (s[0] ^^^ constant)

/-- One constant for each of the twenty-four rounds. -/
def roundConstants : List UInt64 :=
  [0x0000000000000001, 0x0000000000008082, 0x800000000000808a, 0x8000000080008000,
    0x000000000000808b, 0x0000000080000001, 0x8000000080008081, 0x8000000000008009,
    0x000000000000008a, 0x0000000000000088, 0x0000000080008009, 0x000000008000000a,
    0x000000008000808b, 0x800000000000008b, 0x8000000000008089, 0x8000000000008003,
    0x8000000000008002, 0x8000000000000080, 0x000000000000800a, 0x800000008000000a,
    0x8000000080008081, 0x8000000000008080, 0x0000000080000001, 0x8000000080008008]

/-- The permutation: every round in turn. -/
def permute (s : State) : State :=
  roundConstants.foldl (fun s constant => iota constant (chi (rhoPi (theta s)))) s

/-- The bytes that one permutation takes in. -/
def rate : Nat := 136

/-- What follows a message of `n` bytes to fill its last block: a first byte 1, zeros, and the top
bit of the last byte. -/
def padding (n : Nat) : List UInt8 :=
  if n % rate = rate - 1 then [0x81]
  else 0x01 :: List.replicate (rate - 2 - n % rate) 0 ++ [0x80]

/-- Up to eight bytes as a lane, the least significant first. -/
def laneOfBytes (bytes : List UInt8) : UInt64 :=
  bytes.foldr (fun b v => v <<< 8 ||| b.toUInt64) 0

/-- The state after a block has been taken in. -/
def absorbBlock (s : State) (block : List UInt8) : State :=
  permute (Vector.ofFn fun i =>
    if i.val < rate / 8 then s[i] ^^^ laneOfBytes ((block.drop (8 * i.val)).take 8) else s[i])

/-- The state after all blocks of the padded message have been taken in. -/
def absorb (s : State) (bytes : List UInt8) : State :=
  if bytes = [] then s else absorb (absorbBlock s (bytes.take rate)) (bytes.drop rate)
termination_by bytes.length
decreasing_by
  have := List.length_pos_iff.mpr ‹_›
  simp only [List.length_drop, rate]
  omega

/-- The digest of a byte string: the first four lanes of the final state. -/
def digest (message : List UInt8) : Vector UInt8 32 :=
  let s := absorb (Vector.replicate 25 0) (message ++ padding message.length)
  Vector.ofFn fun i => (s[i.val / 8] >>> (8 * (i.val % 8)).toUInt64).toUInt8

end ContractCall.Keccak
