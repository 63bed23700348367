import BifrostRelayer.Foundation.Scale

/-!
# Keccak-256

The hash function of Ethereum: the sponge over the permutation Keccak-f[1600] with a rate of 136
bytes and the padding `10*1`.  The state of 25 lanes of 64 bits is kept in one number, lane
`x + 5 * y` in the bits from `64 * (x + 5 * y)` on.  So a block of bytes, read with its least
significant byte first, is absorbed by one exclusive or, and the digest is the first 32 bytes of the
state.
-/

namespace BifrostRelayer

namespace Keccak

open Scale

/-- Rotation of a lane to the left. -/
def rotl (lane n : ℕ) : ℕ := ((lane <<< n) ||| (lane >>> (64 - n))) % 2 ^ 64

/-- The lane at column `x` and row `y`, both taken modulo 5. -/
def lane (s x y : ℕ) : ℕ := (s >>> (64 * (x % 5 + 5 * (y % 5)))) % 2 ^ 64

/-- The state with given lanes. -/
def ofLanes (f : ℕ → ℕ → ℕ) : ℕ :=
  (List.range 25).foldr (fun i s => f (i % 5) (i / 5) + 2 ^ 64 * s) 0

/-- The parity of a column. -/
def parity (s x : ℕ) : ℕ := lane s x 0 ^^^ lane s x 1 ^^^ lane s x 2 ^^^ lane s x 3 ^^^ lane s x 4

/-- `θ`: every lane takes up the parities of two columns beside it. -/
def theta (s x y : ℕ) : ℕ := lane s x y ^^^ parity s (x + 4) ^^^ rotl (parity s (x + 1)) 1

/-- The rotations of `ρ`, at `x + 5 * y`. -/
def offsets : List ℕ :=
  [0, 1, 62, 28, 27, 36, 44, 6, 55, 20, 3, 10, 43, 25, 39, 41, 45, 15, 21, 8, 18, 2, 61, 56, 14]

/-- `ρ` and `π`: the lane that ends at column `x` and row `y`, rotated. -/
def rhoPi (s x y : ℕ) : ℕ :=
  let x' := (x + 3 * y) % 5
  rotl (theta s x' x) (offsets.getD (x' + 5 * x) 0)

/-- `χ`: the only step that is not linear. -/
def chi (s x y : ℕ) : ℕ :=
  rhoPi s x y ^^^ ((rhoPi s ((x + 1) % 5) y ^^^ (2 ^ 64 - 1)) &&& rhoPi s ((x + 2) % 5) y)

/-- One round; `ι` adds the constant of the round to the first lane. -/
def round (rc s : ℕ) : ℕ := ofLanes (chi s) ^^^ rc

/-- The constants of the rounds. -/
def roundConstants : List ℕ :=
  [0x0000000000000001, 0x0000000000008082, 0x800000000000808A, 0x8000000080008000,
    0x000000000000808B, 0x0000000080000001, 0x8000000080008081, 0x8000000000008009,
    0x000000000000008A, 0x0000000000000088, 0x0000000080008009, 0x000000008000000A,
    0x000000008000808B, 0x800000000000008B, 0x8000000000008089, 0x8000000000008003,
    0x8000000000008002, 0x8000000000000080, 0x000000000000800A, 0x800000008000000A,
    0x8000000080008081, 0x8000000000008080, 0x0000000080000001, 0x8000000080008008]

/-- Apply rounds one after another. -/
def rounds : List ℕ → ℕ → ℕ
  | [], s => s
  | rc :: rcs, s =>
      -- the match has the round evaluated once, before the next one reads its lanes
      match round rc s with
      | 0 => rounds rcs 0
      | n + 1 => rounds rcs (n + 1)

/-- Keccak-f[1600]. -/
def permute (s : ℕ) : ℕ := rounds roundConstants s

/-- The number of bytes absorbed at a time. -/
def rate : ℕ := 136

/-- The last block: the rest of the message with the padding `10*1`. -/
def padded (rest : List UInt8) : ℕ :=
  leNat rest + 256 ^ rest.length + 2 ^ 7 * 256 ^ (rate - 1)

/-- Absorb a message, a block at a time; `fuel` bounds the number of full blocks. -/
def absorb : ℕ → ℕ → List UInt8 → ℕ
  | 0, s, msg => permute (s ^^^ padded msg)
  | fuel + 1, s, msg =>
      if msg.length < rate then permute (s ^^^ padded msg)
      else absorb fuel (permute (s ^^^ leNat (msg.take rate))) (msg.drop rate)

/-- The Keccak-256 digest of a message. -/
def keccak256 (msg : List UInt8) : List UInt8 := leBytes 32 (absorb (msg.length / rate) 0 msg)

/-- A digest has 32 bytes. -/
@[simp] lemma length_keccak256 (msg : List UInt8) : (keccak256 msg).length = 32 := by
  simp [keccak256]

example : keccak256 [] =
    [0xc5, 0xd2, 0x46, 0x01, 0x86, 0xf7, 0x23, 0x3c, 0x92, 0x7e, 0x7d, 0xb2, 0xdc, 0xc7, 0x03, 0xc0,
      0xe5, 0x00, 0xb6, 0x53, 0xca, 0x82, 0x27, 0x3b, 0x7b, 0xfa, 0xd8, 0x04, 0x5d, 0x85, 0xa4,
      0x70] := by
  decide +kernel

end Keccak

end BifrostRelayer
