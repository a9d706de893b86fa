import Arbitrage.Bytes

/-!
# Keccak-256

The hash behind account addresses and their checksummed spelling: the Keccak permutation on
twenty-five lanes of 64 bits, absorbed 136 bytes at a time, with the padding `0x01 … 0x80`.
-/

namespace Arbitrage.Keccak

/-- The state of the permutation: twenty-five lanes, of which the lane in column `x` of row `y` has
index `x + 5 * y`. -/
abbrev Lanes := Vector UInt64 25

def lane (a : Lanes) (x y : Nat) : UInt64 := a[x % 5 + 5 * (y % 5)]

/-- A state from a rule for the lane in column `x` of row `y`. -/
def build (rule : Nat → Nat → UInt64) : Lanes := Vector.ofFn fun i => rule (i.val % 5) (i.val / 5)

def rotateLeft (w : UInt64) (n : UInt64) : UInt64 := (w <<< n) ||| (w >>> (64 - n))

/-- The rotation of each lane, by index; every lane but the first is rotated by an amount of its
own. -/
def offsets : Vector UInt64 25 := #v[
  0, 1, 62, 28, 27,
  36, 44, 6, 55, 20,
  3, 10, 43, 25, 39,
  41, 45, 15, 21, 8,
  18, 2, 61, 56, 14]

/-- The constant of each of the twenty-four rounds, which keeps the rounds from being alike. -/
def roundConstants : List UInt64 := [
  0x0000000000000001, 0x0000000000008082, 0x800000000000808a, 0x8000000080008000,
  0x000000000000808b, 0x0000000080000001, 0x8000000080008081, 0x8000000000008009,
  0x000000000000008a, 0x0000000000000088, 0x0000000080008009, 0x000000008000000a,
  0x000000008000808b, 0x800000000000008b, 0x8000000000008089, 0x8000000000008003,
  0x8000000000008002, 0x8000000000000080, 0x000000000000800a, 0x800000008000000a,
  0x8000000080008081, 0x8000000000008080, 0x0000000080000001, 0x8000000080008008]

/-- Mix into every lane the parities of the two neighbouring columns, the right one rotated by one
bit. -/
def theta (a : Lanes) : Lanes :=
  let parity := fun x => lane a x 0 ^^^ lane a x 1 ^^^ lane a x 2 ^^^ lane a x 3 ^^^ lane a x 4
  build fun x y => lane a x y ^^^ parity (x + 4) ^^^ rotateLeft (parity (x + 1)) 1

/-- Rotate the lanes and move them to their new places, so that columns and rows mingle in the next
round. -/
def rhoPi (a : Lanes) : Lanes :=
  build fun x y => rotateLeft (lane a (x + 3 * y) x) (lane offsets (x + 3 * y) x)

/-- Combine each lane with the next two of its row. This is the one step of a round that is not
linear. -/
def chi (a : Lanes) : Lanes :=
  build fun x y => lane a x y ^^^ (~~~ (lane a (x + 1) y) &&& lane a (x + 2) y)

def round (a : Lanes) (constant : UInt64) : Lanes :=
  let b := chi (rhoPi (theta a))
  b.set 0 (b[0] ^^^ constant)

def permute (a : Lanes) : Lanes := roundConstants.foldl round a

/-- Bytes taken in by each permutation; the other 64 bytes of the state are never given out. -/
def rate : Nat := 136

/-- Fill a message up to a whole number of blocks: one byte `0x81` where a single byte is missing,
and otherwise `0x01`, zeros and `0x80`. A message that already is a whole number of blocks gets one
more. -/
def pad (message : Bytes) : Bytes :=
  let free := rate - message.length % rate
  if free = 1 then message ++ [0x81]
  else message ++ 0x01 :: List.replicate (free - 2) 0 ++ [0x80]

/-- The lane that eight bytes spell, least significant byte first. -/
def readLane (bytes : Bytes) : UInt64 :=
  bytes.foldr (fun b w => (w <<< 8) ||| b.toUInt64) 0

def writeLane (w : UInt64) : Bytes :=
  (List.range 8).map fun i => (w >>> (8 * UInt64.ofNat i)).toUInt8

def absorb (a : Lanes) (block : Bytes) : Lanes :=
  permute (Vector.ofFn fun i =>
    if i.val < 17 then a[i] ^^^ readLane ((block.drop (8 * i.val)).take 8) else a[i])

/-- The 32 bytes of the Keccak-256 hash: the first four lanes after every block has been
absorbed. -/
def hash (message : Bytes) : Bytes :=
  let padded := pad message
  let blocks := (List.range (padded.length / rate)).map fun i => (padded.drop (rate * i)).take rate
  let final := blocks.foldl absorb (Vector.replicate 25 0)
  writeLane final[0] ++ writeLane final[1] ++ writeLane final[2] ++ writeLane final[3]

end Arbitrage.Keccak
