import FixtureProbe.Bytes

/-!
# Keccak-256

The sponge with a rate of 136 bytes over the 1600-bit permutation. The first padding byte is `0x01`,
not the `0x06` of the later standard: this is the variant that names functions on the chain.

The state is a list of 25 lanes of 64 bits; lane `x + 5 * y` stands in column `x` of row `y`.
-/

namespace FixtureProbe
namespace Keccak

def lane (state : List UInt64) (i : Nat) : UInt64 :=
  state.getD i 0

/-- Rotation to the left. The two shifts cover the word, so a rotation by zero keeps it. -/
def rotate (w : UInt64) (n : Nat) : UInt64 :=
  if n = 0 then w else w <<< n.toUInt64 ||| w >>> (64 - n).toUInt64

def tabulate (f : Nat -> UInt64) : List UInt64 :=
  (List.range 25).map f

/-!
# The permutation
-/

def rotations : List Nat :=
  [ 0,  1, 62, 28, 27,
   36, 44,  6, 55, 20,
    3, 10, 43, 25, 39,
   41, 45, 15, 21,  8,
   18,  2, 61, 56, 14]

def roundConstants : List UInt64 :=
  [0x0000000000000001, 0x0000000000008082, 0x800000000000808A, 0x8000000080008000,
   0x000000000000808B, 0x0000000080000001, 0x8000000080008081, 0x8000000000008009,
   0x000000000000008A, 0x0000000000000088, 0x0000000080008009, 0x000000008000000A,
   0x000000008000808B, 0x800000000000008B, 0x8000000000008089, 0x8000000000008003,
   0x8000000000008002, 0x8000000000000080, 0x000000000000800A, 0x800000008000000A,
   0x8000000080008081, 0x8000000000008080, 0x0000000080000001, 0x8000000080008008]

def columnParity (state : List UInt64) (x : Nat) : UInt64 :=
  lane state x ^^^ lane state (x + 5) ^^^ lane state (x + 10) ^^^ lane state (x + 15) ^^^
    lane state (x + 20)

def mixColumns (state : List UInt64) : List UInt64 :=
  let parities := (List.range 5).map (columnParity state)
  let effect := (List.range 5).map fun x =>
    lane parities ((x + 4) % 5) ^^^ rotate (lane parities ((x + 1) % 5)) 1
  tabulate fun i => lane state i ^^^ lane effect (i % 5)

/-- Rotates every lane and moves the lane of `(x, y)` to `(y, 2 * x + 3 * y)`. -/
def rotateAndMove (state : List UInt64) : List UInt64 :=
  tabulate fun i =>
    let source := (i % 5 + 3 * (i / 5)) % 5 + 5 * (i % 5)
    rotate (lane state source) (rotations.getD source 0)

def mixRows (state : List UInt64) : List UInt64 :=
  tabulate fun i =>
    let row := i / 5 * 5
    lane state i ^^^
      (~~~ lane state (row + (i % 5 + 1) % 5) &&& lane state (row + (i % 5 + 2) % 5))

def round (state : List UInt64) (constant : UInt64) : List UInt64 :=
  match mixRows (rotateAndMove (mixColumns state)) with
  | first :: rest => (first ^^^ constant) :: rest
  | [] => []

def permute (state : List UInt64) : List UInt64 :=
  roundConstants.foldl round state

/-!
# The sponge
-/

def rate : Nat := 136

/-- The padding that follows a message: `0x01`, zeros, and `0x80` in the last byte of a block. -/
def padding (length : Nat) : Bytes :=
  let room := rate - length % rate
  if room = 1 then [0x81] else 0x01 :: (List.replicate (room - 2) 0 ++ [0x80])

def laneOfBytes (bytes : Bytes) : UInt64 :=
  UInt64.ofNat (Bytes.toNat bytes.reverse)

def bytesOfLane (w : UInt64) : Bytes :=
  (Bytes.ofNat 8 w.toNat).reverse

def absorb (state : List UInt64) (block : Bytes) : List UInt64 :=
  permute (tabulate fun i => lane state i ^^^ laneOfBytes ((block.drop (8 * i)).take 8))

def absorbBlocks : (count : Nat) -> (state : List UInt64) -> (message : Bytes) -> List UInt64
  | 0, state, _ => state
  | count + 1, state, message =>
      absorbBlocks count (absorb state (message.take rate)) (message.drop rate)

def digest (message : Bytes) : Bytes :=
  let padded := message ++ padding message.length
  ((absorbBlocks (padded.length / rate) (List.replicate 25 0) padded).take 4).flatMap bytesOfLane

end Keccak
end FixtureProbe
