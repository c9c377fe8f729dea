/-!
# A keystream of numbered blocks

The keystream is ChaCha with twelve rounds, a 64-bit block counter from zero
and a zero nonce. The key comes from a 64-bit seed through eight steps of a
linear congruential generator with a permuted output.
-/
namespace SpriteBlocks.Random

/-- The sixteen words of a block. -/
abbrev Words := Vector UInt32 16

def rotateLeft (x : UInt32) (n : UInt32) : UInt32 := (x <<< n) ||| (x >>> (32 - n))

/-- Rotation to the right; an amount of zero leaves the word as it is. -/
def rotateRight (x : UInt32) (n : UInt32) : UInt32 := (x >>> n) ||| (x <<< ((32 - n) % 32))

def quarterRound (a b c d : Fin 16) (w : Words) : Words :=
  let w := w.set a (w[a] + w[b])
  let w := w.set d (rotateLeft (w[d] ^^^ w[a]) 16)
  let w := w.set c (w[c] + w[d])
  let w := w.set b (rotateLeft (w[b] ^^^ w[c]) 12)
  let w := w.set a (w[a] + w[b])
  let w := w.set d (rotateLeft (w[d] ^^^ w[a]) 8)
  let w := w.set c (w[c] + w[d])
  w.set b (rotateLeft (w[b] ^^^ w[c]) 7)

/-- A round on the columns and a round on the diagonals. -/
def doubleRound (w : Words) : Words :=
  let w := quarterRound 0 4 8 12 w
  let w := quarterRound 1 5 9 13 w
  let w := quarterRound 2 6 10 14 w
  let w := quarterRound 3 7 11 15 w
  let w := quarterRound 0 5 10 15 w
  let w := quarterRound 1 6 11 12 w
  let w := quarterRound 2 7 8 13 w
  quarterRound 3 4 9 14 w

def doubleRounds : Nat → Words → Words
  | 0, w => w
  | n + 1, w => doubleRounds n (doubleRound w)

/-- The eight words of a key. -/
abbrev Key := Vector UInt32 8

/-- One step of the generator that spreads a seed over a key. -/
def seedStep (state : UInt64) : UInt64 := state * 6364136223846793005 + 11634580027462260723

/-- The key word shown by a state of the generator. -/
def seedWord (state : UInt64) : UInt32 :=
  rotateRight (((state >>> 18) ^^^ state) >>> 27).toUInt32 (state >>> 59).toUInt32

def seedState (seed : UInt64) : Nat → UInt64
  | 0 => seed
  | n + 1 => seedStep (seedState seed n)

def keyOfSeed (seed : UInt64) : Key := Vector.ofFn fun i => seedWord (seedState seed (i + 1))

/-- The block input: constants, key, counter and nonce. -/
def initialWords (key : Key) (block : Nat) : Words :=
  #v[0x61707865, 0x3320646e, 0x79622d32, 0x6b206574,
    key[0], key[1], key[2], key[3], key[4], key[5], key[6], key[7],
    UInt32.ofNat block, UInt32.ofNat (block / UInt32.size), 0, 0]

def keystreamBlock (key : Key) (block : Nat) : Words :=
  let start := initialWords key block
  Vector.zipWith (· + ·) (doubleRounds 6 start) start

/-- The 64-bit words of the keystream: pairs of output words, low word first. -/
def keystream (key : Key) (i : Nat) : UInt64 :=
  let words := keystreamBlock key (i / 8)
  let low := words.toArray.getD (2 * (i % 8)) 0
  let high := words.toArray.getD (2 * (i % 8) + 1) 0
  low.toUInt64 ||| (high.toUInt64 <<< 32)

end SpriteBlocks.Random
