import SpriteBlocks.Random.Keystream

/-!
# Sources of randomness

A source is an endless sequence of 64-bit words and the number of words taken
from it so far. A draw takes one word and turns it into a number or a verdict.
-/
namespace SpriteBlocks.Random

/-- An endless sequence of words, read from a position on. -/
structure Source where
  words : Nat → UInt64
  position : Nat := 0

namespace Source

def ofSeed (seed : UInt64) : Source := { words := keystream (keyOfSeed seed) }

/-- A list of words over and over; all zeros for the empty list. -/
def cycle (words : Array UInt64) : Source := { words := fun i => words.getD (i % words.size) 0 }

def peek (s : Source) : UInt64 := s.words s.position

def advance (s : Source) : Source := { s with position := s.position + 1 }

end Source

/-- A number from 0 up to 100, with 52 random bits. -/
def percent (word : UInt64) : Float :=
  (Float.ofBits ((0x3ff0000000000000 : UInt64) ||| (word >>> 12)) - 1.0) * 100.0 + 0.0

def happens (probability : Float) (word : UInt64) : Bool :=
  word < (probability * 18446744073709551616.0).toUInt64

end SpriteBlocks.Random
