import SpriteBlocks.Duration

/-!
# Settings of the interpreter

Every setting has a default, so that a script need only name those it changes.
-/
namespace SpriteBlocks

structure Settings where
  /-- The distance of one `move` block in stage units. -/
  moveStep : Float := 10.0
  /-- The turn of a turn block in degrees. -/
  turnDegrees : Float := 15.0
  /-- How long the stage settles after `move`. -/
  moveSettleMs : UInt64 := 300
  /-- How long the stage settles after `move-to`. -/
  moveToSettleMs : UInt64 := 500
  /-- The pause after every round of `forever`. -/
  foreverPacingMs : UInt64 := 50
  /-- How long the bubble of `say` stays up. -/
  sayDurationMs : UInt64 := 2000
  sayText : String := "Hello"
  /-- The rounds of a `repeat` block that does not give their number. -/
  defaultRepeat : UInt32 := 10
  /-- One round of `forever` in this many is logged; none if it is zero. -/
  foreverLogEvery : UInt32 := 5
deriving DecidableEq, Inhabited

namespace Settings

def moveSettle (s : Settings) : Duration := .ofMillis s.moveSettleMs.toNat

def moveToSettle (s : Settings) : Duration := .ofMillis s.moveToSettleMs.toNat

/-- The pause after a round of `forever`, which is never zero. -/
def foreverPacing (s : Settings) : Duration := .ofMillis (max s.foreverPacingMs.toNat 1)

def sayDuration (s : Settings) : Duration := .ofMillis s.sayDurationMs.toNat

theorem foreverPacing_pos (s : Settings) :
    Duration.perMillisecond ≤ s.foreverPacing.nanos :=
  Nat.le_mul_of_pos_left _ (by omega)

end Settings
end SpriteBlocks
