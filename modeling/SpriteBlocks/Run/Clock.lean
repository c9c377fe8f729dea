import SpriteBlocks.Duration

/-!
# Clocks

A manual clock keeps virtual time: sleeping only counts it forward, and once
its deadline is reached it presses stop at every step of time. A timer rounds
sleeps up to whole milliseconds and presses stop once, when its deadline has
passed while the run sleeps.
-/
namespace SpriteBlocks

/-- The largest reading of a manual clock in nanoseconds: 64 bits. -/
def maxReading : Nat := UInt64.size - 1

/-- Virtual time, with the time at which stop is pressed. -/
structure ManualClock where
  elapsed : Nat := 0
  stopAt : Option Duration := none
deriving DecidableEq, Inhabited

namespace ManualClock

def now (c : ManualClock) : Duration := ⟨c.elapsed⟩

def due (c : ManualClock) : Bool :=
  match c.stopAt with
  | some deadline => deadline.nanos ≤ c.elapsed
  | none => false

/-- Count time forward, held at the largest reading; tells whether stop is
pressed. -/
def advance (c : ManualClock) (d : Duration) : ManualClock × Bool :=
  let c := { c with elapsed := min (c.elapsed + d.nanos) maxReading }
  (c, c.due)

theorem advance_elapsed (c : ManualClock) (d : Duration) :
    (c.advance d).1.elapsed = min (c.elapsed + d.nanos) maxReading := rfl

end ManualClock

/-- Time in whole milliseconds, with the time at which stop will be pressed. -/
structure Timer where
  elapsed : Nat := 0
  stopAt : Option Nat := none
deriving DecidableEq, Inhabited

namespace Timer

def ceiling (nanos : Nat) : Nat :=
  (nanos + Duration.perMillisecond - 1) / Duration.perMillisecond * Duration.perMillisecond

def withStop (stopAt : Option Duration) : Timer := { stopAt := stopAt.map fun d => ceiling d.nanos }

/-- Sleep. Tells whether stop is pressed during the sleep and whether the
sleeper gave way at all. At a tie the sleeper goes on before stop is pressed. -/
def sleep (t : Timer) (d : Duration) : Timer × Bool × Bool :=
  let wake := ceiling (t.elapsed + d.nanos)
  if wake ≤ t.elapsed then (t, false, false)
  else
    match t.stopAt with
    | some stop =>
      if stop < wake then ({ elapsed := wake }, true, true)
      else ({ t with elapsed := wake }, false, true)
    | none => ({ t with elapsed := wake }, false, true)

end Timer

inductive Clock where
  | manual (clock : ManualClock)
  | timer (timer : Timer)
deriving DecidableEq, Inhabited

namespace Clock

def elapsed : Clock → Nat
  | manual c => c.elapsed
  | timer t => t.elapsed

end Clock
end SpriteBlocks
