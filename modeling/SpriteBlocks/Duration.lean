import SpriteBlocks.Decimal.Written
import SpriteBlocks.Decimal.Numeral

/-!
# Spans of time

A duration is a whole number of nanoseconds. Seconds given as a floating-point
number are rounded to the nearest nanosecond; a time that cannot be counted
reads as the longest duration.
-/
namespace SpriteBlocks

/-- A span of time in nanoseconds. -/
structure Duration where
  nanos : Nat
deriving DecidableEq, Inhabited

namespace Duration

def perSecond : Nat := 1000000000

def perMillisecond : Nat := 1000000

def zero : Duration := ⟨0⟩

/-- The longest duration: as many seconds as 64 bits count, and the last
nanosecond of one more. -/
def longest : Duration := ⟨UInt64.size * perSecond - 1⟩

def ofMillis (ms : Nat) : Duration := ⟨ms * perMillisecond⟩

/-- The sum, held at the longest duration. -/
def add (a b : Duration) : Duration := ⟨min (a.nanos + b.nanos) longest.nanos⟩

instance : LE Duration := ⟨fun a b => a.nanos ≤ b.nanos⟩

instance (a b : Duration) : Decidable (a ≤ b) := inferInstanceAs (Decidable (a.nanos ≤ b.nanos))

/-- A number of seconds to the nearest nanosecond, a half to the even one.
Negative and uncountable times read as the longest duration. -/
def ofSeconds (seconds : Float) : Duration :=
  match Decimal.read seconds with
  | .finite negative magnitude =>
    let nanos := Decimal.roundDiv (magnitude.numerator (-9)) (magnitude.denominator (-9))
    if negative && magnitude.significand ≠ 0 then longest
    else if longest.nanos < nanos then longest
    else ⟨nanos⟩
  | _ => longest

/-- The duration in seconds, as the nearest double of the whole seconds plus
that of the rest. -/
def toSeconds (d : Duration) : Float :=
  Decimal.nearest (d.nanos / perSecond) 0 +
    Decimal.nearest (d.nanos % perSecond) 0 / 1000000000.0

/-- A whole part and a fraction of `places` digits without its last zeros. -/
def withFraction (whole fraction places : Nat) : List Char :=
  let digits := Decimal.digitsOf fraction
  let padded := Decimal.zeros (places - digits.length) ++ digits
  let kept := (padded.reverse.dropWhile (· == '0')).reverse
  Decimal.digitsOf whole ++ (if kept.isEmpty then [] else '.' :: kept)

/-- The duration in the largest unit that has a whole part. -/
def text (d : Duration) : String :=
  let n := d.nanos
  if perSecond ≤ n then String.ofList (withFraction (n / perSecond) (n % perSecond) 9) ++ "s"
  else if perMillisecond ≤ n then
    String.ofList (withFraction (n / perMillisecond) (n % perMillisecond) 6) ++ "ms"
  else if 1000 ≤ n then String.ofList (withFraction (n / 1000) (n % 1000) 3) ++ "µs"
  else String.ofList (Decimal.digitsOf n) ++ "ns"

end Duration
end SpriteBlocks
