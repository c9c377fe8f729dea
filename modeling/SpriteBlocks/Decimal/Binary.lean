/-!
# Floating-point numbers as exact values

A finite double is a sign and a whole number times a power of two. Decimal
texts are computed from this exact value in whole-number arithmetic.
-/
namespace SpriteBlocks.Decimal

/-- The value `significand * 2 ^ exponent`. -/
structure Binary where
  significand : Nat
  exponent : Int
deriving DecidableEq

inductive Reading where
  | notANumber
  | infinite (negative : Bool)
  | finite (negative : Bool) (magnitude : Binary)
deriving DecidableEq

def minExponent : Int := -1074

/-- The fields of the bit pattern: sign, eleven exponent bits, fraction. -/
def read (x : Float) : Reading :=
  let bits := x.toBits.toNat
  let negative := Nat.pow 2 63 ≤ bits
  let exponent : Nat := bits / Nat.pow 2 52 % Nat.pow 2 11
  let fraction : Nat := bits % Nat.pow 2 52
  if exponent = 2047 then if fraction = 0 then .infinite negative else .notANumber
  else if exponent = 0 then .finite negative ⟨fraction, minExponent⟩
  else .finite negative ⟨fraction + Nat.pow 2 52, (exponent : Int) - 1075⟩

namespace Binary

/-- The numerator of the value over `denominator`, both scaled so that one
unit is `10 ^ place`. -/
def numerator (b : Binary) (place : Int) : Nat :=
  b.significand * Nat.pow 2 b.exponent.toNat * Nat.pow 10 (-place).toNat

def denominator (b : Binary) (place : Int) : Nat :=
  Nat.pow 2 (-b.exponent).toNat * Nat.pow 10 place.toNat

end Binary

/-- The quotient rounded to the nearest whole number, a half to the even one. -/
def roundDiv (num den : Nat) : Nat :=
  let floor := num / den
  let twice := 2 * (num % den)
  if twice < den then floor
  else if den < twice then floor + 1
  else floor + floor % 2

end SpriteBlocks.Decimal
