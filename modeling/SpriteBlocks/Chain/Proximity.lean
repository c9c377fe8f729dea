import SpriteBlocks.Decimal.Written

/-!
# How close two blocks are

The host measures the gap between two blocks or gives its verdict. A measured
gap connects blocks only strictly inside the tolerance.
-/
namespace SpriteBlocks

/-- The length of the hypotenuse over the larger leg and the smaller one: the
root of the sum of squares, corrected by its first-order error. -/
def Proximity.correctedHypotenuse (large small : Float) : Float :=
  let h := Float.sqrt (large * large + small * small)
  if h ≤ 2.0 * small then
    let excess := h - small
    h - (large * (2.0 * excess - large) + (excess - 2.0 * (large - small)) * excess) / (2.0 * h)
  else
    let excess := h - large
    h - (2.0 * excess * (large - 2.0 * small) + ((4.0 * excess - small) * small + excess * excess))
      / (2.0 * h)

/-- `2 ^ -600`. -/
def Proximity.shrink : Float := Float.ofBits 0x1a70000000000000

/-- `2 ^ 511`, above which squares may overflow. -/
def Proximity.hugeLeg : Float := Float.ofBits 0x5fe0000000000000

/-- `2 ^ -459`, below which squares may vanish. -/
def Proximity.tinyLeg : Float := Float.ofBits 0x2340000000000000

/-- `2 ^ -54`, the ratio from which the smaller leg no longer counts. -/
def Proximity.negligible : Float := Float.ofBits 0x3c90000000000000

/-- The distance whose coordinates differ by `dx` and `dy`. It is infinite if
one of them is, even beside one that is no number. -/
def Proximity.hypotenuse (dx dy : Float) : Float :=
  let x := dx.abs
  let y := dy.abs
  if x.isInf || y.isInf then Float.ofBits 0x7ff0000000000000
  else if x.isNaN || y.isNaN then x + y
  else
    let large := if x < y then y else x
    let small := if x < y then x else y
    if Proximity.hugeLeg < large then
      if small ≤ large * Proximity.negligible then large + small
      else Proximity.correctedHypotenuse (large * Proximity.shrink) (small * Proximity.shrink)
        / Proximity.shrink
    else if small < Proximity.tinyLeg then
      if small / Proximity.negligible ≤ large then large + small
      else Proximity.correctedHypotenuse (large / Proximity.shrink) (small / Proximity.shrink)
        * Proximity.shrink
    else if small ≤ large * Proximity.negligible then large + small
    else Proximity.correctedHypotenuse large small

/-- What the host says about the gap between a block and a possible predecessor. -/
inductive Proximity where
  | adjacent (verdict : Bool)
  | distance (gap : Float)
deriving DecidableEq, Inhabited

namespace Proximity

def between (x₁ y₁ x₂ y₂ : Float) : Proximity := distance (hypotenuse (x₁ - x₂) (y₁ - y₂))

def within (tolerance : Float) : Proximity → Bool
  | adjacent verdict => verdict
  | distance gap => gap.isFinite && gap < tolerance

def shown : Proximity → String
  | adjacent verdict => "Adjacent(" ++ toString verdict ++ ")"
  | distance gap => "Distance(" ++ Decimal.write Decimal.listed gap ++ ")"

end Proximity
end SpriteBlocks
