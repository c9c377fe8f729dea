import SpriteBlocks.Decimal.Written

/-!
# The sprite

Every block acts on the sprite. Its position is in percent of the stage, with
`y` growing downwards; its heading is in degrees and is never wrapped; its size
is in percent of its natural size. Changes that would leave the finite numbers
are dropped, and positions and sizes are held inside their bounds.
-/
namespace SpriteBlocks

structure Sprite where
  x : Float := 50.0
  y : Float := 50.0
  rotation : Float := 0.0
  size : Float := 100.0
  visible : Bool := true
deriving DecidableEq, Inhabited

namespace Sprite

def stageMin : Float := 0.0
def stageMax : Float := 100.0
def minSize : Float := 10.0
def maxSize : Float := 300.0

/-- The distance from the border at which the sprite touches it. -/
def edgeMargin : Float := 5.0

def clamp (low high x : Float) : Float :=
  let x := if x < low then low else x
  if high < x then high else x

def radians (degrees : Float) : Float := degrees * (3.141592653589793 / 180.0)

/-- Go to a point of the stage, held at the border. A target that is not finite
is ignored. -/
def setPosition (s : Sprite) (x y : Float) : Sprite :=
  if x.isFinite && y.isFinite then
    { s with x := clamp stageMin stageMax x, y := clamp stageMin stageMax y }
  else s

/-- Walk along the heading, up to the border. -/
def advance (s : Sprite) (steps : Float) : Sprite :=
  let heading := radians s.rotation
  s.setPosition (s.x + heading.cos * steps) (s.y + heading.sin * steps)

/-- Turn; a turn that would leave the heading not finite is dropped. -/
def turn (s : Sprite) (degrees : Float) : Sprite :=
  let rotation := s.rotation + degrees
  if rotation.isFinite then { s with rotation } else s

/-- Go to a point in the coordinates from -100 to 100 that blocks use. -/
def moveToLogical (s : Sprite) (x y : Float) : Sprite :=
  s.setPosition ((x + 100.0) / 2.0) ((y + 100.0) / 2.0)

def changeSize (s : Sprite) (delta : Float) : Sprite :=
  let size := s.size + delta
  if size.isFinite then { s with size := clamp minSize maxSize size } else s

def isNearEdge (s : Sprite) : Bool :=
  s.x ≤ stageMin + edgeMargin || stageMax - edgeMargin ≤ s.x ||
    s.y ≤ stageMin + edgeMargin || stageMax - edgeMargin ≤ s.y

def text (s : Sprite) : String :=
  "position (" ++ Decimal.writeFixed 1 s.x ++ ", " ++ Decimal.writeFixed 1 s.y ++ "), rotation " ++
    Decimal.write Decimal.plain s.rotation ++ "°, size " ++ Decimal.write Decimal.plain s.size ++
    "%, " ++ (if s.visible then "visible" else "hidden")

end Sprite
end SpriteBlocks
