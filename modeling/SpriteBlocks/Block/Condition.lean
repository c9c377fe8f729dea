import SpriteBlocks.Text.Blank

/-!
# Conditions

The condition of an `if` block is picked from a menu. Two of the choices stand
for input that is not connected; a run decides them at random.
-/
namespace SpriteBlocks

/-- What an `if` block asks. -/
inductive Condition where
  | always
  | mouseClicked
  | keyPressed
  | spriteEdge
deriving DecidableEq, Inhabited

namespace Condition

def menu : List Condition := [always, mouseClicked, keyPressed, spriteEdge]

/-- The word for the condition in scripts. -/
def choice : Condition → String
  | always => "always"
  | mouseClicked => "mouse-clicked"
  | keyPressed => "key-pressed"
  | spriteEdge => "sprite-edge"

/-- The condition a text chooses, blanks around it aside; any other text
chooses `always`. -/
def ofChoice (text : String) : Condition :=
  (menu.find? fun c => c.choice = Text.trim text).getD always

/-- The name of the condition in log lines. -/
def label : Condition → String
  | always => "always"
  | mouseClicked => "mouse clicked"
  | keyPressed => "key pressed"
  | spriteEdge => "touching edge"

def isRandom : Condition → Bool
  | mouseClicked | keyPressed => true
  | _ => false

end Condition
end SpriteBlocks
