import SpriteBlocks.Text.Blank

/-!
# Kinds of blocks

The palette holds the known kinds. A tag that names none of them is kept, so
that a run can report it.
-/
namespace SpriteBlocks

/-- What a block does. -/
inductive Opcode where
  | move
  | turnRight
  | turnLeft
  | say
  | showSprite
  | hideSprite
  | wait
  | repeatTimes
  | forever
  | ifThen
  | moveTo
  | glide
  | sayCustom
  | changeSize
  | whenClicked
  | whenGreenFlag
  | unknown (tag : String)
deriving DecidableEq, Inhabited

namespace Opcode

/-- The known kinds in palette order. -/
def palette : List Opcode :=
  [move, turnRight, turnLeft, say, showSprite, hideSprite, wait, repeatTimes, forever, ifThen,
   moveTo, glide, sayCustom, changeSize, whenClicked, whenGreenFlag]

/-- The word for the kind in scripts. -/
def tag : Opcode → String
  | move => "move"
  | turnRight => "turn-right"
  | turnLeft => "turn-left"
  | say => "say"
  | showSprite => "show"
  | hideSprite => "hide"
  | wait => "wait"
  | repeatTimes => "repeat"
  | forever => "forever"
  | ifThen => "if"
  | moveTo => "move-to"
  | glide => "glide"
  | sayCustom => "say-custom"
  | changeSize => "change-size"
  | whenClicked => "when-clicked"
  | whenGreenFlag => "when-green-flag"
  | unknown tag => tag

/-- The kind a tag names, blanks around it aside. -/
def ofTag (tag : String) : Opcode :=
  let trimmed := Text.trim tag
  (palette.find? fun o => o.tag = trimmed).getD (unknown trimmed)

/-- Containers run the blocks inside them under their own rule. -/
def isContainer : Opcode → Bool
  | repeatTimes | forever | ifThen => true
  | _ => false

/-- Hats mark the start of a script and do nothing when run. -/
def isHat : Opcode → Bool
  | whenClicked | whenGreenFlag => true
  | _ => false

def isKnown : Opcode → Bool
  | unknown _ => false
  | _ => true

/-- The name of the kind in log lines. -/
def description : Opcode → String
  | move => "move block"
  | turnRight => "turn right block"
  | turnLeft => "turn left block"
  | say => "say block"
  | showSprite => "show block"
  | hideSprite => "hide block"
  | wait => "wait block"
  | repeatTimes => "repeat block"
  | forever => "forever block"
  | ifThen => "if block"
  | moveTo => "move to block"
  | glide => "glide block"
  | sayCustom => "say for block"
  | changeSize => "change size block"
  | whenClicked => "when clicked block"
  | whenGreenFlag => "when green flag block"
  | unknown _ => "unknown block"

end Opcode
end SpriteBlocks
