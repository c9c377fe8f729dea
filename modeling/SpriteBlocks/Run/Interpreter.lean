import SpriteBlocks.Run.Settings
import SpriteBlocks.Run.World
import SpriteBlocks.Workspace.Basic

/-!
# The interpreter

A run executes the chains of a workspace one after the other and the blocks of
a chain in order. The run flag is asked before every block and before every
round of a loop, so a stop takes effect at the next of these boundaries; the
only suspension is a sleep. A `forever` loop is given a number of rounds; a
world whose loops ran out is marked and does nothing more.
-/
namespace SpriteBlocks

/-- An interpreter with its settings and the host it runs in. -/
structure Interpreter (σ : Type) where
  settings : Settings
  host : Host σ
  /-- The rounds a `forever` loop may count: as many as 64 bits. -/
  roundLimit : Nat := UInt64.size

namespace Interpreter
variable {σ : Type}

def shown (x : Float) : String := Decimal.write Decimal.plain x

def rounded (x : Float) : String := Decimal.writeFixed 0 x

/-- A time in seconds from a slot or the default; never negative. -/
def secondsOr (p : Parameters) (name : String) (default : Float) : Float :=
  let seconds := p.numberOr name default
  if 0.0 < seconds then seconds else 0.0

/-- How often a `repeat` block runs its children: the fraction is dropped, and
the number is held between none and the largest of 32 bits. -/
def repeatCount (s : Settings) (p : Parameters) : Nat :=
  (Sprite.clamp 0.0 4294967295.0
    (p.numberOr "times" (Float.ofNat s.defaultRepeat.toNat))).toUInt32.toNat

/-- The chance that the random stand-in of a condition holds. -/
def chance : Condition → Float
  | .mouseClicked => 0.3
  | _ => 0.2

def evaluate (h : Host σ) (c : Condition) (w : World σ) : Bool × World σ :=
  match c with
  | .always => (true, w)
  | .spriteEdge => (w.sprite.isNearEdge, w)
  | .mouseClicked | .keyPressed =>
    let (word, w) := w.draw h
    (Random.happens (chance c) word, w)

def move (m : Interpreter σ) (w : World σ) : World σ :=
  let before := w.sprite
  let after := before.advance m.settings.moveStep
  { w with sprite := after }
    |>.render m.host m.settings.moveSettle
    |>.log m.host .execution ("moved " ++ shown m.settings.moveStep ++ " steps (" ++
        rounded before.x ++ "," ++ rounded before.y ++ " -> " ++ rounded after.x ++ "," ++
        rounded after.y ++ ")")
    |>.sleep m.host m.settings.moveSettle

def turn (m : Interpreter σ) (degrees : Float) (w : World σ) : World σ :=
  let before := w.sprite
  let after := before.turn degrees
  { w with sprite := after }
    |>.render m.host .zero
    |>.log m.host .execution ("turned " ++ Decimal.write Decimal.signed degrees ++ "° (" ++
        shown before.rotation ++ "° -> " ++ shown after.rotation ++ "°)")

def say (m : Interpreter σ) (s : Speech) (w : World σ) : World σ :=
  w.speak m.host s
    |>.log m.host .execution ("said \"" ++ s.text ++ "\" (" ++ shown s.duration.toSeconds ++ "s)")

def setVisible (m : Interpreter σ) (visible : Bool) (w : World σ) : World σ :=
  { w with sprite := { w.sprite with visible } }
    |>.render m.host .zero
    |>.log m.host .execution (if visible then "sprite shown" else "sprite hidden")

def wait (m : Interpreter σ) (p : Parameters) (w : World σ) : World σ :=
  let seconds := secondsOr p "seconds" 1.0
  w.log m.host .execution ("waiting " ++ shown seconds ++ "s")
    |>.sleep m.host (.ofSeconds seconds)

def moveTo (m : Interpreter σ) (p : Parameters) (w : World σ) : World σ :=
  let x := p.numberOr "x" 0.0
  let y := p.numberOr "y" 0.0
  { w with sprite := w.sprite.moveToLogical x y }
    |>.render m.host m.settings.moveToSettle
    |>.log m.host .execution ("moved to (" ++ shown x ++ ", " ++ shown y ++ ")")
    |>.sleep m.host m.settings.moveToSettle

def glide (m : Interpreter σ) (p : Parameters) (w : World σ) : World σ :=
  let seconds := secondsOr p "duration" 2.0
  let duration := Duration.ofSeconds seconds
  let (wordX, w) := w.draw m.host
  let (wordY, w) := w.draw m.host
  let x := Random.percent wordX
  let y := Random.percent wordY
  { w with sprite := w.sprite.setPosition x y }
    |>.render m.host duration
    |>.log m.host .execution ("gliding to (" ++ rounded x ++ ", " ++ rounded y ++ ") over " ++
        shown seconds ++ "s")
    |>.sleep m.host duration

def sayCustom (m : Interpreter σ) (p : Parameters) (w : World σ) : World σ :=
  let duration := Duration.ofSeconds (secondsOr p "duration" 2.0)
  m.say ⟨p.textOr "text" "Hello!", duration⟩ w
    |>.sleep m.host duration

def changeSize (m : Interpreter σ) (p : Parameters) (w : World σ) : World σ :=
  let delta := p.numberOr "delta" 10.0
  let after := w.sprite.changeSize delta
  { w with sprite := after }
    |>.render m.host .zero
    |>.log m.host .execution ("size changed by " ++ Decimal.write Decimal.signed delta ++
        "% (now " ++ shown after.size ++ "%)")

def repeatRounds (m : Interpreter σ) (body : World σ → World σ) (times : Nat) :
    Nat → World σ → World σ
  | 0, w => w.log m.host .success "repeat finished"
  | left + 1, w =>
    if w.isRunning then
      let w := w.log m.host .execution
        ("repeat round " ++ toString (times - left) ++ "/" ++ toString times)
      let w := body w
      if w.isRunning then repeatRounds m body times left w else w
    else w

def foreverRounds (m : Interpreter σ) (body : World σ → World σ) :
    Nat → Nat → World σ → World σ
  | 0, done, w => if w.isRunning then { w with exhausted := true } else w.note (.loopEnded done)
  | fuel + 1, done, w =>
    if w.isRunning then
      let every := m.settings.foreverLogEvery.toNat
      let w := if 0 < every ∧ done % every = 0 then
          w.log m.host .execution ("forever round " ++ toString (done + 1))
        else w
      let w := body w
      if w.isRunning then
        foreverRounds m body fuel (done + 1) (w.sleep m.host m.settings.foreverPacing)
      else w.note (.loopEnded (done + 1))
    else w.note (.loopEnded done)

mutual
def exec (m : Interpreter σ) : Block → World σ → World σ
  | ⟨id, opcode, params, children⟩, w =>
    let w := w.note (.dispatch id opcode)
    match opcode with
    | .move => m.move w
    | .turnRight => m.turn m.settings.turnDegrees w
    | .turnLeft => m.turn (-m.settings.turnDegrees) w
    | .say => m.say ⟨m.settings.sayText, m.settings.sayDuration⟩ w
    | .showSprite => m.setVisible true w
    | .hideSprite => m.setVisible false w
    | .wait => m.wait params w
    | .moveTo => m.moveTo params w
    | .glide => m.glide params w
    | .sayCustom => m.sayCustom params w
    | .changeSize => m.changeSize params w
    | .whenClicked | .whenGreenFlag => w.log m.host .info ("event: " ++ opcode.description)
    | .unknown tag => w.log m.host .error ("unknown block type: " ++ tag)
    | .repeatTimes =>
      if children.isEmpty then w.log m.host .warning "repeat block is empty"
      else
        let times := repeatCount m.settings params
        m.repeatRounds (fun w => execAll m children w) times times
          (w.log m.host .execution ("repeating " ++ toString times ++ " times"))
    | .forever =>
      if children.isEmpty then w.log m.host .warning "forever block is empty"
      else
        m.foreverRounds (fun w => execAll m children w) m.roundLimit 0
          (w.log m.host .execution "forever loop started")
    | .ifThen =>
      let condition := Condition.ofChoice (params.textOr "condition" "always")
      let (met, w) := evaluate m.host condition w
      let w := w.note (.evaluated condition met)
      let w := w.log m.host .execution
        ("if " ++ condition.label ++ ": " ++ (if met then "met" else "not met"))
      if met then execAll m children w else w

/-- Execute blocks in order for as long as the run goes on. -/
def execAll (m : Interpreter σ) : List Block → World σ → World σ
  | [], w => w
  | b :: bs, w => if w.isRunning then execAll m bs (exec m b w) else w
end

/-- The steps of a chain of `total` blocks, from step `i` on. -/
def execSteps (m : Interpreter σ) (total : Nat) : Nat → List Block → World σ → World σ
  | _, [], w => w
  | i, b :: bs, w =>
    if w.isRunning then
      let w := w.log m.host .execution ("chain step " ++ toString i ++ "/" ++ toString total ++
        ": " ++ b.opcode.description)
      execSteps m total (i + 1) bs (m.exec b w)
    else w

/-- Run the chain that starts at a top-level block, the `i`-th of the workspace. -/
def execChain (m : Interpreter σ) (ws : Workspace) (i : Nat) (b : Block) (w : World σ) : World σ :=
  let chain := ws.chainFrom b.id
  if 1 < chain.length then
    m.execSteps chain.length 1 chain
      (w.log m.host .execution ("executing chain of " ++ toString chain.length ++ " blocks"))
  else
    m.exec b (w.log m.host .execution ("block " ++ toString i ++ ": " ++ b.opcode.description))

/-- Run the chains that start among the top-level blocks from the `i`-th on. -/
def execChains (m : Interpreter σ) (ws : Workspace) : Nat → List Block → World σ → World σ
  | _, [], w => w
  | i, b :: bs, w =>
    if w.isRunning then
      execChains m ws (i + 1) bs
        (if ws.registry.isSuccessor b.id then w else m.execChain ws i b w)
    else w

def finish (m : Interpreter σ) (w : World σ) : World σ × Outcome :=
  let (flag, ended) := w.flag.finish
  let w := { w with flag }
  match ended with
  | .running =>
    ((w.log m.host .success "run complete").note (.runFinished .completed), .completed)
  | _ => ((w.log m.host .warning "run interrupted").note (.runFinished .stopped), .stopped)

/-- The part of an accepted run between its start and its end. -/
def execProgram (m : Interpreter σ) (ws : Workspace) (w : World σ) : World σ :=
  let w := w.note (.runStarted ws.length)
  let w := w.log m.host .execution "running program"
  let w :=
    if ws.isEmpty then w.log m.host .warning "workspace has no blocks"
    else w.log m.host .info ("found " ++ toString ws.length ++ " blocks")
  m.execChains ws 1 ws.blocks w

/-- Run every chain of the workspace. There is no outcome if a loop ran out of
rounds before the run ended. -/
def run (m : Interpreter σ) (ws : Workspace) (w : World σ) : World σ × Option Outcome :=
  match w.flag.tryStart with
  | (_, false) => (w.note .runRefused, some .alreadyRunning)
  | (flag, true) =>
    let w := m.execProgram ws { w with flag }
    if w.exhausted then (w, none)
    else
      let (w, outcome) := m.finish w
      (w, some outcome)

end Interpreter
end SpriteBlocks
