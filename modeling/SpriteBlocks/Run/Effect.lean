import SpriteBlocks.Block.Condition
import SpriteBlocks.Block.Opcode
import SpriteBlocks.Block.Id
import SpriteBlocks.Chain.Proximity
import SpriteBlocks.Duration
import SpriteBlocks.Log.Event
import SpriteBlocks.Stage.Sprite

/-!
# Effects and notes

An effect is what a run does to the world around it: it writes a log line,
shows the sprite, asks for a speech bubble, takes a random word or sleeps. A
note is a diagnostic about the interpreter itself; nothing reacts to notes.
-/
namespace SpriteBlocks

inductive Outcome where
  /-- Every chain ran to its end. -/
  | completed
  /-- Stop was pressed before the program ended. -/
  | stopped
  /-- Another run was in progress; nothing happened. -/
  | alreadyRunning
deriving DecidableEq, Inhabited

def Outcome.name : Outcome → String
  | completed => "Completed"
  | stopped => "Stopped"
  | alreadyRunning => "AlreadyRunning"

structure Speech where
  text : String
  duration : Duration
deriving DecidableEq, Inhabited

/-- What a run does to the world around it. -/
inductive Effect where
  | log (event : LogEvent)
  /-- The sprite after a change, and how long the change takes on screen. -/
  | frame (sprite : Sprite) (transition : Duration)
  | speech (speech : Speech)
  | draw (word : UInt64)
  | sleep (duration : Duration)
deriving DecidableEq, Inhabited

/-- A diagnostic of the workspace, the run flag or the interpreter. -/
inductive Note where
  | added (block : BlockId) (opcode : Opcode)
  | tooFar (source target : BlockId) (gap : Proximity)
  | displaced (block previous : BlockId)
  | connected (source target : BlockId)
  | runRefused
  | runStarted (blocks : Nat)
  | runFinished (outcome : Outcome)
  | dispatch (block : BlockId) (opcode : Opcode)
  | loopEnded (rounds : Nat)
  | evaluated (condition : Condition) (met : Bool)
  | stopRequested
deriving DecidableEq, Inhabited

namespace Note

def message : Note → String
  | added .. => "added"
  | tooFar .. => "too far apart to connect"
  | displaced .. => "moved block to a new predecessor"
  | connected .. => "connected"
  | runRefused => "run requested while already running"
  | runStarted _ => "run started"
  | runFinished _ => "run finished"
  | dispatch .. => "dispatch"
  | loopEnded _ => "forever loop ended"
  | evaluated .. => "condition evaluated"
  | stopRequested => "stop requested"

/-- The named fields of a note, in the order in which they are shown. -/
def fields : Note → List (String × String)
  | added block opcode => [("block", block.shown), ("opcode", opcode.tag)]
  | tooFar source target gap =>
    [("from", source.shown), ("to", target.shown), ("proximity", gap.shown)]
  | displaced block previous => [("block", block.shown), ("previous", previous.shown)]
  | connected source target => [("from", source.shown), ("to", target.shown)]
  | runRefused => []
  | runStarted blocks => [("blocks", toString blocks)]
  | runFinished outcome => [("outcome", outcome.name)]
  | dispatch block opcode => [("block", block.shown), ("opcode", opcode.tag)]
  | loopEnded rounds => [("rounds", toString rounds)]
  | evaluated condition met =>
    [("condition", condition.label), ("random", toString condition.isRandom),
      ("met", toString met)]
  | stopRequested => []

end Note

inductive Entry where
  | effect (effect : Effect)
  | note (note : Note)
deriving DecidableEq, Inhabited

namespace Entry

def effect? : Entry → Option Effect
  | effect e => some e
  | note _ => none

def note? : Entry → Option Note
  | effect _ => none
  | note n => some n

end Entry

namespace Effect

def event? : Effect → Option LogEvent
  | log event => some event
  | _ => none

def frame? : Effect → Option (Sprite × Duration)
  | frame sprite transition => some (sprite, transition)
  | _ => none

def speech? : Effect → Option Speech
  | speech s => some s
  | _ => none

def sleep? : Effect → Option Duration
  | sleep d => some d
  | _ => none

end Effect
end SpriteBlocks
