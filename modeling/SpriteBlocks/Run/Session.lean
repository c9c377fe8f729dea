import SpriteBlocks.Run.Clock
import SpriteBlocks.Run.Interpreter

/-!
# Sessions

A session is the host of a run: a clock, and a finger on the stop button that
waits for a certain log event or frame. It keeps what an onlooker can see of
the run flag.
-/
namespace SpriteBlocks

structure Session where
  clock : Clock
  /-- Press stop while this many-th log event of the run is received. -/
  stopOnLog : Option Nat := none
  /-- Press stop while this many-th frame of the run is shown. -/
  stopOnFrame : Option Nat := none
  logs : Nat := 0
  frames : Nat := 0
  /-- The run flag right after each log event. -/
  flags : Array RunState := #[]
  /-- What pressing stop at a log event returned. -/
  pressed : Option Bool := none
  /-- The run flag when the run gave way for the first time. -/
  firstYield : Option RunState := none
deriving DecidableEq, Inhabited

namespace Session

def onLog (s : Session) (flag : RunState) : Session × Bool :=
  let logs := s.logs + 1
  if s.stopOnLog = some logs then
    let (after, active) := flag.stop
    ({ s with logs, flags := s.flags.push after, pressed := some active }, true)
  else ({ s with logs, flags := s.flags.push flag }, false)

def onFrame (s : Session) : Session × Bool :=
  let frames := s.frames + 1
  ({ s with frames }, s.stopOnFrame = some frames)

def yielding (s : Session) (flag : RunState) : Session :=
  { s with firstYield := s.firstYield.or (some flag) }

def onSleep (s : Session) (flag : RunState) (d : Duration) : Session × Bool :=
  match s.clock with
  | .manual c =>
    let (c, due) := c.advance d
    let after := if due then flag.stop.1 else flag
    ({ s with clock := .manual c }.yielding after, due)
  | .timer t =>
    let (t, due, gaveWay) := t.sleep d
    let s := { s with clock := .timer t }
    (if gaveWay then s.yielding flag else s, due)

def host : Host Session where
  respond s flag
    | .log _ => s.onLog flag
    | .frame .. => s.onFrame
    | .sleep d => s.onSleep flag d
    | _ => (s, false)

def interpreter (settings : Settings) : Interpreter Session := { settings, host }

def world (s : Session) (flag : RunState) (sprite : Sprite) (source : Random.Source) :
    World Session :=
  { sprite, source, flag, host := s }

structure Joined where
  first : World Session × Option Outcome
  second : World Session × Option Outcome
  /-- The clock and the flag that both runs shared. -/
  clock : Clock
  flag : RunState

/-- Two runs of one interpreter at the same time. The second asks to begin when
the first gives way for the first time; if the first never does, the second
begins behind it. -/
def runJoined (m : Interpreter Session) (ws : Workspace) (first second : World Session) : Joined :=
  let a := m.run ws first
  match a.1.host.firstYield with
  | some seen =>
    { first := a, second := m.run ws { second with flag := seen },
      clock := a.1.host.clock, flag := a.1.flag }
  | none =>
    let host := { second.host with clock := a.1.host.clock }
    let b := m.run ws { second with flag := a.1.flag, host }
    { first := a, second := b, clock := b.1.host.clock, flag := b.1.flag }

end Session
end SpriteBlocks
