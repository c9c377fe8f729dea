/-!
# The run flag

The flag is shared by the interpreter and whoever may press stop. Each of its
operations is one atomic step: it reads the flag and replaces it.
-/
namespace SpriteBlocks

inductive RunState where
  | idle
  | running
  /-- Stop was pressed; the run is unwinding and will return to `idle`. -/
  | stopped
deriving DecidableEq, Inhabited

namespace RunState

def name : RunState → String
  | idle => "idle"
  | running => "running"
  | stopped => "stopped"

/-- What every step boundary asks. -/
def isRunning : RunState → Bool
  | running => true
  | _ => false

/-- Press stop: the flag after it, and whether a run was active. -/
def stop : RunState → RunState × Bool
  | running => (stopped, true)
  | s => (s, false)

/-- Begin a run: the flag after it, and whether the run was accepted. -/
def tryStart : RunState → RunState × Bool
  | idle => (running, true)
  | s => (s, false)

/-- End a run: the flag after it, and the state in which the run ended. -/
def finish (s : RunState) : RunState × RunState := (idle, s)

theorem isRunning_iff (s : RunState) : s.isRunning ↔ s = running := by cases s <;> simp [isRunning]

end RunState
end SpriteBlocks
