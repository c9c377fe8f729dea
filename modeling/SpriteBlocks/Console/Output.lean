import SpriteBlocks.Console.Panel
import SpriteBlocks.Console.Trace

/-!
# Output of a program

What a program writes is a sequence of texts for its two streams, trace lines,
and pauses between them. A trace line gets its time when it is written.
-/
namespace SpriteBlocks.Console

inductive Output where
  /-- A line on the standard output. -/
  | out (line : String)
  /-- A line on the error output. -/
  | err (line : String)
  /-- A trace line on the error output. -/
  | trace (line : TraceLine)
  | pause (duration : Duration)
deriving DecidableEq, Inhabited

structure Manner where
  ink : Ink := {}
  /-- Whether notes are written. -/
  verbose : Bool := false
deriving DecidableEq, Inhabited

namespace Output

def outText : Output → String
  | out line => line ++ "\n"
  | _ => ""

/-- The text that the step adds to the error output, with a time for trace
lines. -/
def errText (ink : Ink) (time : String) : Output → String
  | err line => line ++ "\n"
  | trace line => line.shown ink time ++ "\n"
  | _ => ""

end Output

def Manner.trace (m : Manner) (line : TraceLine) : List Output :=
  if line.isShown m.verbose then [.trace line] else []

def Manner.notes (m : Manner) (notes : List Note) : List Output :=
  notes.flatMap fun n => m.trace (.ofNote n)

end SpriteBlocks.Console
