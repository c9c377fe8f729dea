import SpriteBlocks.Console.Ink
import SpriteBlocks.Run.Effect
import SpriteBlocks.Text.Padded

/-!
# Trace lines

A trace line is a diagnostic for whoever looks after the program: a severity, a
message and named fields, with the time in front. Run logs may be sent to the
trace in place of the panel.
-/
namespace SpriteBlocks.Console

inductive TraceSeverity where
  | error
  | warn
  | info
  | debug
deriving DecidableEq, Inhabited

namespace TraceSeverity

def name : TraceSeverity → String
  | error => "ERROR"
  | warn => "WARN"
  | info => "INFO"
  | debug => "DEBUG"

def color : TraceSeverity → Color
  | error => .red
  | warn => .yellow
  | info => .green
  | debug => .blue

def ofLevel : LogLevel → TraceSeverity
  | .error => error
  | .warning => warn
  | .info | .success | .connection => info
  | .execution => debug

end TraceSeverity

/-- A line of the trace without its time. -/
structure TraceLine where
  severity : TraceSeverity
  message : String
  fields : List (String × String) := []
deriving DecidableEq, Inhabited

namespace TraceLine

def ofEvent (event : LogEvent) : TraceLine :=
  ⟨.ofLevel event.level, event.message, [("level", event.level.name)]⟩

def ofNote (note : Note) : TraceLine := ⟨.debug, note.message, note.fields⟩

/-- A frame as a trace line; frames are counted from one. -/
def ofFrame (number : Nat) (sprite : Sprite) (transition : Duration) : TraceLine :=
  ⟨.debug, "render",
    [("frame", toString number), ("sprite", sprite.text), ("transition", transition.text)]⟩

/-- Whether the line is shown. Without `verbose`, only warnings and errors are. -/
def isShown (verbose : Bool) (line : TraceLine) : Bool :=
  verbose || line.severity = .error || line.severity = .warn

def shown (ink : Ink) (time : String) (line : TraceLine) : String :=
  " ".intercalate
    ([ink.dim time, ink.paintAlone line.severity.color (Text.padLeft 5 line.severity.name),
        line.message] ++
      line.fields.map fun f => ink.italic f.1 ++ ink.dim "=" ++ f.2)

end TraceLine
end SpriteBlocks.Console
