import SpriteBlocks.Console.Ink
import SpriteBlocks.Run.Effect
import SpriteBlocks.Text.Padded

/-!
# The log panel

The panel shows a run as lines of text: one for every log event and one for
every speech bubble. Frames are only counted.
-/
namespace SpriteBlocks.Console

def labelWidth : Nat := 10

def levelLabel (ink : Ink) (level : LogLevel) : String :=
  let label := Text.padRight labelWidth (Text.upper level.name)
  match level with
  | .info => ink.paint .brightBlue label
  | .warning => ink.bold (ink.paint .brightYellow label)
  | .error => ink.bold (ink.paint .brightRed label)
  | .execution => ink.paint .brightMagenta label
  | .success => ink.bold (ink.paint .brightGreen label)
  | .connection => ink.paint .brightCyan label

def logLine (ink : Ink) (event : LogEvent) : String :=
  levelLabel ink event.level ++ " " ++ event.message

def speechLine (ink : Ink) (speech : Speech) : String :=
  Text.padLeft labelWidth "sprite:" ++ " " ++ ink.italic ("\"" ++ speech.text ++ "\"") ++ " for " ++
    Decimal.write Decimal.plain speech.duration.toSeconds ++ "s"

def line? (ink : Ink) : Effect → Option String
  | .log event => some (logLine ink event)
  | .speech speech => some (speechLine ink speech)
  | _ => none

def textOfLines (lines : List String) : String := String.join (lines.map fun l => l ++ "\n")

/-- What the panel shows of a log that was written before the run, and of the
effects of the run. -/
def panelText (ink : Ink) (before : Log) (effects : List Effect) : String :=
  textOfLines (before.map (logLine ink) ++ effects.filterMap (line? ink))

def animated (frames : List (Sprite × Duration)) : Duration :=
  frames.foldl (fun total frame => total.add frame.2) .zero

end SpriteBlocks.Console
