import SpriteBlocks.Run.Settings
import SpriteBlocks.Toml.Shape

/-!
# Settings in a table

The names of the settings in a document, and how a table of them is read. The
distances must be finite. A setting that is not named keeps its default.
-/
namespace SpriteBlocks.Settings
open Toml RecordShape

def shape : RecordShape Settings where
  name := "Settings"
  start := {}
  fields :=
    [field "move-step" .optional Node.readFinite fun moveStep s => { s with moveStep },
      field "turn-degrees" .optional Node.readFinite fun turnDegrees s => { s with turnDegrees },
      field "move-settle-ms" .optional Node.readUInt64
        fun moveSettleMs s => { s with moveSettleMs },
      field "move-to-settle-ms" .optional Node.readUInt64
        fun moveToSettleMs s => { s with moveToSettleMs },
      field "forever-pacing-ms" .optional Node.readUInt64
        fun foreverPacingMs s => { s with foreverPacingMs },
      field "say-duration-ms" .optional Node.readUInt64
        fun sayDurationMs s => { s with sayDurationMs },
      field "say-text" .optional Node.readText fun sayText s => { s with sayText },
      field "default-repeat" .optional Node.readUInt32
        fun defaultRepeat s => { s with defaultRepeat },
      field "forever-log-every" .optional Node.readUInt32
        fun foreverLogEvery s => { s with foreverLogEvery }]

def ofNode (root : Node) : Reading Settings := shape.read root

/-- A moment counts as its text where a script leaves the settings to the host. -/
def momentAsText : Node → Node
  | .moment span text => .string span text
  | node => node

def ofEntries (settings : SortedMap String Node) : Reading Settings :=
  shape.readTable (settings.entries.map fun e => (⟨e.1, none⟩, momentAsText e.2))

end SpriteBlocks.Settings
