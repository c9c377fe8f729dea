import SpriteBlocks.Run.Effect
import SpriteBlocks.Toml.Shape

/-!
# Expectations

A scenario says what a run of its script must show. Whatever it does not
mention is not checked.
-/
namespace SpriteBlocks.Scenario
open Toml

structure ExpectedWarning where
  /-- A text inside the message. -/
  mention : String := ""
  /-- The line of the script, from one. -/
  line : Option Nat := none
deriving DecidableEq, Inhabited

structure ExpectedSprite where
  x : Option Float := none
  y : Option Float := none
  rotation : Option Float := none
  size : Option Float := none
  visible : Option Bool := none
deriving DecidableEq, Inhabited

inductive ExpectedOutcome where
  | completed
  | stopped
deriving DecidableEq, Inhabited

namespace ExpectedOutcome

def outcome : ExpectedOutcome → Outcome
  | completed => .completed
  | stopped => .stopped

def name (o : ExpectedOutcome) : String := o.outcome.name

end ExpectedOutcome

structure Expectations where
  /-- Shown in reports in place of the file name. -/
  description : Option String := none
  /-- The seed of the random source. -/
  seed : UInt64 := 0
  /-- Stop is pressed once this much virtual time has passed. -/
  stopAfterMs : Option UInt64 := none
  outcome : Option ExpectedOutcome := none
  /-- Texts that log lines must contain, in this order. -/
  log : List String := []
  /-- The number of log lines of level `error`. -/
  errors : Option Nat := none
  /-- The number of log lines of level `warning`. -/
  warnings : Option Nat := none
  sprite : Option ExpectedSprite := none
  /-- The virtual time that the run takes. -/
  elapsedMs : Option UInt64 := none
  /-- The script must fail to load with this text in the message of an error. -/
  loadError : Option String := none
  /-- All warnings of the loader in order. -/
  loadWarnings : Option (List ExpectedWarning) := none
deriving DecidableEq, Inhabited

open RecordShape

def warningShape : RecordShape ExpectedWarning where
  name := "ExpectedWarning"
  start := {}
  fields :=
    [field "contains" .required Node.readText fun mention w => { w with mention },
      field "line" .optional Node.readCount fun line w => { w with line := some line }]

def spriteShape : RecordShape ExpectedSprite where
  name := "ExpectedSprite"
  start := {}
  fields :=
    [field "x" .optionalByName Node.readFloat fun x s => { s with x := some x },
      field "y" .optionalByName Node.readFloat fun y s => { s with y := some y },
      field "rotation" .optionalByName Node.readFloat fun r s => { s with rotation := some r },
      field "size" .optionalByName Node.readFloat fun size s => { s with size := some size },
      field "visible" .optionalByName Node.readBoolean fun v s => { s with visible := some v }]

def outcomeNames : List (String × ExpectedOutcome) :=
  [("completed", .completed), ("stopped", .stopped)]

def expectationsShape : RecordShape Expectations where
  name := "Expectations"
  start := {}
  fields :=
    [field "description" .optional Node.readText
        fun text e => { e with description := some text },
      field "seed" .optional Node.readUInt64 fun seed e => { e with seed },
      field "stop-after-ms" .optional Node.readUInt64
        fun ms e => { e with stopAfterMs := some ms },
      field "expect-outcome" .optional (Node.readChoice outcomeNames)
        fun outcome e => { e with outcome := some outcome },
      field "expect-log" .optional (Node.readItems Node.readText) fun log e => { e with log },
      field "expect-errors" .optional Node.readCount fun n e => { e with errors := some n },
      field "expect-warnings" .optional Node.readCount fun n e => { e with warnings := some n },
      field "expect-sprite" .optional spriteShape.read
        fun sprite e => { e with sprite := some sprite },
      field "expect-elapsed-ms" .optional Node.readUInt64
        fun ms e => { e with elapsedMs := some ms },
      field "expect-load-error" .optional Node.readText
        fun text e => { e with loadError := some text },
      field "expect-load-warnings" .optional (Node.readItems warningShape.read)
        fun warnings e => { e with loadWarnings := some warnings }]

def Expectations.ofNode (root : Node) : Reading Expectations := expectationsShape.read root

end SpriteBlocks.Scenario
