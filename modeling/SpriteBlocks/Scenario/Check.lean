import SpriteBlocks.Scenario.Expectations
import SpriteBlocks.Script.Diagnostic
import SpriteBlocks.Text.Search

/-!
# Checks

The expectations of a scenario are compared with what its run showed, one after
the other; the first that fails is reported as a mismatch.
-/
namespace SpriteBlocks.Scenario

structure Observed where
  outcome : Outcome
  sprite : Sprite
  log : Log
  elapsed : Duration
deriving DecidableEq, Inhabited

/-- An expectation that failed, with what was found instead. -/
inductive Mismatch where
  | outcome (expected : ExpectedOutcome) (found : Outcome)
  /-- No line behind those of the texts before contains the text. -/
  | log (wanted : String) (found : List String)
  | levelCount (level : LogLevel) (expected : Nat) (found : List String)
  | spriteField (name : String) (expected found : Float)
  | visibility (expected found : Bool)
  | elapsed (expected found : Duration)
  | warningCount (expected : Nat) (found : List String)
  | warningText (number : Nat) (wanted found : String)
  | warningLine (number wanted found : Nat)
deriving DecidableEq, Inhabited

def bulletList : List String → String
  | [] => "    (none)"
  | messages => "\n".intercalate (messages.map fun m => "    - " ++ m)

namespace Mismatch

def comparison (what expected found : String) : String :=
  "sprite " ++ what ++ " mismatch\n  expected: " ++ expected ++ "\n  actual:   " ++ found

def message : Mismatch → String
  | outcome expected found => "expected outcome " ++ expected.name ++ ", got " ++ found.name
  | log wanted found =>
    "log line containing \"" ++ wanted ++ "\" not found in order\n  actual log:\n" ++
      bulletList found
  | levelCount level expected found =>
    "expected " ++ toString expected ++ " " ++ level.name ++ " log line(s), got " ++
      toString found.length ++ "\n" ++ bulletList found
  | spriteField name expected found =>
    comparison name (Decimal.write Decimal.plain expected) (Decimal.write Decimal.plain found)
  | visibility expected found => comparison "visibility" (toString expected) (toString found)
  | elapsed expected found =>
    "expected " ++ expected.text ++ " of virtual time, took " ++ found.text
  | warningCount expected found =>
    toString expected ++ " load warning(s) expected, " ++ toString found.length ++
      " reported\n" ++ bulletList found
  | warningText number wanted found =>
    "load warning #" ++ toString number ++ " reads \"" ++ found ++
      "\", expected it to mention \"" ++ wanted ++ "\""
  | warningLine number wanted found =>
    "load warning #" ++ toString number ++ " points at line " ++ toString found ++
      ", expected line " ++ toString wanted

end Mismatch

abbrev Verdict := Except Mismatch Unit

def checkOutcome (expected : Option ExpectedOutcome) (found : Outcome) : Verdict :=
  match expected with
  | some e => if e.outcome = found then .ok () else .error (.outcome e found)
  | none => .ok ()

/-- The first text that no message contains behind the messages of the texts
before it. Each text takes the first message that contains it. -/
def firstUnmatched : List String → List String → Option String
  | [], _ => none
  | text :: texts, messages =>
    match messages.dropWhile fun m => !Text.contains m text with
    | [] => some text
    | _ :: later => firstUnmatched texts later

def checkLog (expected : List String) (log : Log) : Verdict :=
  match firstUnmatched expected log.messages with
  | some text => .error (.log text log.messages)
  | none => .ok ()

def checkCount (level : LogLevel) (expected : Option Nat) (log : Log) : Verdict :=
  match expected with
  | some n =>
    if log.count level = n then .ok () else .error (.levelCount level n (log.messagesAt level))
  | none => .ok ()

def spriteTolerance : Float := 1e-6

def checkQuantity (name : String) (expected : Option Float) (found : Float) : Verdict :=
  match expected with
  | some x =>
    if spriteTolerance < (x - found).abs then .error (.spriteField name x found) else .ok ()
  | none => .ok ()

def checkSprite (expected : ExpectedSprite) (found : Sprite) : Verdict := do
  checkQuantity "x" expected.x found.x
  checkQuantity "y" expected.y found.y
  checkQuantity "rotation" expected.rotation found.rotation
  checkQuantity "size" expected.size found.size
  match expected.visible with
  | some v => if v = found.visible then .ok () else .error (.visibility v found.visible)
  | none => .ok ()

def checkElapsed (expected : Option UInt64) (found : Duration) : Verdict :=
  match expected with
  | some ms =>
    let d := Duration.ofMillis ms.toNat
    if found = d then .ok () else .error (.elapsed d found)
  | none => .ok ()

/-- Compare the expectations on a run with what the run showed. -/
def checkObserved (e : Expectations) (found : Observed) : Verdict := do
  checkOutcome e.outcome found.outcome
  checkLog e.log found.log
  checkCount .error e.errors found.log
  checkCount .warning e.warnings found.log
  match e.sprite with
  | some s => checkSprite s found.sprite
  | none => .ok ()
  checkElapsed e.elapsedMs found.elapsed

/-- Compare warnings, from the `number`-th on, with those that are expected. -/
def checkEachWarning (source : String) :
    Nat → List ExpectedWarning → List Script.Diagnostic → Verdict
  | number, e :: es, d :: ds =>
    if Text.contains d.message e.mention then
      let line := d.line source
      if e.line.getD line = line then checkEachWarning source (number + 1) es ds
      else .error (.warningLine number (e.line.getD line) line)
    else .error (.warningText number e.mention d.message)
  | _, _, _ => .ok ()

def checkWarnings (source : String) (expected : List ExpectedWarning)
    (found : List Script.Diagnostic) : Verdict :=
  if found.length = expected.length then checkEachWarning source 1 expected found
  else .error (.warningCount expected.length (found.map fun d => d.message))

end SpriteBlocks.Scenario
