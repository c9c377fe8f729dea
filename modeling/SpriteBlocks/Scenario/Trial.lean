import SpriteBlocks.Run.Session
import SpriteBlocks.Run.SettingsTable
import SpriteBlocks.Scenario.Check
import SpriteBlocks.Scenario.Fences
import SpriteBlocks.Script.Load
import SpriteBlocks.Toml.Excerpt

/-!
# Trials

A trial reads a scenario, runs its script on a manual clock and compares what
happened with the expectations.
-/
namespace SpriteBlocks

/-- Expectations with the script that they are about. -/
structure Scenario where
  expectations : Scenario.Expectations
  script : String
deriving DecidableEq, Inhabited

namespace Scenario
open Toml

inductive ReadError where
  | fences (error : FenceError)
  /-- The expectations are no document. -/
  | malformed
  /-- The expectations, which are given, have the wrong shape. -/
  | shape (text : String) (error : ShapeError)
deriving DecidableEq, Inhabited

def read (content : String) : Except ReadError Scenario :=
  match split content.toList with
  | .error e => .error (.fences e)
  | .ok parts =>
    let text := String.ofList parts.expectations
    match root? text with
    | none => .error .malformed
    | some root =>
      match Expectations.ofNode root with
      | .error e => .error (.shape text e)
      | .ok expectations => .ok { expectations, script := String.ofList parts.script }

def ReadError.message : ReadError → String
  | .fences error => error.message
  | .malformed => "bad expectations: the text is not valid TOML"
  | .shape text error => "bad expectations: " ++ error.report text

inductive Failure where
  /-- The script loads, though an error with the text was expected. -/
  | loaded (expected : String)
  /-- The script does not load, but for another reason than was expected. -/
  | otherLoadError (expected : String) (found : Script.Failure)
  | loadError (found : Script.Failure)
  | settings (error : ShapeError)
  | mismatch (mismatch : Mismatch)
  /-- A loop ran out of the rounds it was given. -/
  | endless
deriving Inhabited

/-- The messages of a script that does not load, one behind the other. -/
def loadMessages : Script.Failure → String
  | .malformed => "the script is not valid TOML"
  | .findings errors => "; ".intercalate (errors.map Script.Finding.message)

namespace Failure

def message : Failure → String
  | loaded expected =>
    "expected load error containing \"" ++ expected ++ "\", but loading succeeded"
  | otherLoadError expected found =>
    "expected load error containing \"" ++ expected ++ "\", got: " ++ loadMessages found
  | loadError found => "unexpected load error: " ++ loadMessages found
  | settings error => "invalid [settings]: " ++ error.described
  | mismatch m => m.message
  | endless => "the run does not end"

end Failure

/-- Whether an error of the script has the text in its message. A script that is
no document at all has one error, in the words of whoever reads documents. -/
def mentions (wording : String) (expected : String) : Script.Failure → Bool
  | .malformed => Text.contains wording expected
  | .findings errors => errors.any fun f => Text.contains f.message expected

def session (e : Expectations) : Session where
  clock := .manual { stopAt := e.stopAfterMs.map fun ms => .ofMillis ms.toNat }

/-- What the run of a script shows, and the notes of the run. Nothing is
observed if the run does not end. -/
def observe (e : Expectations) (script : Script) (settings : Settings) :
    Option Observed × List Note :=
  let s := session e
  let world := s.world .idle {} (.ofSeed e.seed)
  let (world, outcome) := (Session.interpreter settings).run script.workspace world
  (outcome.map fun outcome =>
      { outcome, sprite := world.sprite, log := script.events ++ world.events,
        elapsed := ⟨world.host.clock.elapsed⟩ },
    world.notes)

def tryScript (s : Scenario) (script : Script) : Except Failure Unit × List Note :=
  let warnings :=
    match s.expectations.loadWarnings with
    | some expected =>
      checkWarnings s.script expected (script.warnings.map Script.Finding.diagnostic)
    | none => .ok ()
  match warnings with
  | .error m => (.error (.mismatch m), [])
  | .ok _ =>
    match Settings.ofEntries script.settings with
    | .error e => (.error (.settings e), [])
    | .ok settings =>
      let (observed, notes) := observe s.expectations script settings
      match observed with
      | none => (.error .endless, notes)
      | some found =>
        ((checkObserved s.expectations found).mapError .mismatch, notes)

/-- Try a scenario, given the words for each text that is no document; the notes
are those of the loader and of the run. -/
def trialWith (wording : String → String) (s : Scenario) : Except Failure Unit × List Note :=
  let loading := Script.load s.script
  match s.expectations.loadError, loading.result with
  | some expected, .error found =>
    (if mentions (wording s.script) expected found then .ok ()
      else .error (.otherLoadError expected found), loading.notes)
  | some expected, .ok _ => (.error (.loaded expected), loading.notes)
  | none, .error found => (.error (.loadError found), loading.notes)
  | none, .ok script =>
    let (verdict, notes) := s.tryScript script
    (verdict, loading.notes ++ notes)

/-- Try a scenario where the words for a text that is no document are unknown. -/
def trial (s : Scenario) : Except Failure Unit × List Note := s.trialWith fun _ => ""

end Scenario
end SpriteBlocks
