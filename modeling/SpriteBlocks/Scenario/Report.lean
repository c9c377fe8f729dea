import SpriteBlocks.Console.Output
import SpriteBlocks.Scenario.Category
import SpriteBlocks.Scenario.Trial

/-!
# Reports on trials

The scenarios of a folder are tried category by category. The report has a line
for each of them, the reasons of those that failed, and the count of both.
-/
namespace SpriteBlocks.Scenario
open Console

structure TrialResult where
  path : String
  description : Option String
  /-- Why the trial failed, if it did. -/
  reason : Option String
deriving DecidableEq, Inhabited

def TrialResult.passed (r : TrialResult) : Bool := r.reason.isNone

/-- Try a file; the notes are those made on the way. -/
def tryFile (f : TestFile) : TrialResult × List Note :=
  match f.tree.read with
  | .error e => (⟨f.path, none, some ("cannot read file: " ++ e.message)⟩, [])
  | .ok content =>
    match Scenario.read content with
    | .error e => (⟨f.path, none, some e.message⟩, [])
    | .ok s =>
      let (verdict, notes) := s.trial
      let reason :=
        match verdict with
        | .ok _ => none
        | .error failure => some failure.message
      (⟨f.path, s.expectations.description, reason⟩, notes)

def resultLine (ink : Ink) (r : TrialResult) : String :=
  "  " ++ (if r.passed then ink.paint .green "PASS" else ink.paint .red "FAIL") ++ "  " ++
    label r.path r.description

def reportFiles (m : Manner) (files : List TestFile) : List TrialResult × List Output :=
  let tried := files.map tryFile
  (tried.map (·.1), tried.flatMap fun t => m.notes t.2 ++ [.err (resultLine m.ink t.1)])

def heading (ink : Ink) (single : Bool) (category : String) : List Output :=
  if single then [] else [.err "", .err (ink.bold (shownCategory category))]

/-- Try every category; a file that stands alone has no heading. -/
def reportCategories (m : Manner) (single : Bool) (selection : List (String × List TestFile)) :
    List TrialResult × List Output :=
  let tried := selection.map fun e =>
    let (results, output) := reportFiles m e.2
    (results, heading m.ink single e.1 ++ output)
  (tried.flatMap (·.1), tried.flatMap (·.2))

def failureLines (failures : List TrialResult) : List String :=
  ["", "failures:"] ++ failures.flatMap fun r =>
    ["", "  --- " ++ r.path ++ " ---"] ++
      (Text.lines (r.reason.getD "")).map fun line => "  " ++ line

def summaryLine (ink : Ink) (passed failed : Nat) : String :=
  if failed = 0 then
    "test result: " ++ ink.paint .green "ok" ++ ". " ++ toString passed ++ " passed, 0 failed"
  else
    "test result: " ++ ink.paint .red "FAILED" ++ ". " ++ toString passed ++ " passed, " ++
      toString failed ++ " failed (of " ++ toString (passed + failed) ++ ")"

/-- The report on a selection, and whether every trial passed. -/
def report (m : Manner) (single : Bool) (selection : List (String × List TestFile)) :
    List Output × Bool :=
  let (results, output) := reportCategories m single selection
  let failures := results.filter fun r => !r.passed
  (output ++ ((if failures.isEmpty then [] else failureLines failures).map .err) ++
      [.err "", .err (summaryLine m.ink (results.length - failures.length) failures.length)],
    failures.isEmpty)

def nothingFound (path : String) : Output :=
  .err ("no " ++ fileEnding ++ " files found in " ++ path)

/-- Try the scenarios at a path in the wanted categories, and tell whether all
of them passed. A file counts whatever its name is. -/
def runTests (m : Manner) (path : String) (wanted : List String)
    (found : Except FileError FileTree) : List Output × Bool :=
  match found with
  | .ok (.file content) => report m true [("", [⟨path, .file content⟩])]
  | other =>
    let found := discover path (other.toOption.getD (.folder []))
    if found.isEmpty then ([nothingFound path], false)
    else
      let known := ", ".intercalate (found.entries.map fun e => shownCategory e.1)
      let (selected, unmatched) := select found wanted
      let warnings := unmatched.map fun name =>
        Output.err ("warning: no category '" ++ name ++ "' (have: " ++ known ++ ")")
      if selected.isEmpty then (warnings ++ [.err "no matching categories found"], false)
      else
        let (output, passed) := report m false selected.entries
        (warnings ++ output, passed)

def listCategories (path : String) (found : Except FileError FileTree) : List Output :=
  match found with
  | .ok (.file _) => [.err (path ++ " is a single scenario")]
  | other =>
    let found := discover path (other.toOption.getD (.folder []))
    if found.isEmpty then [nothingFound path]
    else
      .err ("categories in " ++ path ++ ":") :: found.entries.map fun e =>
        .err ("  " ++ Text.padRight 20 (shownCategory e.1) ++ " " ++ toString e.2.length ++
          " scenario(s)")

end SpriteBlocks.Scenario
