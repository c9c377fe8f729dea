import SpriteBlocks.CommandLine.Command
import SpriteBlocks.CommandLine.Dump
import SpriteBlocks.CommandLine.Listing
import SpriteBlocks.Scenario.Report

/-!
# The program

The program answers a line of arguments with output and an exit code. What the
outside world contributes is given: what the path of the command leads to, the
seed for scripts that name none, and how often a loop may go round before the
answer breaks off.
-/
namespace SpriteBlocks.CommandLine
open Console

/-- What the program writes, and how it ends. -/
structure Answer where
  output : List Output := []
  code : Nat := 0
  /-- The answer breaks off because a loop ran out of its rounds. -/
  unfinished : Bool := false
deriving Inhabited

structure Surroundings where
  /-- Whether the error output shows colours. -/
  colors : Bool := false
  /-- The seed for runs without one. -/
  seed : UInt64 := 0
  roundLimit : Nat := UInt64.size

def version : String := "blocks 0.1.0"

def usage : List String :=
  ["Block program interpreter", "",
    "Usage: blocks [OPTIONS] <COMMAND>", "",
    "Commands:",
    "  run   Run a workspace script",
    "  test  Run .test.blocks scenario files"]

/-- The line and the column of a diagnostic, its captions and its notes. -/
def diagnosticDetails (file source : String) (d : Script.Diagnostic) : List String :=
  let place (span : Toml.Span) : String :=
    let (line, column) := Toml.position source span.start
    file ++ ":" ++ toString line ++ ":" ++ toString column
  ("  at " ++ place d.span) :: d.related.map (fun r => "  at " ++ place r.1 ++ ": " ++ r.2) ++
    d.notes.map fun note => "  = " ++ note

def diagnosticOutput (file source : String) (d : Script.Diagnostic) : List Output :=
  (d.heading :: diagnosticDetails file source d ++ [""]).map .err

def failureOutput (file source : String) : Script.Failure → List Output
  | .malformed => [.err ("error: " ++ file ++ " is not valid TOML")]
  | .findings errors => errors.flatMap fun f => diagnosticOutput file source f.diagnostic

/-- What one entry of the journal adds to the output; `frame` frames were shown
before. A quiet run sends its log to the trace and shows no speech. -/
def entryOutput (m : Manner) (quiet : Bool) (frame : Nat) : Entry → List Output
  | .note n => m.trace (.ofNote n)
  | .effect (.log event) =>
    if quiet then m.trace (.ofEvent event) else [.out (logLine m.ink event)]
  | .effect (.speech speech) => if quiet then [] else [.out (speechLine m.ink speech)]
  | .effect (.frame sprite transition) => m.trace (.ofFrame (frame + 1) sprite transition)
  | .effect (.sleep duration) => [.pause duration]
  | .effect (.draw _) => []

def journalOutput (m : Manner) (quiet : Bool) : Nat → List Entry → List Output
  | _, [] => []
  | frame, e :: es =>
    let next :=
      match e with
      | .effect (.frame ..) => frame + 1
      | _ => frame
    entryOutput m quiet frame e ++ journalOutput m quiet next es

/-- The session of a run: virtual time, or a timer. -/
def runSession (o : RunOptions) : Session :=
  let stopAt := o.stopAfter.map fun ms => Duration.ofMillis ms.toNat
  { clock := if o.instant then .manual { stopAt } else .timer (.withStop stopAt) }

/-- Leave the pauses out of a run on virtual time. -/
def dropPauses (instant : Bool) (output : List Output) : List Output :=
  if instant then output.filter fun
    | .pause _ => false
    | _ => true
  else output

def execute (s : Surroundings) (m : Manner) (o : RunOptions) (script : Script)
    (settings : Settings) : Answer :=
  let interpreter := { Session.interpreter settings with roundLimit := s.roundLimit }
  let world := (runSession o).world .idle {} (.ofSeed (o.seed.getD s.seed))
  let (world, outcome) := interpreter.run script.workspace world
  let before := script.events.map fun e => Entry.effect (.log e)
  let shown := dropPauses o.instant (journalOutput m o.quiet 0 (before ++ world.journal.toList))
  match outcome with
  | none => { output := shown, unfinished := true }
  | some _ =>
    { output := shown ++
        (if o.quiet then [] else [.out ("final sprite: " ++ world.sprite.text)]) }

def answerScript (s : Surroundings) (m : Manner) (o : RunOptions) (script : Script) : Answer :=
  match Settings.ofEntries script.settings with
  | .error e =>
    { output := [.err ("error: invalid [settings] in '" ++ o.file ++ "': " ++ e.described)],
      code := 1 }
  | .ok settings =>
    if o.check then
      { output := [.err ("ok: " ++ o.file ++ " loaded successfully (" ++
          toString script.workspace.blockCount ++ " blocks)")] }
    else if o.dump then
      { output := ((Outline.ofWorkspace script.workspace).lines ++
          (Outline.ofSettings settings).lines).map .out }
    else if o.listBlocks then { output := (listing script).map .out }
    else execute s m o script settings

def Answer.behind (front : List Output) (a : Answer) : Answer :=
  { a with output := front ++ a.output }

def answerRun (s : Surroundings) (m : Manner) (o : RunOptions)
    (found : Except FileError FileTree) : Answer :=
  match found.bind FileTree.read with
  | .error e =>
    { output := [.err ("error: cannot read '" ++ o.file ++ "': " ++ e.message)], code := 1 }
  | .ok source =>
    let loading := Script.load source
    let notes := m.notes loading.notes
    match loading.result with
    | .error failure => { output := notes ++ failureOutput o.file source failure, code := 1 }
    | .ok script =>
      (answerScript s m o script).behind
        (notes ++ script.warnings.flatMap fun f => diagnosticOutput o.file source f.diagnostic)

def answerTest (m : Manner) (o : TestOptions) (found : Except FileError FileTree) : Answer :=
  if o.listCategories then { output := Scenario.listCategories o.path found }
  else
    let (output, passed) := Scenario.runTests m o.path o.categories found
    { output, code := if passed then 0 else 1 }

def Manners.manner (manners : Manners) (colors : Bool) : Manner :=
  { ink := ⟨colors && !manners.noColor⟩, verbose := manners.verbose }

def Invocation.answer (s : Surroundings) (i : Invocation)
    (found : Except FileError FileTree) : Answer :=
  let m := i.manners.manner s.colors
  match i.command with
  | .run o => answerRun s m o found
  | .test o => answerTest m o found

def answerLine (s : Surroundings) (here : FileTree) (args : List String) : Answer :=
  match readLine args with
  | .done i => i.answer s (here.find i.command.path)
  | .help => { output := usage.map .out }
  | .version => { output := [.out version] }
  | .wrong => { output := usage.map .err, code := 2 }

end SpriteBlocks.CommandLine
