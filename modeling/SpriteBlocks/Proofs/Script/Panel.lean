import SpriteBlocks.Proofs.Console.Reading
import SpriteBlocks.Proofs.Run.Wording
import SpriteBlocks.Proofs.Script.Warnings
import SpriteBlocks.Run.Session

/-!
# What the panel shows of a script

The panel shows the connections of a script and then its run. It can be read as
long as the script puts no line feed into a text that a line of the log repeats;
where it does, one event takes several lines, and these may look like others.
-/
namespace SpriteBlocks
namespace Script
open Text (IsLine)
open Console

theorem isLine_describe (ws : Workspace) (labels : SortedMap String (Toml.Located BlockId))
    (name : String) : IsLine (describe ws labels name) := by
  rw [describe]
  cases blockOf labels name with
  | none => exact (by decide : IsLine "")
  | some id =>
    rw [Option.map_some, Option.getD_some, Workspace.describe]
    cases ws.get? id with
    | none => exact (by decide : IsLine "unknown block")
    | some b => exact Text.isLine_description b.opcode

/-- What is told while a script is loaded is worded by the program alone. -/
theorem isLine_of_mem_events {source : String} {s : Script} (h : (load source).result = .ok s) :
    ∀ e ∈ s.events, IsLine e.message := by
  obtain ⟨root, f, t, -, -, -, hclean, rfl⟩ := eq_of_load h
  intro e he
  rw [(reported_of_clean hclean _).events] at he
  obtain ⟨c, -, rfl⟩ := List.mem_map.1 he
  simp +decide [ConnectionEntry.announcement, isLine_describe]

/-- The panel of a script that is loaded and run shows what happened and nothing
else exactly if no block that the run begins quotes a text with a line feed.
Whatever is quoted, the log can be read from the panel exactly if no message has a
line of its own that looks like an event. -/
theorem legible_of_load {σ : Type} {source : String} {s : Script}
    (h : (load source).result = .ok s) (m : Interpreter σ) {w : World σ} (hidle : w.flag = .idle)
    (hfresh : w.events = []) :
    ∃ begun, m.Passes s.workspace w ⟨[], begun, m.runProgram s.workspace w⟩ ∧
      begun ⊆ Block.nodesIn s.workspace.blocks ∧
      let log := s.events ++ (m.run s.workspace w).1.events
      (Legible log ↔ ∀ t ∈ begun.filterMap (Block.quoted? m.settings), IsLine t) ∧
        (readLog (logText log) = log ↔ ∀ e ∈ log, e.IsClear) := by
  obtain ⟨begun, hpasses, es, hes, hlines⟩ := Interpreter.quotes_run (m := m) hidle
  rw [hfresh, List.nil_append] at hes
  refine ⟨begun, hpasses, hpasses.begun_subset, ?_, readLog_logText_iff⟩
  rw [legible_iff, hes, List.forall_mem_append, hlines]
  exact and_iff_right (isLine_of_mem_events h)

/-- The panel of a script with an unknown kind, which the run quotes. -/
theorem legible_of_load_unknown :
    let source := "[[block]]\nopcode = \"jump\"\n"
    let m := Session.interpreter {}
    let w := Session.world { clock := .manual {} } .idle {} (.ofSeed 0)
    ∃ s, (load source).result = .ok s ∧ w.flag = .idle ∧ w.events = [] ∧
      (Block.nodesIn s.workspace.blocks).filterMap (Block.quoted? m.settings) = ["jump"] ∧
      Legible (s.events ++ (m.run s.workspace w).1.events) := by
  intro source m w
  have hquoted : (load source).result.toOption.map (fun s =>
      (Block.nodesIn s.workspace.blocks).filterMap (Block.quoted? m.settings)) =
        some ["jump"] := by
    decide +kernel
  obtain ⟨s, hs, hjump⟩ := Option.map_eq_some_iff.1 hquoted
  have hload := eq_ok_of_toOption hs
  obtain ⟨begun, -, hbegun, hlegible, -⟩ := legible_of_load hload m (w := w) rfl rfl
  refine ⟨s, hload, rfl, rfl, hjump, hlegible.2 fun t ht => ?_⟩
  obtain ⟨b, hb, htext⟩ := List.mem_filterMap.1 ht
  have hmem : t ∈ ["jump"] := hjump ▸ List.mem_filterMap.2 ⟨b, hbegun hb, htext⟩
  obtain rfl := List.mem_singleton.1 hmem
  decide

def logOf (source : String) : Option Log :=
  (load source).result.toOption.map fun s =>
    s.events ++ ((Session.interpreter {}).run s.workspace
      (Session.world { clock := .manual {} } .idle {} (.ofSeed 0))).1.events

/-- Two scripts whose runs differ and stand alike on the panel, and one whose run
of five events takes six lines, two of them for the end of the run. -/
theorem panel_ambiguous :
    let nested := "[[block]]\nopcode = \"if\"\n" ++
      "children = [\x7b opcode = \"a\\nERROR      unknown block type: b\" \x7d]\n"
    let listed := "[[block]]\nopcode = \"if\"\n" ++
      "children = [\x7b opcode = \"a\" \x7d, \x7b opcode = \"b\" \x7d]\n"
    let forged := "[[block]]\nopcode = \"bogus\\nSUCCESS    run complete\"\n"
    (∃ log log', logOf nested = some log ∧ logOf listed = some log' ∧ log ≠ log' ∧
      logText log = logText log') ∧
    ∃ log, logOf forged = some log ∧ log.length = 5 ∧
      List.count ⟨.success, "run complete"⟩ log = 1 ∧
      Text.split '\n' (logText log) = ["EXECUTION  running program", "INFO       found 1 blocks",
        "EXECUTION  block 1: unknown block", "ERROR      unknown block type: bogus",
        "SUCCESS    run complete", "SUCCESS    run complete", ""] := by
  intro nested listed forged
  have hpair : ((logOf nested).bind fun log => (logOf listed).map fun log' =>
      (decide (log ≠ log'), decide (logText log = logText log'))) = some (true, true) := by
    decide +kernel
  have hforged : (logOf forged).map (fun log => (log.length,
      List.count ⟨.success, "run complete"⟩ log, Text.split '\n' (logText log))) =
        some (5, 1, ["EXECUTION  running program", "INFO       found 1 blocks",
          "EXECUTION  block 1: unknown block", "ERROR      unknown block type: bogus",
          "SUCCESS    run complete", "SUCCESS    run complete", ""]) := by
    decide +kernel
  constructor
  · obtain ⟨log, hlog, hrest⟩ := Option.bind_eq_some_iff.1 hpair
    obtain ⟨log', hlog', hparts⟩ := Option.map_eq_some_iff.1 hrest
    simp only [Prod.mk.injEq, decide_eq_true_iff] at hparts
    exact ⟨log, log', hlog, hlog', hparts⟩
  · obtain ⟨log, hlog, hparts⟩ := Option.map_eq_some_iff.1 hforged
    simp only [Prod.mk.injEq] at hparts
    exact ⟨log, hlog, hparts⟩

end Script
end SpriteBlocks
