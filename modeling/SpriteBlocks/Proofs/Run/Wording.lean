import SpriteBlocks.Proofs.Run.Dispatch
import SpriteBlocks.Proofs.Run.Lines
import SpriteBlocks.Proofs.Text.SingleLine

/-!
# The wording of a run

What a run writes is worded by the program, apart from the texts that some
blocks take over from their script. Those texts are repeated as they are, so a
message runs over several lines exactly if the text that its block quotes does.
-/
namespace SpriteBlocks
open Text (IsLine)

def Block.quoted? (s : Settings) (b : Block) : Option String :=
  match b.opcode with
  | .say => some s.sayText
  | .sayCustom => some (b.params.textOr "text" "Hello!")
  | .unknown tag => some tag
  | _ => none

namespace World
variable {σ : Type} {w u v : World σ} {texts texts' : List String}

/-- The messages that were written between the two worlds are single lines
exactly if the texts are. -/
def Quotes (texts : List String) (w v : World σ) : Prop :=
  ∃ es : Log, v.events = w.events ++ es ∧
    ((∀ e ∈ es, IsLine e.message) ↔ ∀ t ∈ texts, IsLine t)

theorem Quotes.of_eq (h : v.events = w.events) : Quotes [] w v := ⟨[], by simp [h], by simp⟩

theorem Quotes.log (host : Host σ) (level : LogLevel) {message : String} (h : IsLine message) :
    Quotes [] w (w.log host level message) :=
  ⟨[⟨level, message⟩], by simp [World.log, Effect.event?], by simpa using h⟩

theorem Quotes.trans (hu : Quotes texts w u) (hv : Quotes texts' u v) :
    Quotes (texts ++ texts') w v := by
  obtain ⟨es, hes, hlines⟩ := hu
  obtain ⟨fs, hfs, hlines'⟩ := hv
  refine ⟨es ++ fs, by rw [hfs, hes, List.append_assoc], ?_⟩
  simp only [List.forall_mem_append, hlines, hlines']

end World

namespace Interpreter
variable {σ : Type} {m : Interpreter σ} {ws : Workspace} {w v : World σ}

@[simp] theorem isLine_shown (x : Float) : IsLine (shown x) := Text.isLine_write rfl x

@[simp] theorem isLine_rounded (x : Float) : IsLine (rounded x) := Text.isLine_writeFixed 0 x

@[simp] theorem isLine_signed (x : Float) : IsLine (Decimal.write Decimal.signed x) :=
  Text.isLine_write rfl x

/-- Up to the next question a block that is begun writes one line, with what the
block quotes. -/
theorem quotes_enter (m : Interpreter σ) (b : Block) (w : World σ) :
    w.Quotes (b.quoted? m.settings).toList (m.enter b w).2 := by
  obtain ⟨id, opcode, params, children⟩ := b
  have hdispatch : w.Quotes [] (w.note (.dispatch id opcode)) := .of_eq (World.events_note _ w)
  cases opcode with
  | repeatTimes =>
    simp only [enter, exec]
    split
    · exact hdispatch.trans (.log _ _ (by decide))
    · exact hdispatch.trans (.log _ _ (by simp +decide))
  | forever =>
    simp only [enter, exec]
    split
    · exact hdispatch.trans (.log _ _ (by decide))
    · exact hdispatch.trans (.log _ _ (by decide))
  | ifThen =>
    have hdecided (c : Condition) (met : Bool) : w.Quotes []
        ((evaluate m.host c (w.note (.dispatch id .ifThen))).2.note (.evaluated c met)) :=
      hdispatch.trans (.of_eq ((World.events_note _ _).trans (events_evaluate m.host c _)))
    have hmet (met : Bool) : IsLine (if met then "met" else "not met") := by cases met <;> decide
    have hline (c : Condition) (met : Bool) :
        IsLine ("if " ++ c.label ++ ": " ++ (if met then "met" else "not met")) := by
      simp +decide [hmet]
    simp only [enter]
    exact (hdecided _ _).trans (.log _ _ (hline _ _))
  | _ =>
    simp only [World.Quotes, enter, exec, move, turn, say, setVisible, wait, moveTo, glide,
      sayCustom, changeSize, World.draw, World.render, World.log, World.sleep, World.speak,
      World.events_perform, World.events_note, World.events_sprite, World.events_source,
      Effect.event?, Option.toList, List.append_nil]
    exact ⟨_, rfl, by simp +decide [Block.quoted?]⟩

theorem quotes_logRound (m : Interpreter σ) (done : Nat) (w : World σ) :
    w.Quotes [] (m.logRound done w) := by
  simp only [logRound]
  split
  · exact .log _ _ (by simp +decide)
  · exact .of_eq rfl

theorem quotes_begin (m : Interpreter σ) (b : Block) (rest : List Task) (begun : List Block)
    (w : World σ) : ∃ began, (m.begin b rest begun w).begun = begun ++ began ∧
      w.Quotes (began.filterMap (Block.quoted? m.settings)) (m.begin b rest begun w).world := by
  refine ⟨[b], rfl, ?_⟩
  rw [List.filterMap_eq_flatMap_toList, List.flatMap_singleton]
  exact m.quotes_enter b w

/-- A step writes what the block that it begins quotes, if it begins one. -/
theorem quotes_step (m : Interpreter σ) (ws : Workspace) (begun : List Block) (w : World σ)
    (task : Task) : ∃ began, (m.step ws begun w task).begun = begun ++ began ∧
      w.Quotes (began.filterMap (Block.quoted? m.settings)) (m.step ws begun w task).world := by
  have hnone {c : Config σ} (hbegun : c.begun = begun) (h : w.Quotes [] c.world) :
      ∃ began, c.begun = begun ++ began ∧
        w.Quotes (began.filterMap (Block.quoted? m.settings)) c.world :=
    ⟨[], by rw [hbegun, List.append_nil], h⟩
  have hline {v : World σ} {b : Block} {rest : List Task} (h : w.Quotes [] v) :
      ∃ began, (m.begin b rest begun v).begun = begun ++ began ∧
        w.Quotes (began.filterMap (Block.quoted? m.settings)) (m.begin b rest begun v).world := by
    obtain ⟨began, hbegun, hquotes⟩ := m.quotes_begin b rest begun v
    exact ⟨began, hbegun, h.trans hquotes⟩
  have hsame : w.Quotes [] w := .of_eq rfl
  cases task with
  | blocks bs =>
    cases bs with
    | nil => exact hnone rfl hsame
    | cons b bs =>
      simp only [step]
      split
      · exact hline hsame
      · exact hnone rfl hsame
  | rounds body times left =>
    cases left with
    | zero => exact hnone rfl (.log _ _ (by decide))
    | succ left =>
      simp only [step]
      split
      · exact hnone rfl (.log _ _ (by simp +decide))
      · exact hnone rfl hsame
  | roundEnd body times left =>
    simp only [step]
    split <;> exact hnone rfl hsame
  | loop body fuel done =>
    have hended : w.Quotes [] (w.note (.loopEnded done)) := .of_eq (World.events_note _ w)
    cases fuel with
    | zero =>
      refine hnone rfl ?_
      simp only [step]
      split
      · exact .of_eq rfl
      · exact hended
    | succ fuel =>
      simp only [step]
      split
      · exact hnone rfl (quotes_logRound m done w)
      · exact hnone rfl hended
  | loopEnd body fuel done =>
    simp only [step]
    split
    · exact hnone rfl (.of_eq (by simp [World.sleep, Effect.event?]))
    · exact hnone rfl (.of_eq (World.events_note _ w))
  | steps total i bs =>
    cases bs with
    | nil => exact hnone rfl hsame
    | cons b bs =>
      simp only [step]
      split
      · exact hline (.log _ _ (by simp +decide))
      · exact hnone rfl hsame
  | chains i bs =>
    cases bs with
    | nil => exact hnone rfl hsame
    | cons b bs =>
      simp only [step]
      split
      · split
        · exact hnone rfl hsame
        · split
          · exact hnone rfl (.log _ _ (by simp +decide))
          · exact hline (.log _ _ (by simp +decide))
      · exact hnone rfl hsame

theorem quotes_opened (m : Interpreter σ) (ws : Workspace) (w : World σ) :
    w.Quotes [] (m.opened ws w) := by
  have hstarted : w.Quotes [] (World.note (.runStarted ws.length) { w with flag := .running }) :=
    .of_eq (World.events_note _ _)
  have hfirst := hstarted.trans (.log m.host .execution (by decide : IsLine "running program"))
  simp only [opened]
  split
  · exact hfirst.trans (.log _ _ (by decide))
  · exact hfirst.trans (.log _ _ (by simp +decide))

theorem quotes_finish (m : Interpreter σ) (w : World σ) : w.Quotes [] (m.finish w).1 := by
  rw [finish_eq]
  have hending : IsLine (ending w.flag).1.message := by cases w.flag <;> decide
  have hflag : w.Quotes [] { w with flag := .idle } := .of_eq rfl
  exact (hflag.trans (.log m.host _ hending)).trans (.of_eq (World.events_note _ _))

theorem Passes.quotes {c : Config σ} (h : m.Passes ws w c) :
    w.Quotes (c.begun.filterMap (Block.quoted? m.settings)) c.world := by
  refine h.induction (P := fun c => w.Quotes (c.begun.filterMap (Block.quoted? m.settings)) c.world)
    (m.quotes_opened ws w) fun task rest begun v _ hv => ?_
  obtain ⟨began, hbegun, hquotes⟩ := m.quotes_step ws begun v task
  change w.Quotes ((m.step ws begun v task).begun.filterMap _) (m.step ws begun v task).world
  rw [hbegun, List.filterMap_append]
  exact hv.trans hquotes

/-- An accepted run begins blocks of its program and writes what they quote. -/
theorem quotes_run (hidle : w.flag = .idle) :
    ∃ begun, m.Passes ws w ⟨[], begun, m.runProgram ws w⟩ ∧
      w.Quotes (begun.filterMap (Block.quoted? m.settings)) (m.run ws w).1 := by
  obtain ⟨begun, hpasses⟩ := exists_passes m ws hidle
  refine ⟨begun, hpasses, ?_⟩
  rw [run_of_idle hidle]
  split
  · exact hpasses.quotes
  · simpa using hpasses.quotes.trans (m.quotes_finish _)

end Interpreter
end SpriteBlocks
