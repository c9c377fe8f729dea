import SpriteBlocks.Proofs.Run.Draws
import SpriteBlocks.Run.Session
import SpriteBlocks.Workspace.Edit

/-!
# Runs with another source of randomness

Nothing but a draw looks at the random source. So two runs of a program that
declares no draws go side by side, step by step, in worlds that differ in their
sources only.
-/
namespace SpriteBlocks

namespace World
variable {σ : Type}

def reseed (s : Random.Source) (w : World σ) : World σ := { w with source := s }

structure Reseeded (s : Random.Source) (w v : World σ) : Prop where
  eq : v = w.reseed s

namespace Reseeded
variable {s : Random.Source} {w v : World σ} (h : Reseeded s w v)
include h

theorem sprite_eq : v.sprite = w.sprite := by rw [h.eq]; rfl

theorem exhausted_eq : v.exhausted = w.exhausted := by rw [h.eq]; rfl

theorem flag_eq : v.flag = w.flag := by rw [h.eq]; rfl

theorem isRunning_eq : v.isRunning = w.isRunning := by rw [h.eq]; rfl

theorem note (n : Note) : Reseeded s (w.note n) (v.note n) := by
  obtain ⟨rfl⟩ := h
  cases hex : w.exhausted with
  | false => exact ⟨by simp [World.note, reseed, hex]⟩
  | true => exact ⟨by simp [World.note, reseed, hex]⟩

theorem sprite (sprite : Sprite) : Reseeded s { w with sprite } { v with sprite } := by
  rw [h.eq]
  exact ⟨rfl⟩

theorem flag (flag : RunState) : Reseeded s { w with flag } { v with flag } := by
  rw [h.eq]
  exact ⟨rfl⟩

theorem exhaust : Reseeded s { w with exhausted := true } { v with exhausted := true } := by
  rw [h.eq]
  exact ⟨rfl⟩

theorem pressStop : Reseeded s w.pressStop v.pressStop := by
  unfold World.pressStop
  rw [h.flag_eq]
  split
  · exact (h.flag _).note _
  · exact h

theorem perform (host : Host σ) (e : Effect) :
    Reseeded s (w.perform host e) (v.perform host e) := by
  obtain ⟨rfl⟩ := h
  cases hpressed : (host.respond w.host w.flag e).2 with
  | false => exact ⟨by simp [World.perform, reseed, hpressed]⟩
  | true =>
    have hafter (t : σ) : Reseeded s { w with host := t, journal := w.journal.push (.effect e) }
        { w.reseed s with host := t, journal := w.journal.push (.effect e) } := ⟨rfl⟩
    have hpress := (hafter (host.respond w.host w.flag e).1).pressStop.eq
    exact ⟨by simpa only [World.perform, reseed, hpressed, if_true] using hpress⟩

theorem frame (host : Host σ) (sprite : Sprite) (transition : Duration) (event : LogEvent) :
    Reseeded s ((World.render host transition { w with sprite }).perform host (.log event))
      ((World.render host transition { v with sprite }).perform host (.log event)) :=
  ((h.sprite sprite).perform host (.frame sprite transition)).perform host _

theorem turn (m : Interpreter σ) (degrees : Float) :
    Reseeded s (m.turn degrees w) (m.turn degrees v) := by
  simp only [Interpreter.turn, h.sprite_eq]
  exact h.frame m.host _ _ _

theorem setVisible (m : Interpreter σ) (visible : Bool) :
    Reseeded s (m.setVisible visible w) (m.setVisible visible v) := by
  simp only [Interpreter.setVisible, h.sprite_eq]
  exact h.frame m.host _ _ _

theorem evaluate (host : Host σ) {c : Condition} (hc : c.isRandom = false) :
    (Interpreter.evaluate host c v).1 = (Interpreter.evaluate host c w).1 ∧
      Reseeded s (Interpreter.evaluate host c w).2 (Interpreter.evaluate host c v).2 := by
  cases c with
  | always => exact ⟨rfl, h⟩
  | spriteEdge => exact ⟨congrArg Sprite.isNearEdge h.sprite_eq, h⟩
  | mouseClicked => cases hc
  | keyPressed => cases hc

end Reseeded
end World

namespace Interpreter
variable {σ : Type} {m : Interpreter σ} {ws : Workspace} {s : Random.Source} {w v : World σ}

/-- A block that draws nothing opens the same and does the same. -/
theorem reseeded_enter (h : World.Reseeded s w v) (m : Interpreter σ) {b : Block}
    (hdraws : b.draws = 0) : (m.enter b v).1 = (m.enter b w).1 ∧
      World.Reseeded s (m.enter b w).2 (m.enter b v).2 := by
  obtain ⟨id, opcode, params, children⟩ := b
  have hnote := h.note (.dispatch id opcode)
  have hline (event : LogEvent) := hnote.perform m.host (.log event)
  cases opcode with
  | move =>
    refine ⟨rfl, ?_⟩
    simp only [enter, exec, move, hnote.sprite_eq]
    exact (hnote.frame m.host _ _ _).perform m.host _
  | turnRight => exact ⟨rfl, hnote.turn m _⟩
  | turnLeft => exact ⟨rfl, hnote.turn m _⟩
  | showSprite => exact ⟨rfl, hnote.setVisible m _⟩
  | hideSprite => exact ⟨rfl, hnote.setVisible m _⟩
  | changeSize =>
    refine ⟨rfl, ?_⟩
    simp only [enter, exec, changeSize, hnote.sprite_eq]
    exact hnote.frame m.host _ _ _
  | moveTo =>
    refine ⟨rfl, ?_⟩
    simp only [enter, exec, moveTo, hnote.sprite_eq]
    exact (hnote.frame m.host _ _ _).perform m.host _
  | glide => cases hdraws
  | say => exact ⟨rfl, (hnote.perform m.host _).perform m.host _⟩
  | sayCustom => exact ⟨rfl, ((hnote.perform m.host _).perform m.host _).perform m.host _⟩
  | wait => exact ⟨rfl, (hline _).perform m.host _⟩
  | whenClicked => exact ⟨rfl, hline _⟩
  | whenGreenFlag => exact ⟨rfl, hline _⟩
  | unknown tag => exact ⟨rfl, hline _⟩
  | repeatTimes =>
    by_cases hempty : children.isEmpty = true
    · simp only [enter, exec, if_pos hempty]
      exact ⟨trivial, hline _⟩
    · simp only [enter, if_neg hempty]
      exact ⟨trivial, hline _⟩
  | forever =>
    by_cases hempty : children.isEmpty = true
    · simp only [enter, exec, if_pos hempty]
      exact ⟨trivial, hline _⟩
    · simp only [enter, if_neg hempty]
      exact ⟨trivial, hline _⟩
  | ifThen =>
    have hcondition := ((Block.draws_eq_zero_iff _).1 hdraws).2 rfl
    obtain ⟨hmet, hdecided⟩ := hnote.evaluate m.host hcondition
    simp only [Block.condition] at hmet hdecided
    simp only [enter, hmet]
    exact ⟨trivial, (hdecided.note _).perform m.host _⟩

def Config.reseed (s : Random.Source) (c : Config σ) : Config σ :=
  { c with world := c.world.reseed s }

theorem config_reseed (tasks : List Task) (begun : List Block) (h : World.Reseeded s w v) :
    (⟨tasks, begun, v⟩ : Config σ) = Config.reseed s ⟨tasks, begun, w⟩ := by
  rw [h.eq]
  rfl

theorem begin_reseed {b : Block} (hdraws : b.draws = 0) (m : Interpreter σ) (rest : List Task)
    (begun : List Block) (h : World.Reseeded s w v) :
    m.begin b rest begun v = (m.begin b rest begun w).reseed s := by
  obtain ⟨htasks, hworld⟩ := reseeded_enter h m hdraws
  rw [begin, htasks]
  exact config_reseed _ _ hworld

/-- The machine takes the same step whatever the source is. -/
theorem step_reseed (m : Interpreter σ) (ws : Workspace) (begun : List Block) {task : Task}
    (hdraws : ∀ b ∈ task.content, b.draws = 0) (h : World.Reseeded s w v) :
    m.step ws begun v task = (m.step ws begun w task).reseed s := by
  have hline (event : LogEvent) := h.perform m.host (.log event)
  cases task with
  | blocks bs =>
    cases bs with
    | nil => exact config_reseed _ _ h
    | cons b bs =>
      simp only [step, h.isRunning_eq]
      split
      · exact begin_reseed (hdraws b List.mem_cons_self) m _ _ h
      · exact config_reseed _ _ h
  | rounds body times left =>
    cases left with
    | zero => exact config_reseed _ _ (hline _)
    | succ left =>
      simp only [step, h.isRunning_eq]
      split
      · exact config_reseed _ _ (hline _)
      · exact config_reseed _ _ h
  | roundEnd body times left =>
    simp only [step, h.isRunning_eq]
    split <;> exact config_reseed _ _ h
  | loop body fuel done =>
    cases fuel with
    | zero =>
      simp only [step, h.isRunning_eq]
      split
      · exact config_reseed _ _ h.exhaust
      · exact config_reseed _ _ (h.note _)
    | succ fuel =>
      simp only [step, h.isRunning_eq, logRound]
      split
      · split
        · exact config_reseed _ _ (hline _)
        · exact config_reseed _ _ h
      · exact config_reseed _ _ (h.note _)
  | loopEnd body fuel done =>
    simp only [step, h.isRunning_eq]
    split
    · exact config_reseed _ _ (h.perform m.host _)
    · exact config_reseed _ _ (h.note _)
  | steps total i bs =>
    cases bs with
    | nil => exact config_reseed _ _ h
    | cons b bs =>
      simp only [step, h.isRunning_eq]
      split
      · exact begin_reseed (hdraws b List.mem_cons_self) m _ _ (hline _)
      · exact config_reseed _ _ h
  | chains i bs =>
    cases bs with
    | nil => exact config_reseed _ _ h
    | cons b bs =>
      simp only [step, h.isRunning_eq]
      split
      · split
        · exact config_reseed _ _ h
        · split
          · exact config_reseed _ _ (hline _)
          · exact begin_reseed (hdraws b List.mem_cons_self) m _ _ (hline _)
      · exact config_reseed _ _ h

theorem opened_reseed (m : Interpreter σ) (ws : Workspace) (s : Random.Source) (w : World σ) :
    World.Reseeded s (m.opened ws w) (m.opened ws (w.reseed s)) := by
  have hrunning : World.Reseeded s { w with flag := .running }
      { w.reseed s with flag := .running } := ⟨rfl⟩
  have hfirst := (hrunning.note (.runStarted ws.length)).perform m.host
    (.log ⟨.execution, "running program"⟩)
  simp only [opened]
  split
  · exact hfirst.perform m.host _
  · exact hfirst.perform m.host _

theorem finish_reseed (h : World.Reseeded s w v) (m : Interpreter σ) :
    (m.finish v).2 = (m.finish w).2 ∧ World.Reseeded s (m.finish w).1 (m.finish v).1 := by
  rw [finish_eq, finish_eq, h.flag_eq]
  exact ⟨rfl, ((h.flag .idle).perform m.host _).note _⟩

section Program
variable (hdraws : ∀ b ∈ Block.nodesIn ws.blocks, b.draws = 0)
include hdraws

theorem Passes.reseed {c : Config σ} (h : m.Passes ws w c) (s : Random.Source) :
    m.Passes ws (w.reseed s) (c.reseed s) := by
  refine h.induction (P := fun c => m.Passes ws (w.reseed s) (c.reseed s)) ⟨h.1, ?_⟩
    fun task rest begun v hpasses ih => ?_
  · rw [← config_reseed _ _ (m.opened_reseed ws s w)]
    exact .refl
  · have hcontent : ∀ b ∈ task.content, b.draws = 0 := fun b hb =>
      hdraws b (hpasses.within task List.mem_cons_self (Block.mem_nodesIn_of_mem hb))
    have hstep := step_reseed m ws begun hcontent (v := v.reseed s) ⟨rfl⟩
    have hnext := Passes.step ih
    rw [hstep] at hnext
    exact hnext

theorem reseeded_runProgram (hflag : w.flag = .idle) (s : Random.Source) :
    World.Reseeded s (m.runProgram ws w) (m.runProgram ws (w.reseed s)) := by
  obtain ⟨begun, hpasses⟩ := exists_passes m ws hflag
  exact ⟨(Passes.world_eq (hpasses.reseed hdraws s)).symm⟩

/-- A run of a program that draws nothing does the same with every source. -/
theorem run_reseed (s : Random.Source) :
    m.run ws (w.reseed s) = ((m.run ws w).1.reseed s, (m.run ws w).2) := by
  by_cases hflag : w.flag = .idle
  · have hprogram := reseeded_runProgram (m := m) hdraws hflag s
    rw [run_of_idle hflag, run_of_idle (w := w.reseed s) hflag, hprogram.exhausted_eq]
    split
    · exact Prod.ext hprogram.eq rfl
    · obtain ⟨houtcome, hworld⟩ := finish_reseed hprogram m
      exact Prod.ext hworld.eq (congrArg some houtcome)
  · have hrefused : World.Reseeded s (w.note .runRefused) ((w.reseed s).note .runRefused) :=
      .note ⟨rfl⟩ _
    rw [run_of_not_idle hflag, run_of_not_idle (w := w.reseed s) hflag, hrefused.eq]

end Program

/-- Randomness is used only where a block declares it. A run takes two words for
each `glide` block that it dispatches and one for each `if` block that it
decides on behalf of an input that is not connected. So a program with neither
at any depth does the same, and ends in the same way, with every source. -/
theorem run_drawsAsDeclared (m : Interpreter σ) (ws : Workspace) (w : World σ) :
    (∃ begun, begun ⊆ Block.nodesIn ws.blocks ∧ w.Spends (m.run ws w).1 begun) ∧
    ((∀ b ∈ Block.nodesIn ws.blocks,
        b.opcode ≠ .glide ∧ (b.opcode = .ifThen → b.condition.isRandom = false)) →
      ∀ s, m.run ws { w with source := s } =
        ({ (m.run ws w).1 with source := s }, (m.run ws w).2)) :=
  ⟨(m.carries_spends ws w).run ⟨List.nil_subset _, .refl w⟩, fun hdeclared s =>
    run_reseed (fun b hb => (Block.draws_eq_zero_iff b).2 (hdeclared b hb)) s⟩

/-- A loop that draws, and `if` blocks that do not: a number chooses nothing, and
a text has to be a choice as it is written in scripts. -/
theorem run_drawsAsDeclared_loop :
    let drawing := Edit.applyAll (Workspace.empty 20.0) [.add .repeatTimes ∅,
      .setParam ⟨1⟩ "times" (.number 2.0), .addChild ⟨1⟩ .glide ∅, .addChild ⟨1⟩ .ifThen ∅,
      .setParam ⟨3⟩ "condition" (.choice " key-pressed ")]
    let silent := Edit.applyAll (Workspace.empty 20.0) [.add .ifThen ∅,
      .setParam ⟨1⟩ "condition" (.number 1.0), .addChild ⟨1⟩ .ifThen ∅,
      .setParam ⟨2⟩ "condition" (.text "mouse clicked"), .addChild ⟨2⟩ .changeSize ∅]
    let m := Session.interpreter {}
    let w := Session.world { clock := .manual {} } .idle {} (.cycle #[0, 10, 7])
    (∃ begun, begun ⊆ Block.nodesIn drawing.blocks ∧ w.Spends (m.run drawing w).1 begun) ∧
      (m.run drawing w).1.source.position = 6 ∧
      (∀ b ∈ Block.nodesIn silent.blocks,
        b.opcode ≠ .glide ∧ (b.opcode = .ifThen → b.condition.isRandom = false)) ∧
      ∀ s, m.run silent { w with source := s } =
        ({ (m.run silent w).1 with source := s }, (m.run silent w).2) := by
  intro drawing silent m w
  have hdeclared : ∀ b ∈ Block.nodesIn silent.blocks,
      b.opcode ≠ .glide ∧ (b.opcode = .ifThen → b.condition.isRandom = false) := by
    decide +kernel
  exact ⟨(run_drawsAsDeclared m drawing w).1, by decide +kernel, hdeclared,
    (run_drawsAsDeclared m silent w).2 hdeclared⟩

end Interpreter
end SpriteBlocks
