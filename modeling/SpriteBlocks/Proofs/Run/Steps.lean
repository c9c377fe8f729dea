import Mathlib.Logic.Relation
import SpriteBlocks.Proofs.Block.Nodes
import SpriteBlocks.Proofs.Stage.Bounds
import SpriteBlocks.Run.Interpreter

/-!
# Steps of a run

A run changes its world one step at a time: it takes a note, lets an effect
happen, changes the sprite, moves the random source on, or marks that a loop
ran out of rounds. Whatever the steps keep is kept by a whole run. The loops of
`forever` blocks are left to a condition of their own, so that the same
induction also shows that no loop runs out.
-/
namespace SpriteBlocks

theorem RunState.stop_ne_running (s : RunState) : s.stop.1 ≠ running := by
  cases s <;> simp [stop]

namespace World
variable {σ : Type} (h : Host σ) (e : Effect) (n : Note) (w : World σ)

@[simp] theorem flag_note : (w.note n).flag = w.flag := by
  unfold note; split <;> rfl

@[simp] theorem host_note : (w.note n).host = w.host := by
  unfold note; split <;> rfl

@[simp] theorem exhausted_note : (w.note n).exhausted = w.exhausted := by
  unfold note; split <;> rfl

@[simp] theorem host_pressStop : w.pressStop.host = w.host := by
  unfold pressStop; split <;> simp

@[simp] theorem exhausted_pressStop : w.pressStop.exhausted = w.exhausted := by
  unfold pressStop; split <;> simp

@[simp] theorem flag_pressStop : w.pressStop.flag = w.flag.stop.1 := by
  unfold pressStop
  cases hflag : w.flag <;> simp [RunState.stop, hflag]

@[simp] theorem host_perform : (w.perform h e).host = (h.respond w.host w.flag e).1 := by
  unfold perform; dsimp only; split <;> simp

@[simp] theorem exhausted_perform : (w.perform h e).exhausted = w.exhausted := by
  unfold perform; dsimp only; split <;> simp

theorem flag_perform : (w.perform h e).flag =
    if (h.respond w.host w.flag e).2 then w.flag.stop.1 else w.flag := by
  unfold perform; dsimp only; split <;> simp

def Shows (w : World σ) (e : Effect) : Prop := ∀ f, e.frame? = some f → f.1 = w.sprite

theorem shows_of_no_frame {e : Effect} (h : e.frame? = none) (w : World σ) : w.Shows e := by
  intro f hf
  cases h.symm.trans hf

theorem isRunning_eq_true_iff : w.isRunning = true ↔ w.flag = .running ∧ w.exhausted = false := by
  rw [isRunning, Bool.and_eq_true, RunState.isRunning_iff, Bool.not_eq_true']

end World

theorem Workspace.chainFrom_subset_blocks (ws : Workspace) (start : BlockId) :
    ws.chainFrom start ⊆ ws.blocks := by
  intro b hb
  obtain ⟨i, -, hi⟩ := List.mem_filterMap.1 hb
  exact List.mem_of_find?_eq_some hi

namespace Interpreter
variable {σ : Type}

inductive Step (m : Interpreter σ) : World σ → World σ → Prop
  | note (w : World σ) {n : Note} (hn : n ≠ .stopRequested) : Step m w (w.note n)
  | perform {w : World σ} (e : Effect) (he : w.Shows e) : Step m w (w.perform m.host e)
  | sprite (w : World σ) (c : Sprite.Change) : Step m w { w with sprite := c.apply w.sprite }
  | source (w : World σ) : Step m w { w with source := w.source.advance }
  | exhaust (w : World σ) (hw : w.isRunning = true) : Step m w { w with exhausted := true }

def Steps (m : Interpreter σ) : World σ → World σ → Prop := Relation.ReflTransGen m.Step

/-- The property is kept by every step but that of a loop that runs out. -/
structure Keeps (m : Interpreter σ) (P : World σ → Prop) : Prop where
  note : ∀ {w n}, n ≠ Note.stopRequested → P w → P (w.note n)
  perform : ∀ {w : World σ} e, w.Shows e → P w → P (w.perform m.host e)
  sprite : ∀ {w} (c : Sprite.Change), P w → P { w with sprite := c.apply w.sprite }
  source : ∀ {w}, P w → P { w with source := w.source.advance }

/-- The loops of `forever` blocks keep what their bodies keep. -/
def LoopKeeps {ι : Type} (m : Interpreter σ) (P : ι → World σ → Prop) : Prop :=
  ∀ body : World σ → World σ, (∀ i w, P i w → P i (body w)) →
    ∀ i w, P i w → P i (m.foreverRounds body m.roundLimit 0 w)

namespace Keeps
variable {m : Interpreter σ} {P : World σ → Prop} {w : World σ} (hP : m.Keeps P) (hw : P w)
include hP hw

theorem log (level : LogLevel) (message : String) : P (w.log m.host level message) :=
  hP.perform _ (World.shows_of_no_frame rfl _) hw

theorem render (transition : Duration) : P (w.render m.host transition) :=
  hP.perform _ (fun _ hf => Option.some.inj hf ▸ rfl) hw

theorem sleep (d : Duration) : P (w.sleep m.host d) :=
  hP.perform _ (World.shows_of_no_frame rfl _) hw

theorem speak (s : Speech) : P (w.speak m.host s) := hP.perform _ (World.shows_of_no_frame rfl _) hw

theorem draw : P (w.draw m.host).2 :=
  hP.perform _ (World.shows_of_no_frame rfl _) (hP.source hw)

theorem move : P (m.move w) := hP.sleep (hP.log (hP.render (hP.sprite (.place _ _) hw) _) _ _) _

theorem turn (degrees : Float) : P (m.turn degrees w) :=
  hP.log (hP.render (hP.sprite (.turn degrees) hw) _) _ _

theorem say (s : Speech) : P (m.say s w) := hP.log (hP.speak hw s) _ _

theorem setVisible (visible : Bool) : P (m.setVisible visible w) :=
  hP.log (hP.render (hP.sprite (.appear visible) hw) _) _ _

theorem wait (p : Parameters) : P (m.wait p w) := hP.sleep (hP.log hw _ _) _

theorem moveTo (p : Parameters) : P (m.moveTo p w) :=
  hP.sleep (hP.log (hP.render (hP.sprite (.place _ _) hw) _) _ _) _

theorem glide (p : Parameters) : P (m.glide p w) :=
  hP.sleep (hP.log (hP.render (hP.sprite (.place _ _) (hP.draw (hP.draw hw))) _) _ _) _

theorem sayCustom (p : Parameters) : P (m.sayCustom p w) := hP.sleep (hP.say hw _) _

theorem changeSize (p : Parameters) : P (m.changeSize p w) :=
  hP.log (hP.render (hP.sprite (.grow _) hw) _) _ _

theorem evaluate (c : Condition) : P (Interpreter.evaluate m.host c w).2 := by
  cases c with
  | always => exact hw
  | spriteEdge => exact hw
  | mouseClicked => exact hP.draw hw
  | keyPressed => exact hP.draw hw

omit hw in
theorem repeatRounds {body : World σ → World σ} (hbody : ∀ w, P w → P (body w)) (times left : Nat)
    (hw : P w) : P (m.repeatRounds body times left w) := by
  induction left generalizing w with
  | zero => exact hP.log hw _ _
  | succ left ih =>
    simp only [Interpreter.repeatRounds]
    split
    · have hround := fun message => hbody _ (hP.log hw .execution message)
      split
      · exact ih (hround _)
      · exact hround _
    · exact hw

end Keeps

def logRound (m : Interpreter σ) (done : Nat) (w : World σ) : World σ :=
  let every := m.settings.foreverLogEvery.toNat
  if 0 < every ∧ done % every = 0 then
    w.log m.host .execution ("forever round " ++ toString (done + 1))
  else w

theorem foreverRounds_succ (m : Interpreter σ) (body : World σ → World σ) (fuel done : Nat)
    (w : World σ) : m.foreverRounds body (fuel + 1) done w =
      if w.isRunning then
        if (body (m.logRound done w)).isRunning then
          m.foreverRounds body fuel (done + 1)
            ((body (m.logRound done w)).sleep m.host m.settings.foreverPacing)
        else (body (m.logRound done w)).note (.loopEnded (done + 1))
      else w.note (.loopEnded done) := rfl

theorem Keeps.logRound {m : Interpreter σ} {P : World σ → Prop} (hP : m.Keeps P) (done : Nat)
    {w : World σ} (hw : P w) : P (m.logRound done w) := by
  simp only [Interpreter.logRound]
  split
  · exact hP.log hw _ _
  · exact hw

/-- A `forever` loop keeps what its body keeps if running out keeps it too. -/
theorem Keeps.foreverRounds {m : Interpreter σ} {P : World σ → Prop} (hP : m.Keeps P)
    (hexhaust : ∀ w : World σ, w.isRunning = true → P w → P { w with exhausted := true })
    {body : World σ → World σ} (hbody : ∀ w, P w → P (body w)) (fuel done : Nat) {w : World σ}
    (hw : P w) : P (m.foreverRounds body fuel done w) := by
  induction fuel generalizing done w with
  | zero =>
    rw [Interpreter.foreverRounds]
    split
    · next hrun => exact hexhaust w hrun hw
    · exact hP.note (by simp) hw
  | succ fuel ih =>
    have hround := hbody _ (hP.logRound done hw)
    rw [foreverRounds_succ]
    split
    · split
      · exact ih (done + 1) (hP.sleep hround _)
      · exact hP.note (by simp) hround
    · exact hP.note (by simp) hw

section Induction
variable {ι : Type} {m : Interpreter σ} {P : ι → World σ → Prop}

mutual
theorem exec_keeps (hP : ∀ i, m.Keeps (P i)) : ∀ b : Block,
    (∀ x ∈ b.nodes, x.opcode = .forever → x.children ≠ [] → m.LoopKeeps P) →
    ∀ i w, P i w → P i (m.exec b w)
  | ⟨id, opcode, params, children⟩, hloop, i, w, hw => by
    have hnote := (hP i).note (n := .dispatch id opcode) (by simp) hw
    have hinside : ∀ i w, P i w → P i (m.execAll children w) :=
      execAll_keeps hP children fun x hx => hloop x (Block.mem_nodes_iff.2 (.inr hx))
    cases opcode with
    | move => exact (hP i).move hnote
    | turnRight => exact (hP i).turn hnote _
    | turnLeft => exact (hP i).turn hnote _
    | say => exact (hP i).say hnote _
    | showSprite => exact (hP i).setVisible hnote _
    | hideSprite => exact (hP i).setVisible hnote _
    | wait => exact (hP i).wait hnote _
    | moveTo => exact (hP i).moveTo hnote _
    | glide => exact (hP i).glide hnote _
    | sayCustom => exact (hP i).sayCustom hnote _
    | changeSize => exact (hP i).changeSize hnote _
    | whenClicked => exact (hP i).log hnote _ _
    | whenGreenFlag => exact (hP i).log hnote _ _
    | unknown tag => exact (hP i).log hnote _ _
    | repeatTimes =>
      simp only [exec]
      split
      · exact (hP i).log hnote _ _
      · exact (hP i).repeatRounds (hinside i) _ _ ((hP i).log hnote _ _)
    | forever =>
      simp only [exec]
      split
      · exact (hP i).log hnote _ _
      · next hne =>
        have hkeeps := hloop ⟨id, .forever, params, children⟩ (Block.self_mem_nodes _) rfl
          (by simpa using hne)
        exact hkeeps _ hinside i _ ((hP i).log hnote _ _)
    | ifThen =>
      have hlog := fun c met message => (hP i).log
        ((hP i).note (n := .evaluated c met) (by simp) ((hP i).evaluate hnote c)) .execution message
      simp only [exec]
      split
      · exact hinside i _ (hlog _ _ _)
      · exact hlog _ _ _

theorem execAll_keeps (hP : ∀ i, m.Keeps (P i)) : ∀ bs : List Block,
    (∀ x ∈ Block.nodesIn bs, x.opcode = .forever → x.children ≠ [] → m.LoopKeeps P) →
    ∀ i w, P i w → P i (m.execAll bs w)
  | [], _, i, w, hw => hw
  | b :: bs, hloop, i, w, hw => by
    rw [execAll]
    split
    · have hfirst := exec_keeps hP b (fun x hx => hloop x (List.mem_append_left _ hx)) i w hw
      exact execAll_keeps hP bs (fun x hx => hloop x (List.mem_append_right _ hx)) i _ hfirst
    · exact hw
end

variable (hP : ∀ i, m.Keeps (P i))
include hP

theorem execSteps_keeps (total step : Nat) {bs : List Block}
    (hloop : ∀ b ∈ bs, ∀ x ∈ b.nodes, x.opcode = .forever → x.children ≠ [] → m.LoopKeeps P)
    (i : ι) (w : World σ) (hw : P i w) : P i (m.execSteps total step bs w) := by
  induction bs generalizing step w with
  | nil => exact hw
  | cons b bs ih =>
    rw [List.forall_mem_cons] at hloop
    simp only [execSteps]
    split
    · exact ih (step + 1) hloop.2 _ (exec_keeps hP b hloop.1 i _ ((hP i).log hw _ _))
    · exact hw

theorem execChain_keeps {ws : Workspace} (place : Nat) {b : Block} (hb : b ∈ ws.blocks)
    (hloop : ∀ x ∈ Block.nodesIn ws.blocks, x.opcode = .forever → x.children ≠ [] → m.LoopKeeps P)
    (i : ι) (w : World σ) (hw : P i w) : P i (m.execChain ws place b w) := by
  have hblock : ∀ b ∈ ws.blocks, ∀ x ∈ b.nodes,
      x.opcode = .forever → x.children ≠ [] → m.LoopKeeps P := fun b hb x hx =>
    hloop x (Block.nodesIn_subset (Block.mem_nodesIn_of_mem hb) hx)
  simp only [execChain]
  split
  · exact execSteps_keeps hP _ _ (fun b hb => hblock b (ws.chainFrom_subset_blocks _ hb)) i _
      ((hP i).log hw _ _)
  · exact exec_keeps hP b (hblock b hb) i _ ((hP i).log hw _ _)

theorem execChains_keeps {ws : Workspace}
    (hloop : ∀ x ∈ Block.nodesIn ws.blocks, x.opcode = .forever → x.children ≠ [] → m.LoopKeeps P)
    (place : Nat) {bs : List Block} (hbs : bs ⊆ ws.blocks) (i : ι) (w : World σ) (hw : P i w) :
    P i (m.execChains ws place bs w) := by
  induction bs generalizing place w with
  | nil => exact hw
  | cons b bs ih =>
    rw [List.cons_subset] at hbs
    simp only [execChains]
    split
    · refine ih (place + 1) hbs.2 _ ?_
      split
      · exact hw
      · exact execChain_keeps hP place hbs.1 hloop i w hw
    · exact hw

theorem execProgram_keeps {ws : Workspace}
    (hloop : ∀ x ∈ Block.nodesIn ws.blocks, x.opcode = .forever → x.children ≠ [] → m.LoopKeeps P)
    (i : ι) (w : World σ) (hw : P i w) : P i (m.execProgram ws w) := by
  have hstart := fun message => (hP i).log
    ((hP i).note (n := .runStarted ws.length) (by simp) hw) .execution message
  refine execChains_keeps hP hloop 1 (List.Subset.refl _) i _ ?_
  split
  · exact (hP i).log (hstart _) _ _
  · exact (hP i).log (hstart _) _ _

end Induction

section Steps
variable (m : Interpreter σ) (w : World σ)

theorem keeps_steps : m.Keeps (m.Steps w) where
  note hn hw := hw.tail (.note _ hn)
  perform e he hw := hw.tail (.perform e he)
  sprite c hw := hw.tail (.sprite _ c)
  source hw := hw.tail (.source _)

theorem steps_foreverRounds {body : World σ → World σ} (hbody : ∀ w, m.Steps w (body w))
    (fuel done : Nat) : m.Steps w (m.foreverRounds body fuel done w) :=
  (m.keeps_steps w).foreverRounds (fun v hv hw => hw.tail (.exhaust v hv))
    (fun v hv => hv.trans (hbody v)) fuel done .refl

theorem steps_repeatRounds {body : World σ → World σ} (hbody : ∀ w, m.Steps w (body w))
    (times left : Nat) : m.Steps w (m.repeatRounds body times left w) :=
  (m.keeps_steps w).repeatRounds (fun v hv => hv.trans (hbody v)) times left .refl

theorem loopKeeps_steps : m.LoopKeeps fun _ : Unit => m.Steps w := fun _ hbody i _ hv =>
  (m.keeps_steps w).foreverRounds (fun v hv hw => hw.tail (.exhaust v hv)) (hbody i) _ _ hv

theorem steps_execAll (bs : List Block) : m.Steps w (m.execAll bs w) :=
  execAll_keeps (fun _ => m.keeps_steps w) bs (fun _ _ _ _ => m.loopKeeps_steps w) () w .refl

theorem steps_execSteps (total step : Nat) (bs : List Block) :
    m.Steps w (m.execSteps total step bs w) :=
  execSteps_keeps (fun _ => m.keeps_steps w) total step
    (fun _ _ _ _ _ _ => m.loopKeeps_steps w) () w .refl

theorem steps_execChains {ws : Workspace} (place : Nat) {bs : List Block} (hbs : bs ⊆ ws.blocks) :
    m.Steps w (m.execChains ws place bs w) :=
  execChains_keeps (fun _ => m.keeps_steps w) (fun _ _ _ _ => m.loopKeeps_steps w) place hbs ()
    w .refl

theorem steps_execProgram (ws : Workspace) : m.Steps w (m.execProgram ws w) :=
  execProgram_keeps (fun _ => m.keeps_steps w) (fun _ _ _ _ => m.loopKeeps_steps w) () w .refl

variable {m w} {v : World σ}

theorem Keeps.steps {P : World σ → Prop} (hP : m.Keeps P)
    (hexhaust : ∀ w : World σ, P w → P { w with exhausted := true }) (h : m.Steps w v)
    (hw : P w) : P v := by
  induction h with
  | refl => exact hw
  | tail _ hstep ih =>
    cases hstep with
    | note hn => exact hP.note hn ih
    | perform e he => exact hP.perform e he ih
    | sprite c => exact hP.sprite c ih
    | source => exact hP.source ih
    | exhaust => exact hexhaust _ ih

/-- Effects that happened stay; a run only adds to them. -/
theorem Steps.effects_prefix (h : m.Steps w v) : w.effects <+: v.effects := by
  induction h with
  | refl => exact List.prefix_rfl
  | tail _ hstep ih =>
    refine ih.trans ?_
    cases hstep with
    | note hn => exact (World.effects_note _ _).symm ▸ List.prefix_rfl
    | perform e he =>
      rw [World.effects_perform]
      exact List.prefix_append _ _
    | sprite c => exact List.prefix_rfl
    | source => exact List.prefix_rfl
    | exhaust hrun => exact List.prefix_rfl

end Steps

section Run
variable {m : Interpreter σ} {ws : Workspace} {w : World σ}

def runProgram (m : Interpreter σ) (ws : Workspace) (w : World σ) : World σ :=
  m.execProgram ws { w with flag := .running }

theorem run_of_idle (hflag : w.flag = .idle) : m.run ws w =
    if (m.runProgram ws w).exhausted then (m.runProgram ws w, none)
    else ((m.finish (m.runProgram ws w)).1, some (m.finish (m.runProgram ws w)).2) := by
  simp only [run, hflag, RunState.tryStart]
  rfl

theorem run_of_not_idle (hflag : w.flag ≠ .idle) :
    m.run ws w = (w.note .runRefused, some .alreadyRunning) := by
  cases hw : w.flag with
  | idle => exact absurd hw hflag
  | running => simp only [run, hw, RunState.tryStart]
  | stopped => simp only [run, hw, RunState.tryStart]

def ending : RunState → LogEvent × Outcome
  | .running => (⟨.success, "run complete"⟩, .completed)
  | _ => (⟨.warning, "run interrupted"⟩, .stopped)

theorem finish_eq (m : Interpreter σ) (w : World σ) : m.finish w =
    ((({ w with flag := .idle } : World σ).perform m.host (.log (ending w.flag).1)).note
      (.runFinished (ending w.flag).2), (ending w.flag).2) := by
  simp only [finish, RunState.finish]
  cases w.flag <;> rfl

theorem effects_finish : (m.finish w).1.effects = w.effects ++ [.log (ending w.flag).1] := by
  rw [finish_eq]
  simp only [World.effects_note, World.effects_perform]
  rfl

end Run

end Interpreter
end SpriteBlocks
