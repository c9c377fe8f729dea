import SpriteBlocks.Proofs.Run.Dispatch

/-!
# The time that a run takes

A run takes time at two kinds of moments: when it begins a block, and behind a
round of a `forever` block that it finished. Each moment says which transition
it shows, which bubble it asks for and how long it sleeps. A run is a sequence
of such moments, and the times in its journal are those of the moments in order.
-/
namespace SpriteBlocks

/-- An entry of the journal that is a dispatch or has a time. -/
inductive Timing where
  | dispatched (id : BlockId) (opcode : Opcode)
  | shown (transition : Duration)
  | said (duration : Duration)
  | slept (duration : Duration)
deriving DecidableEq

namespace Timing

def shown? : Timing → Option Duration
  | shown transition => some transition
  | _ => none

def said? : Timing → Option Duration
  | said duration => some duration
  | _ => none

def slept? : Timing → Option Duration
  | slept duration => some duration
  | _ => none

end Timing

def Entry.timing? : Entry → Option Timing
  | .note (.dispatch id opcode) => some (.dispatched id opcode)
  | .effect (.frame _ transition) => some (.shown transition)
  | .effect (.speech s) => some (.said s.duration)
  | .effect (.sleep d) => some (.slept d)
  | _ => none

namespace Block

def transition? (s : Settings) (b : Block) : Option Duration :=
  match b.opcode with
  | .move => some s.moveSettle
  | .moveTo => some s.moveToSettle
  | .glide => some (.ofSeconds (Interpreter.secondsOr b.params "duration" 2.0))
  | .turnRight | .turnLeft | .showSprite | .hideSprite | .changeSize => some .zero
  | _ => none

def bubble? (s : Settings) (b : Block) : Option Duration :=
  match b.opcode with
  | .say => some s.sayDuration
  | .sayCustom => some (.ofSeconds (Interpreter.secondsOr b.params "duration" 2.0))
  | _ => none

def sleep? (s : Settings) (b : Block) : Option Duration :=
  match b.opcode with
  | .move | .moveTo | .glide => b.transition? s
  | .sayCustom => b.bubble? s
  | .wait => some (.ofSeconds (Interpreter.secondsOr b.params "seconds" 1.0))
  | _ => none

end Block

/-- A moment at which a run takes time. -/
inductive Moment where
  /-- A block is begun. -/
  | begun (block : Block)
  /-- The blocks inside a `forever` block were executed in the round of this
  number, and the run goes on behind them. -/
  | finished (body : List Block) (round : Nat)

namespace Moment

def transition? (s : Settings) : Moment → Option Duration
  | begun b => b.transition? s
  | finished .. => none

def bubble? (s : Settings) : Moment → Option Duration
  | begun b => b.bubble? s
  | finished .. => none

def sleep? (s : Settings) : Moment → Option Duration
  | begun b => b.sleep? s
  | finished .. => some s.foreverPacing

def dispatch? : Moment → Option (BlockId × Opcode)
  | begun b => some (b.id, b.opcode)
  | finished .. => none

def timings (s : Settings) (moment : Moment) : List Timing :=
  (moment.dispatch?.map fun d => .dispatched d.1 d.2).toList ++
    (moment.transition? s).toList.map .shown ++ (moment.bubble? s).toList.map .said ++
    (moment.sleep? s).toList.map .slept

/-- The moment belongs to the program: the block is one of its blocks, and the
loop is that of one of its `forever` blocks. -/
def Of (ws : Workspace) : Moment → Prop
  | begun b => b ∈ Block.nodesIn ws.blocks
  | finished body _ => ∃ b ∈ Block.nodesIn ws.blocks, b.opcode = .forever ∧ b.children = body

end Moment

namespace World
variable {σ : Type}

def timings (w : World σ) : List Timing := w.trace Entry.timing?

theorem timings_perform (h : Host σ) (e : Effect) (w : World σ) :
    (w.perform h e).timings = w.timings ++ (Entry.timing? (.effect e)).toList :=
  trace_perform w rfl h e

@[simp] theorem timings_log (h : Host σ) (level : LogLevel) (message : String) (w : World σ) :
    (w.log h level message).timings = w.timings := trace_perform_of_none w rfl h rfl

@[simp] theorem timings_render (h : Host σ) (transition : Duration) (w : World σ) :
    (w.render h transition).timings = w.timings ++ [.shown transition] := timings_perform h _ w

@[simp] theorem timings_speak (h : Host σ) (s : Speech) (w : World σ) :
    (w.speak h s).timings = w.timings ++ [.said s.duration] := timings_perform h _ w

@[simp] theorem timings_sleep (h : Host σ) (d : Duration) (w : World σ) :
    (w.sleep h d).timings = w.timings ++ [.slept d] := timings_perform h _ w

@[simp] theorem timings_draw (h : Host σ) (w : World σ) : (w.draw h).2.timings = w.timings :=
  trace_perform_of_none { w with source := w.source.advance } rfl h rfl

@[simp] theorem timings_sprite (sprite : Sprite) (w : World σ) :
    timings { w with sprite } = w.timings := rfl

theorem timings_note {n : Note} (hn : Entry.timing? (.note n) = none) (w : World σ) :
    (w.note n).timings = w.timings := trace_note w hn

theorem timings_dispatch {w : World σ} (hw : w.exhausted = false) (id : BlockId)
    (opcode : Opcode) : (w.note (.dispatch id opcode)).timings =
      w.timings ++ [.dispatched id opcode] := trace_note_of_fresh hw _

end World

namespace Interpreter
variable {σ : Type} {m : Interpreter σ} {ws : Workspace} {w v : World σ}

theorem timings_evaluate (h : Host σ) (c : Condition) (w : World σ) :
    (evaluate h c w).2.timings = w.timings := by
  cases c with
  | always => rfl
  | spriteEdge => rfl
  | mouseClicked => exact World.timings_draw h w
  | keyPressed => exact World.timings_draw h w

theorem Quiet.timings_eq (h : m.Quiet w v) : v.timings = w.timings := by
  refine h.trace_eq (fun _ => rfl) rfl fun n hn => ?_
  cases n with
  | dispatch id opcode => cases hn
  | _ => rfl

section Blocks
variable (m)

theorem timings_move (w : World σ) : (m.move w).timings =
    w.timings ++ [.shown m.settings.moveSettle, .slept m.settings.moveSettle] := by
  simp [move]

theorem timings_turn (degrees : Float) (w : World σ) :
    (m.turn degrees w).timings = w.timings ++ [.shown .zero] := by
  simp [turn]

theorem timings_say (s : Speech) (w : World σ) :
    (m.say s w).timings = w.timings ++ [.said s.duration] := by
  simp [say]

theorem timings_setVisible (visible : Bool) (w : World σ) :
    (m.setVisible visible w).timings = w.timings ++ [.shown .zero] := by
  simp [setVisible]

theorem timings_wait (p : Parameters) (w : World σ) : (m.wait p w).timings =
    w.timings ++ [.slept (.ofSeconds (secondsOr p "seconds" 1.0))] := by
  simp [wait]

theorem timings_moveTo (p : Parameters) (w : World σ) : (m.moveTo p w).timings =
    w.timings ++ [.shown m.settings.moveToSettle, .slept m.settings.moveToSettle] := by
  simp [moveTo]

theorem timings_glide (p : Parameters) (w : World σ) : (m.glide p w).timings =
    w.timings ++ [.shown (.ofSeconds (secondsOr p "duration" 2.0)),
      .slept (.ofSeconds (secondsOr p "duration" 2.0))] := by
  simp [glide]

theorem timings_sayCustom (p : Parameters) (w : World σ) : (m.sayCustom p w).timings =
    w.timings ++ [.said (.ofSeconds (secondsOr p "duration" 2.0)),
      .slept (.ofSeconds (secondsOr p "duration" 2.0))] := by
  simp [sayCustom, timings_say]

theorem timings_changeSize (p : Parameters) (w : World σ) :
    (m.changeSize p w).timings = w.timings ++ [.shown .zero] := by
  simp [changeSize]

end Blocks

theorem timings_logRound (m : Interpreter σ) (done : Nat) (w : World σ) :
    (m.logRound done w).timings = w.timings := by
  simp only [logRound]
  split
  · exact World.timings_log _ _ _ _
  · rfl

/-- Up to the next question a block that is begun takes the time of that moment. -/
theorem timings_enter (hw : w.exhausted = false) (b : Block) : (m.enter b w).2.timings =
    w.timings ++ (Moment.begun b).timings m.settings := by
  obtain ⟨id, opcode, params, children⟩ := b
  have hdispatch := World.timings_dispatch hw id opcode
  have hthen (ts : List Timing) : (w.note (.dispatch id opcode)).timings ++ ts =
      w.timings ++ .dispatched id opcode :: ts := by
    rw [hdispatch, List.append_assoc]
    rfl
  cases opcode with
  | move => exact (m.timings_move _).trans (hthen _)
  | turnRight => exact (m.timings_turn _ _).trans (hthen _)
  | turnLeft => exact (m.timings_turn _ _).trans (hthen _)
  | say => exact (m.timings_say _ _).trans (hthen _)
  | showSprite => exact (m.timings_setVisible _ _).trans (hthen _)
  | hideSprite => exact (m.timings_setVisible _ _).trans (hthen _)
  | wait => exact (m.timings_wait _ _).trans (hthen _)
  | moveTo => exact (m.timings_moveTo _ _).trans (hthen _)
  | glide => exact (m.timings_glide _ _).trans (hthen _)
  | sayCustom => exact (m.timings_sayCustom _ _).trans (hthen _)
  | changeSize => exact (m.timings_changeSize _ _).trans (hthen _)
  | whenClicked => exact (World.timings_log _ _ _ _).trans hdispatch
  | whenGreenFlag => exact (World.timings_log _ _ _ _).trans hdispatch
  | unknown tag => exact (World.timings_log _ _ _ _).trans hdispatch
  | repeatTimes =>
    simp only [enter, exec]
    split <;> exact (World.timings_log _ _ _ _).trans hdispatch
  | forever =>
    simp only [enter, exec]
    split <;> exact (World.timings_log _ _ _ _).trans hdispatch
  | ifThen =>
    simp only [enter, World.timings_log, World.timings_note (n := .evaluated _ _) rfl,
      timings_evaluate]
    exact hdispatch

/-- The moment to which a task leads if it is taken up now. -/
def Task.moment? (ws : Workspace) (w : World σ) : Task → Option Moment
  | .blocks (b :: _) | .steps _ _ (b :: _) => if w.isRunning then some (.begun b) else none
  | .chains _ (b :: _) =>
    if w.isRunning ∧ ¬ ws.registry.isSuccessor b.id ∧ ¬ 1 < (ws.chainFrom b.id).length then
      some (.begun b)
    else none
  | .loopEnd body _ done => if w.isRunning then some (.finished body (done + 1)) else none
  | _ => none

theorem timings_begin (hw : w.exhausted = false) (b : Block) (rest : List Task)
    (begun : List Block) : (m.begin b rest begun w).world.timings =
      w.timings ++ (some (Moment.begun b)).toList.flatMap (Moment.timings m.settings) :=
  (timings_enter hw b).trans (by rw [Option.toList_some, List.flatMap_singleton])

/-- A step takes the time of its moment, if there is one, and no other. -/
theorem timings_step (m : Interpreter σ) (ws : Workspace) (begun : List Block) (w : World σ)
    (task : Task) : (m.step ws begun w task).world.timings =
      w.timings ++ (task.moment? ws w).toList.flatMap (Moment.timings m.settings) := by
  have hnone {v : World σ} (h : v.timings = w.timings) : v.timings =
      w.timings ++ (none : Option Moment).toList.flatMap (Moment.timings m.settings) :=
    h.trans (List.append_nil _).symm
  have hfresh (hrun : w.isRunning = true) (message : String) :
      (w.log m.host .execution message).exhausted = false := by
    rw [World.log, World.exhausted_perform]
    exact (w.isRunning_eq_true_iff.1 hrun).2
  cases task with
  | blocks bs =>
    cases bs with
    | nil => exact hnone rfl
    | cons b bs =>
      simp only [step, Task.moment?]
      split
      · next hrun => exact timings_begin (w.isRunning_eq_true_iff.1 hrun).2 b _ _
      · exact hnone rfl
  | rounds body times left =>
    cases left with
    | zero => exact hnone (World.timings_log _ _ _ _)
    | succ left =>
      simp only [step]
      split
      · exact hnone (World.timings_log _ _ _ _)
      · exact hnone rfl
  | roundEnd body times left =>
    simp only [step]
    split <;> exact hnone rfl
  | loop body fuel done =>
    cases fuel with
    | zero =>
      simp only [step]
      split
      · exact hnone rfl
      · exact hnone (World.timings_note rfl w)
    | succ fuel =>
      simp only [step]
      split
      · exact hnone (m.timings_logRound done w)
      · exact hnone (World.timings_note rfl w)
  | loopEnd body fuel done =>
    simp only [step, Task.moment?]
    split
    · exact World.timings_sleep _ _ _
    · exact hnone (World.timings_note rfl w)
  | steps total i bs =>
    cases bs with
    | nil => exact hnone rfl
    | cons b bs =>
      simp only [step, Task.moment?]
      split
      · next hrun =>
        rw [timings_begin (hfresh hrun _), World.timings_log]
      · exact hnone rfl
  | chains i bs =>
    cases bs with
    | nil => exact hnone rfl
    | cons b bs =>
      simp only [step, Task.moment?]
      by_cases hrun : w.isRunning = true
      · by_cases hsuccessor : ws.registry.isSuccessor b.id = true
        · rw [if_pos hrun, if_pos hsuccessor, if_neg (by simp [hsuccessor])]
          exact hnone rfl
        · by_cases hchain : 1 < (ws.chainFrom b.id).length
          · rw [if_pos hrun, if_neg hsuccessor, if_pos hchain, if_neg (by simp [hchain])]
            exact hnone (World.timings_log _ _ _ _)
          · rw [if_pos hrun, if_neg hsuccessor, if_neg hchain,
              if_pos ⟨hrun, hsuccessor, hchain⟩, timings_begin (hfresh hrun _), World.timings_log]
      · rw [if_neg hrun, if_neg fun h => hrun h.1]
        exact hnone rfl

/-- The moments to which the machine came on its way from one place to another, in order. -/
inductive Timeline (m : Interpreter σ) (ws : Workspace) (c : Config σ) :
    List Moment → Config σ → Prop
  | start : Timeline m ws c [] c
  | step {moments : List Moment} {task : Task} {rest : List Task} {begun : List Block} {v : World σ}
    (h : Timeline m ws c moments ⟨task :: rest, begun, v⟩) :
    Timeline m ws c (moments ++ (task.moment? ws v).toList)
      { m.step ws begun v task with tasks := (m.step ws begun v task).tasks ++ rest }

/-- A loop that is to be gone on with is that of a `forever` block of the program. -/
def Task.Rooted (ws : Workspace) : Task → Prop
  | .loop body _ _ | .loopEnd body _ _ =>
    ∃ b ∈ Block.nodesIn ws.blocks, b.opcode = .forever ∧ b.children = body
  | _ => True

theorem rooted_enter {b : Block} (hb : b ∈ Block.nodesIn ws.blocks) (w : World σ) :
    ∀ task ∈ (m.enter b w).1, task.Rooted ws := by
  obtain ⟨id, opcode, params, children⟩ := b
  intro task htask
  cases opcode with
  | repeatTimes =>
    simp only [enter] at htask
    split at htask
    · cases htask
    · rw [List.mem_singleton.1 htask]
      trivial
  | forever =>
    simp only [enter] at htask
    split at htask
    · cases htask
    · rw [List.mem_singleton.1 htask]
      exact ⟨_, hb, rfl, rfl⟩
  | ifThen =>
    simp only [enter] at htask
    split at htask
    · rw [List.mem_singleton.1 htask]
      trivial
    · cases htask
  | _ => cases htask

theorem rooted_begin {b : Block} (hb : b ∈ Block.nodesIn ws.blocks) {rest : List Task}
    (hrest : ∀ task ∈ rest, task.Rooted ws) (begun : List Block) (w : World σ) :
    ∀ task ∈ (m.begin b rest begun w).tasks, task.Rooted ws :=
  List.forall_mem_append.2 ⟨rooted_enter hb w, hrest⟩

/-- The machine takes up loops of `forever` blocks of the program only. -/
theorem rooted_step {task : Task} (hwithin : Block.nodesIn task.content ⊆ Block.nodesIn ws.blocks)
    (hrooted : task.Rooted ws) (begun : List Block) (w : World σ) :
    ∀ next ∈ (m.step ws begun w task).tasks, next.Rooted ws := by
  have hnil : ∀ next ∈ ([] : List Task), next.Rooted ws := List.forall_mem_nil _
  cases task with
  | blocks bs =>
    cases bs with
    | nil => exact hnil
    | cons b bs =>
      have hrest : ∀ next ∈ [Task.blocks bs], next.Rooted ws :=
        List.forall_mem_singleton.2 trivial
      simp only [step]
      split
      · exact rooted_begin (hwithin (Block.mem_nodesIn_of_mem List.mem_cons_self)) hrest _ _
      · exact hnil
  | rounds body times left =>
    cases left with
    | zero => exact hnil
    | succ left =>
      simp only [step]
      split
      · exact List.forall_mem_cons.2 ⟨trivial, List.forall_mem_singleton.2 trivial⟩
      · exact hnil
  | roundEnd body times left =>
    simp only [step]
    split
    · exact List.forall_mem_singleton.2 trivial
    · exact hnil
  | loop body fuel done =>
    cases fuel with
    | zero => exact hnil
    | succ fuel =>
      simp only [step]
      split
      · exact List.forall_mem_cons.2 ⟨trivial, List.forall_mem_singleton.2 hrooted⟩
      · exact hnil
  | loopEnd body fuel done =>
    simp only [step]
    split
    · exact List.forall_mem_singleton.2 hrooted
    · exact hnil
  | steps total i bs =>
    cases bs with
    | nil => exact hnil
    | cons b bs =>
      have hrest : ∀ next ∈ [Task.steps total (i + 1) bs], next.Rooted ws :=
        List.forall_mem_singleton.2 trivial
      simp only [step]
      split
      · exact rooted_begin (hwithin (Block.mem_nodesIn_of_mem List.mem_cons_self)) hrest _ _
      · exact hnil
  | chains i bs =>
    cases bs with
    | nil => exact hnil
    | cons b bs =>
      have hrest : ∀ next ∈ [Task.chains (i + 1) bs], next.Rooted ws :=
        List.forall_mem_singleton.2 trivial
      simp only [step]
      split
      · split
        · exact hrest
        · split
          · exact List.forall_mem_cons.2 ⟨trivial, hrest⟩
          · exact rooted_begin (hwithin (Block.mem_nodesIn_of_mem List.mem_cons_self)) hrest _ _
      · exact hnil

theorem of_moment? {task : Task}
    (hwithin : Block.nodesIn task.content ⊆ Block.nodesIn ws.blocks) (hrooted : task.Rooted ws)
    (w : World σ) : ∀ moment ∈ task.moment? ws w, moment.Of ws := by
  intro moment hmoment
  have hhead {b : Block} {bs : List Block} (h : task.content = b :: bs) :
      b ∈ Block.nodesIn ws.blocks :=
    hwithin (Block.mem_nodesIn_of_mem (h ▸ List.mem_cons_self))
  simp only [Task.moment?] at hmoment
  split at hmoment
  · obtain rfl := Option.some.inj (Option.ite_none_right_eq_some.1 hmoment).2
    exact hhead rfl
  · obtain rfl := Option.some.inj (Option.ite_none_right_eq_some.1 hmoment).2
    exact hhead rfl
  · obtain rfl := Option.some.inj (Option.ite_none_right_eq_some.1 hmoment).2
    exact hhead rfl
  · obtain rfl := Option.some.inj (Option.ite_none_right_eq_some.1 hmoment).2
    exact hrooted
  · cases hmoment

namespace Timeline
variable {c c' : Config σ} {moments : List Moment}

/-- Between two places the machine takes the time of its moments. -/
theorem timings_eq (h : m.Timeline ws c moments c') :
    c'.world.timings = c.world.timings ++ moments.flatMap (Moment.timings m.settings) := by
  induction h with
  | start => exact (List.append_nil _).symm
  | step h ih =>
    refine (m.timings_step ws _ _ _).trans ?_
    rw [ih, List.flatMap_append, List.append_assoc]

theorem of_reaches (h : m.Reaches ws c c') : ∃ moments, m.Timeline ws c moments c' := by
  induction h with
  | refl => exact ⟨[], .start⟩
  | @tail c c' _ hnext ih =>
    obtain ⟨moments, ih⟩ := ih
    obtain ⟨tasks, begun, v⟩ := c
    cases tasks with
    | nil => cases hnext
    | cons task rest =>
      obtain rfl := Option.some.inj hnext
      exact ⟨_, ih.step⟩

theorem within (h : m.Timeline ws c moments c') (hwithin : Interpreter.Within ws c.tasks)
    (hrooted : ∀ task ∈ c.tasks, task.Rooted ws) :
    (∀ moment ∈ moments, moment.Of ws) ∧ Interpreter.Within ws c'.tasks ∧
      ∀ task ∈ c'.tasks, task.Rooted ws := by
  induction h with
  | start => exact ⟨List.forall_mem_nil _, hwithin, hrooted⟩
  | @step moments task rest begun v _ ih =>
    obtain ⟨hmoments, hwithin, hrooted⟩ := ih
    obtain ⟨hcontent, hwithin⟩ := List.forall_mem_cons.1 hwithin
    obtain ⟨hroot, hrooted⟩ := List.forall_mem_cons.1 hrooted
    refine ⟨List.forall_mem_append.2 ⟨hmoments, fun moment hmoment => ?_⟩,
      .append (within_step hcontent begun v) hwithin,
      List.forall_mem_append.2 ⟨rooted_step hcontent hroot begun v, hrooted⟩⟩
    exact of_moment? hcontent hroot v moment (Option.mem_toList.1 hmoment)

end Timeline

end Interpreter
end SpriteBlocks
