import SpriteBlocks.Proofs.Run.Steps

/-!
# The run as a machine

A machine goes through a program in steps, from one question whether the run
goes on to the next. What it has yet to do is a stack of tasks, and it keeps the
blocks that it has begun. Starting from the tasks of a program the machine comes
to the world that the interpreter computes, so a run passes through the worlds
of the machine and through no others.
-/
namespace SpriteBlocks
namespace Interpreter
variable {σ : Type}

inductive Task where
  /-- Blocks inside a container. -/
  | blocks (bs : List Block)
  /-- The rounds of a `repeat` block that are left. -/
  | rounds (body : List Block) (times left : Nat)
  /-- What follows a round of a `repeat` block. -/
  | roundEnd (body : List Block) (times left : Nat)
  /-- A `forever` block with the rounds it may still do and those already done. -/
  | loop (body : List Block) (fuel done : Nat)
  /-- What follows a round of a `forever` block. -/
  | loopEnd (body : List Block) (fuel done : Nat)
  /-- The steps of a chain of `total` blocks, from step `i` on. -/
  | steps (total i : Nat) (bs : List Block)
  /-- The chains that start among top-level blocks, from the `i`-th on. -/
  | chains (i : Nat) (bs : List Block)

structure Config (σ : Type) where
  /-- The next task comes first. -/
  tasks : List Task
  /-- The blocks that were dispatched so far, in order. -/
  begun : List Block
  world : World σ

/-- Begin a block: what it opens, and the world behind that. A container with
blocks inside opens them or its loop; any other block is executed as a whole. -/
def enter (m : Interpreter σ) : Block → World σ → List Task × World σ
  | ⟨id, opcode, params, children⟩, w =>
    let v := w.note (.dispatch id opcode)
    match opcode with
    | .repeatTimes =>
      if children.isEmpty then ([], m.exec ⟨id, .repeatTimes, params, children⟩ w)
      else
        let times := repeatCount m.settings params
        ([.rounds children times times],
          v.log m.host .execution ("repeating " ++ toString times ++ " times"))
    | .forever =>
      if children.isEmpty then ([], m.exec ⟨id, .forever, params, children⟩ w)
      else ([.loop children m.roundLimit 0], v.log m.host .execution "forever loop started")
    | .ifThen =>
      let condition := Condition.ofChoice (params.textOr "condition" "always")
      let (met, v) := evaluate m.host condition v
      let v := v.note (.evaluated condition met)
      (if met then [.blocks children] else [], v.log m.host .execution
        ("if " ++ condition.label ++ ": " ++ (if met then "met" else "not met")))
    | opcode => ([], m.exec ⟨id, opcode, params, children⟩ w)

def begin (m : Interpreter σ) (b : Block) (rest : List Task) (begun : List Block) (w : World σ) :
    Config σ :=
  ⟨(m.enter b w).1 ++ rest, begun ++ [b], (m.enter b w).2⟩

/-- One task as far as the next question: the tasks that replace it, the blocks
begun by then, and the world. -/
def step (m : Interpreter σ) (ws : Workspace) (begun : List Block) (w : World σ) : Task → Config σ
  | .blocks [] => ⟨[], begun, w⟩
  | .blocks (b :: bs) => if w.isRunning then m.begin b [.blocks bs] begun w else ⟨[], begun, w⟩
  | .rounds _ _ 0 => ⟨[], begun, w.log m.host .success "repeat finished"⟩
  | .rounds body times (left + 1) =>
    if w.isRunning then
      ⟨[.blocks body, .roundEnd body times left], begun, w.log m.host .execution
        ("repeat round " ++ toString (times - left) ++ "/" ++ toString times)⟩
    else ⟨[], begun, w⟩
  | .roundEnd body times left =>
    if w.isRunning then ⟨[.rounds body times left], begun, w⟩ else ⟨[], begun, w⟩
  | .loop _ 0 done =>
    ⟨[], begun, if w.isRunning then { w with exhausted := true } else w.note (.loopEnded done)⟩
  | .loop body (fuel + 1) done =>
    if w.isRunning then ⟨[.blocks body, .loopEnd body fuel done], begun, m.logRound done w⟩
    else ⟨[], begun, w.note (.loopEnded done)⟩
  | .loopEnd body fuel done =>
    if w.isRunning then
      ⟨[.loop body fuel (done + 1)], begun, w.sleep m.host m.settings.foreverPacing⟩
    else ⟨[], begun, w.note (.loopEnded (done + 1))⟩
  | .steps _ _ [] => ⟨[], begun, w⟩
  | .steps total i (b :: bs) =>
    if w.isRunning then
      m.begin b [.steps total (i + 1) bs] begun (w.log m.host .execution ("chain step " ++
        toString i ++ "/" ++ toString total ++ ": " ++ b.opcode.description))
    else ⟨[], begun, w⟩
  | .chains _ [] => ⟨[], begun, w⟩
  | .chains i (b :: bs) =>
    if w.isRunning then
      if ws.registry.isSuccessor b.id then ⟨[.chains (i + 1) bs], begun, w⟩
      else if 1 < (ws.chainFrom b.id).length then
        ⟨[.steps (ws.chainFrom b.id).length 1 (ws.chainFrom b.id), .chains (i + 1) bs], begun,
          w.log m.host .execution
            ("executing chain of " ++ toString (ws.chainFrom b.id).length ++ " blocks")⟩
      else
        m.begin b [.chains (i + 1) bs] begun
          (w.log m.host .execution ("block " ++ toString i ++ ": " ++ b.opcode.description))
    else ⟨[], begun, w⟩

/-- One step of the machine; there is none if nothing is left to do. -/
def next (m : Interpreter σ) (ws : Workspace) (c : Config σ) : Option (Config σ) :=
  match c.tasks with
  | [] => none
  | task :: rest =>
    let after := m.step ws c.begun c.world task
    some { after with tasks := after.tasks ++ rest }

def Reaches (m : Interpreter σ) (ws : Workspace) : Config σ → Config σ → Prop :=
  Relation.ReflTransGen fun c c' => m.next ws c = some c'

/-- The machine works the tasks off on top of any others, from the first world to the second. -/
def WorksOff (m : Interpreter σ) (ws : Workspace) (tasks : List Task) (w v : World σ) : Prop :=
  ∀ rest begun, ∃ more, m.Reaches ws ⟨tasks ++ rest, begun, w⟩ ⟨rest, begun ++ more, v⟩

section Simulation
variable {m : Interpreter σ} {ws : Workspace} {w u v : World σ} {tasks tasks' : List Task}
  {task : Task}

theorem WorksOff.nil (w : World σ) : m.WorksOff ws [] w w := fun _ begun =>
  ⟨[], by rw [List.append_nil begun]; exact .refl⟩

theorem WorksOff.append (h : m.WorksOff ws tasks w u) (h' : m.WorksOff ws tasks' u v) :
    m.WorksOff ws (tasks ++ tasks') w v := by
  intro rest begun
  obtain ⟨first, hfirst⟩ := h (tasks' ++ rest) begun
  obtain ⟨second, hsecond⟩ := h' rest (begun ++ first)
  rw [List.append_assoc] at hsecond ⊢
  exact ⟨first ++ second, hfirst.trans hsecond⟩

/-- A task is worked off by a step and by the tasks that this leaves. -/
theorem WorksOff.step (begins : List Block)
    (hstep : ∀ begun, m.step ws begun w task = ⟨tasks, begun ++ begins, u⟩)
    (h : m.WorksOff ws tasks u v) : m.WorksOff ws [task] w v := by
  intro rest begun
  obtain ⟨more, hmore⟩ := h rest (begun ++ begins)
  refine ⟨begins ++ more, .head (b := ⟨tasks ++ rest, begun ++ begins, u⟩) ?_ ?_⟩
  · simp only [next, List.singleton_append, hstep]
  · rwa [List.append_assoc] at hmore

theorem WorksOff.pass (hstep : ∀ begun, m.step ws begun w task = ⟨tasks, begun, u⟩)
    (h : m.WorksOff ws tasks u v) : m.WorksOff ws [task] w v :=
  .step [] (by simpa using hstep) h

theorem WorksOff.done (hstep : ∀ begun, m.step ws begun w task = ⟨[], begun, v⟩) :
    m.WorksOff ws [task] w v := .pass hstep (.nil v)

theorem WorksOff.begin {b : Block}
    (hstep : ∀ begun, m.step ws begun w task = m.begin b tasks begun u)
    (hblock : m.WorksOff ws (m.enter b u).1 (m.enter b u).2 (m.exec b u))
    (h : m.WorksOff ws tasks (m.exec b u) v) : m.WorksOff ws [task] w v :=
  .step [b] hstep (hblock.append h)

section Loops
variable {body : List Block} (hbody : ∀ w, m.WorksOff ws [.blocks body] w (m.execAll body w))
include hbody

theorem worksOff_rounds (times left : Nat) (w : World σ) : m.WorksOff ws [.rounds body times left] w
    (m.repeatRounds (fun w => m.execAll body w) times left w) := by
  induction left generalizing w with
  | zero => exact .done fun _ => rfl
  | succ left ih =>
    rw [repeatRounds]
    by_cases hw : w.isRunning = true
    · rw [if_pos hw]
      refine .pass (fun _ => if_pos hw) ((hbody _).append ?_)
      dsimp only
      split
      · next hround => exact .pass (fun _ => if_pos hround) (ih _)
      · next hround => exact .done fun _ => if_neg hround
    · rw [if_neg hw]
      exact .done fun _ => if_neg hw

theorem worksOff_loop (fuel done : Nat) (w : World σ) : m.WorksOff ws [.loop body fuel done] w
    (m.foreverRounds (fun w => m.execAll body w) fuel done w) := by
  induction fuel generalizing done w with
  | zero => exact .done fun _ => rfl
  | succ fuel ih =>
    rw [foreverRounds_succ]
    by_cases hw : w.isRunning = true
    · rw [if_pos hw]
      refine .pass (fun _ => if_pos hw) ((hbody _).append ?_)
      split
      · next hround => exact .pass (fun _ => if_pos hround) (ih _ _)
      · next hround => exact .done fun _ => if_neg hround
    · rw [if_neg hw]
      exact .done fun _ => if_neg hw

end Loops

mutual
/-- What a block opens leads to the world behind the block. -/
theorem worksOff_enter : ∀ (b : Block) (w : World σ),
    m.WorksOff ws (m.enter b w).1 (m.enter b w).2 (m.exec b w)
  | ⟨id, opcode, params, children⟩, w => by
    cases opcode with
    | repeatTimes =>
      simp only [enter]
      split
      · exact .nil _
      · next hne =>
        simp only [exec, if_neg hne]
        exact worksOff_rounds (worksOff_blocks children) _ _ _
    | forever =>
      simp only [enter]
      split
      · exact .nil _
      · next hne =>
        simp only [exec, if_neg hne]
        exact worksOff_loop (worksOff_blocks children) _ _ _
    | ifThen =>
      simp only [enter, exec]
      split
      · exact worksOff_blocks children _
      · exact .nil _
    | _ => exact .nil _

theorem worksOff_blocks : ∀ (bs : List Block) (w : World σ),
    m.WorksOff ws [.blocks bs] w (m.execAll bs w)
  | [], w => .done fun _ => rfl
  | b :: bs, w => by
    rw [execAll]
    split
    · next hw => exact .begin (fun _ => if_pos hw) (worksOff_enter b w) (worksOff_blocks bs _)
    · next hw => exact .done fun _ => if_neg hw
end

theorem worksOff_steps (total i : Nat) (bs : List Block) (w : World σ) :
    m.WorksOff ws [.steps total i bs] w (m.execSteps total i bs w) := by
  induction bs generalizing i w with
  | nil => exact .done fun _ => rfl
  | cons b bs ih =>
    rw [execSteps]
    split
    · next hw => exact .begin (fun _ => if_pos hw) (worksOff_enter b _) (ih _ _)
    · next hw => exact .done fun _ => if_neg hw

theorem worksOff_chains (m : Interpreter σ) (ws : Workspace) (i : Nat) (bs : List Block)
    (w : World σ) : m.WorksOff ws [.chains i bs] w (m.execChains ws i bs w) := by
  induction bs generalizing i w with
  | nil => exact .done fun _ => rfl
  | cons b bs ih =>
    rw [execChains]
    by_cases hw : w.isRunning = true
    · rw [if_pos hw]
      by_cases hb : ws.registry.isSuccessor b.id = true
      · rw [if_pos hb]
        exact .pass (fun _ => (if_pos hw).trans (if_pos hb)) (ih _ _)
      · rw [if_neg hb, execChain]
        by_cases hchain : 1 < (ws.chainFrom b.id).length
        · rw [if_pos hchain]
          exact .pass (fun _ => (if_pos hw).trans ((if_neg hb).trans (if_pos hchain)))
            ((worksOff_steps _ _ _ _).append (ih _ _))
        · rw [if_neg hchain]
          exact .begin (fun _ => (if_pos hw).trans ((if_neg hb).trans (if_neg hchain)))
            (worksOff_enter b _) (ih _ _)
    · rw [if_neg hw]
      exact .done fun _ => if_neg hw

end Simulation

def opened (m : Interpreter σ) (ws : Workspace) (w : World σ) : World σ :=
  let v := World.note (.runStarted ws.length) { w with flag := .running }
  let v := v.log m.host .execution "running program"
  if ws.isEmpty then v.log m.host .warning "workspace has no blocks"
  else v.log m.host .info ("found " ++ toString ws.length ++ " blocks")

/-- A run that is accepted passes through a configuration of the machine. -/
def Passes (m : Interpreter σ) (ws : Workspace) (w : World σ) (c : Config σ) : Prop :=
  w.flag = .idle ∧ m.Reaches ws ⟨[.chains 1 ws.blocks], [], m.opened ws w⟩ c

section Program
variable {m : Interpreter σ} {ws : Workspace} {w : World σ}

/-- At its end a run has done everything and left the world of the program. -/
theorem exists_passes (m : Interpreter σ) (ws : Workspace) (hflag : w.flag = .idle) :
    ∃ begun, m.Passes ws w ⟨[], begun, m.runProgram ws w⟩ := by
  obtain ⟨begun, h⟩ := worksOff_chains m ws 1 ws.blocks (m.opened ws w) [] []
  exact ⟨begun, hflag, h⟩

theorem Passes.step {task : Task} {rest : List Task} {begun : List Block} {v : World σ}
    (h : m.Passes ws w ⟨task :: rest, begun, v⟩) : m.Passes ws w
      { m.step ws begun v task with tasks := (m.step ws begun v task).tasks ++ rest } :=
  ⟨h.1, h.2.tail rfl⟩

theorem Passes.world_eq {begun : List Block} {v : World σ} (h : m.Passes ws w ⟨[], begun, v⟩) :
    v = m.runProgram ws w := by
  obtain ⟨all, hend⟩ := exists_passes m ws h.1
  have hlast (c c' : Config σ) (hc : c.tasks = []) (hreaches : m.Reaches ws c c') : c = c' := by
    rcases Relation.ReflTransGen.cases_head hreaches with heq | ⟨c₁, hnext, -⟩
    · exact heq
    · rw [next, hc] at hnext
      cases hnext
  have hunique : Relator.RightUnique fun c c' => m.next ws c = some c' := fun _ _ _ h₁ h₂ =>
    Option.some.inj (h₁.symm.trans h₂)
  -- Of two places that one machine comes to, one is on the way to the other.
  rcases Relation.ReflTransGen.total_of_right_unique hunique h.2 hend.2 with hreaches | hreaches
  · exact congrArg Config.world (hlast _ _ rfl hreaches)
  · exact congrArg Config.world (hlast _ _ rfl hreaches).symm

/-- What holds at first and is kept by every step holds wherever a run passes. -/
theorem Passes.induction {P : Config σ → Prop} {c : Config σ} (hpasses : m.Passes ws w c)
    (hfirst : P ⟨[.chains 1 ws.blocks], [], m.opened ws w⟩)
    (hstep : ∀ task rest begun v, m.Passes ws w ⟨task :: rest, begun, v⟩ →
      P ⟨task :: rest, begun, v⟩ →
      P { m.step ws begun v task with tasks := (m.step ws begun v task).tasks ++ rest }) : P c := by
  obtain ⟨hflag, hreaches⟩ := hpasses
  induction hreaches with
  | refl => exact hfirst
  | @tail c c' hreaches hnext ih =>
    obtain ⟨tasks, begun, v⟩ := c
    cases tasks with
    | nil => cases hnext
    | cons task rest =>
      obtain rfl := Option.some.inj hnext
      exact hstep task rest begun v ⟨hflag, hreaches⟩ ih

end Program
end Interpreter
end SpriteBlocks
