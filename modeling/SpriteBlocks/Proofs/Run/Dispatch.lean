import SpriteBlocks.Proofs.Run.Machine

/-!
# Dispatched blocks

A step of the machine begins one block, or it does what happens between blocks:
it writes lines, notes how the run goes on, or pauses. A block is begun only
while the run goes on, and it is a block of the program. So what is kept between
blocks and by the beginning of a block holds wherever a run passes and at its end.
-/
namespace SpriteBlocks

theorem Block.nodesIn_mono {as bs : List Block} (h : as ⊆ bs) : nodesIn as ⊆ nodesIn bs := by
  intro x hx
  obtain ⟨b, hb, hxb⟩ := mem_nodesIn_iff.1 hx
  exact mem_nodesIn_iff.2 ⟨b, h hb, hxb⟩

def Note.isOfRun : Note → Bool
  | runRefused | runStarted _ | runFinished _ | loopEnded _ => true
  | _ => false

namespace World
variable {σ : Type}

/-- What of the journal is of interest, in the order in which it happened. -/
def trace {α : Type} (f : Entry → Option α) (w : World σ) : List α := w.journal.toList.filterMap f

section Trace
variable {α : Type} {f : Entry → Option α} (w : World σ)

theorem trace_note {n : Note} (hn : f (.note n) = none) : (w.note n).trace f = w.trace f := by
  unfold note
  split
  · rfl
  · simp [trace, hn]

theorem trace_note_of_fresh {w : World σ} (hw : w.exhausted = false) (n : Note) :
    (w.note n).trace f = w.trace f ++ (f (.note n)).toList := by
  cases hn : f (.note n) <;> simp [note, hw, trace, hn]

variable (hstop : f (.note .stopRequested) = none)
include hstop

theorem trace_pressStop : w.pressStop.trace f = w.trace f := by
  unfold pressStop
  split
  · exact trace_note _ hstop
  · rfl

theorem trace_perform (h : Host σ) (e : Effect) :
    (w.perform h e).trace f = w.trace f ++ (f (.effect e)).toList := by
  have hafter (s : σ) : trace f { w with host := s, journal := w.journal.push (.effect e) } =
      w.trace f ++ (f (.effect e)).toList := by
    cases he : f (.effect e) <;> simp [trace, he]
  unfold perform
  dsimp only
  split
  · rw [trace_pressStop _ hstop, hafter]
  · exact hafter _

theorem trace_perform_of_none (h : Host σ) {e : Effect} (he : f (.effect e) = none) :
    (w.perform h e).trace f = w.trace f := by
  rw [trace_perform w hstop, he]
  exact List.append_nil _

end Trace

end World

namespace Interpreter
variable {σ : Type} {m : Interpreter σ} {ws : Workspace} {w : World σ}

/-- Lines were written and notes taken on how the run goes on; the run flag may
have been set, and the rounds of a loop may have run out. -/
inductive Quiet (m : Interpreter σ) (w : World σ) : World σ → Prop
  | refl : Quiet m w w
  | line {v : World σ} (h : Quiet m w v) (event : LogEvent) :
    Quiet m w (v.perform m.host (.log event))
  | note {v : World σ} (h : Quiet m w v) (n : Note) (hn : n.isOfRun = true) : Quiet m w (v.note n)
  | flag {v : World σ} (h : Quiet m w v) (flag : RunState) : Quiet m w { v with flag }
  | exhaust {v : World σ} (h : Quiet m w v) : Quiet m w { v with exhausted := true }

namespace Quiet
variable {v : World σ}

theorem keeps {P : World σ → Prop} (h : m.Quiet w v) (hw : P w)
    (hline : ∀ v event, P v → P (v.perform m.host (.log event)))
    (hnote : ∀ v n, n.isOfRun = true → P v → P (v.note n))
    (hflag : ∀ (v : World σ) flag, P v → P { v with flag })
    (hexhaust : ∀ v : World σ, P v → P { v with exhausted := true }) : P v := by
  induction h with
  | refl => exact hw
  | line _ event ih => exact hline _ event ih
  | note _ n hn ih => exact hnote _ n hn ih
  | flag _ flag ih => exact hflag _ flag ih
  | exhaust _ ih => exact hexhaust _ ih

theorem sprite_eq (h : m.Quiet w v) : v.sprite = w.sprite :=
  h.keeps (P := fun v => v.sprite = w.sprite) rfl
    (fun _ _ hv => (World.sprite_perform _ _ _).trans hv)
    (fun _ _ _ hv => (World.sprite_note _ _).trans hv) (fun _ _ hv => hv) fun _ hv => hv

theorem source_eq (h : m.Quiet w v) : v.source = w.source :=
  h.keeps (P := fun v => v.source = w.source) rfl
    (fun _ _ hv => (World.source_perform _ _ _).trans hv)
    (fun _ _ _ hv => (World.source_note _ _).trans hv) (fun _ _ hv => hv) fun _ hv => hv

/-- Of what happened nothing is of interest to whom lines and such notes are not. -/
theorem trace_eq {α : Type} {f : Entry → Option α} (h : m.Quiet w v)
    (hline : ∀ event, f (.effect (.log event)) = none)
    (hstop : f (.note .stopRequested) = none)
    (hnote : ∀ n, n.isOfRun = true → f (.note n) = none) : v.trace f = w.trace f :=
  h.keeps (P := fun v => v.trace f = w.trace f) rfl
    (fun v event hv => (World.trace_perform_of_none v hstop _ (hline event)).trans hv)
    (fun v n hn hv => (World.trace_note v (hnote n hn)).trans hv) (fun _ _ hv => hv) fun _ hv => hv

end Quiet

theorem quiet_opened (m : Interpreter σ) (ws : Workspace) (w : World σ) :
    m.Quiet w (m.opened ws w) := by
  have hfirst := ((Quiet.refl.flag .running).note (.runStarted ws.length) rfl).line
    (m := m) (w := w) ⟨.execution, "running program"⟩
  simp only [opened]
  split
  · exact hfirst.line _
  · exact hfirst.line _

theorem quiet_finish (m : Interpreter σ) (w : World σ) : m.Quiet w (m.finish w).1 := by
  rw [finish_eq]
  exact ((Quiet.refl.flag .idle).line _).note _ rfl

/-- One thing that happens between blocks. -/
inductive Routine (m : Interpreter σ) (w : World σ) : World σ → Prop
  | same : Routine m w w
  | line (level : LogLevel) (message : String)
    (hlevel : level = .execution ∨ level = .success) : Routine m w (w.log m.host level message)
  | loopEnded (rounds : Nat) : Routine m w (w.note (.loopEnded rounds))
  | pause : Routine m w (w.sleep m.host m.settings.foreverPacing)
  | exhaust : Routine m w { w with exhausted := true }

/-- The line in front of a block, if the block gets one. -/
inductive Announces (m : Interpreter σ) (w : World σ) : World σ → Prop
  | silent : Announces m w w
  | line (message : String) : Announces m w (w.log m.host .execution message)

inductive Idles (m : Interpreter σ) (w : World σ) : World σ → Prop
  | quiet {v : World σ} (h : m.Quiet w v) : Idles m w v
  | pause {v : World σ} (d : Duration) (h : v = w.sleep m.host d) : Idles m w v

def Task.content : Task → List Block
  | .blocks bs | .rounds bs _ _ | .roundEnd bs _ _ | .loop bs _ _ | .loopEnd bs _ _
  | .steps _ _ bs | .chains _ bs => bs

theorem Announces.routine {v : World σ} (h : m.Announces w v) : m.Routine w v := by
  cases h with
  | silent => exact .same
  | line message => exact .line _ _ (.inl rfl)

theorem Announces.quiet {v : World σ} (h : m.Announces w v) : m.Quiet w v := by
  cases h with
  | silent => exact .refl
  | line message => exact .line .refl _

theorem Routine.idles {v : World σ} (h : m.Routine w v) : m.Idles w v := by
  cases h with
  | same => exact .quiet .refl
  | line level message => exact .quiet (.line .refl _)
  | loopEnded rounds => exact .quiet (.note .refl _ rfl)
  | pause => exact .pause _ rfl
  | exhaust => exact .quiet (.exhaust .refl)

theorem routine_logRound (m : Interpreter σ) (done : Nat) (w : World σ) :
    m.Routine w (m.logRound done w) := by
  simp only [logRound]
  split
  · exact .line _ _ (.inl rfl)
  · exact .same

theorem exists_begin {task : Task} {b : Block} (hb : b ∈ task.content) (hw : w.isRunning = true)
    (begun : List Block) (rest : List Task) {v : World σ} (hv : m.Announces w v) :
    ∃ b' ∈ task.content, ∃ v' rest', m.Announces w v' ∧ v'.exhausted = false ∧
      m.begin b rest begun v = m.begin b' rest' begun v' := by
  refine ⟨b, hb, v, rest, hv, ?_, rfl⟩
  have hfresh := ((w.isRunning_eq_true_iff).1 hw).2
  cases hv with
  | silent => exact hfresh
  | line message => rwa [World.log, World.exhausted_perform]

/-- One step does one thing between blocks, or it announces and begins a block. -/
theorem step_inversion (m : Interpreter σ) (ws : Workspace) (begun : List Block) (w : World σ)
    (task : Task) :
    (m.step ws begun w task).begun = begun ∧ m.Routine w (m.step ws begun w task).world ∨
      ∃ b ∈ task.content, ∃ v rest, m.Announces w v ∧ v.exhausted = false ∧
        m.step ws begun w task = m.begin b rest begun v := by
  cases task with
  | blocks bs =>
    cases bs with
    | nil => exact .inl ⟨rfl, .same⟩
    | cons b bs =>
      simp only [step]
      split
      · next hw => exact .inr (exists_begin List.mem_cons_self hw _ _ .silent)
      · exact .inl ⟨rfl, .same⟩
  | rounds body times left =>
    left
    cases left with
    | zero => exact ⟨rfl, .line _ _ (.inr rfl)⟩
    | succ left =>
      simp only [step]
      split
      · exact ⟨rfl, .line _ _ (.inl rfl)⟩
      · exact ⟨rfl, .same⟩
  | roundEnd body times left =>
    left
    simp only [step]
    split <;> exact ⟨rfl, .same⟩
  | loop body fuel done =>
    left
    cases fuel with
    | zero =>
      simp only [step]
      split
      · exact ⟨trivial, .exhaust⟩
      · exact ⟨trivial, .loopEnded _⟩
    | succ fuel =>
      simp only [step]
      split
      · exact ⟨rfl, m.routine_logRound _ _⟩
      · exact ⟨rfl, .loopEnded _⟩
  | loopEnd body fuel done =>
    left
    simp only [step]
    split
    · exact ⟨rfl, .pause⟩
    · exact ⟨rfl, .loopEnded _⟩
  | steps total i bs =>
    cases bs with
    | nil => exact .inl ⟨rfl, .same⟩
    | cons b bs =>
      simp only [step]
      split
      · next hw => exact .inr (exists_begin List.mem_cons_self hw _ _ (.line _))
      · exact .inl ⟨rfl, .same⟩
  | chains i bs =>
    cases bs with
    | nil => exact .inl ⟨rfl, .same⟩
    | cons b bs =>
      simp only [step]
      split
      · next hw =>
        split
        · exact .inl ⟨rfl, .same⟩
        · split
          · exact .inl ⟨rfl, .line _ _ (.inl rfl)⟩
          · exact .inr (exists_begin List.mem_cons_self hw _ _ (.line _))
      · exact .inl ⟨rfl, .same⟩

def Within (ws : Workspace) (tasks : List Task) : Prop :=
  ∀ task ∈ tasks, Block.nodesIn task.content ⊆ Block.nodesIn ws.blocks

theorem Within.append {tasks tasks' : List Task} (h : Within ws tasks) (h' : Within ws tasks') :
    Within ws (tasks ++ tasks') := fun task htask =>
  (List.mem_append.1 htask).elim (h task) (h' task)

theorem within_nil (ws : Workspace) : Within ws [] := by simp [Within]

theorem within_cons (task : Task) (h : Block.nodesIn task.content ⊆ Block.nodesIn ws.blocks)
    {tasks : List Task} (htasks : Within ws tasks) : Within ws (task :: tasks) :=
  List.forall_mem_cons.2 ⟨h, htasks⟩

theorem within_singleton (task : Task)
    (h : Block.nodesIn task.content ⊆ Block.nodesIn ws.blocks) : Within ws [task] :=
  within_cons task h (within_nil ws)

theorem content_of_mem_enter {b : Block} {task : Task} (h : task ∈ (m.enter b w).1) :
    task.content = b.children := by
  obtain ⟨id, opcode, params, children⟩ := b
  cases opcode with
  | repeatTimes =>
    simp only [enter] at h
    split at h
    · cases h
    · rw [List.mem_singleton.1 h]
      rfl
  | forever =>
    simp only [enter] at h
    split at h
    · cases h
    · rw [List.mem_singleton.1 h]
      rfl
  | ifThen =>
    simp only [enter] at h
    split at h
    · rw [List.mem_singleton.1 h]
      rfl
    · cases h
  | _ => cases h

theorem within_begin {b : Block} (hb : b.nodes ⊆ Block.nodesIn ws.blocks) {rest : List Task}
    (hrest : Within ws rest) (begun : List Block) (w : World σ) :
    Within ws (m.begin b rest begun w).tasks := by
  refine .append (fun task htask => ?_) hrest
  rw [content_of_mem_enter htask]
  exact fun x hx => hb (Block.mem_nodes_iff.2 (.inr hx))

theorem within_step {task : Task} (h : Block.nodesIn task.content ⊆ Block.nodesIn ws.blocks)
    (begun : List Block) (w : World σ) : Within ws (m.step ws begun w task).tasks := by
  cases task with
  | blocks bs =>
    cases bs with
    | nil => exact within_nil ws
    | cons b bs =>
      have hrest := within_singleton (.blocks bs) fun x hx => h (List.mem_append_right _ hx)
      simp only [step]
      split
      · exact within_begin (fun x hx => h (List.mem_append_left _ hx)) hrest _ _
      · exact within_nil ws
  | rounds body times left =>
    cases left with
    | zero => exact within_nil ws
    | succ left =>
      simp only [step]
      split
      · exact within_cons (.blocks body) h (within_singleton (.roundEnd body times left) h)
      · exact within_nil ws
  | roundEnd body times left =>
    simp only [step]
    split
    · exact within_singleton _ h
    · exact within_nil ws
  | loop body fuel done =>
    cases fuel with
    | zero => exact within_nil ws
    | succ fuel =>
      simp only [step]
      split
      · exact within_cons (.blocks body) h (within_singleton (.loopEnd body fuel done) h)
      · exact within_nil ws
  | loopEnd body fuel done =>
    simp only [step]
    split
    · exact within_singleton _ h
    · exact within_nil ws
  | steps total i bs =>
    cases bs with
    | nil => exact within_nil ws
    | cons b bs =>
      have hrest := within_singleton (.steps total (i + 1) bs)
        fun x hx => h (List.mem_append_right _ hx)
      simp only [step]
      split
      · exact within_begin (fun x hx => h (List.mem_append_left _ hx)) hrest _ _
      · exact within_nil ws
  | chains i bs =>
    cases bs with
    | nil => exact within_nil ws
    | cons b bs =>
      have hrest := within_singleton (.chains (i + 1) bs)
        fun x hx => h (List.mem_append_right _ hx)
      simp only [step]
      split
      · split
        · exact hrest
        · split
          · exact within_cons (.steps _ 1 _)
              (Block.nodesIn_mono (ws.chainFrom_subset_blocks b.id)) hrest
          · exact within_begin (fun x hx => h (List.mem_append_left _ hx)) hrest _ _
      · exact within_nil ws

/-- What an invariant of the begun blocks and the world must be kept by: what
happens between blocks, and the beginning of a block of the program. -/
structure Retains (m : Interpreter σ) (ws : Workspace) (P : List Block → World σ → Prop) :
    Prop where
  routine : ∀ {begun v v'}, m.Routine v v' → P begun v → P begun v'
  enter : ∀ {begun v b}, v.exhausted = false → b ∈ Block.nodesIn ws.blocks → P begun v →
    P (begun ++ [b]) (m.enter b v).2

theorem Retains.reaches {P : List Block → World σ → Prop} (hP : m.Retains ws P) {c c' : Config σ}
    (hreaches : m.Reaches ws c c') (hwithin : Within ws c.tasks) (hc : P c.begun c.world) :
    Within ws c'.tasks ∧ P c'.begun c'.world := by
  induction hreaches with
  | refl => exact ⟨hwithin, hc⟩
  | @tail c c' _ hnext ih =>
    obtain ⟨tasks, begun, v⟩ := c
    cases tasks with
    | nil => cases hnext
    | cons task rest =>
      obtain rfl := Option.some.inj hnext
      obtain ⟨hwithin, hv⟩ := ih
      have hparts := List.forall_mem_cons.1 hwithin
      refine ⟨.append (within_step hparts.1 begun v) hparts.2, ?_⟩
      change P (m.step ws begun v task).begun (m.step ws begun v task).world
      rcases m.step_inversion ws begun v task with
        ⟨hbegun, hworld⟩ | ⟨b, hb, v', rest', hannounced, hfresh, hconfig⟩
      · rw [hbegun]
        exact hP.routine hworld hv
      · rw [hconfig]
        exact hP.enter hfresh (hparts.1 (Block.mem_nodesIn_of_mem hb))
          (hP.routine hannounced.routine hv)

theorem Passes.within {c : Config σ} (h : m.Passes ws w c) : Within ws c.tasks := by
  refine h.induction (P := fun c => Within ws c.tasks) (within_singleton _ fun x hx => hx)
    fun task rest begun v _ hwithin => ?_
  have hparts := List.forall_mem_cons.1 hwithin
  exact .append (within_step hparts.1 begun v) hparts.2

theorem Passes.begun_subset {c : Config σ} (h : m.Passes ws w c) :
    c.begun ⊆ Block.nodesIn ws.blocks := by
  have hretains : m.Retains ws fun begun _ => begun ⊆ Block.nodesIn ws.blocks :=
    { routine := fun _ hbegun => hbegun
      enter := fun _ hb hbegun =>
        List.append_subset.2 ⟨hbegun, List.cons_subset.2 ⟨hb, List.nil_subset _⟩⟩ }
  exact (hretains.reaches h.2 (within_singleton _ fun _ hx => hx) (List.nil_subset _)).2

/-- What is kept between blocks holds at the end of a run, whether it was accepted
or refused, if the lines around the program keep it as well. -/
theorem Retains.run {P : List Block → World σ → Prop} (hP : m.Retains ws P)
    (hopened : P [] (m.opened ws w))
    (hfinish : ∀ {begun v}, P begun v → P begun (m.finish v).1)
    (hrefused : P [] (w.note .runRefused)) : ∃ begun, P begun (m.run ws w).1 := by
  by_cases hflag : w.flag = .idle
  · obtain ⟨begun, -, hreaches⟩ := exists_passes m ws hflag
    have hprogram := (hP.reaches hreaches (within_singleton _ fun _ hx => hx) hopened).2
    refine ⟨begun, ?_⟩
    rw [run_of_idle hflag]
    split
    · exact hprogram
    · exact hfinish hprogram
  · rw [run_of_not_idle hflag]
    exact ⟨[], hrefused⟩

/-- An invariant to which no line matters, so those around the program do not either. -/
structure Carries (m : Interpreter σ) (ws : Workspace) (P : List Block → World σ → Prop) : Prop
    extends m.Retains ws P where
  quiet : ∀ {begun v v'}, m.Quiet v v' → P begun v → P begun v'

namespace Carries
variable {P : List Block → World σ → Prop}

theorem of_pause (quiet : ∀ {begun v v'}, m.Quiet v v' → P begun v → P begun v')
    (pause : ∀ {begun v} d, P begun v → P begun (v.sleep m.host d))
    (enter : ∀ {begun v b}, v.exhausted = false → b ∈ Block.nodesIn ws.blocks → P begun v →
      P (begun ++ [b]) (m.enter b v).2) : m.Carries ws P where
  routine h hv := by
    cases h.idles with
    | quiet hquiet => exact quiet hquiet hv
    | pause d hpause => exact hpause ▸ pause d hv
  enter := enter
  quiet := quiet

variable (hP : m.Carries ws P) (hw : P [] w)
include hP hw

theorem passes {c : Config σ} (h : m.Passes ws w c) : P c.begun c.world :=
  (hP.reaches h.2 (within_singleton _ fun _ hx => hx) (hP.quiet (m.quiet_opened ws w) hw)).2

theorem run : ∃ begun, P begun (m.run ws w).1 :=
  hP.toRetains.run (hP.quiet (m.quiet_opened ws w) hw) (hP.quiet (m.quiet_finish _))
    (hP.quiet (.note .refl _ rfl) hw)

end Carries

end Interpreter
end SpriteBlocks
