import SpriteBlocks.Proofs.Run.Readings

/-!
# When a manual clock presses stop

A manual clock compares its reading with the deadline whenever time passes on it
or on a clone of it. The reading is the exact sum of what was slept until it is
held, so stop is pressed once the sum reaches the deadline, unless the deadline
is beyond the largest reading: then it is never pressed.
-/
namespace SpriteBlocks

/-- A clock with the deadline has pressed stop after the sleeps. -/
def Overdue (deadline : Duration) (ds : List Duration) : Prop :=
  ds ≠ [] ∧ deadline.nanos ≤ Duration.total ds ∧ deadline.nanos ≤ maxReading

instance (deadline : Duration) (ds : List Duration) : Decidable (Overdue deadline ds) :=
  inferInstanceAs (Decidable (_ ∧ _))

theorem Overdue.append {deadline : Duration} {ds : List Duration} (h : Overdue deadline ds)
    (es : List Duration) : Overdue deadline (ds ++ es) := by
  obtain ⟨hne, htotal, hmax⟩ := h
  refine ⟨by simp [hne], ?_, hmax⟩
  rw [Duration.total_append]
  omega

namespace RunState

/-- The flag of a run on which only a clock with the deadline pressed stop. -/
def behind (deadline : Duration) (ds : List Duration) : RunState :=
  if Overdue deadline ds then stopped else running

variable {deadline : Duration} {ds : List Duration}

theorem behind_eq_stopped_iff : behind deadline ds = stopped ↔ Overdue deadline ds := by
  unfold behind
  split <;> simp_all

theorem behind_eq_running_iff : behind deadline ds = running ↔ ¬ Overdue deadline ds := by
  unfold behind
  split <;> simp_all

/-- The next sleep presses stop exactly if it is overdue then, and once pressed it stays so. -/
theorem behind_concat (deadline : Duration) (ds : List Duration) (d : Duration) :
    (if ((ManualClock.read (some deadline) ds).advance d).2 then (behind deadline ds).stop.1
      else behind deadline ds) = behind deadline (ds ++ [d]) := by
  have hdue : ((ManualClock.read (some deadline) ds).advance d).2 = true ↔
      Overdue deadline (ds ++ [d]) := by
    rw [ManualClock.pressed_advance, ManualClock.advance_read, ManualClock.due_read_some]
    exact (and_iff_right (by simp)).symm
  by_cases hnext : Overdue deadline (ds ++ [d])
  · rw [if_pos (hdue.2 hnext), behind_eq_stopped_iff.2 hnext]
    unfold behind
    split <;> rfl
  · rw [if_neg fun h => hnext (hdue.1 h), behind_eq_running_iff.2 hnext]
    exact behind_eq_running_iff.2 fun h => hnext (h.append [d])

end RunState

/-- A clock and its clones. They share the reading and the flag on which they press stop. -/
structure SharedClock where
  reading : Nat
  /-- The deadline of each of them. -/
  deadlines : List (Option Duration)
  flag : RunState

namespace SharedClock

def armed (deadline : Duration) : SharedClock := ⟨0, [some deadline], .running⟩

def advance (s : SharedClock) (stopAt : Option Duration) (d : Duration) : SharedClock :=
  let (c, due) := ManualClock.advance ⟨s.reading, stopAt⟩ d
  { s with reading := c.elapsed, flag := if due then s.flag.stop.1 else s.flag }

/-- Clones are taken and time passes, now on one of the clocks and now on another. -/
inductive Passes (s : SharedClock) : List Duration → SharedClock → Prop
  | start : Passes s [] s
  | clone {ds : List Duration} {t : SharedClock} {stopAt : Option Duration} (h : Passes s ds t)
    (hstop : stopAt ∈ t.deadlines) : Passes s ds { t with deadlines := stopAt :: t.deadlines }
  | advance {ds : List Duration} {t : SharedClock} {stopAt : Option Duration} (h : Passes s ds t)
    (hstop : stopAt ∈ t.deadlines) (d : Duration) : Passes s (ds ++ [d]) (t.advance stopAt d)

/-- It makes no difference on which of the clocks time passed. -/
theorem Passes.eq_behind {deadline : Duration} {ds : List Duration} {s : SharedClock}
    (h : Passes (armed deadline) ds s) :
    s.reading = (ManualClock.read (some deadline) ds).elapsed ∧
      (∀ stopAt ∈ s.deadlines, stopAt = some deadline) ∧ s.flag = .behind deadline ds := by
  induction h with
  | start => exact ⟨rfl, by simp [armed], rfl⟩
  | clone _ hstop ih =>
    exact ⟨ih.1, List.forall_mem_cons.2 ⟨ih.2.1 _ hstop, ih.2.1⟩, ih.2.2⟩
  | @advance ds t stopAt _ hstop d ih =>
    obtain ⟨hreading, hdeadlines, hflag⟩ := ih
    have hclock : (⟨t.reading, stopAt⟩ : ManualClock) = .read (some deadline) ds := by
      rw [hreading, hdeadlines _ hstop]
      rfl
    refine ⟨?_, hdeadlines, ?_⟩
    · simp only [SharedClock.advance, hclock, ManualClock.advance_read]
    · simp only [SharedClock.advance, hclock, hflag]
      exact RunState.behind_concat deadline ds d

end SharedClock

namespace Session

/-- Only the clock presses stop, and it did so exactly if it is overdue. -/
structure Punctual (deadline : Duration) (w : World Session) : Prop where
  reads : Reads (some deadline) w
  log : w.host.stopOnLog = none
  frame : w.host.stopOnFrame = none
  flag : w.flag = .behind deadline (Effect.sleeps w.effects)

theorem Punctual.perform {deadline : Duration} {w : World Session} (hw : Punctual deadline w)
    (e : Effect) : Punctual deadline (w.perform host e) := by
  have hreads := hw.reads.perform e
  cases he : e.sleep? with
  | none =>
    have hquiet := pressed_respond w.flag hw.log hw.frame he
    refine ⟨hreads, ?_, ?_, ?_⟩
    · rw [World.host_perform, (stopOn_respond he).1, hw.log]
    · rw [World.host_perform, (stopOn_respond he).2, hw.frame]
    · rw [World.sleeps_perform, he, Option.toList_none, List.append_nil, World.flag_perform, hquiet,
        ← hw.flag]
      rfl
  | some d =>
    cases e with
    | sleep d =>
      have hslept : host.respond w.host w.flag (.sleep d) = _ := onSleep_manual w.flag d hw.reads
      refine ⟨hreads, ?_, ?_, ?_⟩
      · rw [World.host_perform, hslept, ← hw.log]
      · rw [World.host_perform, hslept, ← hw.frame]
      · rw [World.sleeps_perform, World.flag_perform, hslept, hw.flag]
        exact RunState.behind_concat deadline _ d
    | _ => cases he

theorem keeps_punctual (settings : Settings) (deadline : Duration) :
    (interpreter settings).Keeps (Punctual deadline) where
  note hn hw :=
    ⟨(keeps_reads settings _).note hn hw.reads, by rw [World.host_note, hw.log],
      by rw [World.host_note, hw.frame], by rw [World.flag_note, World.effects_note, hw.flag]⟩
  perform e _ hw := hw.perform e
  sprite _ hw := ⟨hw.reads, hw.log, hw.frame, hw.flag⟩
  source hw := ⟨hw.reads, hw.log, hw.frame, hw.flag⟩

theorem punctual_runProgram (settings : Settings) (ws : Workspace) (sprite : Sprite)
    (source : Random.Source) {s : Session} {deadline : Duration}
    (hclock : s.clock = .manual ⟨0, some deadline⟩) (hlog : s.stopOnLog = none)
    (hframe : s.stopOnFrame = none) :
    Punctual deadline ((interpreter settings).runProgram ws (.start s sprite source)) := by
  refine (keeps_punctual settings deadline).steps
    (fun _ hv => ⟨hv.reads, hv.log, hv.frame, hv.flag⟩)
    ((interpreter settings).steps_execProgram _ ws) ⟨hclock, hlog, hframe, rfl⟩

/-- After any sleeps on a clock with a deadline and on its clones, stop has been
pressed exactly if there was a sleep, they come to the deadline in all, and the
deadline is a reading of the clock. A run that ends on such a clock ends as a
stopped one exactly if this holds of its sleeps. -/
theorem pressed_iff_overdue (deadline : Duration) :
    (∀ ds s, SharedClock.Passes (.armed deadline) ds s →
      (s.flag = .stopped ↔ Overdue deadline ds) ∧ (s.flag = .running ↔ ¬ Overdue deadline ds)) ∧
    ∀ (settings : Settings) (ws : Workspace) (sprite : Sprite) (source : Random.Source)
      (s : Session) (outcome : Outcome), s.clock = .manual ⟨0, some deadline⟩ →
      s.stopOnLog = none → s.stopOnFrame = none →
      ((interpreter settings).run ws (.start s sprite source)).2 = some outcome →
      (outcome = .stopped ↔ Overdue deadline
        (Effect.sleeps ((interpreter settings).run ws (.start s sprite source)).1.effects)) := by
  constructor
  · intro ds s h
    rw [h.eq_behind.2.2]
    exact ⟨RunState.behind_eq_stopped_iff, RunState.behind_eq_running_iff⟩
  · intro settings ws sprite source s outcome hclock hlog hframe houtcome
    have hpunctual := punctual_runProgram settings ws sprite source hclock hlog hframe
    have hidle : (World.start s sprite source).flag = .idle := rfl
    obtain ⟨-, last, hlast, heffects⟩ := (interpreter settings).run_effects ws hidle
    rw [heffects, Effect.sleeps_append, hlast, List.append_nil, ← RunState.behind_eq_stopped_iff,
      ← hpunctual.flag]
    rw [Interpreter.run_of_idle hidle] at houtcome
    split at houtcome
    · cases houtcome
    · obtain rfl := Option.some.inj houtcome
      rw [Interpreter.finish_eq, hpunctual.flag]
      unfold RunState.behind
      split <;> simp [Interpreter.ending]

/-- Time passes on a clock and then on its clone, and a run of two moves is
stopped in the second. -/
theorem pressed_iff_overdue_twice :
    let deadline : Duration := .ofMillis 500
    let moves : Duration := .ofMillis 300
    let first := (SharedClock.armed deadline).advance (some deadline) moves
    let second : SharedClock := { first with deadlines := [some deadline, some deadline] }
    let ws := Edit.applyAll (Workspace.empty 20.0) [.add .move ∅, .add .move ∅]
    let s : Session := { clock := .manual ⟨0, some deadline⟩ }
    let ran := (interpreter {}).run ws (.start s {} (.cycle #[]))
    first.flag = .running ∧ (second.advance (some deadline) moves).flag = .stopped ∧
      Effect.sleeps ran.1.effects = [moves, moves] ∧ ran.2 = some .stopped := by
  intro deadline moves first second ws s ran
  have hfirst : SharedClock.Passes (.armed deadline) [moves] first :=
    .advance .start List.mem_cons_self moves
  have hsecond : SharedClock.Passes (.armed deadline) [moves, moves]
      (second.advance (some deadline) moves) :=
    .advance (.clone hfirst List.mem_cons_self) List.mem_cons_self moves
  obtain ⟨hclock, hrun⟩ := pressed_iff_overdue deadline
  have hsleeps : Effect.sleeps ran.1.effects = [moves, moves] := by decide +kernel
  have hends : ran.2 = some .stopped := by decide +kernel
  have hoverdue : Overdue deadline (Effect.sleeps ran.1.effects) :=
    (hrun {} ws {} (.cycle #[]) s .stopped rfl rfl rfl hends).1 rfl
  exact ⟨(hclock _ _ hfirst).2.2 (by decide), (hclock _ _ hsecond).1.2 (hsleeps ▸ hoverdue),
    hsleeps, hends⟩

/-- With a deadline of the next whole millisecond beyond the largest reading, a
move that takes as long is slept through and no stop is pressed. -/
theorem completed_behind_deadline :
    let deadline : Duration := .ofMillis 18446744073710
    let s := (SharedClock.armed deadline).advance (some deadline) deadline
    let ws := Edit.applyAll (Workspace.empty 20.0) [.add .move ∅]
    let ran := (interpreter { moveSettleMs := 18446744073710 }).run ws
      (.start { clock := .manual ⟨0, some deadline⟩ } {} (.cycle #[]))
    SharedClock.Passes (.armed deadline) [deadline] s ∧
      ¬ (s.flag = .stopped ↔ deadline.nanos ≤ Duration.total [deadline]) ∧
      Effect.sleeps ran.1.effects = [deadline] ∧ ran.2 = some .completed := by
  intro deadline s ws ran
  have hpasses : SharedClock.Passes (.armed deadline) [deadline] s :=
    .advance .start List.mem_cons_self deadline
  refine ⟨hpasses, ?_, by decide +kernel, by decide +kernel⟩
  decide

end Session
end SpriteBlocks
