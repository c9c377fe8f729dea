import SpriteBlocks.Proofs.Run.Cancellation

/-!
# Runs with a deadline

A manual clock with a deadline stops a run in the first sleep that takes its
reading to the deadline. If there is no such sleep the run is the same as
without a deadline, and completes.
-/
namespace SpriteBlocks

namespace ManualClock

def after (c : ManualClock) (sleeps : List Duration) : ManualClock :=
  sleeps.foldl (fun c d => (c.advance d).1) c

/-- The number of the first sleep after which the clock reads its deadline or more. -/
def firstDue (c : ManualClock) : List Duration → Option Nat
  | [] => none
  | d :: sleeps =>
    if (c.advance d).1.due then some 1 else (firstDue (c.advance d).1 sleeps).map (· + 1)

theorem firstDue_append (c : ManualClock) (ds es : List Duration) :
    c.firstDue (ds ++ es) =
      (c.firstDue ds).or (((c.after ds).firstDue es).map (· + ds.length)) := by
  induction ds generalizing c with
  | nil => simp [firstDue, after]
  | cons d ds ih =>
    have hafter : c.after (d :: ds) = (c.advance d).1.after ds := rfl
    rw [List.cons_append, firstDue, firstDue, ih, hafter]
    split
    · rfl
    · cases firstDue (c.advance d).1 ds with
      | none => simp [Function.comp_def, Nat.add_assoc]
      | some n => rfl

theorem after_concat (c : ManualClock) (ds : List Duration) (d : Duration) :
    c.after (ds ++ [d]) = ((c.after ds).advance d).1 := by
  simp [after]

end ManualClock

namespace Session

def arm (deadline : Duration) (s : Session) : Session :=
  match s.clock with
  | .manual c => { s with clock := .manual { c with stopAt := some deadline } }
  | .timer _ => s

structure Patient (s : Session) : Prop where
  clock : ∃ reading, s.clock = .manual ⟨reading, none⟩
  log : s.stopOnLog = none
  frame : s.stopOnFrame = none

theorem respond_arm (deadline : Duration) (s : Session) (flag : RunState) {e : Effect}
    (he : e.sleep? = none) :
    host.respond (s.arm deadline) flag e =
      ((host.respond s flag e).1.arm deadline, (host.respond s flag e).2) := by
  obtain ⟨clock, stopOnLog, stopOnFrame, logs, frames, flags, pressed, firstYield⟩ := s
  cases e with
  | log event =>
    cases clock <;> simp only [host, onLog, arm] <;> split <;> rfl
  | frame sprite transition => cases clock <;> rfl
  | speech speech => cases clock <;> rfl
  | draw word => cases clock <;> rfl
  | sleep d => cases he

theorem Patient.respond {s : Session} (hs : s.Patient) (flag : RunState) (e : Effect) :
    (host.respond s flag e).2 = false ∧ (host.respond s flag e).1.Patient := by
  obtain ⟨clock, stopOnLog, stopOnFrame, logs, frames, flags, pressed, firstYield⟩ := s
  obtain ⟨⟨reading, rfl⟩, rfl, rfl⟩ := hs
  cases e with
  | log event => exact ⟨rfl, ⟨reading, rfl⟩, rfl, rfl⟩
  | frame sprite transition => exact ⟨rfl, ⟨reading, rfl⟩, rfl, rfl⟩
  | speech speech => exact ⟨rfl, ⟨reading, rfl⟩, rfl, rfl⟩
  | draw word => exact ⟨rfl, ⟨reading, rfl⟩, rfl, rfl⟩
  | sleep d => exact ⟨rfl, ⟨_, rfl⟩, rfl, rfl⟩

/-- A session with a deadline goes on like the one without until it presses stop. -/
theorem follows_arm (deadline : Duration) :
    host.Follows host fun s t => s = t.arm deadline ∧ t.Patient := by
  rintro _ t e ⟨rfl, ht⟩
  obtain ⟨hquiet, hpatient⟩ := ht.respond .running e
  refine ⟨hquiet, fun hgo => ⟨?_, hpatient⟩⟩
  cases he : e.sleep? with
  | none => rw [respond_arm deadline t .running he]
  | some d =>
    cases e with
    | sleep d =>
      obtain ⟨clock, stopOnLog, stopOnFrame, logs, frames, flags, pressed, firstYield⟩ := t
      obtain ⟨⟨reading, rfl⟩, rfl, rfl⟩ := ht
      have hdue : (ManualClock.advance ⟨reading, some deadline⟩ d).2 = false := hgo
      simp only [host, arm, onSleep, hdue]
      rfl
    | _ => cases he

/-- While the run goes on no sleep was due, and a run that was stopped was
stopped in the first sleep that was. -/
structure Armed (c : ManualClock) (w : World Session) : Prop where
  clock : w.host.clock = .manual (c.after (Effect.sleeps w.effects))
  log : w.host.stopOnLog = none
  frame : w.host.stopOnFrame = none
  early : w.flag = .running → c.firstDue (Effect.sleeps w.effects) = none
  due : ∀ es, w.untilStop? = some es → (∃ d, es.getLast? = some (.sleep d)) ∧
    c.firstDue (Effect.sleeps es) = some (Effect.sleeps es).length

theorem stopOn_respond {s : Session} {flag : RunState} {e : Effect} (he : e.sleep? = none) :
    (host.respond s flag e).1.stopOnLog = s.stopOnLog ∧
      (host.respond s flag e).1.stopOnFrame = s.stopOnFrame := by
  cases e with
  | log event =>
    simp only [host, onLog]
    split <;> exact ⟨rfl, rfl⟩
  | frame sprite transition => exact ⟨rfl, rfl⟩
  | speech speech => exact ⟨rfl, rfl⟩
  | draw word => exact ⟨rfl, rfl⟩
  | sleep d => cases he

theorem pressed_respond {s : Session} (flag : RunState) {e : Effect} (hlog : s.stopOnLog = none)
    (hframe : s.stopOnFrame = none) (he : e.sleep? = none) :
    (host.respond s flag e).2 = false := by
  cases e with
  | log event => simp [host, onLog, hlog]
  | frame sprite transition => simp [host, onFrame, hframe]
  | speech speech => rfl
  | draw word => rfl
  | sleep d => cases he

namespace Armed
variable {c : ManualClock} {w : World Session}

theorem perform_awake (ha : Armed c w) {e : Effect} (he : e.sleep? = none) :
    Armed c (w.perform host e) := by
  have hquiet := pressed_respond w.flag ha.log ha.frame he
  have hsleeps : Effect.sleeps (w.perform host e).effects = Effect.sleeps w.effects := by
    rw [World.effects_perform, Effect.sleeps_append]
    simp [Effect.sleeps, he]
  refine ⟨?_, ?_, ?_, ?_, ?_⟩
  · rw [hsleeps, World.host_perform, clock_respond he]
    exact ha.clock
  · rw [World.host_perform, (stopOn_respond he).1]
    exact ha.log
  · rw [World.host_perform, (stopOn_respond he).2]
    exact ha.frame
  · rw [hsleeps, World.perform_of_quiet (.inl hquiet)]
    exact ha.early
  · rw [World.untilStop?_of_quiet (.inl hquiet)]
    exact ha.due

theorem perform_sleep (ha : Armed c w) (d : Duration) : Armed c (w.perform host (.sleep d)) := by
  have hsleeps : Effect.sleeps (w.effects ++ [.sleep d]) = Effect.sleeps w.effects ++ [d] :=
    Effect.sleeps_append _ _
  have hslept : host.respond w.host w.flag (.sleep d) = _ := onSleep_manual w.flag d ha.clock
  have hpressed : (host.respond w.host w.flag (.sleep d)).2 =
      ((c.after (Effect.sleeps w.effects)).advance d).1.due := by
    rw [hslept, ManualClock.pressed_advance]
  have hfirst := c.firstDue_append (Effect.sleeps w.effects) [d]
  refine ⟨?_, ?_, ?_, fun hrun => ?_, fun es hes => ?_⟩
  · rw [World.effects_perform, hsleeps, ManualClock.after_concat, World.host_perform, hslept]
  · rw [World.host_perform, hslept]
    exact ha.log
  · rw [World.host_perform, hslept]
    exact ha.frame
  · rw [World.flag_perform] at hrun
    split at hrun
    · exact absurd hrun (RunState.stop_ne_running w.flag)
    · next hgo =>
      rw [hpressed] at hgo
      rw [World.effects_perform, hsleeps, hfirst, ha.early hrun, ManualClock.firstDue, if_neg hgo]
      rfl
  · rcases World.untilStop?_perform host (.sleep d) w with hsame | ⟨hp, hflag, hstop⟩
    · exact ha.due es (hsame ▸ hes)
    · rw [hstop] at hes
      cases hw : w.untilStop? with
      | some fs =>
        rw [hw, Option.some_or] at hes
        exact ha.due es (hw.trans hes)
      | none =>
        rw [hw, Option.none_or] at hes
        obtain rfl := Option.some.inj hes
        rw [hpressed] at hp
        refine ⟨⟨d, List.getLast?_concat⟩, ?_⟩
        rw [hsleeps, hfirst, ha.early hflag, ManualClock.firstDue, if_pos hp, List.length_append,
          List.length_singleton, Nat.add_comm]
        rfl

theorem step {settings : Settings} {v : World Session} (ha : Armed c w)
    (hstep : (interpreter settings).Step w v) : Armed c v := by
  cases hstep with
  | @note n hn =>
    refine ⟨?_, ?_, ?_, ?_, ?_⟩
    · rw [World.host_note, World.effects_note]
      exact ha.clock
    · rw [World.host_note]
      exact ha.log
    · rw [World.host_note]
      exact ha.frame
    · rw [World.flag_note, World.effects_note]
      exact ha.early
    · rw [World.untilStop?_note hn]
      exact ha.due
  | perform e =>
    cases he : e.sleep? with
    | none => exact ha.perform_awake he
    | some d =>
      cases e with
      | sleep d => exact ha.perform_sleep d
      | _ => cases he
  | sprite c => exact ⟨ha.clock, ha.log, ha.frame, ha.early, ha.due⟩
  | source => exact ⟨ha.clock, ha.log, ha.frame, ha.early, ha.due⟩
  | exhaust hrun => exact ⟨ha.clock, ha.log, ha.frame, ha.early, ha.due⟩

theorem steps {settings : Settings} {v : World Session} (ha : Armed c w)
    (hsteps : (interpreter settings).Steps w v) : Armed c v := by
  induction hsteps with
  | refl => exact ha
  | tail _ hstep ih => exact ih.step hstep

section Alongside
variable {H : Session → Session → Prop} {v : World Session} (ha : Armed c w)
  (hb : World.Tracks H w v) (hfresh : w.exhausted = false)
include ha hb hfresh

/-- A sleep of the free run that is due is the one in which the armed run was stopped. -/
theorem stopped_of_due {n : Nat} (hdue : c.firstDue (Effect.sleeps v.effects) = some n) :
    ∃ es d, World.Apart es w v ∧ es.getLast? = some (.sleep d) ∧ (Effect.sleeps es).length = n ∧
      w.effects = es := by
  rcases hb with ht | hs | ⟨es, hapart, hasleep⟩
  · have hnone := ha.early (by rw [ht.same]; exact ht.running)
    rw [ht.same] at hnone
    exact absurd (hnone.symm.trans hdue) (by simp)
  · rw [hs.same] at hfresh
    exact absurd (hfresh.symm.trans hs.exhausted) (by simp)
  · obtain ⟨⟨d, hlast⟩, hfirst⟩ := ha.due es hapart.cut
    refine ⟨es, d, hapart, hlast, ?_, hasleep d hlast⟩
    obtain ⟨rest, hrest⟩ := hapart.along
    rw [← hrest, Effect.sleeps_append, ManualClock.firstDue_append, hfirst, Option.some_or] at hdue
    exact Option.some.inj hdue

theorem together_of_not_due (hdue : c.firstDue (Effect.sleeps v.effects) = none) :
    World.Together H w v := by
  rcases hb with ht | hs | ⟨es, hapart, -⟩
  · exact ht
  · rw [hs.same] at hfresh
    exact absurd (hfresh.symm.trans hs.exhausted) (by simp)
  · have hfirst := (ha.due es hapart.cut).2
    obtain ⟨rest, hrest⟩ := hapart.along
    rw [← hrest, Effect.sleeps_append, ManualClock.firstDue_append, hfirst, Option.some_or] at hdue
    cases hdue

end Alongside

end Armed

section Programs
variable (settings : Settings) (ws : Workspace) (sprite : Sprite) (source : Random.Source)
  {s : Session} {reading : Nat} {d : Duration}

/-- The end of a run with a deadline that was not reached is that of the run without. -/
theorem finish_arm (w : World Session) :
    (interpreter settings).finish (w.withHost (w.host.arm d)) =
      (((interpreter settings).finish w).1.withHost
          (((interpreter settings).finish w).1.host.arm d),
        ((interpreter settings).finish w).2) := by
  have hperform (e : Effect) (he : e.sleep? = none) :
      World.perform host e { w.withHost (w.host.arm d) with flag := .idle } =
        (World.perform host e { w with flag := .idle }).withHost
          ((World.perform host e { w with flag := .idle }).host.arm d) := by
    rw [World.perform_of_quiet (.inr (by simp)), World.perform_of_quiet (.inr (by simp))]
    simp only [World.withHost, respond_arm d w.host .idle he]
  simp only [Interpreter.finish_eq]
  refine Prod.ext ((congrArg (World.note _) (hperform _ rfl)).trans ?_) rfl
  rw [World.note_withHost, World.host_note]
  rfl

theorem tracks_free (hs : s.Patient) :
    World.Tracks (fun s t => s = t.arm d ∧ t.Patient)
      ((interpreter settings).runProgram ws (.start (s.arm d) sprite source))
      ((interpreter settings).runProgram ws (.start s sprite source)) :=
  (World.lockstep_tracks (follows_arm d) settings UInt64.size).execProgram ws
    ⟨rfl, rfl, .inl ⟨rfl, ⟨rfl, hs⟩, rfl, rfl, rfl⟩⟩

theorem armed_runProgram (hclock : s.clock = .manual ⟨reading, none⟩) (hlog : s.stopOnLog = none)
    (hframe : s.stopOnFrame = none) :
    Armed ⟨reading, some d⟩
      ((interpreter settings).runProgram ws (.start (s.arm d) sprite source)) := by
  refine Armed.steps ?_ ((interpreter settings).steps_execProgram _ ws)
  refine ⟨?_, ?_, ?_, fun _ => rfl, fun es hes => by cases hes⟩
  all_goals simp only [World.start, arm, hclock]
  · rfl
  · exact hlog
  · exact hframe

theorem armed_not_exhausted (hclock : s.clock = .manual ⟨reading, none⟩)
    (hmax : d.nanos ≤ maxReading) :
    ((interpreter settings).runProgram ws (.start (s.arm d) sprite source)).exhausted = false := by
  have harmed : (s.arm d).clock = .manual ⟨reading, some d⟩ := by
    simp only [arm, hclock]
  have hstart : Ticking d 0 { World.start (s.arm d) sprite source with flag := .running } :=
    ⟨rfl, Nat.zero_le _, _, harmed, rfl, Nat.zero_le _⟩
  exact (hstart.execProgram hmax).1

end Programs

section Runs
variable {settings : Settings} {ws : Workspace} {sprite : Sprite} {source : Random.Source}
  {s : Session} {reading : Nat} {d : Duration} (hclock : s.clock = .manual ⟨reading, none⟩)
  (hlog : s.stopOnLog = none) (hframe : s.stopOnFrame = none) (hmax : d.nanos ≤ maxReading)
include hclock hlog hframe hmax

theorem run_arm_of_due {n : Nat}
    (hdue : ManualClock.firstDue ⟨reading, some d⟩ (Effect.sleeps
      ((interpreter settings).run ws (.start s sprite source)).1.effects) = some n) :
    ((interpreter settings).run ws (.start (s.arm d) sprite source)).1.StoppedInSleep n ∧
      ((interpreter settings).run ws (.start (s.arm d) sprite source)).2 = some .stopped ∧
      ((interpreter settings).run ws (.start (s.arm d) sprite source)).1.effects =
        Effect.throughSleep n
            ((interpreter settings).run ws (.start s sprite source)).1.effects ++
          [.log ⟨.warning, "run interrupted"⟩] := by
  have hb := tracks_free settings ws sprite source (d := d) ⟨⟨reading, hclock⟩, hlog, hframe⟩
  have ha := armed_runProgram settings ws sprite source (d := d) hclock hlog hframe
  have hfresh := armed_not_exhausted settings ws sprite source hclock hmax
  have hidle : (World.start s sprite source).flag = .idle := rfl
  obtain ⟨-, last, hlast, hfree⟩ := (interpreter settings).run_effects ws hidle
  rw [hfree, Effect.sleeps_append, hlast, List.append_nil] at hdue
  obtain ⟨es, e, hapart, hend, rfl, hes⟩ := ha.stopped_of_due hb hfresh hdue
  have hrun : (interpreter settings).run ws (.start (s.arm d) sprite source) = _ :=
    Interpreter.run_of_idle rfl
  rw [if_neg (by simp [hfresh])] at hrun
  have hstopped : ((interpreter settings).run ws
      (.start (s.arm d) sprite source)).1.StoppedInSleep (Effect.sleeps es).length := by
    refine ⟨es, e, ?_, hend, rfl⟩
    rw [hrun, Interpreter.untilStop?_finish]
    exact hapart.cut
  refine ⟨hstopped, (Interpreter.run_of_stoppedInSleep hstopped).2.1, ?_⟩
  have hpre := hapart.along.trans (List.prefix_append _ last)
  rw [hfree, Effect.throughSleep_of_prefix hpre hend, hrun, Interpreter.effects_finish,
    hapart.stopped, hes]
  rfl

theorem run_arm_of_not_due
    (hdue : ManualClock.firstDue ⟨reading, some d⟩ (Effect.sleeps
      ((interpreter settings).run ws (.start s sprite source)).1.effects) = none) :
    ((interpreter settings).run ws (.start (s.arm d) sprite source)).2 = some .completed ∧
      (interpreter settings).run ws (.start (s.arm d) sprite source) =
        (((interpreter settings).run ws (.start s sprite source)).1.withHost
            (((interpreter settings).run ws (.start s sprite source)).1.host.arm d),
          ((interpreter settings).run ws (.start s sprite source)).2) := by
  have hb := tracks_free settings ws sprite source (d := d) ⟨⟨reading, hclock⟩, hlog, hframe⟩
  have ha := armed_runProgram settings ws sprite source (d := d) hclock hlog hframe
  have hfresh := armed_not_exhausted settings ws sprite source hclock hmax
  have hidle : (World.start s sprite source).flag = .idle := rfl
  obtain ⟨-, last, hlast, hfree⟩ := (interpreter settings).run_effects ws hidle
  rw [hfree, Effect.sleeps_append, hlast, List.append_nil] at hdue
  have ht := ha.together_of_not_due hb hfresh hdue
  have hfinish := finish_arm (d := d) settings
    ((interpreter settings).runProgram ws (.start s sprite source))
  rw [← ht.hosts.1, ← ht.same] at hfinish
  have harmed : (interpreter settings).run ws (.start (s.arm d) sprite source) = _ :=
    Interpreter.run_of_idle rfl
  rw [if_neg (by simp [hfresh]), hfinish] at harmed
  rw [harmed, Interpreter.run_of_idle hidle, if_neg (by simp [ht.fresh])]
  refine ⟨?_, rfl⟩
  rw [Interpreter.finish_eq, ht.running]
  rfl

end Runs

/-- A run that is stopped first in its `n`-th sleep did exactly what any run of
the same program did through that sleep that is stopped later or never; behind
that comes only the warning. On a manual clock with a deadline, `n` is the first
sleep after which the clock reads the deadline or more; if there is none, the
run is the one without a deadline and completes. -/
theorem run_cancelled (settings : Settings) (ws : Workspace) (sprite : Sprite)
    (source : Random.Source) :
    (∀ {σ τ : Type} (h : Host σ) (s : σ) (h' : Host τ) (t : τ) (limit n : Nat),
      let cancelled := Interpreter.run ⟨settings, h, limit⟩ ws (.start s sprite source)
      let other := Interpreter.run ⟨settings, h', limit⟩ ws (.start t sprite source)
      cancelled.1.StoppedInSleep n → ¬ other.1.StoppedBefore n →
        cancelled.2 = some .stopped ∧ n ≤ (Effect.sleeps other.1.effects).length ∧
          cancelled.1.effects = Effect.throughSleep n other.1.effects ++
            [.log ⟨.warning, "run interrupted"⟩]) ∧
    ∀ (s : Session) (reading : Nat) (deadline : Duration),
      s.clock = .manual ⟨reading, none⟩ → s.stopOnLog = none → s.stopOnFrame = none →
      deadline.nanos ≤ maxReading →
      let free := (interpreter settings).run ws (.start s sprite source)
      let armed := (interpreter settings).run ws (.start (s.arm deadline) sprite source)
      let due := ManualClock.firstDue ⟨reading, some deadline⟩ (Effect.sleeps free.1.effects)
      (∀ n, due = some n → armed.1.StoppedInSleep n ∧ armed.2 = some .stopped ∧
        armed.1.effects = Effect.throughSleep n free.1.effects ++
          [.log ⟨.warning, "run interrupted"⟩]) ∧
      (due = none → armed.2 = some .completed ∧
        armed = (free.1.withHost (free.1.host.arm deadline), free.2)) := by
  constructor
  · intro σ τ h s h' t limit n cancelled other hstopped hlater
    obtain ⟨hn, houtcome, heffects⟩ := Interpreter.run_of_stoppedInSleep hstopped
    obtain ⟨hle, hsame⟩ := Interpreter.run_of_not_stoppedBefore hlater hn
    exact ⟨houtcome, hle, heffects.trans (congrArg (· ++ _) hsame.symm)⟩
  · intro s reading deadline hclock hlog hframe hmax free armed due
    exact ⟨fun n => run_arm_of_due hclock hlog hframe hmax,
      run_arm_of_not_due hclock hlog hframe hmax⟩

/-- Two of three moves stand inside a block, and the deadline is reached in the
sleep of the second, or not at all. -/
theorem run_cancelled_inside :
    let ws := Edit.applyAll (Workspace.empty 20.0) [.add .whenGreenFlag ∅, .add .ifThen ∅,
      .addChild ⟨2⟩ .move ∅, .addChild ⟨2⟩ .move ∅, .connect ⟨1⟩ ⟨2⟩ (.adjacent true),
      .add .move ∅]
    let s : Session := { clock := .manual {} }
    let run := fun s => (interpreter {}).run ws (.start s {} (.cycle #[]))
    (run (s.arm (.ofMillis 500))).1.StoppedInSleep 2 ∧ ¬ (run s).1.StoppedBefore 2 ∧
      (run (s.arm (.ofMillis 500))).1.effects = Effect.throughSleep 2 (run s).1.effects ++
        [.log ⟨.warning, "run interrupted"⟩] ∧
      (run (s.arm (.ofMillis 1000))).2 = some .completed := by
  intro ws s run
  have hdue : ManualClock.firstDue ⟨0, some (.ofMillis 500)⟩
      (Effect.sleeps (run s).1.effects) = some 2 := by decide +kernel
  have hnot : ManualClock.firstDue ⟨0, some (.ofMillis 1000)⟩
      (Effect.sleeps (run s).1.effects) = none := by decide +kernel
  have huntil : (run s).1.untilStop? = none := by decide +kernel
  have hlater : ¬ (run s).1.StoppedBefore 2 := fun ⟨es, hes, _⟩ => by
    rw [huntil] at hes
    cases hes
  obtain ⟨hpair, hdeadline⟩ := run_cancelled {} ws {} (.cycle #[])
  have hstopped := ((hdeadline s 0 (.ofMillis 500) rfl rfl rfl (by decide)).1 2 hdue).1
  obtain ⟨-, -, heffects⟩ := hpair _ _ _ _ UInt64.size 2 hstopped hlater
  exact ⟨hstopped, hlater, heffects,
    ((hdeadline s 0 (.ofMillis 1000) rfl rfl rfl (by decide)).2 hnot).1⟩

end Session
end SpriteBlocks
