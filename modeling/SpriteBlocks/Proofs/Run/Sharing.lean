import Mathlib.Data.List.DropRight
import Mathlib.Logic.Function.Basic
import SpriteBlocks.Proofs.Run.Steps

/-!
# Calls that share a run flag

Any number of calls of `run` and any number of presses of stop meet at one run
flag, in any order of their atomic steps. The flag is idle exactly when no call
is active; otherwise it belongs to the one active call and tells whether stop
was pressed since that call began. So a press counts for the call that is active
at that moment, once, and for no other.
-/
namespace SpriteBlocks

inductive Phase where
  | waiting
  /-- The call was accepted and has not given the flag back. -/
  | active
  | returned (outcome : Outcome)
deriving DecidableEq

/-- A call of `run` with the world that only it changes. The flag in that world
does not count: the calls share one. -/
structure Call (σ : Type) where
  interpreter : Interpreter σ
  world : World σ
  phase : Phase := .waiting

structure Shared (σ : Type) where
  flag : RunState
  calls : Nat → Call σ

namespace Shared
variable {σ : Type}

def Active (s : Shared σ) (i : Nat) : Prop := (s.calls i).phase = .active

def world (s : Shared σ) (i : Nat) : World σ := { (s.calls i).world with flag := s.flag }

def put (s : Shared σ) (i : Nat) (c : Call σ) (flag : RunState) : Shared σ :=
  { flag, calls := Function.update s.calls i c }

section Put
variable (s : Shared σ) (i : Nat) (c d : Call σ) (flag other : RunState)

@[simp] theorem put_flag : (s.put i c flag).flag = flag := rfl

@[simp] theorem put_calls_self : (s.put i c flag).calls i = c := by simp [put]

theorem put_calls_of_ne {j : Nat} (h : j ≠ i) : (s.put i c flag).calls j = s.calls j := by
  simp [put, h]

@[simp] theorem put_put : (s.put i c flag).put i d other = s.put i d other := by
  simp only [put, Function.update_idem]

@[simp] theorem world_put (m : Interpreter σ) (w : World σ) (phase : Phase) :
    (s.put i ⟨m, w, phase⟩ w.flag).world i = w := by simp [world]

theorem active_put_self : (s.put i c flag).Active i ↔ c.phase = .active := by
  rw [Active, put_calls_self]

theorem active_put_of_ne {j : Nat} (h : j ≠ i) : (s.put i c flag).Active j ↔ s.Active j := by
  rw [Active, put_calls_of_ne _ _ _ _ h, Active]

end Put

/-- One atomic step on the flag with its answer, or work of a call on its own world. -/
inductive Event where
  | start (call : Nat) (accepted : Bool)
  | check (running : Bool)
  | stop (pressed : Bool)
  | work (call : Nat)
  | finish (call : Nat) (ended : RunState)
deriving DecidableEq

/-- The atomic steps. Only a call that was accepted works and finishes, and what
its work does to its own world is left open. -/
inductive Act : Shared σ → Event → Shared σ → Prop
  | start {s : Shared σ} {i : Nat} (hi : (s.calls i).phase = .waiting)
      (hflag : s.flag.tryStart.2 = true) :
      Act s (.start i true) (s.put i { s.calls i with phase := .active } s.flag.tryStart.1)
  | refuse {s : Shared σ} {i : Nat} (hi : (s.calls i).phase = .waiting)
      (hflag : s.flag.tryStart.2 = false) :
      Act s (.start i false) (s.put i
        { s.calls i with
          world := (s.world i).note .runRefused, phase := .returned .alreadyRunning }
        s.flag.tryStart.1)
  | check (s : Shared σ) : Act s (.check s.flag.isRunning) s
  | stop (s : Shared σ) : Act s (.stop s.flag.stop.2) { s with flag := s.flag.stop.1 }
  | work {s : Shared σ} {i : Nat} (hi : s.Active i) (w : World σ) :
      Act s (.work i) (s.put i { s.calls i with world := w } s.flag)
  | finish {s : Shared σ} {i : Nat} (hi : s.Active i) :
      Act s (.finish i s.flag.finish.2) (s.put i
        { s.calls i with
          world := ((s.calls i).interpreter.finish (s.world i)).1
          phase := .returned ((s.calls i).interpreter.finish (s.world i)).2 }
        s.flag.finish.1)

inductive History : Shared σ → List Event → Shared σ → Prop
  | nil (s : Shared σ) : History s [] s
  | snoc {s t u : Shared σ} {es : List Event} {e : Event} (h : History s es t) (hact : Act t e u) :
      History s (es ++ [e]) u

/-- How often stop was pressed with success since the call was accepted. -/
def presses (i : Nat) (es : List Event) : Nat :=
  (es.rtakeWhile (· ≠ .start i true)).count (.stop true)

theorem presses_start (i : Nat) (es : List Event) : presses i (es ++ [.start i true]) = 0 := by
  simp [presses]

theorem presses_concat {i : Nat} {e : Event} (h : e ≠ .start i true) (es : List Event) :
    presses i (es ++ [e]) = presses i es + if e = .stop true then 1 else 0 := by
  simp [presses, h, List.count_singleton]

theorem presses_other {i : Nat} {e : Event} (h : e ≠ .start i true) (he : e ≠ .stop true)
    (es : List Event) : presses i (es ++ [e]) = presses i es := by
  rw [presses_concat h, if_neg he, Nat.add_zero]

/-- The flag belongs to the call, which alone is active, and tells whether stop was pressed. -/
structure Owned (es : List Event) (s : Shared σ) (i : Nat) : Prop where
  active : s.Active i
  only : ∀ j, s.Active j → j = i
  started : .start i true ∈ es
  pressed : s.flag = .running ∧ presses i es = 0 ∨ s.flag = .stopped ∧ presses i es = 1

/-- No call is active and the flag is idle, or the flag belongs to a call. -/
def Governed (es : List Event) (s : Shared σ) : Prop :=
  s.flag = .idle ∧ (∀ i, ¬ s.Active i) ∨ ∃ i, Owned es s i

section Step
variable {es : List Event} {s u : Shared σ} {i : Nat} {e : Event}

/-- What does not touch the flag, starts no call and ends none leaves the owner the owner. -/
theorem Owned.mono (h : Owned es s i) (hstart : e ≠ .start i true) (hstop : e ≠ .stop true)
    (hflag : u.flag = s.flag) (hactive : ∀ j, u.Active j ↔ s.Active j) :
    Owned (es ++ [e]) u i where
  active := (hactive i).2 h.active
  only j hj := h.only j ((hactive j).1 hj)
  started := List.mem_append_left _ h.started
  pressed := by
    rw [hflag, presses_other hstart hstop]
    exact h.pressed

theorem Governed.mono (h : Governed es s) (hstart : ∀ i, e ≠ .start i true) (hstop : e ≠ .stop true)
    (hflag : u.flag = s.flag) (hactive : ∀ j, u.Active j ↔ s.Active j) :
    Governed (es ++ [e]) u := by
  rcases h with ⟨hidle, hnone⟩ | ⟨i, howned⟩
  · exact .inl ⟨hflag.trans hidle, fun j hj => hnone j ((hactive j).1 hj)⟩
  · exact .inr ⟨i, howned.mono (hstart i) hstop hflag hactive⟩

theorem tryStart_eq_true_iff (flag : RunState) : flag.tryStart.2 = true ↔ flag = .idle := by
  cases flag <;> simp [RunState.tryStart]

theorem tryStart_of_refused {flag : RunState} (h : flag.tryStart.2 = false) :
    flag.tryStart.1 = flag := by
  cases flag <;> simp_all [RunState.tryStart]

/-- A call whose phase does not change stays active or not, and so do the others. -/
theorem active_put {c : Call σ} {flag : RunState} (h : c.phase = .active ↔ s.Active i) (j : Nat) :
    (s.put i c flag).Active j ↔ s.Active j := by
  by_cases hj : j = i
  · rw [hj, active_put_self, h]
  · exact active_put_of_ne s i c flag hj

theorem Governed.idle_iff (h : Governed es s) : s.flag = .idle ↔ ∀ i, ¬ s.Active i := by
  rcases h with ⟨hidle, hnone⟩ | ⟨i, howned⟩
  · exact ⟨fun _ => hnone, fun _ => hidle⟩
  · have hne : s.flag ≠ .idle := by
      rcases howned.pressed with ⟨hflag, -⟩ | ⟨hflag, -⟩ <;> simp [hflag]
    exact ⟨fun hidle => absurd hidle hne, fun hnone => absurd howned.active (hnone i)⟩

theorem Governed.owned (h : Governed es s) (hi : s.Active i) : Owned es s i := by
  rcases h with ⟨-, hnone⟩ | ⟨j, howned⟩
  · exact absurd hi (hnone i)
  · rwa [howned.only i hi]

/-- Every step keeps the flag with the one call that is active. -/
theorem Governed.step (h : Governed es s) (hact : Act s e u) : Governed (es ++ [e]) u := by
  cases hact with
  | @start i hi hflag =>
    have hidle := (tryStart_eq_true_iff s.flag).1 hflag
    have hnone := h.idle_iff.1 hidle
    refine .inr ⟨i, (active_put_self ..).2 rfl, ?_, by simp, .inl ⟨?_, presses_start i es⟩⟩
    · intro j hj
      by_contra hne
      exact hnone j ((active_put_of_ne _ _ _ _ hne).1 hj)
    · simp [hidle, RunState.tryStart]
  | @refuse i hi hflag =>
    refine h.mono (by simp) (by simp) (tryStart_of_refused hflag) (active_put ?_)
    simp [Active, hi]
  | check => exact h.mono (by simp) (by simp) rfl fun _ => .rfl
  | stop =>
    rcases h with ⟨hidle, hnone⟩ | ⟨i, howned⟩
    · exact .inl ⟨by simp [hidle, RunState.stop], hnone⟩
    · refine .inr ⟨i, howned.active, howned.only, List.mem_append_left _ howned.started, .inr ?_⟩
      rw [presses_concat (by simp)]
      rcases howned.pressed with ⟨hflag, hcount⟩ | ⟨hflag, hcount⟩ <;>
        simp [hflag, hcount, RunState.stop]
  | @work i hi w => exact h.mono (by simp) (by simp) rfl (active_put .rfl)
  | @finish i hi =>
    refine .inl ⟨rfl, fun j hj => ?_⟩
    by_cases hji : j = i
    · rw [hji, active_put_self] at hj
      cases hj
    · exact hji ((h.owned hi).only j ((active_put_of_ne _ _ _ _ hji).1 hj))

theorem governed_of_history {s₀ : Shared σ} (hflag : s₀.flag = .idle)
    (hwaiting : ∀ i, (s₀.calls i).phase = .waiting) (h : History s₀ es s) : Governed es s := by
  induction h with
  | nil => exact .inl ⟨hflag, fun i hi => by cases (hwaiting i).symm.trans hi⟩
  | snoc _ hact ih => exact ih.step hact

end Step

section Runs
variable {m : Interpreter σ} {s t u : Shared σ} {i : Nat}

theorem History.trans {es es' : List Event} (h : History s es t) (h' : History t es' u) :
    History s (es ++ es') u := by
  induction h' with
  | nil => rwa [List.append_nil]
  | snoc _ hact ih => exact List.append_assoc .. ▸ ih.snoc hact

theorem flag_of_step {w v : World σ} (h : m.Step w v) :
    v.flag = w.flag ∨ v.flag = w.flag.stop.1 := by
  cases h with
  | note hn => exact .inl (World.flag_note _ _)
  | perform e he =>
    rw [World.flag_perform]
    split
    · exact .inr rfl
    · exact .inl rfl
  | sprite c => exact .inl rfl
  | source => exact .inl rfl
  | exhaust hw => exact .inl rfl

theorem history_of_steps {w v : World σ} (h : m.Steps w v) (s : Shared σ) (i : Nat) :
    ∃ es, History (s.put i ⟨m, w, .active⟩ w.flag) es (s.put i ⟨m, v, .active⟩ v.flag) := by
  induction h with
  | refl => exact ⟨[], .nil _⟩
  | @tail v v' _ hstep ih =>
    obtain ⟨es, hes⟩ := ih
    have hwork : History (s.put i ⟨m, w, .active⟩ w.flag) (es ++ [.work i])
        (s.put i ⟨m, v', .active⟩ v.flag) := by
      simpa using hes.snoc (.work ((active_put_self ..).2 rfl) v')
    rcases flag_of_step hstep with hflag | hflag
    · exact ⟨_, hflag ▸ hwork⟩
    · exact ⟨_, hflag ▸ hwork.snoc (.stop _)⟩

theorem flag_finish (m : Interpreter σ) (w : World σ) : (m.finish w).1.flag = .idle := by
  simp [Interpreter.finish_eq, World.flag_perform, RunState.stop]

/-- A call of `run` that returns is made of these steps. -/
theorem history_of_run {ws : Workspace} {v : World σ} {o : Outcome}
    (hi : (s.calls i).phase = .waiting)
    (hrun : (s.calls i).interpreter.run ws (s.world i) = (v, some o)) :
    ∃ es, History s es (s.put i ⟨(s.calls i).interpreter, v, .returned o⟩ v.flag) := by
  by_cases hidle : s.flag = .idle
  · rw [Interpreter.run_of_idle hidle] at hrun
    split at hrun
    · cases hrun
    · cases hrun
      have hstart := (History.nil s).snoc (.start hi ((tryStart_eq_true_iff _).2 hidle))
      have hbegun := hstart.snoc (.work ((active_put_self ..).2 rfl)
        { s.world i with flag := .running })
      have hflag : s.flag.tryStart.1 = .running := by rw [hidle]; rfl
      obtain ⟨es, hes⟩ := history_of_steps ((s.calls i).interpreter.steps_execProgram
        { s.world i with flag := .running } ws) s i
      simp only [put_put, put_calls_self, put_flag, hflag] at hbegun
      have hdone := (hbegun.trans hes).snoc (.finish ((active_put_self ..).2 rfl))
      rw [flag_finish]
      simp only [put_put, put_calls_self, world_put] at hdone
      exact ⟨_, hdone⟩
  · rw [Interpreter.run_of_not_idle hidle] at hrun
    cases hrun
    have hflag : s.flag.tryStart.2 = false := by
      rwa [← Bool.not_eq_true, tryStart_eq_true_iff]
    have hrefuse := (History.nil s).snoc (.refuse hi hflag)
    rw [tryStart_of_refused hflag] at hrefuse
    rw [World.flag_note]
    exact ⟨_, hrefuse⟩

end Runs

structure Refused (s u : Shared σ) (i : Nat) : Prop where
  outcome : (u.calls i).phase = .returned .alreadyRunning
  flag : u.flag = s.flag
  effects : (u.calls i).world.effects = (s.calls i).world.effects
  sprite : (u.calls i).world.sprite = (s.calls i).world.sprite
  source : (u.calls i).world.source = (s.calls i).world.source
  host : (u.calls i).world.host = (s.calls i).world.host
  others : ∀ j, j ≠ i → u.calls j = s.calls j
  run : ∀ ws, (s.calls i).interpreter.run ws (s.world i) =
    ((u.calls i).world, some .alreadyRunning)

/-- The call returns an outcome and has logged one more line. -/
structure Ends (s u : Shared σ) (i : Nat) (o : Outcome) (line : LogEvent) : Prop where
  outcome : (u.calls i).phase = .returned o
  effects : (u.calls i).world.effects = (s.calls i).world.effects ++ [.log line]

/-- The order in which calls and presses find the flag after some steps. -/
structure Orderly (es : List Event) (s : Shared σ) : Prop where
  single : ∀ i j, s.Active i → s.Active j → i = j
  started : ∀ i, s.Active i → .start i true ∈ es
  idle_iff : s.flag = .idle ↔ ∀ i, ¬ s.Active i
  /-- A call that is made now is accepted if no other is active and refused otherwise. -/
  answered : ∀ i, (s.calls i).phase = .waiting → ∀ accepted,
    (∃ u, Act s (.start i accepted) u) ↔ (accepted = true ↔ ∀ j, ¬ s.Active j)
  refused : ∀ i u, Act s (.start i false) u → Refused s u i
  pressed : ∀ i, s.Active i → presses i es ≤ 1 ∧ (s.flag = .stopped ↔ presses i es = 1)
  seen : ∀ running u, Act s (.check running) u →
    u = s ∧ (running = true ↔ ∃ i, s.Active i ∧ presses i es = 0)
  /-- Outside of a run, pressing stop does nothing. -/
  stray : ∀ pressed u, Act s (.stop pressed) u → (∀ i, ¬ s.Active i) → pressed = false ∧ u = s
  finished : ∀ i ended u, Act s (.finish i ended) u →
    ended ≠ .idle ∧ u.flag = .idle ∧ (∀ j, ¬ u.Active j) ∧
      (presses i es = 1 ∧ Ends s u i .stopped ⟨.warning, "run interrupted"⟩ ∨
        presses i es = 0 ∧ Ends s u i .completed ⟨.success, "run complete"⟩)
  /-- The calls of `run` that return are made of these steps. -/
  performed : ∀ i, (s.calls i).phase = .waiting → ∀ ws v o,
    (s.calls i).interpreter.run ws (s.world i) = (v, some o) →
      ∃ es', History s es' (s.put i ⟨(s.calls i).interpreter, v, .returned o⟩ v.flag)

section Orderly
variable {es : List Event} {s u : Shared σ} {i : Nat} {ended : RunState}

theorem Governed.answered (h : Governed es s) (hi : (s.calls i).phase = .waiting)
    (accepted : Bool) :
    (∃ u, Act s (.start i accepted) u) ↔ (accepted = true ↔ ∀ j, ¬ s.Active j) := by
  rw [← h.idle_iff, ← tryStart_eq_true_iff]
  constructor
  · rintro ⟨u, hact⟩
    cases hact with
    | start _ hflag => simp [hflag]
    | refuse _ hflag => simp [hflag]
  · intro hiff
    cases accepted with
    | true => exact ⟨_, .start hi (hiff.1 rfl)⟩
    | false => exact ⟨_, .refuse hi (by simpa using hiff)⟩

theorem refused_of_act (hact : Act s (.start i false) u) : Refused s u i := by
  cases hact with
  | refuse hi hflag =>
    have hidle : (s.world i).flag ≠ .idle := by
      rw [← Bool.not_eq_true, tryStart_eq_true_iff] at hflag
      exact hflag
    constructor
    · simp
    · exact tryStart_of_refused hflag
    · rw [put_calls_self, World.effects_note]
      rfl
    · simp [world]
    · simp [world]
    · simp [world]
    · exact fun j hj => put_calls_of_ne _ _ _ _ hj
    · intro ws
      rw [Interpreter.run_of_not_idle hidle, put_calls_self]

theorem Governed.seen (h : Governed es s) :
    s.flag.isRunning = true ↔ ∃ i, s.Active i ∧ presses i es = 0 := by
  rw [RunState.isRunning_iff]
  constructor
  · intro hrunning
    rcases h with ⟨hidle, -⟩ | ⟨i, howned⟩
    · cases hrunning.symm.trans hidle
    · rcases howned.pressed with ⟨-, hcount⟩ | ⟨hflag, -⟩
      · exact ⟨i, howned.active, hcount⟩
      · cases hrunning.symm.trans hflag
  · rintro ⟨i, hi, hcount⟩
    rcases (h.owned hi).pressed with ⟨hflag, -⟩ | ⟨-, hone⟩
    · exact hflag
    · cases hcount.symm.trans hone

theorem Governed.stray (h : Governed es s) (hnone : ∀ i, ¬ s.Active i) :
    s.flag.stop = (s.flag, false) := by
  simp [h.idle_iff.2 hnone, RunState.stop]

theorem ends_of_act (hact : Act s (.finish i ended) u) :
    s.Active i ∧ ended = s.flag ∧ u.flag = .idle ∧
      Ends s u i (Interpreter.ending s.flag).2 (Interpreter.ending s.flag).1 := by
  cases hact with
  | finish hi =>
    refine ⟨hi, rfl, rfl, ?_, ?_⟩
    · rw [put_calls_self, Interpreter.finish_eq]
      rfl
    · rw [put_calls_self, Interpreter.effects_finish]
      rfl

theorem Governed.finished (h : Governed es s) (hact : Act s (.finish i ended) u) :
    ended ≠ .idle ∧ u.flag = .idle ∧ (∀ j, ¬ u.Active j) ∧
      (presses i es = 1 ∧ Ends s u i .stopped ⟨.warning, "run interrupted"⟩ ∨
        presses i es = 0 ∧ Ends s u i .completed ⟨.success, "run complete"⟩) := by
  obtain ⟨hi, hended, hidle, hends⟩ := ends_of_act hact
  have hnone := (h.step hact).idle_iff.1 hidle
  rcases (h.owned hi).pressed with ⟨hflag, hcount⟩ | ⟨hflag, hcount⟩
  · rw [hflag] at hended hends
    exact ⟨by simp [hended], hidle, hnone, .inr ⟨hcount, hends⟩⟩
  · rw [hflag] at hended hends
    exact ⟨by simp [hended], hidle, hnone, .inl ⟨hcount, hends⟩⟩

/-- From an idle flag and calls that have not begun, every sequence of atomic
steps keeps the calls and the presses in order. -/
theorem orderly_of_history {s₀ : Shared σ} (hflag : s₀.flag = .idle)
    (hwaiting : ∀ i, (s₀.calls i).phase = .waiting) (h : History s₀ es s) : Orderly es s := by
  have hgoverned := governed_of_history hflag hwaiting h
  constructor
  · exact fun i j hi hj => (hgoverned.owned hj).only i hi
  · exact fun i hi => (hgoverned.owned hi).started
  · exact hgoverned.idle_iff
  · exact fun i hi accepted => hgoverned.answered hi accepted
  · exact fun i u hact => refused_of_act hact
  · intro i hi
    rcases (hgoverned.owned hi).pressed with ⟨hrunning, hcount⟩ | ⟨hstopped, hcount⟩
    · simp [hrunning, hcount]
    · simp [hstopped, hcount]
  · intro running u hact
    cases hact with
    | check => exact ⟨rfl, hgoverned.seen⟩
  · intro pressed u hact hnone
    cases hact with
    | stop => simp [hgoverned.stray hnone]
  · exact fun i ended u hact => hgoverned.finished hact
  · exact fun i hi ws v o hrun => history_of_run hi hrun

/-- The second call asks while the first is active, stop is pressed four times,
and the third call begins when the first has ended. -/
theorem orderly_of_history_three :
    let host : Host Unit := { respond := fun _ _ _ => ((), false) }
    let start : World Unit := { sprite := {}, source := .ofSeed 7, flag := .idle, host := () }
    let s₀ : Shared Unit :=
      { flag := .idle, calls := fun _ => ⟨{ settings := {}, host }, start, .waiting⟩ }
    let es : List Event := [.stop false, .start 0 true, .work 0, .start 1 false, .check true,
      .stop true, .stop false, .check false, .finish 0 .stopped, .stop false, .start 2 true,
      .finish 2 .running]
    ∃ s, History s₀ es s ∧ (s.calls 0).phase = .returned .stopped ∧
      (s.calls 1).phase = .returned .alreadyRunning ∧
      (s.calls 2).phase = .returned .completed ∧ Orderly es s := by
  intro host start s₀ es
  have hbegun := (((History.nil s₀).snoc (.stop _)).snoc (.start (i := 0) rfl rfl)).snoc
    (.work (i := 0) (by rfl) (start.note (.runStarted 0)))
  have hstopped := (((hbegun.snoc (.refuse (i := 1) rfl rfl)).snoc (.check _)).snoc (.stop _)).snoc
    (.stop _)
  have hended := ((hstopped.snoc (.check _)).snoc (.finish (i := 0) (by rfl))).snoc (.stop _)
  have h : History s₀ es _ := (hended.snoc (.start (i := 2) rfl rfl)).snoc
    (.finish (i := 2) (by rfl))
  exact ⟨_, h, rfl, rfl, rfl, orderly_of_history rfl (fun _ => rfl) h⟩

end Orderly
end Shared
end SpriteBlocks
