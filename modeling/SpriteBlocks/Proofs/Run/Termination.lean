import SpriteBlocks.Proofs.Run.Lockstep
import SpriteBlocks.Run.Session
import SpriteBlocks.Workspace.Edit

/-!
# Termination of runs

Only the loops of `forever` blocks can go on without end. On a manual clock with
a deadline every round of such a loop moves the reading on, up to the deadline,
so no loop uses up its rounds. Rounds that a run does not use do not matter.
-/
namespace SpriteBlocks
namespace Interpreter
variable {σ : Type} {m : Interpreter σ}

def withLimit (m : Interpreter σ) (limit : Nat) : Interpreter σ := { m with roundLimit := limit }

/-- The run ends before a loop is out of rounds, and more rounds change nothing. -/
def Terminates (m : Interpreter σ) (ws : Workspace) (w : World σ) : Prop :=
  ∃ w' outcome, ∀ limit, m.roundLimit ≤ limit →
    (m.withLimit limit).run ws w = (w', some outcome)

/-- Runs with different rounds are the same until the one with fewer is out of them. -/
theorem lockstep_withLimit {limit : Nat} (hle : m.roundLimit ≤ limit) :
    m.Lockstep (m.withLimit limit) (fun w v => v = w) fun w v => w.exhausted = true ∨ v = w where
  settings := rfl
  sprite_eq hd := hd ▸ rfl
  source_eq hd := hd ▸ rfl
  note _ hd := hd ▸ rfl
  perform _ hd := hd ▸ rfl
  sprite _ hd := hd ▸ rfl
  source _ hd := hd ▸ rfl
  sleep _ hd := .inr (hd ▸ rfl)
  between hd := .inr hd
  during hb hw := by
    rcases hb with hex | rfl
    · rw [World.isRunning_eq_true_iff, hex] at hw
      cases hw.2
    · exact ⟨hw, rfl⟩
  noteBetween _ hb := by
    rcases hb with hex | rfl
    · exact .inl ((World.exhausted_note _ _).trans hex)
    · exact .inr rfl
  ahead hb hw hv _ := by
    rcases hb with hex | rfl
    · exact ⟨.inl hex, fun n _ => .inl ((World.exhausted_note n _).trans hex)⟩
    · rw [hw] at hv
      cases hv
  limit := hle
  exhaust _ _ _ _ := .inl rfl

/-- A run that does not use up its rounds terminates. -/
theorem terminates_of_not_exhausted {ws : Workspace} {w : World σ}
    (h : (m.runProgram ws w).exhausted = false) : m.Terminates ws w := by
  have hsame (limit : Nat) (hle : m.roundLimit ≤ limit) :
      (m.withLimit limit).runProgram ws w = m.runProgram ws w := by
    rcases (lockstep_withLimit hle).execProgram ws rfl with hex | heq
    · exact absurd (h.symm.trans hex) (by simp)
    · exact heq
  by_cases hflag : w.flag = .idle
  · refine ⟨(m.finish (m.runProgram ws w)).1, (m.finish (m.runProgram ws w)).2, fun limit hle => ?_⟩
    rw [run_of_idle hflag, hsame limit hle, if_neg (by simp [h])]
    rfl
  · exact ⟨w.note .runRefused, .alreadyRunning, fun limit _ => run_of_not_idle hflag⟩

theorem keeps_not_exhausted : m.Keeps fun w => w.exhausted = false where
  note _ hw := (World.exhausted_note _ _).trans hw
  perform _ _ hw := (World.exhausted_perform _ _ _).trans hw
  sprite _ hw := hw
  source hw := hw

/-- Without `forever` loops there are no rounds to use up. -/
theorem terminates_of_no_forever {ws : Workspace} {w : World σ} (hw : w.exhausted = false)
    (hnone : ∀ b ∈ Block.nodesIn ws.blocks, b.opcode = .forever → b.children = []) :
    m.Terminates ws w :=
  terminates_of_not_exhausted <|
    execProgram_keeps (fun _ : Unit => keeps_not_exhausted)
      (fun b hb hop hne => absurd (hnone b hb hop) hne) () _ hw

end Interpreter

namespace ManualClock

theorem pressed_advance (c : ManualClock) (d : Duration) :
    (c.advance d).2 = (c.advance d).1.due := rfl

theorem due_iff {c : ManualClock} {deadline : Duration} (hstop : c.stopAt = some deadline) :
    c.due = true ↔ deadline.nanos ≤ c.elapsed := by
  rw [due, hstop, decide_eq_true_iff]

end ManualClock

namespace Session

theorem clock_respond {s : Session} {flag : RunState} {e : Effect} (he : e.sleep? = none) :
    (host.respond s flag e).1.clock = s.clock := by
  cases e with
  | log event =>
    simp only [host, onLog]
    split <;> rfl
  | frame sprite transition => rfl
  | speech speech => rfl
  | draw word => rfl
  | sleep d => cases he

theorem onSleep_manual {s : Session} {c : ManualClock} (flag : RunState) (d : Duration)
    (hc : s.clock = .manual c) : s.onSleep flag d =
      ({ s with
          clock := .manual (c.advance d).1
          firstYield := s.firstYield.or (some (if (c.advance d).2 then flag.stop.1 else flag)) },
        (c.advance d).2) := by
  simp only [onSleep, hc, yielding]

/-- No loop ran out so far, and the clock is armed with the deadline and has
come to a reading or past it. -/
def Ticking (deadline : Duration) (reading : Nat) (w : World Session) : Prop :=
  w.exhausted = false ∧ reading ≤ maxReading ∧
    ∃ c : ManualClock, w.host.clock = .manual c ∧ c.stopAt = some deadline ∧ reading ≤ c.elapsed

namespace Ticking
variable {deadline : Duration} {reading : Nat} {w : World Session}

theorem keeps (settings : Settings) (deadline : Duration) (reading : Nat) :
    (interpreter settings).Keeps (Ticking deadline reading) where
  note _ hw := by
    simpa only [Ticking, World.exhausted_note, World.host_note] using hw
  perform {w} e _ hw := by
    obtain ⟨hex, hmax, c, hc, hstop, hle⟩ := hw
    refine ⟨(World.exhausted_perform host e w).trans hex, hmax, ?_⟩
    rw [World.host_perform]
    cases he : e.sleep? with
    | none => exact ⟨c, (clock_respond he).trans hc, hstop, hle⟩
    | some d =>
      cases e with
      | sleep d =>
        have hslept := onSleep_manual w.flag d hc
        refine ⟨(c.advance d).1, congrArg (fun r => r.1.clock) hslept, hstop, ?_⟩
        rw [ManualClock.advance_elapsed]
        omega
      | _ => cases he
  sprite _ hw := hw
  source hw := hw

theorem mono {earlier : Nat} (hle : earlier ≤ reading) (h : Ticking deadline reading w) :
    Ticking deadline earlier w := by
  obtain ⟨hex, hmax, c, hc, hstop, hreading⟩ := h
  exact ⟨hex, Nat.le_trans hle hmax, c, hc, hstop, Nat.le_trans hle hreading⟩

/-- A sleep after which the run goes on moved the reading on, and not up to the deadline. -/
theorem sleep {d : Duration} (h : Ticking deadline reading w) (hmax : deadline.nanos ≤ maxReading)
    (hd : 0 < d.nanos) (hrun : (w.sleep host d).isRunning = true) :
    reading + 1 < deadline.nanos ∧ Ticking deadline (reading + 1) (w.sleep host d) := by
  obtain ⟨hex, -, c, hc, hstop, hle⟩ := h
  have hslept : host.respond w.host w.flag (.sleep d) = _ := onSleep_manual w.flag d hc
  have hlt : (c.advance d).1.elapsed < deadline.nanos := by
    have hstop' : (c.advance d).1.stopAt = some deadline := hstop
    by_contra hdue
    rw [Nat.not_lt, ← ManualClock.due_iff hstop', ← ManualClock.pressed_advance] at hdue
    have hpressed : (host.respond w.host w.flag (.sleep d)).2 = true := by
      rw [hslept]
      exact hdue
    rw [World.isRunning_eq_true_iff, World.sleep, World.flag_perform, if_pos hpressed] at hrun
    exact RunState.stop_ne_running w.flag hrun.1
  rw [ManualClock.advance_elapsed] at hlt
  refine ⟨by omega, (World.exhausted_perform host _ w).trans hex, by omega, (c.advance d).1, ?_,
    hstop, ?_⟩
  · rw [World.sleep, World.host_perform, hslept]
  · rw [ManualClock.advance_elapsed]
    omega

/-- Every round leaves less time to the deadline, so a loop with as many rounds
as there are nanoseconds does not run out. -/
theorem foreverRounds {settings : Settings} {fuel done : Nat}
    {body : World Session → World Session}
    (hbody : ∀ reading w, Ticking deadline reading w → Ticking deadline reading (body w))
    (hmax : deadline.nanos ≤ maxReading)
    (hfuel : w.isRunning = true → deadline.nanos < reading + fuel ∧ 0 < fuel)
    (h : Ticking deadline reading w) :
    Ticking deadline reading ((interpreter settings).foreverRounds body fuel done w) := by
  have hpacing : 0 < settings.foreverPacing.nanos :=
    Nat.lt_of_lt_of_le (by decide) settings.foreverPacing_pos
  induction fuel generalizing reading done w with
  | zero =>
    rw [Interpreter.foreverRounds]
    split
    · next hrun => exact absurd (hfuel hrun).2 (Nat.lt_irrefl 0)
    · exact (keeps settings deadline reading).note (by simp) h
  | succ fuel ih =>
    have hround := hbody reading _ ((keeps settings deadline reading).logRound done h)
    have hslept := (keeps settings deadline reading).sleep hround settings.foreverPacing
    rw [Interpreter.foreverRounds_succ]
    split
    · next hrun =>
      have hleft := (hfuel hrun).1
      split
      · by_cases hgo : (World.sleep host settings.foreverPacing
            (body ((interpreter settings).logRound done w))).isRunning = true
        · obtain ⟨hlt, hnext⟩ := hround.sleep hmax hpacing hgo
          exact (ih (fun _ => ⟨by omega, by omega⟩) hnext).mono (Nat.le_succ reading)
        · exact ih (fun hgo' => absurd hgo' hgo) hslept
      · exact (keeps settings deadline reading).note (by simp) hround
    · exact (keeps settings deadline reading).note (by simp) h

theorem execProgram {settings : Settings} {ws : Workspace} (hmax : deadline.nanos ≤ maxReading)
    (h : Ticking deadline reading w) :
    Ticking deadline reading ((interpreter settings).execProgram ws w) := by
  have hlimit : deadline.nanos < UInt64.size := Nat.lt_of_le_of_lt hmax (by decide)
  have hloop : (interpreter settings).LoopKeeps (Ticking deadline) := fun body hbody reading w hw =>
    hw.foreverRounds hbody hmax fun _ => ⟨Nat.lt_add_left reading hlimit, Nat.zero_lt_of_lt hlimit⟩
  exact Interpreter.execProgram_keeps (keeps settings deadline) (fun _ _ _ _ => hloop) reading w h

end Ticking

/-- A run on a manual clock terminates if the clock has a deadline that it can
reach, and a run on any clock does if no `forever` block has blocks inside. -/
theorem run_terminates (settings : Settings) (ws : Workspace) (s : Session) (flag : RunState)
    (sprite : Sprite) (source : Random.Source) :
    (∀ (reading : Nat) (deadline : Duration), deadline.nanos ≤ maxReading →
      s.clock = .manual ⟨reading, some deadline⟩ →
      (interpreter settings).Terminates ws (world s flag sprite source)) ∧
    ((∀ b ∈ Block.nodesIn ws.blocks, b.opcode = .forever → b.children = []) →
      (interpreter settings).Terminates ws (world s flag sprite source)) := by
  constructor
  · intro reading deadline hmax hclock
    have hstart : Ticking deadline 0
        { world s flag sprite source with flag := .running } :=
      ⟨rfl, Nat.zero_le _, ⟨reading, some deadline⟩, hclock, rfl, Nat.zero_le _⟩
    exact Interpreter.terminates_of_not_exhausted (hstart.execProgram hmax).1
  · exact Interpreter.terminates_of_no_forever rfl

/-- A loop without end inside a loop, with no pause set, and loops that end by themselves. -/
theorem run_terminates_nested :
    let endless := Edit.applyAll (Workspace.empty 20.0)
      [.add .repeatTimes ∅, .addChild ⟨1⟩ .forever ∅, .addChild ⟨2⟩ .whenClicked ∅]
    let ending := Edit.applyAll (Workspace.empty 20.0)
      [.add .repeatTimes ∅, .addChild ⟨1⟩ .ifThen ∅, .addChild ⟨2⟩ .glide ∅, .add .forever ∅]
    (interpreter { foreverPacingMs := 0 }).Terminates endless
        (world { clock := .manual ⟨3, some (.ofMillis 5)⟩ } .idle {} (.cycle #[])) ∧
      (∀ b ∈ Block.nodesIn ending.blocks, b.opcode = .forever → b.children = []) ∧
      (interpreter {}).Terminates ending (world { clock := .manual {} } .idle {} (.cycle #[])) := by
  intro endless ending
  have hnone : ∀ b ∈ Block.nodesIn ending.blocks, b.opcode = .forever → b.children = [] := by
    decide
  refine ⟨(run_terminates _ _ _ _ _ _).1 3 (.ofMillis 5) (by decide) rfl, hnone, ?_⟩
  exact (run_terminates _ _ _ _ _ _).2 hnone

end Session
end SpriteBlocks
