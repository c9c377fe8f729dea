import Mathlib.Data.Nat.ModEq
import SpriteBlocks.Proofs.Run.Steps

/-!
# Rounds of a loop without end

A `forever` block goes on round by round until the run is stopped. In each round
it writes its line if the number of the round asks for one, executes the blocks
inside, and pauses if the run still goes on. What it does in all is what it does
in the rounds that it starts, one after the other.
-/
namespace SpriteBlocks.Interpreter
variable {σ : Type} (m : Interpreter σ)

/-- Whether the round of this number, counted from one, gets a line. -/
def Announced (number : Nat) : Prop :=
  0 < m.settings.foreverLogEvery.toNat ∧ number ≡ 1 [MOD m.settings.foreverLogEvery.toNat]

instance (number : Nat) : Decidable (m.Announced number) := inferInstanceAs (Decidable (_ ∧ _))

def roundLine (number : Nat) : LogEvent := ⟨.execution, "forever round " ++ toString number⟩

def lineEffects (number : Nat) : List Effect :=
  if m.Announced number then [.log (roundLine number)] else []

theorem announced_succ (k : Nat) : m.Announced (k + 1) ↔
    0 < m.settings.foreverLogEvery.toNat ∧ k % m.settings.foreverLogEvery.toNat = 0 := by
  refine and_congr_right fun _ => ⟨fun h => ?_, fun h => Nat.ModEq.add_right 1 h⟩
  exact Nat.ModEq.add_right_cancel' 1 (b := 0) h

theorem effects_logRound (k : Nat) (w : World σ) :
    (m.logRound k w).effects = w.effects ++ m.lineEffects (k + 1) := by
  unfold logRound lineEffects
  dsimp only
  by_cases hline : m.Announced (k + 1)
  · rw [if_pos hline, if_pos ((m.announced_succ k).1 hline)]
    exact World.effects_perform _ _ _
  · rw [if_neg hline, if_neg (mt (m.announced_succ k).2 hline), List.append_nil]

theorem flatMap_lineEffects (R : Nat) : (List.range R).flatMap (fun k => m.lineEffects (k + 1)) =
    ((List.range' 1 R).filter fun number => m.Announced number).map fun number =>
      .log (roundLine number) := by
  induction R with
  | zero => rfl
  | succ R ih =>
    have hlast : m.lineEffects (R + 1) =
        ([1 + R].filter fun number => m.Announced number).map fun number =>
          .log (roundLine number) := by
      rw [Nat.add_comm 1 R]
      by_cases h : m.Announced (R + 1) <;> simp [lineEffects, h]
    rw [List.range_succ, List.flatMap_append, ih, List.flatMap_singleton, hlast,
      List.range'_1_concat, List.filter_append, List.map_append]

section Rounds
variable (body : List Block) (w : World σ)

/-- The world behind the blocks inside in the round that follows the first `k`. -/
def insideRound (k : Nat) : World σ := m.execAll body (m.logRound k w)

def behindRound (k : Nat) : World σ :=
  if (m.insideRound body w k).isRunning then
    (m.insideRound body w k).sleep m.host m.settings.foreverPacing
  else m.insideRound body w k

def behindRounds : Nat → World σ
  | 0 => w
  | k + 1 => m.behindRound body (behindRounds k) k

def insideEffects (k : Nat) : List Effect :=
  (m.insideRound body (m.behindRounds body w k) k).effects.drop
    (m.logRound k (m.behindRounds body w k)).effects.length

/-- The pause behind the round that follows the first `k`, if the run still goes on. -/
def pauseEffects (k : Nat) : List Effect :=
  if (m.insideRound body (m.behindRounds body w k) k).isRunning then
    [.sleep m.settings.foreverPacing]
  else []

theorem effects_insideRound (k : Nat) : (m.insideRound body (m.behindRounds body w k) k).effects =
    (m.behindRounds body w k).effects ++ m.lineEffects (k + 1) ++ m.insideEffects body w k := by
  obtain ⟨es, hes⟩ := Steps.effects_prefix
    (m.steps_execAll (m.logRound k (m.behindRounds body w k)) body)
  rw [← effects_logRound, insideEffects, insideRound, ← hes, List.drop_left]

theorem effects_behindRounds (R : Nat) : (m.behindRounds body w R).effects = w.effects ++
    (List.range R).flatMap fun k =>
      m.lineEffects (k + 1) ++ m.insideEffects body w k ++ m.pauseEffects body w k := by
  induction R with
  | zero => exact (List.append_nil _).symm
  | succ R ih =>
    have hround : (m.behindRounds body w (R + 1)).effects = (m.behindRounds body w R).effects ++
        (m.lineEffects (R + 1) ++ m.insideEffects body w R ++ m.pauseEffects body w R) := by
      rw [behindRounds, behindRound, pauseEffects]
      split
      · rw [World.sleep, World.effects_perform, effects_insideRound]
        simp
      · rw [effects_insideRound]
        simp
    rw [hround, ih, List.range_succ, List.flatMap_append, List.flatMap_singleton,
      List.append_assoc]

/-- If the run goes on behind a round, it went on behind the blocks inside. -/
theorem isRunning_insideRound {k : Nat}
    (hnext : (m.behindRounds body w (k + 1)).isRunning = true) :
    (m.insideRound body (m.behindRounds body w k) k).isRunning = true := by
  by_contra hinside
  rw [behindRounds, behindRound, if_neg hinside] at hnext
  exact hinside hnext

/-- A loop behind its first rounds starts some more, until the run does not go
on or the loop has no rounds left. -/
theorem foreverRounds_eq (fuel done : Nat) : ∃ R ≤ done + fuel,
    (∀ k, done ≤ k → k < R → (m.behindRounds body w k).isRunning = true) ∧
    (R < done + fuel → (m.behindRounds body w R).isRunning = false) ∧
    m.foreverRounds (fun w => m.execAll body w) fuel done (m.behindRounds body w done) =
      if (m.behindRounds body w R).isRunning then
        { m.behindRounds body w R with exhausted := true }
      else (m.behindRounds body w R).note (.loopEnded R) := by
  induction fuel generalizing done with
  | zero =>
    refine ⟨done, Nat.le_refl _, fun k hle hlt => ?_, fun hlt => ?_, rfl⟩
    · exact absurd hlt (Nat.not_lt.2 hle)
    · exact absurd hlt (Nat.lt_irrefl _)
  | succ fuel ih =>
    rw [foreverRounds_succ]
    by_cases hrun : (m.behindRounds body w done).isRunning = true
    · have hnext : m.behindRounds body w (done + 1) =
          m.behindRound body (m.behindRounds body w done) done := rfl
      rw [if_pos hrun]
      by_cases hinside : (m.insideRound body (m.behindRounds body w done) done).isRunning = true
      · obtain ⟨R, hle, hstarted, hended, hloop⟩ := ih (done + 1)
        refine ⟨R, by omega, fun k hk hlt => ?_, fun hlt => hended (by omega), ?_⟩
        · rcases Nat.eq_or_lt_of_le hk with rfl | hk
          · exact hrun
          · exact hstarted k hk hlt
        · rw [hnext, behindRound, if_pos hinside] at hloop
          exact (if_pos hinside).trans hloop
      · -- The round that was started is the last one, and nothing pauses behind it.
        rw [behindRound, if_neg hinside] at hnext
        refine ⟨done + 1, by omega, fun k hk hlt => ?_, fun _ => ?_, ?_⟩
        · obtain rfl : k = done := by omega
          exact hrun
        · rw [hnext, Bool.eq_false_iff]
          exact hinside
        · rw [hnext, if_neg hinside]
          exact if_neg hinside
    · rw [if_neg hrun]
      refine ⟨done, by omega, fun k hle hlt => absurd hlt (Nat.not_lt.2 hle), fun _ => ?_, ?_⟩
      · rwa [Bool.eq_false_iff]
      · rw [if_neg hrun]

end Rounds

/-- A `forever` block with blocks inside starts rounds for as long as the run
goes on. It writes that it started; in each of its rounds it writes the line of
the round if the number is one to be announced, then the blocks inside do what
they do, and if the run goes on behind them there is one pause. Only the last
round can be interrupted. -/
theorem exec_forever (id : BlockId) (params : Parameters) (b : Block) (bs : List Block)
    (w : World σ) :
    let every := m.settings.foreverLogEvery.toNat
    let pause := Duration.ofMillis (max m.settings.foreverPacingMs.toNat 1)
    let body := b :: bs
    let w₀ := (w.note (.dispatch id .forever)).log m.host .execution "forever loop started"
    let before := m.behindRounds body w₀
    let inside := fun k => m.insideRound body (before k) k
    let ran := m.exec ⟨id, .forever, params, body⟩ w
    ∃ R ≤ m.roundLimit,
      (∀ k < R, (before k).isRunning = true) ∧
      (∀ k, k + 1 < R → (inside k).isRunning = true) ∧
      (R < m.roundLimit → (before R).isRunning = false ∧ ran = (before R).note (.loopEnded R)) ∧
      ran.effects = w.effects ++ .log ⟨.execution, "forever loop started"⟩ ::
        ((List.range R).flatMap fun k => m.lineEffects (k + 1) ++ m.insideEffects body w₀ k ++
          if (inside k).isRunning then [.sleep pause] else []) ∧
      (List.range R).flatMap (fun k => m.lineEffects (k + 1)) =
        (((List.range' 1 R).filter fun number => 0 < every ∧ number ≡ 1 [MOD every]).map
          fun number => .log ⟨.execution, "forever round " ++ toString number⟩) := by
  intro every pause body w₀ before inside ran
  obtain ⟨R, hle, hstarted, hended, hloop⟩ := m.foreverRounds_eq body w₀ m.roundLimit 0
  rw [Nat.zero_add] at hle hended
  have hran : ran = m.foreverRounds (fun w => m.execAll body w) m.roundLimit 0 w₀ := by
    simp only [ran, body, exec, List.isEmpty_cons, Bool.false_eq_true, if_false]
    rfl
  have heffects : ran.effects = (before R).effects := by
    rw [hran]
    refine (congrArg World.effects hloop).trans ?_
    split
    · rfl
    · exact World.effects_note _ _
  refine ⟨R, hle, fun k => hstarted k (Nat.zero_le k), fun k hk => ?_, fun hlt => ⟨hended hlt, ?_⟩,
    ?_, m.flatMap_lineEffects R⟩
  · exact m.isRunning_insideRound body w₀ (hstarted (k + 1) (Nat.zero_le _) hk)
  · refine hran.trans (hloop.trans (if_neg ?_))
    rw [hended hlt]
    exact Bool.false_ne_true
  · have hopened : w₀.effects = w.effects ++ [.log ⟨.execution, "forever loop started"⟩] := by
      simp only [w₀, World.log, World.effects_perform, World.effects_note]
    rw [heffects, effects_behindRounds, hopened, List.append_assoc, List.singleton_append]
    rfl

end SpriteBlocks.Interpreter
