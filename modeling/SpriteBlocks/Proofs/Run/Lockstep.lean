import SpriteBlocks.Proofs.Run.Steps

/-!
# Runs in lockstep

Two interpreters with the same settings go through a program side by side. One
relation holds while both are within the same block, a weaker one between
blocks, where the first run may have ended and the second goes on alone. The
first may also be given fewer rounds of `forever` than the second.
-/
namespace SpriteBlocks.Interpreter
variable {σ τ : Type}

/-- What two runs must keep to stay in lockstep. -/
structure Lockstep (m : Interpreter σ) (m' : Interpreter τ)
    (During Between : World σ → World τ → Prop) : Prop where
  settings : m'.settings = m.settings
  sprite_eq : ∀ {w v}, During w v → v.sprite = w.sprite
  source_eq : ∀ {w v}, During w v → v.source = w.source
  note : ∀ {w v n}, n ≠ Note.stopRequested → During w v → During (w.note n) (v.note n)
  perform : ∀ {w v e}, e.sleep? = none → During w v →
    During (w.perform m.host e) (v.perform m'.host e)
  sprite : ∀ {w v} sprite, During w v → During { w with sprite } { v with sprite }
  source : ∀ {w v} source, During w v → During { w with source } { v with source }
  sleep : ∀ {w v} d, During w v → Between (w.sleep m.host d) (v.sleep m'.host d)
  between : ∀ {w v}, During w v → Between w v
  during : ∀ {w v}, Between w v → w.isRunning = true → v.isRunning = true ∧ During w v
  noteBetween : ∀ {w v n}, n ≠ Note.stopRequested → Between w v → Between (w.note n) (v.note n)
  /-- The first run has ended and the second goes on. -/
  ahead : ∀ {w v v'}, Between w v → w.isRunning = false → v.isRunning = true → m'.Steps v v' →
    Between w v' ∧ ∀ n ≠ Note.stopRequested, Between (w.note n) v'
  limit : m.roundLimit ≤ m'.roundLimit
  /-- The first run is out of rounds and the second may have some left. -/
  exhaust : ∀ {w v v'}, During w v → w.isRunning = true → m'.Steps v v' →
    (m.roundLimit = m'.roundLimit → v' = { v with exhausted := true }) →
    Between { w with exhausted := true } v'

namespace Lockstep
variable {m : Interpreter σ} {m' : Interpreter τ} {During Between : World σ → World τ → Prop}
  (L : m.Lockstep m' During Between) {w : World σ} {v : World τ}
include L

section Blocks
variable (hd : During w v)
include hd

theorem log (level : LogLevel) (message : String) :
    During (w.log m.host level message) (v.log m'.host level message) := L.perform rfl hd

theorem render (transition : Duration) :
    During (w.render m.host transition) (v.render m'.host transition) := by
  unfold World.render
  rw [L.sprite_eq hd]
  exact L.perform rfl hd

theorem speak (s : Speech) : During (w.speak m.host s) (v.speak m'.host s) := L.perform rfl hd

theorem draw : (v.draw m'.host).1 = (w.draw m.host).1 ∧
    During (w.draw m.host).2 (v.draw m'.host).2 := by
  unfold World.draw
  rw [L.source_eq hd]
  exact ⟨rfl, L.perform rfl (L.source _ hd)⟩

theorem move : Between (m.move w) (m'.move v) := by
  simp only [Interpreter.move, L.settings, L.sprite_eq hd]
  exact L.sleep _ (L.log (L.render (L.sprite _ hd) _) _ _)

theorem turn (degrees : Float) : During (m.turn degrees w) (m'.turn degrees v) := by
  simp only [Interpreter.turn, L.sprite_eq hd]
  exact L.log (L.render (L.sprite _ hd) _) _ _

theorem say (s : Speech) : During (m.say s w) (m'.say s v) := L.log (L.speak hd s) _ _

theorem setVisible (visible : Bool) :
    During (m.setVisible visible w) (m'.setVisible visible v) := by
  simp only [Interpreter.setVisible, L.sprite_eq hd]
  exact L.log (L.render (L.sprite _ hd) _) _ _

theorem wait (p : Parameters) : Between (m.wait p w) (m'.wait p v) := L.sleep _ (L.log hd _ _)

theorem moveTo (p : Parameters) : Between (m.moveTo p w) (m'.moveTo p v) := by
  simp only [Interpreter.moveTo, L.settings, L.sprite_eq hd]
  exact L.sleep _ (L.log (L.render (L.sprite _ hd) _) _ _)

theorem glide (p : Parameters) : Between (m.glide p w) (m'.glide p v) := by
  obtain ⟨hx, hd⟩ := L.draw hd
  obtain ⟨hy, hd⟩ := L.draw hd
  simp only [Interpreter.glide, hx, hy, L.sprite_eq hd]
  exact L.sleep _ (L.log (L.render (L.sprite _ hd) _) _ _)

theorem sayCustom (p : Parameters) : Between (m.sayCustom p w) (m'.sayCustom p v) :=
  L.sleep _ (L.say hd _)

theorem changeSize (p : Parameters) : During (m.changeSize p w) (m'.changeSize p v) := by
  simp only [Interpreter.changeSize, L.sprite_eq hd]
  exact L.log (L.render (L.sprite _ hd) _) _ _

theorem evaluate (c : Condition) :
    (Interpreter.evaluate m'.host c v).1 = (Interpreter.evaluate m.host c w).1 ∧
      During (Interpreter.evaluate m.host c w).2 (Interpreter.evaluate m'.host c v).2 := by
  cases c with
  | always => exact ⟨rfl, hd⟩
  | spriteEdge => exact ⟨congrArg Sprite.isNearEdge (L.sprite_eq hd), hd⟩
  | mouseClicked => exact (L.draw hd).imp_left (congrArg (Random.happens _))
  | keyPressed => exact (L.draw hd).imp_left (congrArg (Random.happens _))

theorem logRound (done : Nat) : During (m.logRound done w) (m'.logRound done v) := by
  simp only [Interpreter.logRound, L.settings]
  split
  · exact L.log hd _ _
  · exact hd

end Blocks

/-- Both runs ask at the same place whether they go on. -/
theorem gate {w₁ : World σ} {v₁ : World τ} (hb : Between w v)
    (hrun : During w v → Between w₁ v₁) (hsteps : m'.Steps v (if v.isRunning then v₁ else v)) :
    Between (if w.isRunning then w₁ else w) (if v.isRunning then v₁ else v) := by
  by_cases hw : w.isRunning = true
  · obtain ⟨hv, hd⟩ := L.during hb hw
    rw [if_pos hw, if_pos hv]
    exact hrun hd
  · rw [if_neg hw]
    by_cases hv : v.isRunning = true
    · exact (L.ahead hb (Bool.not_eq_true _ ▸ hw) hv hsteps).1
    · rw [if_neg hv]
      exact hb

/-- The same where a run that ends here takes a note of it. -/
theorem gate_note {w₁ : World σ} {v₁ : World τ} {n : Note} (hn : n ≠ .stopRequested)
    (hb : Between w v) (hrun : w.isRunning = true → During w v → Between w₁ v₁)
    (hsteps : m'.Steps v (if v.isRunning then v₁ else v.note n)) :
    Between (if w.isRunning then w₁ else w.note n) (if v.isRunning then v₁ else v.note n) := by
  by_cases hw : w.isRunning = true
  · obtain ⟨hv, hd⟩ := L.during hb hw
    rw [if_pos hw, if_pos hv]
    exact hrun hw hd
  · rw [if_neg hw]
    by_cases hv : v.isRunning = true
    · exact (L.ahead hb (Bool.not_eq_true _ ▸ hw) hv hsteps).2 n hn
    · rw [if_neg hv]
      exact L.noteBetween hn hb

section Loops
variable {body : World σ → World σ} {body' : World τ → World τ}
  (hbody : ∀ {w v}, Between w v → Between (body w) (body' v)) (hsteps : ∀ v, m'.Steps v (body' v))
include hbody hsteps

theorem repeatRounds (times left : Nat) (hd : During w v) :
    Between (m.repeatRounds body times left w) (m'.repeatRounds body' times left v) := by
  induction left generalizing w v with
  | zero => exact L.between (L.log hd _ _)
  | succ left ih =>
    refine L.gate (L.between hd) (fun hd => ?_) (m'.steps_repeatRounds _ hsteps times (left + 1))
    refine L.gate (hbody (L.between (L.log hd _ _))) ih ?_
    split
    · exact m'.steps_repeatRounds _ hsteps times left
    · exact .refl

/-- The second loop has `more` rounds to go than the first. -/
theorem foreverRounds {more : Nat} (hmore : m.roundLimit = m'.roundLimit → more = 0)
    (fuel done : Nat) (hb : Between w v) :
    Between (m.foreverRounds body fuel done w) (m'.foreverRounds body' (fuel + more) done v) := by
  have hloop := fun v fuel done => m'.steps_foreverRounds v hsteps fuel done
  induction fuel generalizing done w v with
  | zero =>
    by_cases hw : w.isRunning = true
    · obtain ⟨hv, hd⟩ := L.during hb hw
      rw [Interpreter.foreverRounds, if_pos hw]
      refine L.exhaust hd hw (hloop v _ _) fun heq => ?_
      rw [hmore heq, Nat.zero_add, Interpreter.foreverRounds, if_pos hv]
    · rw [Interpreter.foreverRounds, if_neg hw]
      by_cases hv : v.isRunning = true
      · exact (L.ahead hb (Bool.not_eq_true _ ▸ hw) hv (hloop v _ _)).2 _ (by simp)
      · have hstay : m'.foreverRounds body' (0 + more) done v = v.note (.loopEnded done) := by
          cases more <;> simp only [Interpreter.foreverRounds, if_neg hv]
        rw [hstay]
        exact L.noteBetween (by simp) hb
  | succ fuel ih =>
    have hall := hloop v (fuel + more + 1) done
    rw [Nat.add_right_comm]
    rw [foreverRounds_succ] at hall ⊢
    rw [foreverRounds_succ]
    refine L.gate_note (by simp) hb (fun _ hd => ?_) hall
    have hround := hbody (L.between (L.logRound hd done))
    rw [L.settings]
    refine L.gate_note (by simp) hround (fun _ hd => ih (done + 1) (L.sleep _ hd)) ?_
    split
    · exact .trans (.single (.perform (.sleep _) (World.shows_of_no_frame rfl _))) (hloop _ _ _)
    · exact .single (.note _ (by simp))

end Loops

mutual
theorem exec : ∀ (b : Block) {w : World σ} {v : World τ}, During w v →
    Between (m.exec b w) (m'.exec b v)
  | ⟨id, opcode, params, children⟩, w, v, hd => by
    have hnote := L.note (n := .dispatch id opcode) (by simp) hd
    have hinside : ∀ {w v}, Between w v → Between (m.execAll children w) (m'.execAll children v) :=
      fun hb => execAll children hb
    have hsteps : ∀ v, m'.Steps v (m'.execAll children v) := fun v => m'.steps_execAll v children
    cases opcode with
    | move => exact L.move hnote
    | turnRight =>
      simp only [Interpreter.exec, L.settings]
      exact L.between (L.turn hnote _)
    | turnLeft =>
      simp only [Interpreter.exec, L.settings]
      exact L.between (L.turn hnote _)
    | say =>
      simp only [Interpreter.exec, L.settings]
      exact L.between (L.say hnote _)
    | showSprite => exact L.between (L.setVisible hnote _)
    | hideSprite => exact L.between (L.setVisible hnote _)
    | wait => exact L.wait hnote _
    | moveTo => exact L.moveTo hnote _
    | glide => exact L.glide hnote _
    | sayCustom => exact L.sayCustom hnote _
    | changeSize => exact L.between (L.changeSize hnote _)
    | whenClicked => exact L.between (L.log hnote _ _)
    | whenGreenFlag => exact L.between (L.log hnote _ _)
    | unknown tag => exact L.between (L.log hnote _ _)
    | repeatTimes =>
      simp only [Interpreter.exec, L.settings]
      split
      · exact L.between (L.log hnote _ _)
      · exact L.repeatRounds hinside hsteps _ _ (L.log hnote _ _)
    | forever =>
      simp only [Interpreter.exec]
      split
      · exact L.between (L.log hnote _ _)
      · have hlimit : m.roundLimit + (m'.roundLimit - m.roundLimit) = m'.roundLimit :=
          Nat.add_sub_cancel' L.limit
        rw [← hlimit]
        exact L.foreverRounds hinside hsteps (fun heq => by omega) _ _
          (L.between (L.log hnote _ _))
    | ifThen =>
      simp only [Interpreter.exec]
      obtain ⟨hmet, hd⟩ :=
        L.evaluate hnote (Condition.ofChoice (params.textOr "condition" "always"))
      rw [hmet]
      have hlog := fun c met message =>
        L.between (L.log (L.note (n := .evaluated c met) (by simp) hd) .execution message)
      split
      · exact hinside (hlog _ _ _)
      · exact hlog _ _ _

theorem execAll : ∀ (bs : List Block) {w : World σ} {v : World τ}, Between w v →
    Between (m.execAll bs w) (m'.execAll bs v)
  | [], w, v, hb => hb
  | b :: bs, w, v, hb => by
    simp only [Interpreter.execAll]
    exact L.gate hb (fun hd => execAll bs (exec b hd)) (m'.steps_execAll v (b :: bs))
end

theorem execSteps (total step : Nat) (bs : List Block) (hb : Between w v) :
    Between (m.execSteps total step bs w) (m'.execSteps total step bs v) := by
  induction bs generalizing step w v with
  | nil => exact hb
  | cons b bs ih =>
    refine L.gate hb (fun hd => ?_) (m'.steps_execSteps v total step (b :: bs))
    exact ih (step + 1) (L.exec b (L.log hd _ _))

theorem execChain (ws : Workspace) (place : Nat) (b : Block) (hd : During w v) :
    Between (m.execChain ws place b w) (m'.execChain ws place b v) := by
  simp only [Interpreter.execChain]
  split
  · exact L.execSteps _ _ _ (L.between (L.log hd _ _))
  · exact L.exec b (L.log hd _ _)

theorem execChains (ws : Workspace) (place : Nat) {bs : List Block} (hbs : bs ⊆ ws.blocks)
    (hb : Between w v) :
    Between (m.execChains ws place bs w) (m'.execChains ws place bs v) := by
  induction bs generalizing place w v with
  | nil => exact hb
  | cons b bs ih =>
    refine L.gate hb (fun hd => ?_) (m'.steps_execChains v place hbs)
    refine ih (place + 1) (List.subset_of_cons_subset hbs) ?_
    split
    · exact hb
    · exact L.execChain ws place b hd

theorem execProgram (ws : Workspace) (hd : During w v) :
    Between (m.execProgram ws w) (m'.execProgram ws v) := by
  have hstart := L.note (n := .runStarted ws.length) (by simp) hd
  refine L.execChains ws 1 (List.Subset.refl _) (L.between ?_)
  split
  · exact L.log (L.log hstart _ _) _ _
  · exact L.log (L.log hstart _ _) _ _

end Lockstep
end SpriteBlocks.Interpreter
