import SpriteBlocks.Proofs.Run.Dispatch

/-!
# What a block does

A dispatched block takes the random words that it declares and then does one of
four things up to the next question: it changes the sprite, shows it and writes
a line, it speaks and writes a line, it writes a line, or it decides a condition.
A block that sleeps does so at the very end.
-/
namespace SpriteBlocks

def Opcode.showsFrame : Opcode → Bool
  | .move | .turnRight | .turnLeft | .showSprite | .hideSprite | .moveTo | .glide
  | .changeSize => true
  | _ => false

namespace Block

def condition (b : Block) : Condition := .ofChoice (b.params.textOr "condition" "always")

/-- How many random words the block takes when it is executed. -/
def draws (b : Block) : Nat :=
  match b.opcode with
  | .glide => 2
  | .ifThen => if b.condition.isRandom then 1 else 0
  | _ => 0

theorem draws_eq_zero_iff (b : Block) : b.draws = 0 ↔
    b.opcode ≠ .glide ∧ (b.opcode = .ifThen → b.condition.isRandom = false) := by
  unfold draws
  split
  · next h => simp [h]
  · next h => simp [h]
  · next hglide hif => exact iff_of_true rfl ⟨hglide, fun h => absurd h hif⟩

theorem draws_eq (b : Block) : b.draws = 2 * [b].countP (fun b => b.opcode = .glide) +
    [b].countP fun b => b.opcode = .ifThen && b.condition.isRandom := by
  unfold draws
  split
  · next h => simp [h]
  · next h => cases hrandom : b.condition.isRandom <;> simp [h, hrandom]
  · next hglide hif =>
    have hne : b.opcode ≠ .glide ∧ b.opcode ≠ .ifThen := ⟨hglide, hif⟩
    simp [hne]

end Block

def Note.dispatched? : Note → Option (BlockId × Opcode)
  | dispatch id opcode => some (id, opcode)
  | _ => none

namespace World
variable {σ : Type}

def drawn (h : Host σ) : Nat → World σ → World σ
  | 0, w => w
  | n + 1, w => ((w.drawn h n).draw h).2

/-- What no draw changes is the same behind any number of draws. -/
theorem drawn_keeps {P : World σ → Prop} (h : Host σ) (hdraw : ∀ w, P w → P (w.draw h).2) (n : Nat)
    {w : World σ} (hw : P w) : P (w.drawn h n) := by
  induction n with
  | zero => exact hw
  | succ n ih => exact hdraw _ ih

theorem exhausted_drawn (h : Host σ) (n : Nat) (w : World σ) :
    (w.drawn h n).exhausted = w.exhausted :=
  drawn_keeps (P := fun v => v.exhausted = w.exhausted) h
    (fun _ hv => (exhausted_perform _ _ _).trans hv) n rfl

theorem source_drawn (h : Host σ) (n : Nat) (w : World σ) :
    (w.drawn h n).source = { w.source with position := w.source.position + n } := by
  induction n with
  | zero => rfl
  | succ n ih => rw [drawn, draw, source_perform, ih, Random.Source.advance, Nat.add_assoc]

def dispatches (w : World σ) : List (BlockId × Opcode) :=
  w.trace fun entry => entry.note?.bind Note.dispatched?

@[simp] theorem dispatches_perform (h : Host σ) (e : Effect) (w : World σ) :
    (w.perform h e).dispatches = w.dispatches := trace_perform_of_none w rfl h rfl

@[simp] theorem dispatches_drawn (h : Host σ) (n : Nat) (w : World σ) :
    (w.drawn h n).dispatches = w.dispatches :=
  drawn_keeps (P := fun v => v.dispatches = w.dispatches) h
    (fun _ hv => (dispatches_perform _ _ _).trans hv) n rfl

end World

namespace Interpreter
variable {σ : Type}

/-- What a block does behind its dispatch, apart from a sleep at its end. -/
inductive Does (m : Interpreter σ) (b : Block) (w : World σ) : World σ → Prop
  | frame (sprite : Sprite) (transition : Duration) (event : LogEvent)
    (hkind : b.opcode.showsFrame = true) : Does m b w
      ((World.render m.host transition { w.drawn m.host b.draws with sprite }).perform m.host
        (.log event))
  | speech (speech : Speech) (event : LogEvent) (hkind : b.opcode.showsFrame = false)
    (hdraws : b.draws = 0) (hif : b.opcode ≠ .ifThen) :
    Does m b w ((w.speak m.host speech).perform m.host (.log event))
  | line (event : LogEvent) (hkind : b.opcode.showsFrame = false) (hdraws : b.draws = 0)
    (hif : b.opcode ≠ .ifThen) : Does m b w (w.perform m.host (.log event))
  | ask (met : Bool) (event : LogEvent) (hif : b.opcode = .ifThen) : Does m b w
      (((w.drawn m.host b.draws).note (.evaluated b.condition met)).perform m.host (.log event))

theorem snd_evaluate (h : Host σ) (c : Condition) (w : World σ) :
    (evaluate h c w).2 = w.drawn h (if c.isRandom then 1 else 0) := by
  cases c <;> rfl

/-- Up to the next question a block does one thing, and it sleeps at most once and last. -/
theorem enter_cases (m : Interpreter σ) (b : Block) (w : World σ) :
    ∃ v, m.Does b (w.note (.dispatch b.id b.opcode)) v ∧
      ((m.enter b w).2 = v ∨ ∃ d, (m.enter b w).2 = v.sleep m.host d) := by
  obtain ⟨id, opcode, params, children⟩ := b
  cases opcode with
  | move => exact ⟨_, .frame _ _ _ rfl, .inr ⟨_, rfl⟩⟩
  | turnRight => exact ⟨_, .frame _ _ _ rfl, .inl rfl⟩
  | turnLeft => exact ⟨_, .frame _ _ _ rfl, .inl rfl⟩
  | showSprite => exact ⟨_, .frame _ _ _ rfl, .inl rfl⟩
  | hideSprite => exact ⟨_, .frame _ _ _ rfl, .inl rfl⟩
  | changeSize => exact ⟨_, .frame _ _ _ rfl, .inl rfl⟩
  | moveTo => exact ⟨_, .frame _ _ _ rfl, .inr ⟨_, rfl⟩⟩
  | glide => exact ⟨_, .frame _ _ _ rfl, .inr ⟨_, rfl⟩⟩
  | say => exact ⟨_, .speech _ _ rfl rfl (by simp), .inl rfl⟩
  | sayCustom => exact ⟨_, .speech _ _ rfl rfl (by simp), .inr ⟨_, rfl⟩⟩
  | wait => exact ⟨_, .line _ rfl rfl (by simp), .inr ⟨_, rfl⟩⟩
  | whenClicked => exact ⟨_, .line _ rfl rfl (by simp), .inl rfl⟩
  | whenGreenFlag => exact ⟨_, .line _ rfl rfl (by simp), .inl rfl⟩
  | unknown tag => exact ⟨_, .line _ rfl rfl (by simp), .inl rfl⟩
  | repeatTimes =>
    by_cases hempty : children.isEmpty = true
    · simp only [enter, exec, if_pos hempty]
      exact ⟨_, .line _ rfl rfl (by simp), .inl rfl⟩
    · simp only [enter, if_neg hempty]
      exact ⟨_, .line _ rfl rfl (by simp), .inl rfl⟩
  | forever =>
    by_cases hempty : children.isEmpty = true
    · simp only [enter, exec, if_pos hempty]
      exact ⟨_, .line _ rfl rfl (by simp), .inl rfl⟩
    · simp only [enter, if_neg hempty]
      exact ⟨_, .line _ rfl rfl (by simp), .inl rfl⟩
  | ifThen =>
    simp only [enter, snd_evaluate]
    exact ⟨_, .ask _ _ rfl, .inl rfl⟩

end Interpreter
end SpriteBlocks
