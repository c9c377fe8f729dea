import SpriteBlocks.Proofs.Run.Steps

/-!
# The lines of blocks

A block that is no container writes one line; a container writes lines of its
own around those of the blocks inside. Levels and messages tell all of them from
the last line of a run.
-/
namespace SpriteBlocks

def LogEvent.isOfBlock (e : LogEvent) : Bool :=
  match e.level with
  | .execution | .info | .error => true
  | .warning => e.message = "repeat block is empty" || e.message = "forever block is empty"
  | .success => e.message = "repeat finished"
  | .connection => false

namespace World
variable {σ : Type} {w u v : World σ}

@[simp] theorem events_note (n : Note) (w : World σ) : (w.note n).events = w.events := by
  simp [events]

@[simp] theorem events_perform (h : Host σ) (e : Effect) (w : World σ) :
    (w.perform h e).events = w.events ++ e.event?.toList := by
  cases he : e.event? <;> simp [events, he]

@[simp] theorem events_sprite (sprite : Sprite) (w : World σ) :
    World.events { w with sprite } = w.events := rfl

@[simp] theorem events_source (source : Random.Source) (w : World σ) :
    World.events { w with source } = w.events := rfl

/-- What was written between the two worlds are lines of blocks. -/
def Speaks (w v : World σ) : Prop :=
  ∃ es : Log, v.events = w.events ++ es ∧ ∀ e ∈ es, e.isOfBlock = true

theorem Speaks.refl (w : World σ) : Speaks w w := ⟨[], by simp, by simp⟩

theorem Speaks.trans (hu : Speaks w u) (hv : Speaks u v) : Speaks w v := by
  obtain ⟨es, hes, hlines⟩ := hu
  obtain ⟨fs, hfs, hlines'⟩ := hv
  refine ⟨es ++ fs, by rw [hfs, hes, List.append_assoc], fun e he => ?_⟩
  exact (List.mem_append.1 he).elim (hlines e) (hlines' e)

theorem Speaks.of_eq (h : v.events = w.events) : Speaks w v := ⟨[], by simp [h], by simp⟩

theorem Speaks.note (h : Speaks w v) (n : Note) : Speaks w (v.note n) :=
  h.trans (.of_eq (events_note n v))

theorem Speaks.sleep (h : Speaks w v) (host : Host σ) (d : Duration) :
    Speaks w (v.sleep host d) :=
  h.trans (.of_eq (by simp [World.sleep, Effect.event?]))

theorem Speaks.log (h : Speaks w v) (host : Host σ) (level : LogLevel) (message : String)
    (hline : LogEvent.isOfBlock ⟨level, message⟩ = true) :
    Speaks w (v.log host level message) :=
  h.trans ⟨[⟨level, message⟩], by simp [World.log, Effect.event?], by simpa using hline⟩

end World

namespace Interpreter
variable {σ : Type} (m : Interpreter σ)

theorem events_evaluate (h : Host σ) (c : Condition) (w : World σ) :
    (evaluate h c w).2.events = w.events := by
  cases c with
  | always => rfl
  | spriteEdge => rfl
  | mouseClicked => exact (World.events_perform h _ _).trans (List.append_nil _)
  | keyPressed => exact (World.events_perform h _ _).trans (List.append_nil _)

/-- A block that is no container writes one line. -/
theorem events_exec_of_leaf {b : Block} (hb : b.isContainer = false) (w : World σ) :
    ∃ line, (m.exec b w).events = w.events ++ [line] ∧ line.isOfBlock = true := by
  obtain ⟨id, opcode, params, children⟩ := b
  cases opcode with
  | repeatTimes => cases hb
  | forever => cases hb
  | ifThen => cases hb
  | _ =>
    simp only [exec, move, turn, say, setVisible, wait, moveTo, glide, sayCustom, changeSize,
      World.draw, World.render, World.log, World.sleep, World.speak, World.events_perform,
      World.events_note, World.events_sprite, World.events_source, Effect.event?, Option.toList,
      List.append_nil]
    exact ⟨_, rfl, rfl⟩

theorem speaks_exec_of_leaf {b : Block} (hb : b.isContainer = false) (w : World σ) :
    w.Speaks (m.exec b w) := by
  obtain ⟨line, hevents, hline⟩ := m.events_exec_of_leaf hb w
  exact ⟨[line], hevents, by simpa using hline⟩

theorem speaks_repeatRounds {body : World σ → World σ} (hbody : ∀ w : World σ, w.Speaks (body w))
    (times left : Nat) (w : World σ) : w.Speaks (m.repeatRounds body times left w) := by
  induction left generalizing w with
  | zero => exact (World.Speaks.refl w).log m.host _ _ (by decide)
  | succ left ih =>
    simp only [repeatRounds]
    split
    · have hround := fun message =>
        ((World.Speaks.refl w).log m.host .execution message rfl).trans (hbody _)
      split
      · exact (hround _).trans (ih _)
      · exact hround _
    · exact .refl w

theorem speaks_logRound (done : Nat) (w : World σ) : w.Speaks (m.logRound done w) := by
  simp only [logRound]
  split
  · exact (World.Speaks.refl w).log m.host _ _ rfl
  · exact .refl w

theorem speaks_foreverRounds {body : World σ → World σ} (hbody : ∀ w : World σ, w.Speaks (body w))
    (fuel done : Nat) (w : World σ) : w.Speaks (m.foreverRounds body fuel done w) := by
  induction fuel generalizing done w with
  | zero =>
    rw [foreverRounds]
    split
    · exact .of_eq rfl
    · exact (World.Speaks.refl w).note _
  | succ fuel ih =>
    have hround := (m.speaks_logRound done w).trans (hbody _)
    rw [foreverRounds_succ]
    split
    · split
      · exact (hround.sleep m.host _).trans (ih _ _)
      · exact hround.note _
    · exact (World.Speaks.refl w).note _

mutual
theorem speaks_exec : ∀ (b : Block) (w : World σ), w.Speaks (m.exec b w)
  | ⟨id, opcode, params, children⟩, w => by
    have hnote := (World.Speaks.refl w).note (.dispatch id opcode)
    cases opcode with
    | repeatTimes =>
      simp only [exec]
      split
      · exact hnote.log m.host _ _ (by decide)
      · exact (hnote.log m.host .execution _ rfl).trans
          (m.speaks_repeatRounds (speaks_execAll children) _ _ _)
    | forever =>
      simp only [exec]
      split
      · exact hnote.log m.host _ _ (by decide)
      · exact (hnote.log m.host .execution _ rfl).trans
          (m.speaks_foreverRounds (speaks_execAll children) _ _ _)
    | ifThen =>
      have hdecided := fun c met => (hnote.trans (.of_eq (events_evaluate m.host c _))).note
        (.evaluated c met)
      simp only [exec]
      split
      · exact ((hdecided _ _).log m.host .execution _ rfl).trans (speaks_execAll children _)
      · exact (hdecided _ _).log m.host _ _ rfl
    | _ => exact m.speaks_exec_of_leaf rfl w

theorem speaks_execAll : ∀ (bs : List Block) (w : World σ), w.Speaks (m.execAll bs w)
  | [], w => .refl w
  | b :: bs, w => by
    rw [execAll]
    split
    · exact (speaks_exec b w).trans (speaks_execAll bs _)
    · exact .refl w
end

end Interpreter
end SpriteBlocks
