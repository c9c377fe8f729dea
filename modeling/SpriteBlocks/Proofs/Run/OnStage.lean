import SpriteBlocks.Proofs.Run.Steps
import SpriteBlocks.Run.Session
import SpriteBlocks.Workspace.Edit

/-!
# Runs stay on the stage

Every step of a run changes the sprite by one of its changes or not at all, and
a frame shows the sprite as it is. So a run that begins with a sprite within the
bounds shows no frame out of them, whatever the settings, the values in the
slots and the random words are, and whenever stop is pressed.
-/
namespace SpriteBlocks

namespace World
variable {σ : Type} {w v : World σ}

theorem frames_note (n : Note) (w : World σ) : (w.note n).frames = w.frames := by
  simp [frames]

theorem frames_perform (h : Host σ) (e : Effect) (w : World σ) :
    (w.perform h e).frames = w.frames ++ e.frame?.toList := by
  cases he : e.frame? <;> simp [frames, he]

/-- The sprite is within the bounds, and so are the frames shown since the first world. -/
def StaysOnStage (w v : World σ) : Prop :=
  v.sprite.InBounds ∧ ∃ shown, v.frames = w.frames ++ shown ∧ ∀ f ∈ shown, f.1.InBounds

namespace StaysOnStage

theorem refl (h : w.sprite.InBounds) : StaysOnStage w w := ⟨h, [], by simp, by simp⟩

theorem note (h : StaysOnStage w v) (n : Note) : StaysOnStage w (v.note n) := by
  simpa only [StaysOnStage, sprite_note, frames_note] using h

/-- If the effect is a frame, then it is one of the sprite, which is within the bounds. -/
theorem perform (h : StaysOnStage w v) (host : Host σ) {e : Effect} (he : v.Shows e) :
    StaysOnStage w (v.perform host e) := by
  obtain ⟨hsprite, shown, hshown, hframes⟩ := h
  refine ⟨by rwa [sprite_perform], shown ++ e.frame?.toList, ?_, ?_⟩
  · rw [frames_perform, hshown, List.append_assoc]
  · intro f hf
    rcases List.mem_append.1 hf with hf | hf
    · exact hframes f hf
    · rw [Option.mem_toList] at hf
      exact he f hf ▸ hsprite

end StaysOnStage
end World

namespace Interpreter
variable {σ : Type} (m : Interpreter σ)

theorem keeps_staysOnStage (w : World σ) : m.Keeps w.StaysOnStage where
  note _ h := h.note _
  perform _ he h := h.perform m.host he
  sprite c h := ⟨h.1.apply c, h.2⟩
  source h := h

theorem staysOnStage_execProgram (ws : Workspace) {w : World σ} (h : w.sprite.InBounds) :
    w.StaysOnStage (m.execProgram ws w) :=
  execProgram_keeps (fun _ : Unit => m.keeps_staysOnStage w)
    (fun _ _ _ _ _ hbody _ _ hv =>
      (m.keeps_staysOnStage w).foreverRounds (fun _ _ hv => hv) (hbody ()) _ _ hv)
    () w (.refl h)

theorem staysOnStage_finish {w v : World σ} (h : w.StaysOnStage v) :
    w.StaysOnStage (m.finish v).1 := by
  have hflag : w.StaysOnStage { v with flag := .idle } := h
  rw [finish_eq]
  exact (hflag.perform m.host (World.shows_of_no_frame rfl _)).note _

/-- A run that begins with a sprite within the bounds ends with one and shows no
other. No number that is drawn or computed leads out of them, and a new position
counts for both coordinates or for neither. -/
theorem run_staysOnStage (ws : Workspace) (w : World σ) (h : w.sprite.InBounds) :
    w.StaysOnStage (m.run ws w).1 ∧
      (∀ (s : Sprite) (c : Sprite.Change), s.InBounds → (c.apply s).InBounds) ∧
      (∀ (s : Sprite) (x y : Float),
        x.isFinite = true ∧ y.isFinite = true ∧ s.setPosition x y =
            { s with
              x := Sprite.clamp Sprite.stageMin Sprite.stageMax x
              y := Sprite.clamp Sprite.stageMin Sprite.stageMax y } ∨
          (x.isFinite = false ∨ y.isFinite = false) ∧ s.setPosition x y = s) ∧
      (∀ (s : Sprite) (steps : Float), ∃ x y, s.advance steps = s.setPosition x y) ∧
      ∀ (s : Sprite) (x y : Float), ∃ x' y', s.moveToLogical x y = s.setPosition x' y' := by
  refine ⟨?_, fun _ c hs => hs.apply c, Sprite.setPosition_eq, fun _ _ => ⟨_, _, rfl⟩,
    fun _ _ _ => ⟨_, _, rfl⟩⟩
  by_cases hflag : w.flag = .idle
  · have hprogram : w.StaysOnStage (m.runProgram ws w) :=
      m.staysOnStage_execProgram ws (w := { w with flag := .running }) h
    rw [run_of_idle hflag]
    split
    · exact hprogram
    · exact m.staysOnStage_finish hprogram
  · rw [run_of_not_idle hflag]
    exact (World.StaysOnStage.refl h).note _

/-- A sprite at the border of the stage, turns that overflow, and a target that
is not finite. -/
theorem run_staysOnStage_overflow :
    let huge := Float.ofBits 0x7fe1ccf385ebc8a0
    let ws := Edit.applyAll (Workspace.empty 20.0) [.add .repeatTimes ∅,
      .addChild ⟨1⟩ .turnRight ∅, .addChild ⟨1⟩ .move ∅, .addChild ⟨1⟩ .glide ∅]
    let m := Session.interpreter
      { turnDegrees := huge, moveStep := Float.ofBits 0x7ff8000000000000 }
    let w := Session.world { clock := .manual {} } .idle { x := 0.0, y := 100.0, rotation := huge }
      (.ofSeed 7)
    w.sprite.InBounds ∧ huge.isFinite = true ∧ (huge + huge).isFinite = false ∧
      w.StaysOnStage (m.run ws w).1 := by
  intro huge ws m w
  have hstart : w.sprite.InBounds := ⟨by decide, by decide, by decide, by decide⟩
  exact ⟨hstart, by decide, by decide, (m.run_staysOnStage ws w hstart).1⟩

end Interpreter
end SpriteBlocks
