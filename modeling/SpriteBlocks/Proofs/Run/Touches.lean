import SpriteBlocks.Proofs.Run.Frames
import SpriteBlocks.Proofs.Run.Lines

/-!
# What blocks leave alone

Position, heading, size and visibility of the sprite are each changed by blocks
of their own kinds, and an error is written by blocks of unknown kind alone, one
by each. As a block that is begun changes the sprite once at most, this holds of
all the frames of a run and of its end.
-/
namespace SpriteBlocks

/-- A part of the sprite that blocks of certain kinds change. -/
inductive Sprite.Aspect where
  | position
  | heading
  | size
  | visibility
deriving DecidableEq

namespace Sprite

namespace Aspect

def Agrees : Aspect → Sprite → Sprite → Prop
  | position, s, t => s.x = t.x ∧ s.y = t.y
  | heading, s, t => s.rotation = t.rotation
  | size, s, t => s.size = t.size
  | visibility, s, t => s.visible = t.visible

theorem Agrees.refl (a : Aspect) (s : Sprite) : a.Agrees s s := by
  cases a with
  | position => exact ⟨rfl, rfl⟩
  | _ => rfl

theorem Agrees.trans {a : Aspect} {s t u : Sprite} (h : a.Agrees s t) (h' : a.Agrees t u) :
    a.Agrees s u := by
  cases a with
  | position => exact ⟨h.1.trans h'.1, h.2.trans h'.2⟩
  | _ => exact Eq.trans h h'

end Aspect

namespace Change

def aspect : Change → Aspect
  | place .. => .position
  | turn _ => .heading
  | grow _ => .size
  | appear _ => .visibility

/-- A change leaves the other parts alone. -/
theorem agrees_apply (c : Change) {a : Aspect} (ha : a ≠ c.aspect) (s : Sprite) :
    a.Agrees (c.apply s) s := by
  cases c with
  | place x y =>
    simp only [apply, Sprite.setPosition]
    split
    · cases a with
      | position => exact absurd rfl ha
      | _ => rfl
    · exact .refl a s
  | turn degrees =>
    simp only [apply, Sprite.turn]
    split
    · cases a with
      | position => exact ⟨rfl, rfl⟩
      | heading => exact absurd rfl ha
      | _ => rfl
    · exact .refl a s
  | grow delta =>
    simp only [apply, Sprite.changeSize]
    split
    · cases a with
      | position => exact ⟨rfl, rfl⟩
      | size => exact absurd rfl ha
      | _ => rfl
    · exact .refl a s
  | appear visible =>
    cases a with
    | position => exact ⟨rfl, rfl⟩
    | visibility => exact absurd rfl ha
    | _ => rfl

end Change
end Sprite

namespace Opcode

/-- The part of the sprite that blocks of this kind are for. -/
def aspect? : Opcode → Option Sprite.Aspect
  | move | moveTo | glide => some .position
  | turnRight | turnLeft => some .heading
  | changeSize => some .size
  | showSprite | hideSprite => some .visibility
  | _ => none

theorem showsFrame_eq (opcode : Opcode) : opcode.showsFrame = opcode.aspect?.isSome := by
  cases opcode <;> rfl

def complaint? : Opcode → Option LogEvent
  | unknown tag => some ⟨.error, "unknown block type: " ++ tag⟩
  | _ => none

end Opcode

namespace World
variable {σ : Type}

def errors (w : World σ) : Log := w.events.filter fun e => e.level = .error

@[simp] theorem errors_note (n : Note) (w : World σ) : (w.note n).errors = w.errors := by
  simp [errors]

@[simp] theorem errors_perform (h : Host σ) (e : Effect) (w : World σ) : (w.perform h e).errors =
    w.errors ++ e.event?.toList.filter fun e => e.level = .error := by
  simp [errors]

@[simp] theorem errors_sprite (sprite : Sprite) (w : World σ) :
    World.errors { w with sprite } = w.errors := rfl

@[simp] theorem errors_source (source : Random.Source) (w : World σ) :
    World.errors { w with source } = w.errors := rfl

end World

namespace Interpreter
variable {σ : Type} {m : Interpreter σ} {ws : Workspace} {w u v : World σ} {b : Block}

/-- A block that is begun makes one change at most, to the part that its kind is for. -/
theorem enter_changes (m : Interpreter σ) (b : Block) (w : World σ) :
    (m.enter b w).2.sprite = w.sprite ∨ ∃ c : Sprite.Change,
      b.opcode.aspect? = some c.aspect ∧ (m.enter b w).2.sprite = c.apply w.sprite := by
  obtain ⟨id, opcode, params, children⟩ := b
  have hnote : (w.note (.dispatch id opcode)).sprite = w.sprite := World.sprite_note _ _
  have hsame (e : Effect) (v : World σ) : (v.perform m.host e).sprite = v.sprite :=
    World.sprite_perform _ _ _
  have hshown (v : World σ) (d : Duration) (event : LogEvent) :
      ((v.render m.host d).perform m.host (.log event)).sprite = v.sprite :=
    (hsame _ _).trans (hsame _ _)
  rw [← hnote]
  cases opcode with
  | move => exact .inr ⟨.place _ _, rfl, (hsame _ _).trans (hshown _ _ _)⟩
  | moveTo => exact .inr ⟨.place _ _, rfl, (hsame _ _).trans (hshown _ _ _)⟩
  | glide =>
    have hdrawn := ((World.Still.refl (w.note (.dispatch id .glide))).drawn m.host 2).sprite
    exact .inr ⟨.place _ _, rfl, (hsame _ _).trans ((hshown _ _ _).trans
      (congrArg (Sprite.setPosition · _ _) hdrawn))⟩
  | turnRight => exact .inr ⟨.turn _, rfl, hshown _ _ _⟩
  | turnLeft => exact .inr ⟨.turn _, rfl, hshown _ _ _⟩
  | changeSize => exact .inr ⟨.grow _, rfl, hshown _ _ _⟩
  | showSprite => exact .inr ⟨.appear _, rfl, hshown _ _ _⟩
  | hideSprite => exact .inr ⟨.appear _, rfl, hshown _ _ _⟩
  | say => exact .inl ((hsame _ _).trans (hsame _ _))
  | sayCustom => exact .inl ((hsame _ _).trans ((hsame _ _).trans (hsame _ _)))
  | wait => exact .inl ((hsame _ _).trans (hsame _ _))
  | whenClicked => exact .inl (hsame _ _)
  | whenGreenFlag => exact .inl (hsame _ _)
  | unknown tag => exact .inl (hsame _ _)
  | repeatTimes =>
    left
    simp only [enter, exec]
    split <;> exact hsame _ _
  | forever =>
    left
    simp only [enter, exec]
    split <;> exact hsame _ _
  | ifThen =>
    left
    simp only [enter, snd_evaluate]
    exact (hsame _ _).trans ((World.sprite_note _ _).trans
      ((World.Still.refl _).drawn m.host _).sprite)

/-- A part that the kind of the block is not for stays as it is. -/
theorem agrees_enter (m : Interpreter σ) (w : World σ) {a : Sprite.Aspect}
    (ha : b.opcode.aspect? ≠ some a) : a.Agrees (m.enter b w).2.sprite w.sprite := by
  rcases m.enter_changes b w with hsame | ⟨c, hkind, hsprite⟩
  · rw [hsame]
    exact .refl a _
  · rw [hsprite]
    exact c.agrees_apply (fun heq => ha (hkind.trans (congrArg some heq.symm))) _

/-- A block that is begun writes an error if its kind is unknown, and otherwise none. -/
theorem errors_enter (m : Interpreter σ) (b : Block) (w : World σ) :
    (m.enter b w).2.errors = w.errors ++ b.opcode.complaint?.toList := by
  obtain ⟨id, opcode, params, children⟩ := b
  cases opcode with
  | repeatTimes =>
    simp only [enter, exec]
    split <;> simp [World.log, Effect.event?, Opcode.complaint?]
  | forever =>
    simp only [enter, exec]
    split <;> simp [World.log, Effect.event?, Opcode.complaint?]
  | ifThen =>
    have hasked (c : Condition) (v : World σ) : (evaluate m.host c v).2.errors = v.errors :=
      congrArg (List.filter _) (events_evaluate m.host c v)
    simp [enter, World.log, hasked, Effect.event?, Opcode.complaint?]
  | _ =>
    simp only [enter, exec, move, turn, say, setVisible, wait, moveTo, glide, sayCustom, changeSize,
      World.draw, World.render, World.log, World.sleep, World.speak, World.errors_perform,
      World.errors_note, World.errors_sprite, World.errors_source, Effect.event?,
      Opcode.complaint?]
    simp

theorem Routine.still (h : m.Routine u v) : u.Still v := by
  cases h.idles with
  | quiet hquiet => exact hquiet.still
  | pause d hpause => exact hpause ▸ .perform (.refl u) m.host rfl

theorem Routine.errors_eq (h : m.Routine u v) : v.errors = u.errors := by
  cases h with
  | same => rfl
  | line level message hlevel =>
    rcases hlevel with rfl | rfl <;> simp [World.log, Effect.event?]
  | loopEnded rounds => exact World.errors_note _ u
  | pause => simp [World.sleep, Effect.event?]
  | exhaust => rfl

end Interpreter

namespace World
variable {σ : Type} {w v : World σ} {beats : List Beat}

/-- What a run did since the first world: a part of the sprite without blocks of
its own was the same in all frames, and each block of unknown kind wrote its error. -/
structure Spared (w v : World σ) (beats : List Beat) : Prop where
  follows : w.Follows v beats
  kept : ∀ a : Sprite.Aspect, (∀ b ∈ beats, b.block.opcode.aspect? ≠ some a) →
    ∀ s ∈ beats.filterMap Beat.shown, a.Agrees s w.sprite
  errors : v.errors = w.errors ++ beats.filterMap fun b => b.block.opcode.complaint?

/-- A part of the sprite is the same in the end, and in every frame in between. -/
structure Unchanged (a : Sprite.Aspect) (w v : World σ) : Prop where
  sprite : a.Agrees v.sprite w.sprite
  frames : ∃ shown, v.frames.map Prod.fst = w.frames.map Prod.fst ++ shown ∧
    ∀ s ∈ shown, a.Agrees s w.sprite

/-- What dispatched blocks did to the sprite and to the errors in the log. -/
structure Touched (w v : World σ) (begun : List Block) : Prop where
  dispatches : v.dispatches = w.dispatches ++ begun.map fun b => (b.id, b.opcode)
  unchanged : ∀ a : Sprite.Aspect, (∀ b ∈ begun, b.opcode.aspect? ≠ some a) → Unchanged a w v
  /-- Without blocks that are for a part of the sprite, it is not even shown. -/
  untouched : (∀ b ∈ begun, b.opcode.aspect? = none) →
    v.sprite = w.sprite ∧ v.frames.map Prod.fst = w.frames.map Prod.fst
  /-- Each block of unknown kind has its error, in order. -/
  errors : v.errors = w.errors ++ begun.filterMap fun b => b.opcode.complaint?
  counted : v.errors.length =
    w.errors.length + begun.countP fun b => b.opcode.complaint?.isSome

/-- What a program of the blocks does to the sprite and to the errors, whichever
of the blocks it dispatches. -/
structure Confined (nodes : List Block) (w v : World σ) : Prop where
  unchanged : ∀ a : Sprite.Aspect, (∀ b ∈ nodes, b.opcode.aspect? ≠ some a) → Unchanged a w v
  untouched : (∀ b ∈ nodes, b.opcode.aspect? = none) →
    v.sprite = w.sprite ∧ v.frames.map Prod.fst = w.frames.map Prod.fst
  touched : ∃ begun ⊆ nodes, w.Touched v begun

theorem Touched.confined {begun nodes : List Block} (h : w.Touched v begun)
    (hbegun : begun ⊆ nodes) : w.Confined nodes v where
  unchanged a ha := h.unchanged a fun b hb => ha b (hbegun hb)
  untouched hnone := h.untouched fun b hb => hnone b (hbegun hb)
  touched := ⟨begun, hbegun, h⟩

namespace Spared

theorem refl (w : World σ) : w.Spared w [] := ⟨.refl w, by simp, by simp⟩

theorem still (h : w.Spared v beats) {u : World σ} (hstill : v.Still u)
    (herrors : u.errors = v.errors) : w.Spared u beats :=
  ⟨h.follows.still hstill, h.kept, herrors.trans h.errors⟩

theorem sprite (h : w.Spared v beats) {a : Sprite.Aspect}
    (ha : ∀ b ∈ beats, b.block.opcode.aspect? ≠ some a) : a.Agrees v.sprite w.sprite := by
  rw [h.follows.sprite]
  cases hlast : (beats.filterMap Beat.shown).getLast? with
  | none => exact .refl a _
  | some s => exact h.kept a ha s (List.mem_of_getLast? hlast)

theorem touched (h : w.Spared v beats) : w.Touched v (beats.map Beat.block) := by
  have hframes : v.frames.map Prod.fst = w.frames.map Prod.fst ++ beats.filterMap Beat.shown := by
    rw [map_fst_frames, map_fst_frames, h.follows.cues, List.filterMap_append,
      filterMap_shown?_beats]
  have herrors : v.errors =
      w.errors ++ (beats.map Beat.block).filterMap fun b => b.opcode.complaint? := by
    rw [h.errors, List.filterMap_map]
    rfl
  refine
    { dispatches := ?_
      unchanged := fun a ha => ?_
      untouched := fun hnone => ?_
      errors := herrors
      counted := by rw [herrors, List.length_append, List.length_filterMap_eq_countP] }
  · rw [dispatches_eq, dispatches_eq, h.follows.cues, List.filterMap_append,
      filterMap_dispatched?_beats, List.map_map]
    rfl
  · have hbeats : ∀ b ∈ beats, b.block.opcode.aspect? ≠ some a := fun b hb =>
      ha b.block (List.mem_map_of_mem hb)
    exact ⟨h.sprite hbeats, _, hframes, h.kept a hbeats⟩
  · have hshown : beats.filterMap Beat.shown = [] := by
      refine List.filterMap_eq_nil_iff.2 fun b hb => Option.not_isSome_iff_eq_none.1 ?_
      rw [h.follows.kinds b hb, Opcode.showsFrame_eq, hnone b.block (List.mem_map_of_mem hb)]
      exact Bool.false_ne_true
    have hsprite := h.follows.sprite
    rw [hshown] at hframes hsprite
    exact ⟨hsprite, hframes.trans (List.append_nil _)⟩

end Spared
end World

namespace Interpreter
variable {σ : Type} {m : Interpreter σ} {ws : Workspace} {w v : World σ} {b : Block}

theorem spared_enter {beats : List Beat} (h : w.Spared v beats) (hv : v.exhausted = false)
    (b : Block) : ∃ shown, w.Spared (m.enter b v).2 (beats ++ [⟨b, shown⟩]) := by
  obtain ⟨shown, hkind, hcues, hsprite⟩ := m.exists_beat b hv
  refine ⟨shown, h.follows.beat hkind hcues hsprite, fun a ha s hs => ?_, ?_⟩
  · obtain ⟨hbeats, hlast⟩ := List.forall_mem_append.1 ha
    rw [List.filterMap_append] at hs
    rcases List.mem_append.1 hs with hs | hs
    · exact h.kept a hbeats s hs
    · -- The new frame shows the sprite behind the block.
      obtain rfl : shown = some s := by simpa using hs
      rw [Option.getD_some] at hsprite
      rw [← hsprite]
      exact (m.agrees_enter v (hlast _ (List.mem_singleton_self _))).trans (h.sprite hbeats)
  · rw [errors_enter, h.errors, List.append_assoc, List.filterMap_append]
    cases hc : b.opcode.complaint? <;> simp [hc]

/-- The blocks of the program that were begun left alone what they are not for. -/
theorem retains_spared (m : Interpreter σ) (ws : Workspace) (w : World σ) :
    m.Retains ws fun begun v => begun ⊆ Block.nodesIn ws.blocks ∧
      ∃ beats, beats.map Beat.block = begun ∧ w.Spared v beats where
  routine hroutine := fun ⟨hbegun, beats, hbeats, hv⟩ =>
    ⟨hbegun, beats, hbeats, hv.still hroutine.still hroutine.errors_eq⟩
  enter {begun v b} hfresh hb := by
    rintro ⟨hbegun, beats, rfl, hv⟩
    obtain ⟨shown, hentered⟩ := spared_enter (m := m) hv hfresh b
    exact ⟨List.append_subset.2 ⟨hbegun, by simpa using hb⟩, _, List.map_append, hentered⟩

theorem errors_opened (m : Interpreter σ) (ws : Workspace) (w : World σ) :
    (m.opened ws w).errors = w.errors := by
  have hflag : World.errors { w with flag := .running } = w.errors := rfl
  simp only [opened]
  split <;> simp [World.log, Effect.event?, hflag]

theorem errors_finish (m : Interpreter σ) (w : World σ) : (m.finish w).1.errors = w.errors := by
  have hending : (ending w.flag).1.level ≠ .error := by cases w.flag <;> simp [ending]
  simp [World.errors, World.events, effects_finish, Effect.event?, hending]

theorem confined_run (m : Interpreter σ) (ws : Workspace) (w : World σ) :
    w.Confined (Block.nodesIn ws.blocks) (m.run ws w).1 := by
  have hopened := (World.Spared.refl w).still (m.quiet_opened ws w).still (m.errors_opened ws w)
  have hrefused := (World.Spared.refl w).still ((World.Still.refl w).note rfl)
    (World.errors_note .runRefused w)
  obtain ⟨_, hbegun, beats, rfl, hv⟩ := (m.retains_spared ws w).run
    ⟨List.nil_subset _, [], rfl, hopened⟩
    (fun ⟨hbegun, beats, hbeats, hv⟩ =>
      ⟨hbegun, beats, hbeats, hv.still (m.quiet_finish _).still (m.errors_finish _)⟩)
    ⟨List.nil_subset _, [], rfl, hrefused⟩
  exact hv.touched.confined hbegun

theorem confined_exec (m : Interpreter σ) (b : Block) (hw : w.exhausted = false) :
    w.Confined b.nodes (m.exec b w) := by
  -- The machine works the block off as the only one of a program.
  let ws : Workspace := { Workspace.empty 0 with blocks := [b] }
  have hnodes : Block.nodesIn ws.blocks = b.nodes := List.append_nil _
  have hworks : m.WorksOff ws (m.enter b w).1 (m.enter b w).2 (m.exec b w) := worksOff_enter b w
  obtain ⟨more, hreaches⟩ := hworks [] [b]
  obtain ⟨shown, hentered⟩ := spared_enter (m := m) (World.Spared.refl w) hw b
  obtain ⟨-, hbegun, beats, hbeats, hv⟩ := (m.retains_spared ws w).reaches hreaches
    (within_begin (m := m) (b := b) (fun x hx => hnodes ▸ hx) (within_nil ws) [] w)
    ⟨by simpa [hnodes] using b.self_mem_nodes, _, rfl, hentered⟩
  rw [hnodes] at hbegun
  exact hv.touched.confined (hbeats ▸ hbegun)

/-- A part of the sprite for which a program has no block, at whatever depth, is
the same in every frame and in the end, and a sprite for which it has none is not
even shown. A block of unknown kind writes one error and does nothing else, and
the errors of a run are those of its dispatched blocks of unknown kind. -/
theorem run_confined (m : Interpreter σ) :
    (∀ (ws : Workspace) (w : World σ), w.Confined (Block.nodesIn ws.blocks) (m.run ws w).1) ∧
    (∀ (b : Block) (w : World σ), w.exhausted = false → w.Confined b.nodes (m.exec b w)) ∧
    ∀ (id : BlockId) (tag : String) (p : Parameters) (children : List Block) (w : World σ),
      let v := m.exec ⟨id, .unknown tag, p, children⟩ w
      let line : LogEvent := ⟨.error, "unknown block type: " ++ tag⟩
      v.effects = w.effects ++ [.log line] ∧ v.sprite = w.sprite ∧ v.source = w.source ∧
        v.exhausted = w.exhausted ∧
        ((m.host.respond w.host w.flag (.log line)).2 = false → v.flag = w.flag) := by
  refine ⟨m.confined_run, fun b w hw => m.confined_exec b hw, fun id tag p children w => ?_⟩
  simp only [exec, World.log]
  exact ⟨by simp, by simp, by simp, by simp, fun hpress => by simp [World.flag_perform, hpress]⟩

/-- A loop that turns the sprite next to a block of unknown kind, stopped in its
second round, and a container with such a block alone. -/
theorem run_confined_turns :
    let ws := Edit.applyAll (Workspace.empty 20.0) [.add .repeatTimes ∅,
      .addChild ⟨1⟩ .turnRight ∅, .addChild ⟨1⟩ (.unknown "spin") ∅, .addChild ⟨1⟩ .wait ∅]
    let m := Session.interpreter {}
    let w := Session.world { clock := .manual { stopAt := some (.ofMillis 1500) } } .idle {}
      (.cycle #[])
    let b : Block := ⟨⟨1⟩, .ifThen, ∅, [⟨⟨2⟩, .unknown "spin", ∅, []⟩]⟩
    (∀ a : Sprite.Aspect, a ≠ .heading → w.Unchanged a (m.run ws w).1) ∧
      (m.run ws w).1.frames.length = 2 ∧ (m.run ws w).1.errors.length = 2 ∧
      (m.exec b { w with flag := .running }).sprite = w.sprite ∧
      (m.exec b { w with flag := .running }).errors = [⟨.error, "unknown block type: spin"⟩] := by
  intro ws m w b
  obtain ⟨hrun, hexec, -⟩ := run_confined m
  have hkinds : ∀ b ∈ Block.nodesIn ws.blocks, ∀ a, b.opcode.aspect? = some a → a = .heading := by
    decide +kernel
  refine ⟨fun a ha => (hrun ws w).unchanged a fun b hb heq => ha (hkinds b hb a heq),
    by decide +kernel, by decide +kernel, ?_, by decide +kernel⟩
  exact ((hexec b { w with flag := .running } rfl).untouched (by decide)).1

end Interpreter
end SpriteBlocks
