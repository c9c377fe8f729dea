import SpriteBlocks.Proofs.Run.Sleeps
import SpriteBlocks.Run.Session
import SpriteBlocks.Workspace.Edit

/-!
# Frames of a run

A block that acts on the sprite shows one frame of it, right after it was
dispatched and before it does anything else that takes time; no other block
shows one. So wherever a run sleeps, and at its end, the sprite is the one that
was shown last, and there are as many frames as dispatched blocks of these kinds.
-/
namespace SpriteBlocks

/-- An entry of the journal that is a dispatch or a frame. -/
inductive Cue where
  | dispatched (id : BlockId) (opcode : Opcode)
  | shown (sprite : Sprite)

namespace Cue

def dispatched? : Cue → Option (BlockId × Opcode)
  | dispatched id opcode => some (id, opcode)
  | shown _ => none

def shown? : Cue → Option Sprite
  | dispatched .. => none
  | shown sprite => some sprite

end Cue

def Entry.cue? : Entry → Option Cue
  | .note (.dispatch id opcode) => some (.dispatched id opcode)
  | .effect (.frame sprite _) => some (.shown sprite)
  | _ => none

namespace World
variable {σ : Type}

def cues (w : World σ) : List Cue := w.trace Entry.cue?

theorem dispatches_eq (w : World σ) : w.dispatches = w.cues.filterMap Cue.dispatched? := by
  simp only [dispatches, cues, trace, List.filterMap_filterMap]
  congr 1
  funext entry
  cases entry with
  | effect e => cases e <;> rfl
  | note n => cases n <;> rfl

theorem map_fst_frames (w : World σ) : w.frames.map Prod.fst = w.cues.filterMap Cue.shown? := by
  simp only [frames, effects, cues, trace, List.filterMap_filterMap, List.map_filterMap]
  congr 1
  funext entry
  cases entry with
  | effect e => cases e <;> rfl
  | note n => cases n <;> rfl

end World

/-- A dispatched block, and the sprite of the frame that it showed if it showed one. -/
structure Beat where
  block : Block
  shown : Option Sprite

def Beat.cues (b : Beat) : List Cue :=
  .dispatched b.block.id b.block.opcode :: b.shown.toList.map .shown

theorem filterMap_dispatched?_beats (beats : List Beat) :
    (beats.flatMap Beat.cues).filterMap Cue.dispatched? =
      beats.map fun b => (b.block.id, b.block.opcode) := by
  induction beats with
  | nil => rfl
  | cons b beats ih =>
    rw [List.flatMap_cons, List.filterMap_append, ih]
    obtain ⟨block, shown⟩ := b
    cases shown <;> rfl

theorem filterMap_shown?_beats (beats : List Beat) :
    (beats.flatMap Beat.cues).filterMap Cue.shown? = beats.filterMap Beat.shown := by
  induction beats with
  | nil => rfl
  | cons b beats ih =>
    rw [List.flatMap_cons, List.filterMap_append, ih]
    obtain ⟨block, shown⟩ := b
    cases shown <;> rfl

namespace World
variable {σ : Type} {w v : World σ}

/-- Nothing was dispatched or shown, and the sprite stayed as it was. -/
structure Still (w v : World σ) : Prop where
  cues : v.cues = w.cues
  sprite : v.sprite = w.sprite

namespace Still

theorem refl (w : World σ) : w.Still w := ⟨rfl, rfl⟩

theorem note (h : w.Still v) {n : Note} (hn : Entry.cue? (.note n) = none) : w.Still (v.note n) :=
  ⟨(trace_note v hn).trans h.cues, (sprite_note n v).trans h.sprite⟩

theorem perform (h : w.Still v) (host : Host σ) {e : Effect}
    (he : Entry.cue? (.effect e) = none) : w.Still (v.perform host e) :=
  ⟨(trace_perform_of_none v rfl host he).trans h.cues, (sprite_perform host e v).trans h.sprite⟩

theorem drawn (h : w.Still v) (host : Host σ) (n : Nat) : w.Still (v.drawn host n) :=
  drawn_keeps host (fun u hu =>
    perform (v := { u with source := u.source.advance }) ⟨hu.cues, hu.sprite⟩ host rfl) n h

end Still

/-- What a run did since the first world, as far as the sprite is concerned:
block by block, the frames come right behind the dispatches, and the sprite is
the one that was shown last. -/
structure Follows (w v : World σ) (beats : List Beat) : Prop where
  cues : v.cues = w.cues ++ beats.flatMap Beat.cues
  kinds : ∀ b ∈ beats, b.shown.isSome = b.block.opcode.showsFrame
  sprite : v.sprite = (beats.filterMap Beat.shown).getLast?.getD w.sprite

/-- The sprite is the one of the last frame, or the first one if there was no
frame, and there are as many frames as dispatched blocks that show one. -/
structure Current (w v : World σ) : Prop where
  sprite : ∃ shown, v.frames.map Prod.fst = w.frames.map Prod.fst ++ shown ∧
    v.sprite = shown.getLast?.getD w.sprite
  counted : ∃ begun, v.dispatches = w.dispatches ++ begun ∧
    v.frames.length = w.frames.length + begun.countP fun b => b.2.showsFrame
  /-- Every frame is that of the block dispatched right before it. -/
  aligned : ∃ beats, w.Follows v beats

namespace Follows
variable {beats : List Beat}

theorem refl (w : World σ) : w.Follows w [] := ⟨by simp, by simp, rfl⟩

theorem beat (h : w.Follows v beats) {b : Beat} (hb : b.shown.isSome = b.block.opcode.showsFrame)
    {v' : World σ} (hcues : v'.cues = v.cues ++ b.cues)
    (hsprite : v'.sprite = b.shown.getD v.sprite) : w.Follows v' (beats ++ [b]) := by
  refine ⟨?_, ?_, ?_⟩
  · rw [hcues, h.cues]
    simp
  · exact List.forall_mem_append.2 ⟨h.kinds, by simpa using hb⟩
  · rw [hsprite, h.sprite, List.filterMap_append]
    cases hs : b.shown <;> simp [hs]

theorem still (h : w.Follows v beats) {v' : World σ} (hstill : v.Still v') :
    w.Follows v' beats :=
  ⟨hstill.cues.trans h.cues, h.kinds, hstill.sprite.trans h.sprite⟩

theorem length_shown (h : w.Follows v beats) : (beats.filterMap Beat.shown).length =
    (beats.map fun b => (b.block.id, b.block.opcode)).countP fun b => b.2.showsFrame := by
  have hkinds := h.kinds
  clear h
  induction beats with
  | nil => rfl
  | cons b beats ih =>
    obtain ⟨hb, hbeats⟩ := List.forall_mem_cons.1 hkinds
    rw [List.map_cons, List.countP_cons, ← ih hbeats, ← hb]
    cases hs : b.shown <;> simp [hs]

theorem current (h : w.Follows v beats) : w.Current v := by
  have hframes : v.frames.map Prod.fst = w.frames.map Prod.fst ++ beats.filterMap Beat.shown := by
    rw [map_fst_frames, map_fst_frames, h.cues, List.filterMap_append, filterMap_shown?_beats]
  have hlength := congrArg List.length hframes
  rw [List.length_append, List.length_map, List.length_map, h.length_shown] at hlength
  refine ⟨⟨_, hframes, h.sprite⟩, ⟨_, ?_, hlength⟩, beats, h⟩
  rw [dispatches_eq, dispatches_eq, h.cues, List.filterMap_append, filterMap_dispatched?_beats]

end Follows

end World

namespace Interpreter
variable {σ : Type} {m : Interpreter σ} {ws : Workspace} {w u v : World σ} {b : Block}

theorem Does.shown (h : m.Does b w v) : ∃ shown : Option Sprite,
    shown.isSome = b.opcode.showsFrame ∧ v.cues = w.cues ++ shown.toList.map .shown ∧
      v.sprite = shown.getD w.sprite := by
  have hquiet (hkind : b.opcode.showsFrame = false) (hv : w.Still v) :
      ∃ shown : Option Sprite, shown.isSome = b.opcode.showsFrame ∧
        v.cues = w.cues ++ shown.toList.map .shown ∧ v.sprite = shown.getD w.sprite :=
    ⟨none, hkind.symm, by simp [hv.cues], hv.sprite⟩
  cases h with
  | frame sprite transition event hkind =>
    have hdrawn : w.Still (w.drawn m.host b.draws) := .drawn (.refl w) _ _
    refine ⟨some sprite, hkind.symm, ?_, ?_⟩
    · rw [World.cues, World.trace_perform_of_none _ rfl m.host rfl, World.render,
        World.trace_perform _ rfl, ← hdrawn.cues]
      rfl
    · rw [World.sprite_perform, World.render, World.sprite_perform]
      rfl
  | speech speech event hkind =>
    exact hquiet hkind (((World.Still.refl w).perform m.host rfl).perform m.host rfl)
  | line event hkind => exact hquiet hkind ((World.Still.refl w).perform m.host rfl)
  | ask met event hif =>
    refine hquiet (by rw [hif]; rfl) ?_
    exact (((World.Still.refl w).drawn m.host _).note rfl).perform m.host rfl

theorem exists_beat (m : Interpreter σ) (b : Block) (hw : w.exhausted = false) :
    ∃ shown : Option Sprite, shown.isSome = b.opcode.showsFrame ∧
      (m.enter b w).2.cues = w.cues ++ Beat.cues ⟨b, shown⟩ ∧
      (m.enter b w).2.sprite = shown.getD w.sprite := by
  obtain ⟨v, hdoes, hv⟩ := m.enter_cases b w
  obtain ⟨shown, hkind, hcues, hsprite⟩ := hdoes.shown
  have hsame : v.Still (m.enter b w).2 := by
    rcases hv with hv | ⟨d, hv⟩
    · rw [hv]
      exact .refl v
    · rw [hv]
      exact .perform (.refl v) m.host rfl
  refine ⟨shown, hkind, ?_, ?_⟩
  · rw [hsame.cues, hcues, World.cues, World.trace_note_of_fresh hw, List.append_assoc]
    rfl
  · rw [hsame.sprite, hsprite, World.sprite_note]

theorem Quiet.still (h : m.Quiet w v) : w.Still v where
  cues := h.trace_eq (fun _ => rfl) rfl fun n hn => by cases n <;> first | rfl | cases hn
  sprite := h.sprite_eq

/-- The blocks that a run has begun have shown what they show. -/
theorem carries_follows (m : Interpreter σ) (ws : Workspace) (w : World σ) :
    m.Carries ws fun begun v => ∃ beats, beats.map Beat.block = begun ∧ w.Follows v beats := by
  refine .of_pause (fun hquiet ⟨beats, hbegun, hv⟩ => ⟨beats, hbegun, hv.still hquiet.still⟩)
    (fun _ ⟨beats, hbegun, hv⟩ => ⟨beats, hbegun, hv.still (.perform (.refl _) m.host rfl)⟩) ?_
  rintro _ v b hfresh - ⟨beats, rfl, hv⟩
  obtain ⟨shown, hkind, hcues, hsprite⟩ := m.exists_beat b hfresh
  exact ⟨beats ++ [⟨b, shown⟩], List.map_append, hv.beat hkind hcues hsprite⟩

/-- The sleep itself shows nothing, so the frames are those of the blocks begun before. -/
theorem SleepsIn.current {d : Duration} (h : m.SleepsIn ws w u d) : w.Current u := by
  obtain ⟨c, hpasses, hc⟩ := h
  obtain ⟨beats, -, hbeats⟩ := (m.carries_follows ws w).passes ⟨[], rfl, .refl w⟩ hpasses
  have hsleep : c.world.Still u := by
    have hu : u.Still c.world := hc ▸ .perform (.refl u) m.host rfl
    exact ⟨hu.cues.symm, hu.sprite.symm⟩
  exact (hbeats.still hsleep).current

theorem current_run (m : Interpreter σ) (ws : Workspace) (w : World σ) :
    w.Current (m.run ws w).1 := by
  obtain ⟨begun, beats, -, hbeats⟩ := (m.carries_follows ws w).run ⟨[], rfl, .refl w⟩
  exact hbeats.current

/-- The stage is never stale. Every sleep of a run is one to which the machine
comes, and there, as at the end of the run, the sprite is that of the last frame
and every block that acts on the sprite has shown one frame. -/
theorem run_neverStale (m : Interpreter σ) (ws : Workspace) (w : World σ) :
    (∀ i d, w.journal.size ≤ i →
      (m.run ws w).1.journal.toList[i]? = some (.effect (.sleep d)) →
        ∃ u, m.SleepsIn ws w u d ∧ u.journal.toList = (m.run ws w).1.journal.toList.take i) ∧
    (∀ u d, m.SleepsIn ws w u d → w.Current u) ∧ w.Current (m.run ws w).1 :=
  ⟨fun _ _ => exists_sleepsIn_run m ws w _ _, fun _ _ => SleepsIn.current, m.current_run ws w⟩

/-- A loop that is stopped while it sleeps in its second round. -/
theorem run_neverStale_loop :
    let ws := Edit.applyAll (Workspace.empty 20.0) [.add .repeatTimes ∅,
      .addChild ⟨1⟩ .changeSize ∅, .addChild ⟨1⟩ .turnRight ∅, .addChild ⟨1⟩ .wait ∅]
    let m := Session.interpreter {}
    let w := Session.world { clock := .manual { stopAt := some (.ofMillis 1500) } } .idle {}
      (.cycle #[])
    (∃ u, m.SleepsIn ws w u (.ofMillis 1000) ∧ w.Current u ∧ u.frames.length = 4) ∧
      w.Current (m.run ws w).1 ∧ (m.run ws w).1.frames.length = 4 ∧
      (m.run ws w).2 = some .stopped := by
  intro ws m w
  obtain ⟨hsleeps, hcurrent, hend⟩ := run_neverStale m ws w
  have hlast : (m.run ws w).1.journal.toList[25]? = some (.effect (.sleep (.ofMillis 1000))) := by
    decide +kernel
  obtain ⟨u, hu, hjournal⟩ := hsleeps 25 _ (Nat.zero_le _) hlast
  have hframes : ((((m.run ws w).1.journal.toList.take 25).filterMap Entry.effect?).filterMap
      Effect.frame?).length = 4 := by decide +kernel
  refine ⟨⟨u, hu, hcurrent u _ hu, ?_⟩, hend, by decide +kernel, by decide +kernel⟩
  rw [World.frames, World.effects, hjournal, hframes]

end Interpreter
end SpriteBlocks
