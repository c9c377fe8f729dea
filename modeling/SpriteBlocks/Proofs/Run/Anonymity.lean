import SpriteBlocks.Proofs.Run.Steps
import SpriteBlocks.Proofs.Workspace.Conservation
import SpriteBlocks.Run.Session

/-!
# Runs without identities

A run uses the identity of a block for one thing, the note that the block is
dispatched. So to forget the identities of a tree and then to execute it is to
execute it and then to forget them in the notes, and trees that differ in their
identities alone, as a copy and its original do, are executed alike.
-/
namespace SpriteBlocks

def Note.unnamed : Note → Note
  | dispatch _ opcode => dispatch ⟨0⟩ opcode
  | n => n

def Entry.unnamed : Entry → Entry
  | effect e => effect e
  | note n => note n.unnamed

theorem Block.isEmpty_unnamedIn (bs : List Block) : (unnamedIn bs).isEmpty = bs.isEmpty := by
  cases bs <;> rfl

namespace World
variable {σ : Type}

def forget (w : World σ) : World σ := { w with journal := w.journal.map Entry.unnamed }

/-- Two worlds that only the identities in their notes tell apart. -/
structure Indistinct (w v : World σ) : Prop where
  effects : w.effects = v.effects
  notes : w.notes.map Note.unnamed = v.notes.map Note.unnamed
  sprite : w.sprite = v.sprite
  source : w.source = v.source
  flag : w.flag = v.flag
  host : w.host = v.host
  exhausted : w.exhausted = v.exhausted

section Forget
variable (h : Host σ) (w : World σ)

@[simp] theorem isRunning_forget : w.forget.isRunning = w.isRunning := by
  rw [isRunning, isRunning]
  rfl

@[simp] theorem effects_forget : w.forget.effects = w.effects := by
  have hsame : Entry.effect? ∘ Entry.unnamed = Entry.effect? := by
    funext e
    cases e <;> rfl
  simp only [effects, forget, Array.toList_map, List.filterMap_map, hsame]

@[simp] theorem notes_forget : w.forget.notes = w.notes.map Note.unnamed := by
  have hsame : Entry.note? ∘ Entry.unnamed = Option.map Note.unnamed ∘ Entry.note? := by
    funext e
    cases e <;> rfl
  simp only [notes, forget, Array.toList_map, List.filterMap_map, List.map_filterMap, hsame]
  rfl

theorem indistinct_of_forget {v : World σ} (hwv : w.forget = v.forget) : Indistinct w v where
  effects := by rw [← effects_forget, hwv, effects_forget]
  notes := by rw [← notes_forget, hwv, notes_forget]
  sprite := (congrArg sprite hwv :)
  source := (congrArg source hwv :)
  flag := (congrArg flag hwv :)
  host := (congrArg host hwv :)
  exhausted := (congrArg exhausted hwv :)

@[simp] theorem forget_note (n : Note) : (w.note n).forget = w.forget.note n.unnamed := by
  unfold note
  split
  · next hw => rw [if_pos (show w.forget.exhausted = true from hw)]
  · next hw =>
    rw [if_neg (show ¬ w.forget.exhausted = true from hw)]
    simp [forget, Entry.unnamed]

@[simp] theorem forget_pressStop : w.pressStop.forget = w.forget.pressStop := by
  have hflag : w.forget.flag = w.flag := rfl
  unfold pressStop
  rw [hflag]
  split
  · rw [forget_note]
    rfl
  · rfl

@[simp] theorem forget_perform (e : Effect) : (w.perform h e).forget = w.forget.perform h e := by
  have hpushed (host : σ) : ({ w with host, journal := w.journal.push (.effect e) }).forget =
      { w.forget with host, journal := w.forget.journal.push (.effect e) } := by
    simp [forget, Entry.unnamed]
  have hhost : w.forget.host = w.host := rfl
  have hflag : w.forget.flag = w.flag := rfl
  unfold perform
  dsimp only
  rw [hhost, hflag]
  split
  · exact (forget_pressStop _).trans (congrArg pressStop (hpushed _))
  · exact hpushed _

@[simp] theorem forget_log (level : LogLevel) (message : String) :
    (w.log h level message).forget = w.forget.log h level message := forget_perform h w _

@[simp] theorem forget_render (transition : Duration) :
    (w.render h transition).forget = w.forget.render h transition := forget_perform h w _

@[simp] theorem forget_sleep (d : Duration) : (w.sleep h d).forget = w.forget.sleep h d :=
  forget_perform h w _

@[simp] theorem forget_speak (s : Speech) : (w.speak h s).forget = w.forget.speak h s :=
  forget_perform h w _

@[simp] theorem forget_draw : (w.draw h).2.forget = (w.forget.draw h).2 :=
  forget_perform h { w with source := w.source.advance } _

end Forget
end World

namespace Interpreter
variable {σ : Type} (m : Interpreter σ) (w : World σ)
open World

theorem forget_move : (m.move w).forget = m.move w.forget := by
  simp only [move, forget_sleep, forget_log, forget_render]
  rfl

theorem forget_turn (degrees : Float) : (m.turn degrees w).forget = m.turn degrees w.forget := by
  simp only [turn, forget_log, forget_render]
  rfl

theorem forget_say (s : Speech) : (m.say s w).forget = m.say s w.forget := by
  simp only [say, forget_log, forget_speak]

theorem forget_setVisible (visible : Bool) :
    (m.setVisible visible w).forget = m.setVisible visible w.forget := by
  simp only [setVisible, forget_log, forget_render]
  rfl

theorem forget_wait (p : Parameters) : (m.wait p w).forget = m.wait p w.forget := by
  simp only [wait, forget_sleep, forget_log]

theorem forget_moveTo (p : Parameters) : (m.moveTo p w).forget = m.moveTo p w.forget := by
  simp only [moveTo, forget_sleep, forget_log, forget_render]
  rfl

theorem forget_glide (p : Parameters) : (m.glide p w).forget = m.glide p w.forget := by
  simp only [glide, forget_sleep, forget_log, forget_render, ← forget_draw]
  rfl

theorem forget_sayCustom (p : Parameters) : (m.sayCustom p w).forget = m.sayCustom p w.forget := by
  simp only [sayCustom, forget_sleep, forget_say]

theorem forget_changeSize (p : Parameters) :
    (m.changeSize p w).forget = m.changeSize p w.forget := by
  simp only [changeSize, forget_log, forget_render]
  rfl

theorem forget_evaluate (h : Host σ) (c : Condition) :
    (evaluate h c w.forget).1 = (evaluate h c w).1 ∧
      (evaluate h c w).2.forget = (evaluate h c w.forget).2 := by
  cases c with
  | always => exact ⟨rfl, rfl⟩
  | spriteEdge => exact ⟨rfl, rfl⟩
  | mouseClicked => exact ⟨rfl, forget_draw h w⟩
  | keyPressed => exact ⟨rfl, forget_draw h w⟩

theorem forget_logRound (done : Nat) :
    (m.logRound done w).forget = m.logRound done w.forget := by
  simp only [logRound]
  split
  · exact forget_log _ _ _ _
  · rfl

section Loops
variable {body body' : World σ → World σ} (hbody : ∀ w, (body w).forget = body' w.forget)
include hbody

theorem forget_repeatRounds (times left : Nat) :
    (m.repeatRounds body times left w).forget = m.repeatRounds body' times left w.forget := by
  induction left generalizing w with
  | zero => exact forget_log _ _ _ _
  | succ left ih =>
    simp only [repeatRounds, ← forget_log, ← hbody, isRunning_forget]
    split
    · split
      · exact ih _
      · rfl
    · rfl

theorem forget_foreverRounds (fuel done : Nat) :
    (m.foreverRounds body fuel done w).forget = m.foreverRounds body' fuel done w.forget := by
  induction fuel generalizing done w with
  | zero =>
    simp only [foreverRounds, isRunning_forget]
    split
    · rfl
    · exact forget_note _ _
  | succ fuel ih =>
    rw [foreverRounds_succ, foreverRounds_succ, ← forget_logRound, ← hbody, isRunning_forget,
      isRunning_forget]
    split
    · split
      · rw [ih, forget_sleep]
      · exact forget_note _ _
    · exact forget_note _ _

end Loops

mutual
theorem forget_exec : ∀ (b : Block) (w : World σ), (m.exec b w).forget = m.exec b.unnamed w.forget
  | ⟨id, opcode, params, children⟩, w => by
    have hnote : (w.note (.dispatch id opcode)).forget = w.forget.note (.dispatch ⟨0⟩ opcode) :=
      forget_note w _
    have hinside : ∀ w, (m.execAll children w).forget =
      m.execAll (Block.unnamedIn children) w.forget := fun w => forget_execAll children w
    rw [Block.unnamed]
    cases opcode with
    | move => simp only [exec, forget_move, hnote]
    | turnRight => simp only [exec, forget_turn, hnote]
    | turnLeft => simp only [exec, forget_turn, hnote]
    | say => simp only [exec, forget_say, hnote]
    | showSprite => simp only [exec, forget_setVisible, hnote]
    | hideSprite => simp only [exec, forget_setVisible, hnote]
    | wait => simp only [exec, forget_wait, hnote]
    | moveTo => simp only [exec, forget_moveTo, hnote]
    | glide => simp only [exec, forget_glide, hnote]
    | sayCustom => simp only [exec, forget_sayCustom, hnote]
    | changeSize => simp only [exec, forget_changeSize, hnote]
    | whenClicked => simp only [exec, forget_log, hnote]
    | whenGreenFlag => simp only [exec, forget_log, hnote]
    | unknown tag => simp only [exec, forget_log, hnote]
    | repeatTimes =>
      simp only [exec, Block.isEmpty_unnamedIn, ← hnote, ← forget_log]
      split
      · rfl
      · exact m.forget_repeatRounds _ hinside _ _
    | forever =>
      simp only [exec, Block.isEmpty_unnamedIn, ← hnote, ← forget_log]
      split
      · rfl
      · exact m.forget_foreverRounds _ hinside _ _
    | ifThen =>
      obtain ⟨hmet, hafter⟩ := forget_evaluate (w.note (.dispatch id .ifThen)) m.host
        (Condition.ofChoice (params.textOr "condition" "always"))
      have hmark (c : Condition) (met : Bool) (v : World σ) :
          v.forget.note (.evaluated c met) = (v.note (.evaluated c met)).forget :=
        (forget_note v (.evaluated c met)).symm
      simp only [exec, ← hnote, hmet, ← hafter, hmark, ← forget_log, ← hinside]
      exact apply_ite forget _ _ _

theorem forget_execAll : ∀ (bs : List Block) (w : World σ),
    (m.execAll bs w).forget = m.execAll (Block.unnamedIn bs) w.forget
  | [], w => rfl
  | b :: bs, w => by
    simp only [Block.unnamedIn, execAll, isRunning_forget]
    split
    · rw [forget_execAll bs, forget_exec b]
    · rfl
end

/-- Trees that only their identities tell apart are executed alike. -/
theorem indistinct_exec {b b' : Block} (hb : b.unnamed = b'.unnamed) :
    (m.exec b w).Indistinct (m.exec b' w) := by
  refine indistinct_of_forget _ ?_
  rw [forget_exec, forget_exec, hb]

end Interpreter

namespace Workspace
variable {ws ws' : Workspace}

/-- As long as identities are left, a copy is found under the identity it was
given, and the original under its own. -/
theorem Sound.get?_of_duplicate (h : ws.Sound) {id made : BlockId}
    (hroom : ws.lastId.raw.toNat + (Edit.duplicate id).allocated ws < UInt32.size)
    (hdup : ws.duplicate id = (ws', some made)) :
    ∃ b copy, ws.get? id = some b ∧ ws'.get? id = some b ∧ ws'.get? made = some copy ∧
      copy.unnamed = b.unnamed := by
  obtain ⟨b, copy, hcopy⟩ := duplicated hdup
  have hsound : ws'.Sound := by
    have hafter := (h.duplicate id hroom).1
    rwa [hdup] at hafter
  obtain ⟨hb, hid⟩ := Block.mem_of_findIn? hcopy.block
  have hblocks : ws'.blocks = ws.blocks ++ [copy] := congrArg blocks hcopy.placed
  refine ⟨b, copy, hcopy.block, ?_, ?_, hcopy.alike⟩
  · refine (Block.findIn?_eq_some_iff hsound.distinct).2 ⟨?_, hid⟩
    rw [hblocks, Block.nodesIn_append]
    exact List.mem_append_left _ hb
  · refine (Block.findIn?_eq_some_iff hsound.distinct).2 ⟨Block.mem_nodesIn_of_mem ?_, hcopy.headed⟩
    rw [hblocks]
    exact List.mem_concat_self

end Workspace

namespace Interpreter
variable {σ : Type}

/-- A run does not depend on identities: trees that are equal without them are
executed alike in every host, from every world. So a copy is executed like its
original after every history that leaves identities for it. -/
theorem indistinct_exec_of_history (m : Interpreter σ) :
    (∀ b b' : Block, b.unnamed = b'.unnamed → ∀ w, (m.exec b w).Indistinct (m.exec b' w)) ∧
    ∀ tolerance es id, let ws := Edit.applyAll (Workspace.empty tolerance) es
      Edit.allocatedAll (Workspace.empty tolerance) (es ++ [.duplicate id]) < UInt32.size →
      ∀ ws' made, ws.duplicate id = (ws', some made) →
        ∃ b copy, ws.get? id = some b ∧ ws'.get? id = some b ∧ ws'.get? made = some copy ∧
          ∀ w, (m.exec copy w).Indistinct (m.exec b w) := by
  refine ⟨fun b b' hb w => m.indistinct_exec w hb, ?_⟩
  intro tolerance es id ws hroom ws' made hdup
  rw [Edit.allocatedAll_append, Edit.allocatedAll, Edit.allocatedAll] at hroom
  have hempty : (Workspace.empty tolerance).lastId.raw.toNat = 0 := rfl
  obtain ⟨hsound, hlast⟩ := (Workspace.sound_empty tolerance).applyAll es (by omega)
  obtain ⟨b, copy, hb, hb', hcopy, halike⟩ := hsound.get?_of_duplicate (by omega) hdup
  exact ⟨b, copy, hb, hb', hcopy, fun w => m.indistinct_exec w halike⟩

/-- A loop around a branch is copied; the copy is stopped by the clock where its
original is. -/
theorem indistinct_exec_of_history_nested :
    let es : List Edit := [.add .repeatTimes ∅, .addChild ⟨1⟩ .ifThen ∅, .addChild ⟨2⟩ .move ∅,
      .addChild ⟨2⟩ .say ∅]
    let ws := Edit.applyAll (Workspace.empty 20.0) es
    let m := Session.interpreter {}
    let w := Session.world { clock := .manual { stopAt := some (.ofMillis 700) } } .running {}
      (.cycle #[])
    Edit.allocatedAll (Workspace.empty 20.0) (es ++ [.duplicate ⟨1⟩]) < UInt32.size ∧
      (ws.duplicate ⟨1⟩).2 = some ⟨5⟩ ∧
      ∃ b copy, ws.get? ⟨1⟩ = some b ∧ (ws.duplicate ⟨1⟩).1.get? ⟨5⟩ = some copy ∧
        (m.exec copy w).Indistinct (m.exec b w) ∧
        (m.exec ⟨⟨7⟩, .move, ∅, []⟩ w).Indistinct (m.exec ⟨⟨2⟩, .move, ∅, []⟩ w) := by
  intro es ws m w
  have hroom : Edit.allocatedAll (Workspace.empty 20.0) (es ++ [.duplicate ⟨1⟩]) < UInt32.size := by
    decide
  have hmade : (ws.duplicate ⟨1⟩).2 = some ⟨5⟩ := by decide
  obtain ⟨htrees, hcopies⟩ := indistinct_exec_of_history m
  obtain ⟨b, copy, hb, -, hcopy, halike⟩ := hcopies 20.0 es ⟨1⟩ hroom _ ⟨5⟩ (Prod.ext rfl hmade)
  have htree := htrees ⟨⟨7⟩, .move, ∅, []⟩ ⟨⟨2⟩, .move, ∅, []⟩ rfl w
  exact ⟨hroom, hmade, b, copy, hb, hcopy, halike w, htree⟩

end Interpreter
end SpriteBlocks
