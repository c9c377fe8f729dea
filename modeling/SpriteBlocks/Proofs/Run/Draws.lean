import SpriteBlocks.Proofs.Run.Acts

/-!
# Random words of a run

A run takes a random word only where a block declares it: two for each `glide`
block that is dispatched, and one for each `if` block whose condition stands for
an input that is not connected. So a program without such blocks does the same
whatever its source of randomness is.
-/
namespace SpriteBlocks

def Note.asked? : Note → Option Condition
  | evaluated condition _ => some condition
  | _ => none

namespace World
variable {σ : Type} {w v : World σ}

def asked (w : World σ) : List Condition := w.trace fun entry => entry.note?.bind Note.asked?

@[simp] theorem asked_perform (h : Host σ) (e : Effect) (w : World σ) :
    (w.perform h e).asked = w.asked := trace_perform_of_none w rfl h rfl

@[simp] theorem asked_drawn (h : Host σ) (n : Nat) (w : World σ) :
    (w.drawn h n).asked = w.asked :=
  drawn_keeps (P := fun v => v.asked = w.asked) h (fun _ hv => (asked_perform _ _ _).trans hv) n rfl

/-- What a run dispatched, asked and drew since the first world: these blocks
were dispatched, the `if` blocks among them were decided, and the random source
is further by two words for each `glide` block and by one for each condition that
stands for an input that is not connected. -/
structure Spends (w v : World σ) (begun : List Block) : Prop where
  dispatches : v.dispatches = w.dispatches ++ begun.map fun b => (b.id, b.opcode)
  asked : v.asked = w.asked ++ (begun.filter fun b => b.opcode = .ifThen).map Block.condition
  source : v.source =
    { w.source with
      position := w.source.position + (2 * begun.countP (fun b => b.opcode = .glide) +
        begun.countP fun b => b.opcode = .ifThen && b.condition.isRandom) }

structure Spares (w v : World σ) : Prop where
  dispatches : v.dispatches = w.dispatches
  asked : v.asked = w.asked
  source : v.source = w.source

namespace Spares

theorem refl (w : World σ) : w.Spares w := ⟨rfl, rfl, rfl⟩

theorem perform (h : w.Spares v) (host : Host σ) (e : Effect) : w.Spares (v.perform host e) :=
  ⟨(dispatches_perform host e v).trans h.dispatches, (asked_perform host e v).trans h.asked,
    (source_perform host e v).trans h.source⟩

end Spares

namespace Spends
variable {begun : List Block}

theorem refl (w : World σ) : w.Spends w [] := ⟨by simp, by simp, rfl⟩

theorem spares (h : w.Spends v begun) {v' : World σ} (hv : v.Spares v') : w.Spends v' begun :=
  ⟨hv.dispatches.trans h.dispatches, hv.asked.trans h.asked, hv.source.trans h.source⟩

end Spends
end World

namespace Interpreter
variable {σ : Type} {m : Interpreter σ} {ws : Workspace} {w u v : World σ} {b : Block}

theorem Quiet.spares (h : m.Quiet w v) : w.Spares v where
  dispatches := h.trace_eq (fun _ => rfl) rfl fun n hn => by cases n <;> first | rfl | cases hn
  asked := h.trace_eq (fun _ => rfl) rfl fun n hn => by cases n <;> first | rfl | cases hn
  source := h.source_eq

theorem Does.spends (h : m.Does b w v) (hw : w.exhausted = false) :
    v.dispatches = w.dispatches ∧
      v.asked = w.asked ++ (if b.opcode = .ifThen then [b.condition] else []) ∧
      v.source = { w.source with position := w.source.position + b.draws } := by
  cases h with
  | frame sprite transition event hkind =>
    have hif : b.opcode ≠ .ifThen := by
      rintro hif
      rw [hif] at hkind
      cases hkind
    have hsprite : (w.drawn m.host b.draws).Spares { w.drawn m.host b.draws with sprite } :=
      ⟨rfl, rfl, rfl⟩
    have hspares := (hsprite.perform m.host (.frame sprite transition)).perform m.host (.log event)
    rw [if_neg hif, List.append_nil]
    exact ⟨hspares.dispatches.trans (World.dispatches_drawn _ _ _),
      hspares.asked.trans (World.asked_drawn _ _ _),
      hspares.source.trans (World.source_drawn _ _ _)⟩
  | speech speech event hkind hdraws hif =>
    have hspares := ((World.Spares.refl w).perform m.host (.speech speech)).perform m.host
      (.log event)
    rw [if_neg hif, List.append_nil, hdraws]
    exact ⟨hspares.dispatches, hspares.asked, hspares.source⟩
  | line event hkind hdraws hif =>
    have hspares := (World.Spares.refl w).perform m.host (.log event)
    rw [if_neg hif, List.append_nil, hdraws]
    exact ⟨hspares.dispatches, hspares.asked, hspares.source⟩
  | ask met event hif =>
    have hfresh := (World.exhausted_drawn m.host b.draws w).trans hw
    rw [if_pos hif, World.dispatches_perform, World.asked_perform, World.source_perform]
    refine ⟨?_, ?_, ?_⟩
    · exact (World.trace_note _ rfl).trans (World.dispatches_drawn _ _ _)
    · rw [World.asked, World.trace_note_of_fresh hfresh, ← World.asked, World.asked_drawn]
      rfl
    · rw [World.source_note, World.source_drawn]

theorem spends_enter {begun : List Block} (h : w.Spends v begun) (m : Interpreter σ) (b : Block)
    (hv : v.exhausted = false) : w.Spends (m.enter b v).2 (begun ++ [b]) := by
  obtain ⟨v', hdoes, hend⟩ := m.enter_cases b v
  obtain ⟨hdispatches, hasked, hsource⟩ := hdoes.spends ((World.exhausted_note _ _).trans hv)
  have hspares : v'.Spares (m.enter b v).2 := by
    rcases hend with hend | ⟨d, hend⟩
    · rw [hend]
      exact .refl v'
    · rw [hend]
      exact .perform (.refl v') m.host _
  refine ⟨?_, ?_, ?_⟩
  · rw [hspares.dispatches, hdispatches, World.dispatches, World.trace_note_of_fresh hv,
      ← World.dispatches, h.dispatches, List.map_append, List.append_assoc]
    rfl
  · rw [hspares.asked, hasked, World.asked, World.trace_note _ rfl, ← World.asked, h.asked,
      List.filter_append, List.map_append, List.append_assoc]
    by_cases hif : b.opcode = .ifThen <;> simp [hif]
  · rw [hspares.source, hsource, World.source_note, h.source, List.countP_append,
      List.countP_append, b.draws_eq]
    simp only [Random.Source.mk.injEq, true_and]
    omega

/-- A run has drawn what the blocks that it has begun declare. -/
theorem carries_spends (m : Interpreter σ) (ws : Workspace) (w : World σ) :
    m.Carries ws fun begun v => begun ⊆ Block.nodesIn ws.blocks ∧ w.Spends v begun := by
  refine .of_pause (fun hquiet ⟨hbegun, hv⟩ => ⟨hbegun, hv.spares hquiet.spares⟩)
    (fun _ ⟨hbegun, hv⟩ => ⟨hbegun, hv.spares (.perform (.refl _) m.host _)⟩) ?_
  rintro begun v b hfresh hb ⟨hbegun, hv⟩
  exact ⟨List.append_subset.2 ⟨hbegun, by simpa using hb⟩, spends_enter hv m b hfresh⟩

end Interpreter
end SpriteBlocks
