import SpriteBlocks.Proofs.Chain.History

/-!
# Rewired registries

A connection takes the edge out of its source and the edge into its target away
before it puts the new edge in. It is refused exactly if the edges that would be
left make up a cycle, although the check looks at the edges from before: a path
from the target to the source uses none of the edges that are taken away.
-/
namespace SpriteBlocks.Registry
open Relation

/-- The edges that a connection of the two blocks would leave: those that
neither lead out of the source nor into the target, and the new one. -/
def Rewired (r : Registry) (source target a b : BlockId) : Prop :=
  (r.Leads a b ∧ a ≠ source ∧ b ≠ target) ∨ (a = source ∧ b = target)

def Cyclic (R : BlockId → BlockId → Prop) : Prop := ∃ a, TransGen R a a

/-- A connection does what the edges that it would leave allow. -/
structure Rewires (r : Registry) (source target : BlockId) : Prop where
  refused : (∃ e, (r.connect source target).2 = .error e) ↔ Cyclic (r.Rewired source target)
  itself : (r.connect source target).2 = .error (.selfConnection source) ↔ source = target
  cycle : (r.connect source target).2 = .error (.wouldCycle source target) ↔
    source ≠ target ∧ Cyclic (r.Rewired source target)
  /-- There are no other reasons to refuse a connection. -/
  reason : ∀ e, (r.connect source target).2 = .error e →
    e = .selfConnection source ∨ e = .wouldCycle source target
  unchanged : Cyclic (r.Rewired source target) → (r.connect source target).1 = r
  previous : ¬ Cyclic (r.Rewired source target) →
    (r.connect source target).2 = .ok (r.successor source)
  edges : ¬ Cyclic (r.Rewired source target) → ∀ a b,
    (a, b) ∈ (r.connect source target).1.edges ↔ r.Rewired source target a b
  predecessors : ¬ Cyclic (r.Rewired source target) → ∀ a b,
    (r.connect source target).1.predecessor b = some a ↔ r.Rewired source target a b

theorem snd_disconnect (r : Registry) (b : BlockId) : (r.disconnect b).2 = r.successor b := by
  unfold disconnect
  split
  · next h => exact h.symm
  · next h => exact h.symm

theorem snd_connect (r : Registry) (source target : BlockId) :
    (r.connect source target).2 =
      if source = target then .error (.selfConnection source)
      else if source ∈ r.chainFrom target then .error (.wouldCycle source target)
      else .ok (r.successor source) := by
  unfold connect
  split
  · rfl
  · split
    · rfl
    · exact congrArg Except.ok (r.snd_disconnect source)

namespace Sound
variable {r : Registry} (h : r.Sound) {source target : BlockId}
include h

/-- A path from the target to the source leaves the source nowhere and comes
back to the target nowhere, so it is still there when the edges are rewired. -/
theorem reaches_rewired {b : BlockId} (hb : ReflTransGen r.Leads target b)
    (hsource : ReflTransGen r.Leads b source) :
    ReflTransGen (r.Rewired source target) target b := by
  induction hb with
  | refl => exact .refl
  | @tail b c hb hbc ih =>
    have hne : b ≠ source := by
      rintro rfl
      exact h.acyclic b (.head' hbc hsource)
    have hne' : c ≠ target := by
      rintro rfl
      exact h.acyclic c (.tail' hb hbc)
    exact (ih (.head hbc hsource)).tail (.inl ⟨hbc, hne, hne'⟩)

/-- The rewired edges make up a cycle exactly if the source came after the target before. -/
theorem cyclic_rewired_iff :
    Cyclic (r.Rewired source target) ↔ ReflTransGen r.Leads target source := by
  constructor
  · rintro ⟨a, ha⟩
    have hle (x y : BlockId) (hxy : r.Rewired source target x y) :
        r.Leads x y ∨ (x = source ∧ y = target) := hxy.imp_left And.left
    rcases transGen_with_edge hle ha with ha | ⟨hsource, htarget⟩
    · exact absurd ha (h.acyclic a)
    · exact htarget.trans hsource
  · intro hreach
    exact ⟨target, .tail' (h.reaches_rewired hreach .refl) (.inr ⟨rfl, rfl⟩)⟩

theorem leads_connect_iff {previous : Option BlockId}
    (hok : (r.connect source target).2 = .ok previous) (a b : BlockId) :
    (r.connect source target).1.Leads a b ↔ r.Rewired source target a b := by
  rw [Leads, h.successor_connect hok, Rewired, Leads]
  grind

theorem rewires (source target : BlockId) : r.Rewires source target := by
  have hcyclic : Cyclic (r.Rewired source target) ↔ source ∈ r.chainFrom target :=
    h.cyclic_rewired_iff.trans mem_chainFrom_iff.symm
  have hself : source = target → source ∈ r.chainFrom target := fun heq =>
    heq ▸ r.start_mem_chainFrom source
  have hresult := r.snd_connect source target
  have hok (hno : ¬ Cyclic (r.Rewired source target)) :
      (r.connect source target).2 = .ok (r.successor source) := by
    rw [hcyclic] at hno
    rw [hresult, if_neg (mt hself hno), if_neg hno]
  have herror (hyes : Cyclic (r.Rewired source target)) :
      ∃ e, (r.connect source target).2 = .error e := by
    rw [hresult]
    split
    · exact ⟨_, rfl⟩
    · exact ⟨_, if_pos (hcyclic.1 hyes)⟩
  refine
    { refused := ⟨fun ⟨e, he⟩ => ?_, herror⟩
      itself := ?_
      cycle := ?_
      reason := fun e he => ?_
      unchanged := fun hyes => ?_
      previous := hok
      edges := fun hno a b => mem_edges_iff.trans (h.leads_connect_iff (hok hno) a b)
      predecessors := fun hno a b => ?_ }
  · refine Classical.not_not.1 fun hno => ?_
    rw [hok hno] at he
    cases he
  · rw [hresult]
    split
    · next heq => simp [heq]
    · next hne => split <;> simp [hne]
  · rw [hresult, hcyclic]
    split
    · next heq => simp [heq]
    · next hne => split <;> simp_all
  · rw [hresult] at he
    split at he
    · exact .inl (Except.error.inj he).symm
    · split at he
      · exact .inr (Except.error.inj he).symm
      · cases he
  · obtain ⟨e, he⟩ := herror hyes
    exact r.connect_of_error he
  · exact ((h.connect source target).paired a b).symm.trans (h.leads_connect_iff (hok hno) a b)

end Sound

/-- After every history of calls a connection is refused exactly if the rewired
edges would make up a cycle, and else these are the edges that it leaves. -/
theorem rewires_of_history (tolerance : Float) (cs : List Change) (source target : BlockId) :
    (Change.applyAll (empty tolerance) cs).Rewires source target :=
  ((sound_empty tolerance).changes cs).rewires source target

/-- A block that moves up in its own chain: the edges that are taken away leave no cycle. -/
example : let r := Change.applyAll (empty 20.0) [.connect ⟨1⟩ ⟨2⟩, .connect ⟨2⟩ ⟨3⟩]
    (r.connect ⟨1⟩ ⟨3⟩).2 = .ok (some ⟨2⟩) ∧ (r.connect ⟨1⟩ ⟨3⟩).1.edges = [(⟨1⟩, ⟨3⟩)] ∧
      (r.connect ⟨3⟩ ⟨2⟩).2 = .error (.wouldCycle ⟨3⟩ ⟨2⟩) := by
  decide

end SpriteBlocks.Registry
