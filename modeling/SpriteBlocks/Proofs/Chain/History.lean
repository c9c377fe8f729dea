import Mathlib.Data.Set.Card
import SpriteBlocks.Proofs.Chain.Entry

/-!
# Histories of a registry

Whatever calls a registry went through, accepted or refused, its two maps hold
the same edges, no block comes after itself, and the chain from a block is the
whole path along successors. The walk never has to stop at a block it has seen.
-/
namespace SpriteBlocks.Registry
open Relation

inductive Change where
  | connect (source target : BlockId)
  | disconnect (block : BlockId)
  | detach (block : BlockId)

namespace Change

def apply (r : Registry) : Change → Registry
  | connect source target => (r.connect source target).1
  | disconnect block => (r.disconnect block).1
  | detach block => r.detach block

def applyAll (r : Registry) : List Change → Registry
  | [] => r
  | c :: cs => applyAll (c.apply r) cs

end Change

/-- The chain from a block is the whole path along successors. -/
structure Complete (r : Registry) (start : BlockId) : Prop where
  headed : (r.chainFrom start).head? = some start
  distinct : (r.chainFrom start).Nodup
  linked : (r.chainFrom start).IsChain fun a b => r.successor a = some b
  ended : ∃ last, (r.chainFrom start).getLast? = some last ∧ r.successor last = none
  reached : ∀ b, b ∈ r.chainFrom start ↔ ReflTransGen r.Leads start b
  /-- Wherever the walk stands, the next block is none of those it has seen. -/
  unbroken : ∀ seen current rest next, r.chainFrom start = seen ++ current :: rest →
    r.successor current = some next → next ∉ seen ++ [current]

/-- The edges make up chains that are lists, and each edge is counted once. -/
structure Simple (r : Registry) : Prop where
  paired : ∀ a b, r.successor a = some b ↔ r.predecessor b = some a
  irreflexive : ∀ a, r.successor a ≠ some a
  acyclic : ∀ a, ¬ TransGen r.Leads a a
  listed : ∀ a b, (a, b) ∈ r.edges ↔ r.successor a = some b
  once : r.edges.Nodup
  counted : r.size = {e : BlockId × BlockId | r.successor e.1 = some e.2}.ncard
  complete : ∀ start, r.Complete start

theorem size_eq_ncard (r : Registry) :
    r.size = {e : BlockId × BlockId | r.successor e.1 = some e.2}.ncard := by
  have hset : {e : BlockId × BlockId | r.successor e.1 = some e.2} = r.edges.toFinset := by
    ext ⟨a, b⟩
    rw [Set.mem_ofPred_eq, Finset.mem_coe, List.mem_toFinset, mem_edges_iff, Leads]
  rw [hset, Set.ncard_coe_finset, List.toFinset_card_of_nodup r.edges_nodup]
  rfl

namespace Sound
variable {r : Registry} (h : r.Sound)
include h

/-- A chain goes on at the neighbour, which stands behind everything seen so far. -/
theorem not_mem_seen {start current next : BlockId} {seen rest : List BlockId}
    (hchain : r.chainFrom start = seen ++ current :: rest)
    (hnext : r.successor current = some next) : next ∉ seen ++ [current] := by
  have hnodup := r.chainFrom_nodup start
  have hlinked := r.chainFrom_isChain start
  have hlast := h.successor_getLast start
  rw [hchain] at hnodup hlinked hlast
  cases rest with
  | nil =>
    have hnone := hlast current List.getLast?_concat
    rw [hnone] at hnext
    cases hnext
  | cons y rest =>
    have hy : r.successor current = some y := hlinked.right_of_append.rel
    obtain rfl : y = next := Option.some.inj (hy.symm.trans hnext)
    rw [List.append_cons, List.nodup_append] at hnodup
    exact fun hseen => hnodup.2.2 y hseen y List.mem_cons_self rfl

theorem complete (start : BlockId) : r.Complete start where
  headed := r.head_chainFrom start
  distinct := r.chainFrom_nodup start
  linked := r.chainFrom_isChain start
  ended := by
    have hlast := List.getLast?_eq_getLast_of_ne_nil (r.chainFrom_ne_nil start)
    exact ⟨_, hlast, h.successor_getLast start _ hlast⟩
  reached _ := mem_chainFrom_iff
  unbroken _ _ _ _ hchain hnext := h.not_mem_seen hchain hnext

theorem simple : r.Simple where
  paired := h.paired
  irreflexive := h.irrefl
  acyclic := h.acyclic
  listed _ _ := mem_edges_iff
  once := r.edges_nodup
  counted := r.size_eq_ncard
  complete := h.complete

theorem change (c : Change) : (c.apply r).Sound := by
  cases c with
  | connect source target => exact h.connect source target
  | disconnect block => exact h.disconnect block
  | detach block => exact h.detach block

theorem changes (cs : List Change) : (Change.applyAll r cs).Sound := by
  induction cs generalizing r with
  | nil => exact h
  | cons c cs ih => exact ih (h.change c)

end Sound

/-- After every history of calls on arbitrary blocks the maps agree, nothing
comes after itself, and every chain is the whole path along successors. -/
theorem simple_of_history (tolerance : Float) (cs : List Change) :
    (Change.applyAll (empty tolerance) cs).Simple :=
  ((sound_empty tolerance).changes cs).simple

/-- A history with a refused cycle, a replaced successor and a block taken away
from its predecessor. -/
example : let r := Change.applyAll (empty 20.0) [.connect ⟨1⟩ ⟨2⟩, .connect ⟨2⟩ ⟨3⟩,
      .connect ⟨3⟩ ⟨1⟩, .connect ⟨4⟩ ⟨3⟩, .connect ⟨1⟩ ⟨4⟩, .detach ⟨9⟩, .disconnect ⟨2⟩]
    r.edges = [(⟨1⟩, ⟨4⟩), (⟨4⟩, ⟨3⟩)] ∧ r.chainFrom ⟨1⟩ = [⟨1⟩, ⟨4⟩, ⟨3⟩] := by
  decide

end SpriteBlocks.Registry
