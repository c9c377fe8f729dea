import Mathlib.Computability.StateTransition
import SpriteBlocks.Proofs.Chain.Walk

/-!
# Walks over arbitrary edges

The two maps of a registry may hold anything: cycles, blocks that follow
themselves, several blocks in front of one, edges of which only one of the maps
knows. A walk along successors ends all the same, because every round sees a
block that an edge leads to and that was not seen before. What it returns is the
longest walk from its start that visits no block twice, and every other such
walk is a beginning of it.
-/
namespace SpriteBlocks.Registry
open StateTransition

/-- A walk under way: the chain so far, the blocks that were seen, and the block
where the walker stands. -/
structure Walker where
  chain : List BlockId
  seen : List BlockId
  current : BlockId

namespace Walker

def start (b : BlockId) : Walker := ⟨[b], [b], b⟩

def visit (w : Walker) (b : BlockId) : Walker := ⟨w.chain ++ [b], b :: w.seen, b⟩

end Walker

/-- One round of a walk. There is none from a block without a successor, and
none to a block that was seen. -/
def round (r : Registry) (w : Walker) : Option Walker :=
  match r.successor w.current with
  | none => none
  | some b => if b ∈ w.seen then none else some (w.visit b)

theorem round_eq_some_iff {r : Registry} {w w' : Walker} :
    r.round w = some w' ↔
      ∃ b, r.successor w.current = some b ∧ b ∉ w.seen ∧ w' = w.visit b := by
  unfold round
  cases r.successor w.current with
  | none => simp
  | some b =>
    by_cases hb : b ∈ w.seen
    · simp [hb]
    · simp [hb, eq_comm]

theorem round_eq_none_iff {r : Registry} {w : Walker} :
    r.round w = none ↔ ∀ b, r.successor w.current = some b → b ∈ w.seen := by
  rw [Option.eq_none_iff_forall_ne_some]
  constructor
  · intro h b hnext
    by_contra hnew
    exact h _ (round_eq_some_iff.2 ⟨b, hnext, hnew, rfl⟩)
  · intro h w' hround
    obtain ⟨b, hnext, hnew, -⟩ := round_eq_some_iff.1 hround
    exact hnew (h b hnext)

def ahead (r : Registry) (seen : List BlockId) : List (BlockId × BlockId) :=
  r.edges.filter fun e => e.2 ∉ seen

theorem length_ahead_le (r : Registry) (seen : List BlockId) :
    (r.ahead seen).length ≤ r.successors.size :=
  List.length_filter_le _ _

/-- Every round takes the edge that it follows away from those ahead. -/
theorem length_ahead_lt {r : Registry} {w w' : Walker} (h : r.round w = some w') :
    (r.ahead w'.seen).length < (r.ahead w.seen).length := by
  obtain ⟨b, hnext, hnew, rfl⟩ := round_eq_some_iff.1 h
  have hfewer : r.ahead (b :: w.seen) = (r.ahead w.seen).filter fun e => e.2 ≠ b := by
    simp [ahead, List.filter_filter]
  have hedge : (w.current, b) ∈ r.ahead w.seen := by
    have hmem := (SortedMap.get?_eq_some_iff_mem r.successors w.current b).1 hnext
    simp [ahead, edges, hmem, hnew]
  change (r.ahead (b :: w.seen)).length < _
  rw [hfewer, List.length_filter_lt_length_iff_exists]
  exact ⟨_, hedge, by simp⟩

section Bound
variable {r : Registry} {w w' : Walker}

theorem walk_of_round (fuel : Nat) (h : r.round w = some w') :
    w'.chain ++ walk r.successor fuel w'.seen w'.current =
      w.chain ++ walk r.successor (fuel + 1) w.seen w.current := by
  obtain ⟨b, hnext, hnew, rfl⟩ := round_eq_some_iff.1 h
  simp [walk, hnext, hnew, Walker.visit]

theorem walk_of_halted (fuel : Nat) (h : r.round w = none) :
    walk r.successor fuel w.seen w.current = [] := by
  cases fuel with
  | zero => rfl
  | succ fuel =>
    cases hnext : r.successor w.current with
    | none => simp [walk, hnext]
    | some b =>
      have hseen := round_eq_none_iff.1 h b hnext
      simp [walk, hnext, hseen]

theorem map_chain_eval_of_halted (fuel : Nat) (h : r.round w = none) :
    (eval r.round w).map Walker.chain =
      Part.some (w.chain ++ walk r.successor fuel w.seen w.current) := by
  have hend : eval r.round w = Part.some w := Part.eq_some_iff.2 (mem_eval.2 ⟨.refl, h⟩)
  rw [hend, Part.map_some, walk_of_halted fuel h, List.append_nil]

/-- A walk without a bound ends, and a bound that is no less than the number of
edges ahead does not change what it returns. -/
theorem map_chain_eval (fuel : Nat) (h : (r.ahead w.seen).length ≤ fuel) :
    (eval r.round w).map Walker.chain =
      Part.some (w.chain ++ walk r.successor fuel w.seen w.current) := by
  -- By induction on the bound: after a round there is one step less, but also an edge less ahead.
  induction fuel generalizing w with
  | zero =>
    refine map_chain_eval_of_halted 0 (Option.eq_none_iff_forall_ne_some.2 fun w' hround => ?_)
    have hless := length_ahead_lt hround
    omega
  | succ fuel ih =>
    cases hround : r.round w with
    | none => exact map_chain_eval_of_halted (fuel + 1) hround
    | some w' =>
      have hless := length_ahead_lt hround
      have hreach : Reaches r.round w w' := .single hround
      rw [reaches_eval hreach, ih (by omega), walk_of_round fuel hround]

theorem dom_eval (r : Registry) (w : Walker) : (eval r.round w).Dom := by
  have hdom : ((eval r.round w).map Walker.chain).Dom := by
    rw [map_chain_eval (r.ahead w.seen).length (Nat.le_refl _)]
    trivial
  exact hdom

end Bound

/-- A walk along successors that visits no block twice. -/
structure RepeatFree (r : Registry) (start : BlockId) (l : List BlockId) : Prop where
  headed : l.head? = some start
  distinct : l.Nodup
  linked : l.IsChain fun a b => r.successor a = some b

theorem repeatFree_chainFrom (r : Registry) (start : BlockId) :
    r.RepeatFree start (r.chainFrom start) where
  headed := r.head_chainFrom start
  distinct := r.chainFrom_nodup start
  linked := r.chainFrom_isChain start

/-- A walk that went on behind the end of the chain would come to a block of the chain again. -/
theorem RepeatFree.prefix_chainFrom {r : Registry} {start : BlockId} {l : List BlockId}
    (h : r.RepeatFree start l) : l <+: r.chainFrom start := by
  have hhead : l.head? = (r.chainFrom start).head? := h.headed.trans (r.head_chainFrom start).symm
  rcases prefix_or_prefix hhead h.linked (r.chainFrom_isChain start) with hl | ⟨rest, rfl⟩
  · exact hl
  · cases rest with
    | nil => rw [List.append_nil]
    | cons b rest =>
      have hlinked := h.linked
      have hdistinct := h.distinct
      rw [List.isChain_append] at hlinked
      rw [List.nodup_append] at hdistinct
      have hlast := List.getLast?_eq_getLast_of_ne_nil (r.chainFrom_ne_nil start)
      have hnext := hlinked.2.2 _ hlast b rfl
      have hmem := r.successor_getLast_mem start hnext
      exact absurd rfl (hdistinct.2.2 b hmem b List.mem_cons_self)

/-- What a walk along successors does, whatever the edges are. -/
structure Exhaustive (r : Registry) (start : BlockId) : Prop where
  /-- Wherever a walker stands, and whatever was seen, the walk ends. -/
  ends : ∀ w : Walker, (eval r.round w).Dom
  /-- The walk from the start ends with the chain. -/
  returned : (eval r.round (.start start)).map Walker.chain = Part.some (r.chainFrom start)
  /-- There are no more rounds than edges. -/
  bounded : (r.chainFrom start).length ≤ r.size + 1
  repeatFree : r.RepeatFree start (r.chainFrom start)
  /-- The last block has no successor, or one that is on the chain. -/
  stopped : ∃ last, (r.chainFrom start).getLast? = some last ∧
    (r.successor last = none ∨ ∃ b ∈ r.chainFrom start, r.successor last = some b)
  /-- Every walk without repetition is a beginning of the chain, and so no longer. -/
  longest : ∀ l, r.RepeatFree start l → l <+: r.chainFrom start ∧
    l.length ≤ (r.chainFrom start).length

/-- Whatever the two maps of a registry hold, the walk from any block ends and
returns the longest walk along successors that visits no block twice. -/
theorem chainFrom_exhaustive (r : Registry) (start : BlockId) : r.Exhaustive start where
  ends := r.dom_eval
  returned := map_chain_eval r.successors.size (r.length_ahead_le [start])
  bounded := Nat.succ_le_succ (length_walk_le _ _ _ _)
  repeatFree := r.repeatFree_chainFrom start
  stopped := by
    have hlast := List.getLast?_eq_getLast_of_ne_nil (r.chainFrom_ne_nil start)
    refine ⟨_, hlast, ?_⟩
    cases hnext : r.successor ((r.chainFrom start).getLast (r.chainFrom_ne_nil start)) with
    | none => exact .inl rfl
    | some b => exact .inr ⟨b, r.successor_getLast_mem start hnext, rfl⟩
  longest l hl := ⟨hl.prefix_chainFrom, hl.prefix_chainFrom.length_le⟩

/-- A cycle that is entered behind its start, a block that follows itself, two
blocks in front of one, and a predecessor that no edge has. -/
example : let r : Registry := ⟨.ofList [(⟨1⟩, ⟨2⟩), (⟨2⟩, ⟨3⟩), (⟨3⟩, ⟨4⟩), (⟨4⟩, ⟨2⟩), (⟨5⟩, ⟨5⟩),
      (⟨6⟩, ⟨2⟩)], .ofList [(⟨1⟩, ⟨9⟩)], 20.0⟩
    r.chainFrom ⟨1⟩ = [⟨1⟩, ⟨2⟩, ⟨3⟩, ⟨4⟩] ∧ r.chainFrom ⟨3⟩ = [⟨3⟩, ⟨4⟩, ⟨2⟩] ∧
      r.chainFrom ⟨5⟩ = [⟨5⟩] ∧ r.chainFrom ⟨6⟩ = [⟨6⟩, ⟨2⟩, ⟨3⟩, ⟨4⟩] := by
  decide

end SpriteBlocks.Registry
