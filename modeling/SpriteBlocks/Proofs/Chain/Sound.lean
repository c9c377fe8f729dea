import SpriteBlocks.Proofs.Chain.Walk
import Mathlib.Logic.Relation

/-!
# Sound registries

A registry is sound if its two maps hold the same edges and no block comes
after itself. The empty registry is sound, and every operation keeps a registry
sound. In a sound registry the chain from a block is everything that comes
after it, up to a block without a successor.
-/
namespace SpriteBlocks.Registry
open Relation

def Leads (r : Registry) (a b : BlockId) : Prop := r.successor a = some b

/-- What every registry has that the operations built. -/
structure Sound (r : Registry) : Prop where
  paired : ∀ a b, r.successor a = some b ↔ r.predecessor b = some a
  acyclic : ∀ a, ¬ TransGen r.Leads a a

theorem mem_edges_iff {r : Registry} {a b : BlockId} : (a, b) ∈ r.edges ↔ r.Leads a b :=
  (SortedMap.get?_eq_some_iff_mem r.successors a b).symm

theorem edges_nodup (r : Registry) : r.edges.Nodup := by
  refine List.Pairwise.imp (fun {a b} hlt heq => ?_) r.successors.increasing
  rw [heq] at hlt
  exact Std.lt_irrefl hlt

/-- A chain holds exactly the blocks that come after its start. -/
theorem mem_chainFrom_iff {r : Registry} {a b : BlockId} :
    b ∈ r.chainFrom a ↔ ReflTransGen r.Leads a b := by
  constructor
  · intro hb
    rcases List.mem_cons.1 hb with rfl | hb
    · exact .refl
    · have hchain := (r.chainFrom_isChain a).imp fun x y h => TransGen.single (r := r.Leads) h
      exact (hchain.rel_cons hb).to_reflTransGen
  · intro h
    induction h with
    | refl => exact r.start_mem_chainFrom a
    | tail _ hbc ih => exact r.successor_mem_chainFrom a ih hbc

/-- A path over some edges and one more either avoids the new edge or reaches
its source and goes on from its target. -/
theorem transGen_with_edge {R R' : BlockId → BlockId → Prop} {source target a b : BlockId}
    (hle : ∀ x y, R' x y → R x y ∨ (x = source ∧ y = target)) (h : TransGen R' a b) :
    TransGen R a b ∨ (ReflTransGen R a source ∧ ReflTransGen R target b) := by
  induction h with
  | single hab =>
    rcases hle _ _ hab with hab | ⟨rfl, rfl⟩
    · exact .inl (.single hab)
    · exact .inr ⟨.refl, .refl⟩
  | tail _ hbc ih =>
    rcases hle _ _ hbc with hbc | ⟨rfl, rfl⟩
    · rcases ih with ih | ⟨ha, hb⟩
      · exact .inl (ih.tail hbc)
      · exact .inr ⟨ha, hb.tail hbc⟩
    · rcases ih with ih | ⟨ha, _⟩
      · exact .inr ⟨ih.to_reflTransGen, .refl⟩
      · exact .inr ⟨ha, .refl⟩

section Edits
variable (r : Registry) (a b c : BlockId)

theorem successor_disconnect :
    (r.disconnect b).1.successor a = if a = b then none else r.successor a := by
  unfold disconnect
  split
  · next h =>
    split
    · next hab => exact hab ▸ h
    · rfl
  · exact SortedMap.get?_erase _ _ _

theorem predecessor_disconnect :
    (r.disconnect b).1.predecessor c =
      if r.successor b = some c then none else r.predecessor c := by
  unfold disconnect
  split
  · next h => simp [h]
  · next next h =>
    rw [h, predecessor, SortedMap.get?_erase]
    simp only [Option.some.injEq, eq_comm]
    rfl

theorem predecessor_dropIncoming :
    (r.dropIncoming b).predecessor c = if c = b then none else r.predecessor c := by
  unfold dropIncoming
  split
  · next h =>
    split
    · next hcb => exact hcb ▸ h
    · rfl
  · exact SortedMap.get?_erase _ _ _

theorem successor_dropIncoming :
    (r.dropIncoming b).successor a =
      if r.predecessor b = some a then none else r.successor a := by
  unfold dropIncoming
  split
  · next h => simp [h]
  · next pred h =>
    rw [h, successor, SortedMap.get?_erase]
    simp only [Option.some.injEq, eq_comm]
    rfl

theorem connect_of_error {source target : BlockId} {e : ConnectError}
    (h : (r.connect source target).2 = .error e) : (r.connect source target).1 = r := by
  unfold connect at h ⊢
  split
  · rfl
  · next hne =>
    split
    · rfl
    · next hmem => simp [hne, hmem] at h

theorem not_reaches_of_connect {source target : BlockId} {previous : Option BlockId}
    (h : (r.connect source target).2 = .ok previous) :
    ¬ ReflTransGen r.Leads target source := by
  intro hreach
  unfold connect at h
  split at h
  · cases h
  · rw [if_pos (mem_chainFrom_iff.2 hreach)] at h
    cases h

theorem sound_empty (tolerance : Float) : (empty tolerance).Sound where
  paired a b := ⟨nofun, nofun⟩
  acyclic a ha := by
    obtain ⟨b, hab, -⟩ := TransGen.head'_iff.1 ha
    cases hab

end Edits

namespace Sound
variable {r : Registry} (h : r.Sound)
include h

theorem source_unique {a b c : BlockId} (hac : r.Leads a c) (hbc : r.Leads b c) : a = b :=
  Option.some.inj (((h.paired a c).1 hac).symm.trans ((h.paired b c).1 hbc))

theorem irrefl (a : BlockId) : ¬ r.Leads a a := fun ha => h.acyclic a (.single ha)

/-- A registry with fewer edges is sound as soon as its maps agree. -/
theorem of_fewer {r' : Registry} (hle : ∀ a b, r'.Leads a b → r.Leads a b)
    (hpair : ∀ a b, r'.successor a = some b ↔ r'.predecessor b = some a) : r'.Sound :=
  ⟨hpair, fun a ha => h.acyclic a (TransGen.mono hle a a ha)⟩

theorem disconnect (b : BlockId) : (r.disconnect b).1.Sound := by
  refine h.of_fewer (fun x y hxy => ?_) fun x y => ?_
  · rw [Leads, successor_disconnect] at hxy
    split at hxy
    · cases hxy
    · exact hxy
  · rw [successor_disconnect, predecessor_disconnect]
    have := h.paired x y
    have := h.paired b y
    grind

theorem dropIncoming (b : BlockId) : (r.dropIncoming b).Sound := by
  refine h.of_fewer (fun x y hxy => ?_) fun x y => ?_
  · rw [Leads, successor_dropIncoming] at hxy
    split at hxy
    · cases hxy
    · exact hxy
  · rw [successor_dropIncoming, predecessor_dropIncoming]
    have := h.paired x y
    have := h.paired x b
    grind

theorem detach (b : BlockId) : (r.detach b).Sound := (h.disconnect b).dropIncoming b

theorem successor_detach (a b : BlockId) :
    (r.detach b).successor a =
      if a = b ∨ r.successor a = some b then none else r.successor a := by
  rw [Registry.detach, successor_dropIncoming, successor_disconnect, predecessor_disconnect]
  have := h.paired a b
  have := h.irrefl b
  grind [Leads]

theorem predecessor_detach (b c : BlockId) :
    (r.detach b).predecessor c =
      if c = b ∨ r.predecessor c = some b then none else r.predecessor c := by
  rw [Registry.detach, predecessor_dropIncoming, predecessor_disconnect]
  have := h.paired b c
  grind

/-- The edges that are listed are those that do not touch the block, in the order they had. -/
theorem edges_detach (b : BlockId) :
    (r.detach b).edges = r.edges.filter fun e => e.1 ≠ b ∧ e.2 ≠ b := by
  let left : SortedMap BlockId BlockId :=
    ⟨r.edges.filter fun e => e.1 ≠ b ∧ e.2 ≠ b, r.successors.increasing.filter _⟩
  have hleft : (r.detach b).successors = left := by
    refine SortedMap.ext_of_get? fun a => Option.ext fun c => ?_
    rw [left.get?_eq_some_iff_mem, List.mem_filter, mem_edges_iff, decide_eq_true_iff, Leads]
    have hdetached := h.successor_detach a b
    rw [successor] at hdetached
    rw [hdetached]
    grind
  exact congrArg SortedMap.entries hleft

/-- What an accepted connection leaves of the edges out of blocks. -/
theorem successor_connect {source target : BlockId} {previous : Option BlockId}
    (hok : (r.connect source target).2 = .ok previous) (a : BlockId) :
    (r.connect source target).1.successor a =
      if a = source then some target
      else if r.successor a = some target then none else r.successor a := by
  unfold connect at hok ⊢
  split at hok
  · cases hok
  · next hne =>
    split at hok
    · cases hok
    · next hmem =>
      rw [if_neg hne, if_neg hmem]
      dsimp only
      rw [successor, SortedMap.get?_insert, ← successor, successor_dropIncoming,
        successor_disconnect, predecessor_disconnect]
      have := h.paired a target
      have := fun hs ha => h.source_unique (a := source) (b := a) (c := target) hs ha
      grind [Leads]

theorem predecessor_connect {source target : BlockId} {previous : Option BlockId}
    (hok : (r.connect source target).2 = .ok previous) (c : BlockId) :
    (r.connect source target).1.predecessor c =
      if c = target then some source
      else if r.predecessor c = some source then none else r.predecessor c := by
  unfold connect at hok ⊢
  split at hok
  · cases hok
  · next hne =>
    split at hok
    · cases hok
    · next hmem =>
      rw [if_neg hne, if_neg hmem]
      dsimp only
      rw [predecessor, SortedMap.get?_insert, ← predecessor, predecessor_dropIncoming,
        predecessor_disconnect]
      have := h.paired source c
      grind

theorem connect (source target : BlockId) : (r.connect source target).1.Sound := by
  cases hres : (r.connect source target).2 with
  | error e =>
    rw [r.connect_of_error hres]
    exact h
  | ok previous =>
    refine ⟨fun a b => ?_, fun a ha => ?_⟩
    · rw [h.successor_connect hres, h.predecessor_connect hres]
      have := h.paired a b
      grind
    · have hle : ∀ x y, (r.connect source target).1.Leads x y →
          r.Leads x y ∨ (x = source ∧ y = target) := by
        intro x y hxy
        rw [Leads, h.successor_connect hres] at hxy
        grind [Leads]
      rcases transGen_with_edge hle ha with ha | ⟨hsource, htarget⟩
      · exact h.acyclic a ha
      · exact r.not_reaches_of_connect hres (htarget.trans hsource)

end Sound

end SpriteBlocks.Registry
