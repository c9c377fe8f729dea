import Mathlib.Data.List.Nodup
import SpriteBlocks.CommandLine.Listing
import SpriteBlocks.Proofs.Chain.Entry
import SpriteBlocks.Proofs.Workspace.History

/-!
# Chains of a workspace

The chains from the entry points share out the top-level blocks of a sound
workspace, and the neighbours in them are the edges. So a program runs every
top-level block in one place, and a listing shows every edge.
-/
namespace SpriteBlocks.Workspace

def chains (ws : Workspace) : List (List Block) := ws.entryPoints.map fun e => ws.chainFrom e.id

def neighbours (chain : List Block) : List (BlockId × BlockId) :=
  Registry.links (chain.map Block.id)

/-- How the chains share out the top-level blocks and the edges. -/
structure Partitioned (ws : Workspace) : Prop where
  distinct : ws.topIds.Nodup
  shared : ws.chains.flatten.Perm ws.blocks
  once : ∀ b ∈ ws.blocks, ∃! e, e ∈ ws.entryPoints ∧ b ∈ ws.chainFrom e.id
  single : ∀ e ∈ ws.entryPoints, (ws.chainFrom e.id).Nodup
  headed : ∀ e ∈ ws.entryPoints, (ws.chainFrom e.id).head? = some e
  resolved : ∀ e ∈ ws.entryPoints, (ws.chainFrom e.id).map Block.id = ws.registry.chainFrom e.id
  edgesOnce : ws.registry.edges.Nodup
  joined : (ws.chains.flatMap neighbours).Perm ws.registry.edges
  listed : ((CommandLine.chains ws).flatMap neighbours).Perm ws.registry.edges

theorem mem_entryPoints_iff {ws : Workspace} {b : Block} :
    b ∈ ws.entryPoints ↔ b ∈ ws.blocks ∧ ws.registry.predecessor b.id = none := by
  rw [entryPoints, List.mem_filter, Bool.not_eq_true', Registry.isSuccessor_eq_false_iff]

/-- As identities are distinct, the block that is found by one is the block that has it. -/
theorem find?_blocks_iff {ws : Workspace} (hnodup : ws.topIds.Nodup) {i : BlockId} {b : Block} :
    (ws.blocks.find? fun x => x.id = i) = some b ↔ b ∈ ws.blocks ∧ b.id = i := by
  have hfound (x : Block) (hx : (ws.blocks.find? fun x => x.id = i) = some x) :
      x ∈ ws.blocks ∧ x.id = i := by
    have hid := List.find?_some hx
    exact ⟨List.mem_of_find?_eq_some hx, of_decide_eq_true hid⟩
  refine ⟨hfound b, fun ⟨hb, hid⟩ => ?_⟩
  cases hfind : ws.blocks.find? fun x => x.id = i with
  | none => exact absurd (decide_eq_true hid) (List.find?_eq_none.1 hfind b hb)
  | some x =>
    obtain ⟨hx, hxid⟩ := hfound x hfind
    rw [List.inj_on_of_nodup_map hnodup hx hb (hxid.trans hid.symm)]

/-- Only the chains of one block are left out of a listing, and they have no edges. -/
theorem flatMap_neighbours_listed (ws : Workspace) :
    (CommandLine.chains ws).flatMap neighbours = ws.chains.flatMap neighbours := by
  have hshort (l : List (List Block)) :
      (l.filter fun chain => 1 < chain.length).flatMap neighbours = l.flatMap neighbours := by
    induction l with
    | nil => rfl
    | cons chain l ih =>
      by_cases hlen : 1 < chain.length
      · rw [List.filter_cons_of_pos (by simpa using hlen), List.flatMap_cons, ih, List.flatMap_cons]
      · have hnil : neighbours chain = [] :=
          Registry.links_eq_nil (List.length_map Block.id ▸ Nat.not_lt.1 hlen)
        rw [List.filter_cons_of_neg (by simpa using hlen), List.flatMap_cons, hnil, ih,
          List.nil_append]
  exact hshort ws.chains

namespace Sound
variable {ws : Workspace} (h : ws.Sound)
include h

/-- Edges do not leave the top level, so neither does a chain. -/
theorem chainFrom_subset {a : BlockId} (ha : a ∈ ws.topIds) :
    ws.registry.chainFrom a ⊆ ws.topIds := by
  intro b hb
  rcases (Registry.mem_chainFrom_iff.1 hb).cases_tail with rfl | ⟨c, -, hcb⟩
  · exact ha
  · exact (h.chained c b hcb).2

theorem map_id_chainFrom {a : BlockId} (ha : a ∈ ws.topIds) :
    (ws.chainFrom a).map Block.id = ws.registry.chainFrom a := by
  have hresolve (l : List BlockId) (hl : l ⊆ ws.topIds) :
      (l.filterMap fun id => ws.blocks.find? fun b => b.id = id).map Block.id = l := by
    induction l with
    | nil => rfl
    | cons i l ih =>
      obtain ⟨b, hb⟩ := List.mem_map.1 (hl List.mem_cons_self)
      have hfind := (find?_blocks_iff h.topIds_nodup).2 hb
      simp only [List.filterMap_cons, hfind, List.map_cons, hb.2,
        ih (List.subset_of_cons_subset hl)]
  exact hresolve _ (h.chainFrom_subset ha)

theorem mem_chainFrom_iff {a : BlockId} {b : Block} :
    b ∈ ws.chainFrom a ↔ b ∈ ws.blocks ∧ b.id ∈ ws.registry.chainFrom a := by
  simp only [chainFrom, List.mem_filterMap, find?_blocks_iff h.topIds_nodup]
  constructor
  · rintro ⟨i, hi, hb, rfl⟩
    exact ⟨hb, hi⟩
  · rintro ⟨hb, hi⟩
    exact ⟨b.id, hi, hb, rfl⟩

theorem chainFrom_nodup {a : BlockId} (ha : a ∈ ws.topIds) : (ws.chainFrom a).Nodup := by
  refine List.Nodup.of_map Block.id ?_
  rw [h.map_id_chainFrom ha]
  exact ws.registry.chainFrom_nodup a

theorem head_chainFrom {e : Block} (he : e ∈ ws.blocks) :
    (ws.chainFrom e.id).head? = some e := by
  have hfind := (find?_blocks_iff h.topIds_nodup).2 ⟨he, rfl⟩
  simp only [chainFrom, Registry.chainFrom, List.filterMap_cons, hfind, List.head?_cons]

theorem eq_of_mem_chainFrom {e f : Block} {i : BlockId} (he : e ∈ ws.entryPoints)
    (hf : f ∈ ws.entryPoints) (hie : i ∈ ws.registry.chainFrom e.id)
    (hif : i ∈ ws.registry.chainFrom f.id) : e = f := by
  rw [mem_entryPoints_iff] at he hf
  exact List.inj_on_of_nodup_map h.topIds_nodup he.1 hf.1
    (h.registry.entry_unique he.2 hf.2 hie hif)

/-- Going back along the edges from a top-level block leads to an entry point. -/
theorem exists_entryPoint {b : Block} (hb : b ∈ ws.blocks) :
    ∃ e ∈ ws.entryPoints, b ∈ ws.chainFrom e.id := by
  obtain ⟨i, hi, hbi⟩ := h.registry.exists_entry b.id
  have htop : i ∈ ws.topIds := by
    rcases (Registry.mem_chainFrom_iff.1 hbi).cases_head with rfl | ⟨c, hic, -⟩
    · exact List.mem_map_of_mem hb
    · exact (h.chained i c hic).1
  obtain ⟨e, he, rfl⟩ := List.mem_map.1 htop
  exact ⟨e, mem_entryPoints_iff.2 ⟨he, hi⟩, h.mem_chainFrom_iff.2 ⟨hb, hbi⟩⟩

theorem entryPoints_nodup : ws.entryPoints.Nodup :=
  (List.Nodup.of_map Block.id h.topIds_nodup).filter _

/-- Lists taken from the chains share no member when each of their members tells
a block of its chain. -/
theorem nodup_flatMap_chains {α : Type} {f : Block → List α} (id : α → BlockId)
    (hf : ∀ e ∈ ws.entryPoints, (f e).Nodup)
    (hid : ∀ e ∈ ws.entryPoints, ∀ x ∈ f e, id x ∈ ws.registry.chainFrom e.id) :
    (ws.entryPoints.flatMap f).Nodup := by
  refine List.nodup_flatMap.2 ⟨hf, h.entryPoints_nodup.pairwise_of_forall_ne ?_⟩
  intro e he e' he' hne x hx hx'
  exact hne (h.eq_of_mem_chainFrom he he' (hid e he x hx) (hid e' he' x hx'))

theorem flatten_chains_perm : ws.chains.flatten.Perm ws.blocks := by
  have htop : ∀ e ∈ ws.entryPoints, e.id ∈ ws.topIds := fun e he =>
    List.mem_map_of_mem (mem_entryPoints_iff.1 he).1
  have hnodup : (ws.entryPoints.flatMap fun e => ws.chainFrom e.id).Nodup :=
    h.nodup_flatMap_chains Block.id (fun e he => h.chainFrom_nodup (htop e he))
      fun e _ b hb => (h.mem_chainFrom_iff.1 hb).2
  refine (List.perm_ext_iff_of_nodup hnodup (List.Nodup.of_map _ h.topIds_nodup)).2 fun b => ?_
  rw [List.mem_flatMap]
  constructor
  · rintro ⟨e, -, hb⟩
    exact (h.mem_chainFrom_iff.1 hb).1
  · exact h.exists_entryPoint

theorem flatMap_neighbours_perm : (ws.chains.flatMap neighbours).Perm ws.registry.edges := by
  have hchains : ws.chains.flatMap neighbours =
      ws.entryPoints.flatMap fun e => Registry.links (ws.registry.chainFrom e.id) := by
    rw [chains, List.flatMap_map]
    refine List.flatMap_congr fun e he => ?_
    rw [neighbours, h.map_id_chainFrom (List.mem_map_of_mem (mem_entryPoints_iff.1 he).1)]
  have hnodup : (ws.chains.flatMap neighbours).Nodup := by
    rw [hchains]
    refine h.nodup_flatMap_chains Prod.fst (fun e _ => ?_) fun e _ x hx =>
      (h.registry.mem_links_chainFrom.1 hx).1
    refine List.Nodup.of_map Prod.fst ?_
    rw [Registry.map_fst_links]
    exact (ws.registry.chainFrom_nodup e.id).sublist (List.dropLast_sublist _)
  refine (List.perm_ext_iff_of_nodup hnodup ws.registry.edges_nodup).2 fun (a, b) => ?_
  rw [hchains, List.mem_flatMap, Registry.mem_edges_iff]
  constructor
  · rintro ⟨e, -, hab⟩
    exact (h.registry.mem_links_chainFrom.1 hab).2
  · intro hab
    obtain ⟨x, hx, rfl⟩ := List.mem_map.1 (h.chained a b hab).1
    obtain ⟨e, he, hxe⟩ := h.exists_entryPoint hx
    exact ⟨e, he, h.registry.mem_links_chainFrom.2 ⟨(h.mem_chainFrom_iff.1 hxe).2, hab⟩⟩

theorem partitioned : ws.Partitioned := by
  have hblocks : ∀ e ∈ ws.entryPoints, e ∈ ws.blocks := fun e he => (mem_entryPoints_iff.1 he).1
  have htop : ∀ e ∈ ws.entryPoints, e.id ∈ ws.topIds := fun e he =>
    List.mem_map_of_mem (hblocks e he)
  refine
    { distinct := h.topIds_nodup
      shared := h.flatten_chains_perm
      once := fun b hb => ?_
      single := fun e he => h.chainFrom_nodup (htop e he)
      headed := fun e he => h.head_chainFrom (hblocks e he)
      resolved := fun e he => h.map_id_chainFrom (htop e he)
      edgesOnce := Registry.edges_nodup _
      joined := h.flatMap_neighbours_perm
      listed := flatMap_neighbours_listed ws ▸ h.flatMap_neighbours_perm }
  obtain ⟨e, he, hbe⟩ := h.exists_entryPoint hb
  refine ⟨e, ⟨he, hbe⟩, fun f ⟨hf, hbf⟩ => ?_⟩
  exact h.eq_of_mem_chainFrom hf he (h.mem_chainFrom_iff.1 hbf).2 (h.mem_chainFrom_iff.1 hbe).2

end Sound

/-- After every history that hands out fewer than `2 ^ 32` identities, the chains
from the entry points partition the top-level blocks and join them by the edges. -/
theorem partitioned_of_history (tolerance : Float) (es : List Edit)
    (hroom : Edit.allocatedAll (empty tolerance) es < UInt32.size) :
    (Edit.applyAll (empty tolerance) es).Partitioned := by
  have hzero : (empty tolerance).lastId.raw.toNat = 0 := rfl
  have h := sound_empty tolerance
  exact (h.applyAll es (by omega)).1.partitioned

/-- A history after which a chain of three, a chain of one and a block inside a
container are left. -/
theorem partitioned_of_history_three :
    let es : List Edit := [.add .whenGreenFlag ∅, .add .repeatTimes ∅, .add .say ∅, .add .move ∅,
      .add .wait ∅, .connect ⟨1⟩ ⟨2⟩ (.adjacent true), .connect ⟨2⟩ ⟨3⟩ (.adjacent true),
      .connect ⟨3⟩ ⟨4⟩ (.adjacent true), .nest ⟨4⟩ ⟨2⟩]
    Edit.allocatedAll (empty 20.0) es < UInt32.size ∧
      (Edit.applyAll (empty 20.0) es).chains.map (·.map Block.id) = [[⟨1⟩, ⟨2⟩, ⟨3⟩], [⟨5⟩]] ∧
      (Edit.applyAll (empty 20.0) es).Partitioned := by
  intro es
  have hroom : Edit.allocatedAll (empty 20.0) es < UInt32.size := by decide
  exact ⟨hroom, by decide, partitioned_of_history 20.0 es hroom⟩

end SpriteBlocks.Workspace
