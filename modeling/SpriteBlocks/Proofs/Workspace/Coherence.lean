import SpriteBlocks.Workspace.Basic
import SpriteBlocks.Proofs.Block.Surgery
import SpriteBlocks.Proofs.Chain.Sound

/-!
# Coherent workspaces

A workspace is coherent if its blocks have distinct identities that were handed
out already, only containers have blocks inside, and every edge runs between
top-level blocks. Each edit puts a fitting tree in, cuts a tree out or changes
edges, and keeps a workspace coherent whose registry is sound.
-/
namespace SpriteBlocks.Workspace

def topIds (ws : Workspace) : List BlockId := ws.blocks.map Block.id

/-- How the blocks, the identities handed out and the edges fit together. -/
structure Coherent (ws : Workspace) : Prop where
  distinct : (Block.idsIn ws.blocks).Nodup
  counted : ∀ i ∈ Block.idsIn ws.blocks, i.raw ≠ 0 ∧ i ≤ ws.lastId
  contained : ∀ b ∈ Block.nodesIn ws.blocks, b.children ≠ [] → b.isContainer
  chained : ∀ e ∈ ws.registry.successors.entries, e.1 ∈ ws.topIds ∧ e.2 ∈ ws.topIds
  chainedBack : ∀ e ∈ ws.registry.predecessors.entries, e.1 ∈ ws.topIds ∧ e.2 ∈ ws.topIds

/-- What edits keep: a coherent workspace with a sound registry. -/
structure Sound (ws : Workspace) : Prop where
  registry : ws.registry.Sound
  distinct : (Block.idsIn ws.blocks).Nodup
  counted : ∀ i ∈ Block.idsIn ws.blocks, i.raw ≠ 0 ∧ i ≤ ws.lastId
  contained : ∀ b ∈ Block.nodesIn ws.blocks, b.Shaped
  chained : ∀ a b, ws.registry.Leads a b → a ∈ ws.topIds ∧ b ∈ ws.topIds

structure Fits (ws : Workspace) (b : Block) : Prop where
  distinct : (Block.idsIn ws.blocks ++ b.ids).Nodup
  counted : ∀ i ∈ b.ids, i.raw ≠ 0 ∧ i ≤ ws.lastId
  contained : ∀ x ∈ b.nodes, x.Shaped

theorem sound_empty (tolerance : Float) : (empty tolerance).Sound where
  registry := Registry.sound_empty tolerance
  distinct := List.nodup_nil
  counted _ hi := by cases hi
  contained _ hb := by cases hb
  chained _ _ h := by cases h

theorem putInside_eq_ok {ws ws' : Workspace} {id : BlockId} {child : Block}
    (h : ws.putInside id child = .ok ws') :
    ∃ x blocks, ws.get? id = some x ∧ x.isContainer ∧
      Block.Swap x (Block.withChild child x) ws.blocks blocks ∧ ws' = { ws with blocks } := by
  unfold putInside at h
  split at h
  · cases h
  · next y hy =>
    split at h
    · next blocks hblocks =>
      obtain ⟨x, hx, hswap⟩ := Block.swap_of_modifyIn? hblocks
      have hcont : x.isContainer := by
        unfold container at hy
        rw [get?, hx] at hy
        dsimp only at hy
        split at hy
        · next hc => exact hc
        · cases hy
      exact ⟨x, blocks, hx, hcont, hswap, (Except.ok.inj h).symm⟩
    · cases h

namespace Sound
variable {ws : Workspace} (h : ws.Sound)
include h

theorem coherent : ws.Coherent where
  distinct := h.distinct
  counted := h.counted
  contained := h.contained
  chained e he := h.chained e.1 e.2 (Registry.mem_edges_iff.1 he)
  chainedBack e he := by
    have hpred := (SortedMap.get?_eq_some_iff_mem ws.registry.predecessors e.1 e.2).2 he
    exact (h.chained e.2 e.1 ((h.registry.paired e.2 e.1).2 hpred)).symm

theorem topIds_nodup : ws.topIds.Nodup := h.distinct.sublist (Block.map_id_sublist_idsIn ws.blocks)

/-- Events and the last identity do not matter as long as the latter grows. -/
theorem raise {last : BlockId} (events : Log) (hle : ws.lastId ≤ last) :
    Sound { ws with lastId := last, events } where
  registry := h.registry
  distinct := h.distinct
  counted i hi := ⟨(h.counted i hi).1, Std.le_trans (h.counted i hi).2 hle⟩
  contained := h.contained
  chained := h.chained

theorem addTop {b : Block} (hb : ws.Fits b) : Sound { ws with blocks := ws.blocks ++ [b] } := by
  have hids : Block.idsIn (ws.blocks ++ [b]) = Block.idsIn ws.blocks ++ b.ids := by
    rw [Block.idsIn_append, Block.idsIn, Block.idsIn, List.append_nil]
  refine ⟨h.registry, hids ▸ hb.distinct, fun i hi => ?_, fun x hx => ?_, fun a c hac => ?_⟩
  · rw [hids] at hi
    rcases List.mem_append.1 hi with hi | hi
    · exact h.counted i hi
    · exact hb.counted i hi
  · rw [Block.nodesIn_append, Block.nodesIn, Block.nodesIn, List.append_nil] at hx
    rcases List.mem_append.1 hx with hx | hx
    · exact h.contained x hx
    · exact hb.contained x hx
  · obtain ⟨ha, hc⟩ := h.chained a c hac
    simp only [topIds, List.map_append, List.mem_append] at ha hc ⊢
    exact ⟨.inl ha, .inl hc⟩

theorem putInside {ws' : Workspace} {id : BlockId} {child : Block} (hb : ws.Fits child)
    (hput : ws.putInside id child = .ok ws') : ws'.Sound ∧ ws'.lastId = ws.lastId := by
  obtain ⟨x, blocks, hfind, hcont, hswap, rfl⟩ := putInside_eq_ok hput
  have hx := (Block.mem_of_findIn? hfind).1
  have hids : (Block.idsIn blocks).Perm (Block.idsIn ws.blocks ++ child.ids) := by
    rw [List.perm_iff_count]
    intro a
    have hcount := hswap.idsIn_perm.count_eq a
    simp only [Block.ids_withChild, List.count_append] at hcount ⊢
    omega
  refine ⟨⟨h.registry, hids.nodup_iff.2 hb.distinct, fun i hi => ?_, ?_, fun a c hac => ?_⟩, rfl⟩
  · rcases List.mem_append.1 (hids.mem_iff.1 hi) with hi | hi
    · exact h.counted i hi
    · exact hb.counted i hi
  · refine hswap.shaped (fun y hy => ?_) h.contained
    rcases Block.mem_nodes_iff.1 hy with rfl | hy
    · exact fun _ => hcont
    · rw [Block.withChild, Block.nodesIn_append, Block.nodesIn, Block.nodesIn,
        List.append_nil] at hy
      rcases List.mem_append.1 hy with hy | hy
      · exact h.contained y (Block.nodesIn_subset hx (Block.mem_nodes_iff.2 (.inr hy)))
      · exact hb.contained y hy
  · have htop : blocks.map Block.id = ws.topIds := hswap.map_id rfl
    simp only [topIds, htop]
    exact h.chained a c hac

/-- Cutting a top-level tree out detaches it; it may then be put in elsewhere. -/
theorem cutTop {id : BlockId} {b : Block} {rest : List Block}
    (hcut : Block.takeFirst? id ws.blocks = some (b, rest)) :
    Sound { ws with registry := ws.registry.detach id, blocks := rest } ∧
      Fits { ws with registry := ws.registry.detach id, blocks := rest } b := by
  obtain ⟨hc, hid⟩ := Block.cut_of_takeFirst? hcut
  have hperm := hc.idsIn_perm
  have hnodup := hperm.nodup_iff.1 h.distinct
  have hcounted : ∀ i ∈ b.ids ++ Block.idsIn rest, i.raw ≠ 0 ∧ i ≤ ws.lastId := fun i hi =>
    h.counted i (hperm.mem_iff.2 hi)
  have htop := Block.map_id_takeFirst? hcut
  refine ⟨⟨h.registry.detach id, (List.nodup_append.1 hnodup).2.1,
    fun i hi => hcounted i (List.mem_append_right _ hi), hc.shaped h.contained, fun a c hac => ?_⟩,
    ⟨List.nodup_append_comm.1 hnodup, fun i hi => hcounted i (List.mem_append_left _ hi),
      fun x hx => h.contained x (hc.nodes_subset hx)⟩⟩
  rw [Registry.Leads, h.registry.successor_detach] at hac
  have hmem : ∀ i ∈ ws.topIds, i ≠ id → i ∈ rest.map Block.id := fun i hi hne =>
    (List.mem_cons.1 (htop.mem_iff.1 hi)).resolve_left hne
  split at hac
  · cases hac
  · next hne =>
    obtain ⟨ha, hc⟩ := h.chained a c hac
    exact ⟨hmem a ha fun he => hne (.inl he), hmem c hc fun he => hne (.inr (he ▸ hac))⟩

/-- Cutting a nested tree out leaves the top level and the edges alone. -/
theorem cutInside {id : BlockId} {b : Block} {blocks : List Block}
    (hcut : Block.takeInside? id ws.blocks = some (b, blocks)) : Sound { ws with blocks } := by
  obtain ⟨hc, -⟩ := Block.cut_of_takeInside? hcut
  have hperm := hc.idsIn_perm
  have hnodup := hperm.nodup_iff.1 h.distinct
  refine ⟨h.registry, (List.nodup_append.1 hnodup).2.1,
    fun i hi => h.counted i (hperm.mem_iff.2 (List.mem_append_right _ hi)),
    hc.shaped h.contained, fun a c hac => ?_⟩
  simp only [topIds, Block.map_id_takeInside? hcut]
  exact h.chained a c hac

end Sound
end SpriteBlocks.Workspace
