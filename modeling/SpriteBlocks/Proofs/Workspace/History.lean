import SpriteBlocks.Workspace.Edit
import SpriteBlocks.Proofs.Block.Copies
import SpriteBlocks.Proofs.Workspace.Coherence

/-!
# Histories of a workspace

Every edit keeps a workspace sound as long as identities are left, so every
history that starts with the empty workspace leaves a coherent one. The last
identity counts the identities handed out, which is why none is handed out
twice.
-/
namespace SpriteBlocks

theorem BlockId.le_iff_toNat_le {i j : BlockId} : i ≤ j ↔ i.raw.toNat ≤ j.raw.toNat :=
  UInt32.le_iff_toNat_le

theorem BlockId.le_next {i : BlockId} (h : i.raw.toNat + 1 < UInt32.size) : i ≤ i.next := by
  rw [BlockId.le_iff_toNat_le, BlockId.toNat_next h]
  exact Nat.le_succ _

namespace Edit

def allocated (ws : Workspace) : Edit → Nat
  | add .. => 1
  | addChild container .. =>
    match ws.container container with
    | .ok _ => 1
    | .error _ => 0
  | duplicate block => ((ws.get? block).map Block.size).getD 0
  | _ => 0

def allocatedAll (ws : Workspace) : List Edit → Nat
  | [] => 0
  | e :: es => e.allocated ws + allocatedAll (e.apply ws).1 es

def Result.made? : Result → Option BlockId
  | .created block => some block
  | .copied block => block
  | _ => none

theorem allocatedAll_append (ws : Workspace) (es fs : List Edit) :
    allocatedAll ws (es ++ fs) = allocatedAll ws es + allocatedAll (applyAll ws es) fs := by
  induction es generalizing ws with
  | nil => exact (Nat.zero_add _).symm
  | cons e es ih => rw [List.cons_append, allocatedAll, ih, allocatedAll, applyAll, Nat.add_assoc]

end Edit

namespace Workspace

theorem mem_topIds_of_topLevel {ws : Workspace} {id : BlockId} {b : Block}
    (h : ws.topLevel id = .ok b) : id ∈ ws.topIds := by
  unfold topLevel at h
  split at h
  · next x hx =>
    have hid := List.find?_some hx
    exact List.mem_map.2 ⟨x, List.mem_of_find?_eq_some hx, of_decide_eq_true hid⟩
  · cases h

namespace Sound
variable {ws : Workspace} (h : ws.Sound)
include h

/-- A tree numbered on from the last identity fits once that has been raised. -/
theorem fits_of_range {last : BlockId} {b : Block}
    (hids : b.ids.map (fun i => i.raw.toNat) = List.range' (ws.lastId.raw.toNat + 1) b.size)
    (hlast : last.raw.toNat = ws.lastId.raw.toNat + b.size)
    (hshape : ∀ x ∈ b.nodes, x.Shaped) : Fits { ws with lastId := last } b := by
  have hrange : ∀ i ∈ b.ids, ws.lastId.raw.toNat < i.raw.toNat ∧ i.raw.toNat ≤ last.raw.toNat := by
    intro i hi
    have hmem := List.mem_map_of_mem (f := fun i : BlockId => i.raw.toNat) hi
    rw [hids, List.mem_range'_1] at hmem
    omega
  refine ⟨List.nodup_append.2 ⟨h.distinct, ?_, ?_⟩, fun i hi => ⟨?_, ?_⟩, hshape⟩
  · refine List.Nodup.of_map (fun i : BlockId => i.raw.toNat) ?_
    rw [hids]
    exact List.nodup_range'
  · rintro i hi j hj rfl
    have hle := BlockId.le_iff_toNat_le.1 (h.counted i hi).2
    have hlt := (hrange i hj).1
    omega
  · intro hzero
    have hlt := (hrange i hi).1
    rw [hzero] at hlt
    exact Nat.not_lt_zero _ hlt
  · exact BlockId.le_iff_toNat_le.2 (hrange i hi).2

theorem fits_leaf (opcode : Opcode) (params : Parameters)
    (hroom : ws.lastId.raw.toNat + 1 < UInt32.size) :
    Fits { ws with lastId := ws.lastId.next } (Block.leaf ws.lastId.next opcode params) := by
  have hnext := BlockId.toNat_next hroom
  refine h.fits_of_range ?_ hnext fun x hx hne => ?_
  · simp [Block.leaf, Block.ids, Block.idsIn, Block.size, Block.sizeIn, hnext]
  · simp only [Block.leaf, Block.nodes, Block.nodesIn, List.mem_singleton] at hx
    exact absurd rfl (hx ▸ hne)

theorem add (opcode : Opcode) (params : Parameters)
    (hroom : ws.lastId.raw.toNat + 1 < UInt32.size) : (ws.add opcode params).1.Sound :=
  (h.raise ws.events (BlockId.le_next hroom)).addTop (h.fits_leaf opcode params hroom)

theorem addChild (container : BlockId) (opcode : Opcode) (params : Parameters)
    (hroom : ws.lastId.raw.toNat + (Edit.addChild container opcode params).allocated ws
      < UInt32.size) :
    (ws.addChild container opcode params).1.Sound ∧
      (ws.addChild container opcode params).1.lastId.raw.toNat =
        ws.lastId.raw.toNat + (Edit.addChild container opcode params).allocated ws := by
  unfold Workspace.addChild
  rw [Edit.allocated] at hroom ⊢
  split
  · next hc => simp [h, hc]
  · next hc =>
    simp only [hc] at hroom ⊢
    have hraised := h.raise ws.events (BlockId.le_next hroom)
    split
    · next ws' hput =>
      obtain ⟨hs, hlast⟩ := hraised.putInside (h.fits_leaf opcode params hroom) hput
      exact ⟨hs, hlast ▸ BlockId.toNat_next hroom⟩
    · exact ⟨hraised, BlockId.toNat_next hroom⟩

theorem duplicate (id : BlockId)
    (hroom : ws.lastId.raw.toNat + (Edit.duplicate id).allocated ws < UInt32.size) :
    (ws.duplicate id).1.Sound ∧
      (ws.duplicate id).1.lastId.raw.toNat =
        ws.lastId.raw.toNat + (Edit.duplicate id).allocated ws := by
  unfold Workspace.duplicate
  rw [Edit.allocated] at hroom ⊢
  split
  · next hb => simp [h, hb]
  · next b hb =>
    simp only [hb, Option.map_some, Option.getD_some] at hroom ⊢
    obtain ⟨hids, hlast⟩ := Block.ids_renumber hroom
    have hsize := Block.size_renumber ws.lastId b
    have hle : ws.lastId ≤ (b.renumber ws.lastId).2 := by
      rw [BlockId.le_iff_toNat_le, hlast]
      exact Nat.le_add_right _ _
    refine ⟨(h.raise ws.events hle).addTop (h.fits_of_range ?_ ?_ ?_), hlast⟩
    · rw [hids, hsize]
    · rw [hlast, hsize]
    · exact Block.shaped_renumber _ _ fun x hx =>
        h.contained x (Block.nodesIn_subset (Block.mem_of_findIn? hb).1 hx)

theorem remove (id : BlockId) :
    (ws.remove id).1.Sound ∧ (ws.remove id).1.lastId = ws.lastId := by
  unfold Workspace.remove
  cases htop : Block.takeFirst? id ws.blocks with
  | some r => exact ⟨(h.cutTop htop).1.raise _ (Std.le_refl _), rfl⟩
  | none =>
    cases hin : Block.takeInside? id ws.blocks with
    | some r => exact ⟨(h.cutInside hin).raise _ (Std.le_refl _), rfl⟩
    | none => exact ⟨h, rfl⟩

theorem setParam (id : BlockId) (name : String) (value : ParamValue) :
    (ws.setParam id name value).1.Sound ∧ (ws.setParam id name value).1.lastId = ws.lastId := by
  unfold Workspace.setParam
  split
  · exact ⟨h, rfl⟩
  · next blocks hblocks =>
    obtain ⟨x, hx, hswap⟩ := Block.swap_of_modifyIn? hblocks
    have hmem := (Block.mem_of_findIn? hx).1
    have hids : (Block.idsIn blocks).Perm (Block.idsIn ws.blocks) := by
      have hperm := hswap.idsIn_perm
      rw [Block.ids_withParam] at hperm
      exact (List.perm_append_right_iff _).1 hperm
    refine ⟨⟨h.registry, hids.nodup_iff.2 h.distinct, fun i hi => h.counted i (hids.mem_iff.1 hi),
      ?_, fun a c hac => ?_⟩, rfl⟩
    · refine hswap.shaped (fun y hy => ?_) h.contained
      rcases Block.mem_nodes_iff.1 hy with rfl | hy
      · exact h.contained x hmem
      · exact h.contained y (Block.nodesIn_subset hmem (Block.mem_nodes_iff.2 (.inr hy)))
    · have htop : blocks.map Block.id = ws.topIds := hswap.map_id rfl
      simp only [topIds, htop]
      exact h.chained a c hac

theorem nest (child container : BlockId) :
    (ws.nest child container).1.Sound ∧ (ws.nest child container).1.lastId = ws.lastId := by
  unfold Workspace.nest
  split
  · exact ⟨h, rfl⟩
  · split
    · exact ⟨h, rfl⟩
    · split
      · exact ⟨h, rfl⟩
      · split
        · exact ⟨h, rfl⟩
        · next b rest hcut =>
          obtain ⟨hs, hfits⟩ := h.cutTop hcut
          dsimp only
          split
          · next ws' hput => exact hs.putInside hfits hput
          · exact ⟨hs, rfl⟩

theorem connect (source target : BlockId) (gap : Proximity) :
    (ws.connect source target gap).1.Sound ∧
      (ws.connect source target gap).1.lastId = ws.lastId := by
  unfold Workspace.connect
  split
  · exact ⟨h, rfl⟩
  · exact ⟨h, rfl⟩
  · next hsource htarget =>
    have hs := mem_topIds_of_topLevel hsource
    have ht := mem_topIds_of_topLevel htarget
    split
    · have hconn : Sound { ws with registry := (ws.registry.connect source target).1 } := by
        refine ⟨h.registry.connect source target, h.distinct, h.counted, h.contained,
          fun a c hac => ?_⟩
        cases hres : (ws.registry.connect source target).2 with
        | error e =>
          rw [ws.registry.connect_of_error hres] at hac
          exact h.chained a c hac
        | ok previous =>
          rw [Registry.Leads, h.registry.successor_connect hres] at hac
          split at hac
          · next ha =>
            rw [ha, ← Option.some.inj hac]
            exact ⟨hs, ht⟩
          · split at hac
            · cases hac
            · exact h.chained a c hac
      split
      · next registry _ hreg =>
        rw [hreg] at hconn
        exact ⟨hconn.raise _ (Std.le_refl _), rfl⟩
      · next registry e hreg =>
        rw [hreg] at hconn
        exact ⟨hconn, rfl⟩
    · exact ⟨h, rfl⟩

theorem disconnect (id : BlockId) :
    (ws.disconnect id).1.Sound ∧ (ws.disconnect id).1.lastId = ws.lastId := by
  have hcut : Sound { ws with registry := (ws.registry.disconnect id).1 } := by
    refine ⟨h.registry.disconnect id, h.distinct, h.counted, h.contained, fun a c hac => ?_⟩
    rw [Registry.Leads, Registry.successor_disconnect] at hac
    split at hac
    · cases hac
    · exact h.chained a c hac
  unfold Workspace.disconnect
  split
  · exact ⟨h, rfl⟩
  · next registry next hreg =>
    rw [hreg] at hcut
    exact ⟨hcut.raise _ (Std.le_refl _), rfl⟩

/-- One edit keeps a workspace sound and counts the identities it hands out. -/
theorem apply (e : Edit) (hroom : ws.lastId.raw.toNat + e.allocated ws < UInt32.size) :
    (e.apply ws).1.Sound ∧
      (e.apply ws).1.lastId.raw.toNat = ws.lastId.raw.toNat + e.allocated ws := by
  cases e with
  | add opcode params => exact ⟨h.add opcode params hroom, BlockId.toNat_next hroom⟩
  | addChild container opcode params => exact h.addChild container opcode params hroom
  | duplicate block => exact h.duplicate block hroom
  | remove block => exact (h.remove block).imp_right fun hl => congrArg (·.raw.toNat) hl
  | setParam block name value =>
    exact (h.setParam block name value).imp_right fun hl => congrArg (·.raw.toNat) hl
  | nest child container =>
    exact (h.nest child container).imp_right fun hl => congrArg (·.raw.toNat) hl
  | connect source target gap =>
    exact (h.connect source target gap).imp_right fun hl => congrArg (·.raw.toNat) hl
  | disconnect block => exact (h.disconnect block).imp_right fun hl => congrArg (·.raw.toNat) hl
  | takeEvents => exact ⟨h.raise _ (Std.le_refl _), rfl⟩

theorem applyAll (es : List Edit)
    (hroom : ws.lastId.raw.toNat + Edit.allocatedAll ws es < UInt32.size) :
    (Edit.applyAll ws es).Sound ∧
      (Edit.applyAll ws es).lastId.raw.toNat =
        ws.lastId.raw.toNat + Edit.allocatedAll ws es := by
  induction es generalizing ws with
  | nil => exact ⟨h, rfl⟩
  | cons e es ih =>
    rw [Edit.allocatedAll] at hroom ⊢
    obtain ⟨hs, hlast⟩ := h.apply e (by omega)
    obtain ⟨hs', hlast'⟩ := ih hs (by omega)
    exact ⟨hs', by rw [Edit.applyAll, hlast', hlast, Nat.add_assoc]⟩

end Sound

theorem sound_of_history (tolerance : Float) (es : List Edit)
    (hroom : Edit.allocatedAll (empty tolerance) es < UInt32.size) :
    (Edit.applyAll (empty tolerance) es).Sound := by
  have hempty : (empty tolerance).lastId.raw.toNat = 0 := rfl
  exact ((sound_empty tolerance).applyAll es (by omega)).1

/-- The block that an edit makes has an identity after all those handed out before. -/
theorem lt_made {ws : Workspace} {e : Edit} {id : BlockId}
    (hroom : ws.lastId.raw.toNat + e.allocated ws < UInt32.size)
    (hmade : (e.apply ws).2.made? = some id) : ws.lastId.raw.toNat < id.raw.toNat := by
  have hnext (hone : 1 ≤ e.allocated ws) : ws.lastId.raw.toNat < ws.lastId.next.raw.toNat := by
    rw [BlockId.toNat_next (by omega)]
    exact Nat.lt_succ_self _
  cases e with
  | add opcode params =>
    obtain rfl := Option.some.inj hmade
    exact hnext (Nat.le_refl 1)
  | addChild container opcode params =>
    simp only [Edit.apply, Workspace.addChild, Edit.allocated] at hmade hnext
    split at hmade
    · cases hmade
    · next hc =>
      simp only [hc] at hnext
      split at hmade
      · obtain rfl := Option.some.inj hmade
        exact hnext (Nat.le_refl 1)
      · cases hmade
  | duplicate block =>
    simp only [Edit.apply, Workspace.duplicate, Edit.allocated] at hmade hnext
    split at hmade
    · cases hmade
    · next b hb =>
      obtain rfl := Option.some.inj hmade
      rw [Block.id_renumber]
      simp only [hb, Option.map_some, Option.getD_some] at hnext
      exact hnext b.size_pos
  | remove block => cases hmade
  | setParam block name value =>
    simp only [Edit.apply] at hmade
    cases h' : (ws.setParam block name value).2 <;> rw [h'] at hmade <;> cases hmade
  | nest child container =>
    simp only [Edit.apply] at hmade
    cases h' : (ws.nest child container).2 <;> rw [h'] at hmade <;> cases hmade
  | connect source target gap =>
    simp only [Edit.apply] at hmade
    cases h' : (ws.connect source target gap).2 <;> rw [h'] at hmade <;> cases hmade
  | disconnect block => cases hmade
  | takeEvents => cases hmade

/-- Every history that hands out fewer than `2 ^ 32` identities leaves a coherent
workspace, and an identity that an edit of it hands out was carried by no block
at any point before that edit. -/
theorem coherent_of_history (tolerance : Float) (es : List Edit)
    (hroom : Edit.allocatedAll (empty tolerance) es < UInt32.size) :
    (Edit.applyAll (empty tolerance) es).Coherent ∧
      ∀ before e after id, es = before ++ e :: after →
        (e.apply (Edit.applyAll (empty tolerance) before)).2.made? = some id →
        ∀ earlier, earlier <+: before →
          id ∉ Block.idsIn (Edit.applyAll (empty tolerance) earlier).blocks := by
  have hempty : (empty tolerance).lastId.raw.toNat = 0 := rfl
  have hs := sound_empty tolerance
  refine ⟨(hs.applyAll es (by omega)).1.coherent, ?_⟩
  rintro before e after id rfl hmade earlier ⟨between, rfl⟩ hmem
  rw [Edit.allocatedAll_append, Edit.allocatedAll] at hroom
  -- The last identity after `earlier` bounds those of its blocks; the one handed out lies above
  -- the last identity after `before`, which is no smaller.
  obtain ⟨hbefore, hlast⟩ := hs.applyAll (earlier ++ between) (by omega)
  have hmade := lt_made (by omega) hmade
  rw [Edit.allocatedAll_append] at hroom hlast
  obtain ⟨hearlier, hlast'⟩ := hs.applyAll earlier (by omega)
  have hle := BlockId.le_iff_toNat_le.1 (hearlier.counted id hmem).2
  omega

/-- A history with a refused connection and a copy of nested blocks. -/
theorem coherent_of_history_nested :
    let es : List Edit := [.add .repeatTimes ∅, .add .move ∅, .addChild ⟨1⟩ .ifThen ∅,
      .nest ⟨2⟩ ⟨3⟩, .duplicate ⟨1⟩, .add .wait ∅, .connect ⟨4⟩ ⟨7⟩ (.adjacent true),
      .connect ⟨7⟩ ⟨4⟩ (.adjacent true), .remove ⟨3⟩]
    Edit.allocatedAll (empty 20.0) es < UInt32.size ∧
      (Edit.applyAll (empty 20.0) es).Coherent ∧
      ((Edit.duplicate ⟨1⟩).apply (Edit.applyAll (empty 20.0) (es.take 4))).2.made? = some ⟨4⟩ ∧
      (⟨4⟩ : BlockId) ∉ Block.idsIn (Edit.applyAll (empty 20.0) (es.take 4)).blocks := by
  intro es
  have hroom : Edit.allocatedAll (empty 20.0) es < UInt32.size := by decide
  have hmade :
      ((Edit.duplicate ⟨1⟩).apply (Edit.applyAll (empty 20.0) (es.take 4))).2.made? = some ⟨4⟩ := by
    decide
  obtain ⟨hcoherent, hfresh⟩ := coherent_of_history 20.0 es hroom
  exact ⟨hroom, hcoherent, hmade,
    hfresh (es.take 4) (.duplicate ⟨1⟩) (es.drop 5) ⟨4⟩ rfl hmade (es.take 4) List.prefix_rfl⟩

end Workspace
end SpriteBlocks
