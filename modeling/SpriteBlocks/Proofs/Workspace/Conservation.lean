import SpriteBlocks.Proofs.Block.Copies
import SpriteBlocks.Proofs.Block.Faces
import SpriteBlocks.Proofs.Workspace.History
import SpriteBlocks.Proofs.Workspace.Refusal

/-!
# Structural edits lose nothing

Putting a block inside a container moves one tree, removing a block cuts one
out, copying puts one in; every other block keeps its kind, its slots and its
children, and the edges that go are those that touch the block. As identities
are distinct, all searches agree on which block that is.
-/
namespace SpriteBlocks

/-- The second registry is the first without the edges that touch a block. -/
structure Registry.Without (id : BlockId) (r r' : Registry) : Prop where
  edges : r'.edges = r.edges.filter fun e => e.1 ≠ id ∧ e.2 ≠ id
  predecessor : ∀ a b, r'.predecessor b = some a ↔ (a, b) ∈ r'.edges
  tolerance : r'.tolerance = r.tolerance

theorem Registry.Sound.without_detach {r : Registry} (h : r.Sound) (id : BlockId) :
    Without id r (r.detach id) where
  edges := h.edges_detach id
  predecessor a b := ((h.detach id).paired a b).symm.trans mem_edges_iff.symm
  tolerance := (tolerance_dropIncoming _ _).trans (tolerance_disconnect _ _)

/-- A registry without edges that touch a block may stay as it is. -/
theorem Registry.Sound.without_untouched {r : Registry} (h : r.Sound) {id : BlockId}
    (hid : ∀ a b, r.Leads a b → a ≠ id ∧ b ≠ id) : Without id r r where
  edges := (List.filter_eq_self.2 fun e he =>
    decide_eq_true (hid e.1 e.2 (mem_edges_iff.1 he))).symm
  predecessor a b := (h.paired a b).symm.trans mem_edges_iff.symm
  tolerance := rfl

namespace Workspace

/-- A block went from the top level into a container, behind the blocks there. -/
structure Nested (ws ws' : Workspace) (child id : BlockId) (b x : Block) : Prop where
  block : ws.get? child = some b
  container : ws.get? id = some x
  /-- The block leaves its place, and among the others the container alone is replaced. -/
  moved : ∃ before after, ws.blocks = before ++ b :: after ∧
    Block.Swap x (Block.withChild b x) (before ++ after) ws'.blocks
  top : ws'.topIds = ws.topIds.filter (· ≠ child)
  kept : ws'.get? child = some b
  grown : ws'.get? id = some (Block.withChild b x)
  others : ∀ i ≠ id, (ws'.get? i).map Block.face = (ws.get? i).map Block.face
  registry : Registry.Without child ws.registry ws'.registry
  rest : ws'.lastId = ws.lastId ∧ ws'.events = ws.events

/-- A block was cut out with everything inside it. -/
structure Removed (ws ws' : Workspace) (id : BlockId) (b : Block) : Prop where
  block : ws.get? id = some b
  cut : Block.Cut b ws.blocks ws'.blocks
  top : ws'.topIds = ws.topIds.filter (· ≠ id)
  gone : ∀ i ∈ b.ids, ws'.get? i = none
  others : ∀ i ∉ b.ids,
    (ws'.get? i).map Block.face = ((ws.get? i).map Block.face).map (Block.Face.without id)
  registry : Registry.Without id ws.registry ws'.registry
  nested : id ∉ ws.topIds → ws'.registry = ws.registry
  lastId : ws'.lastId = ws.lastId
  told : ws'.events = ws.events ++ [⟨.warning, "deleted: " ++ b.opcode.description⟩]

/-- A copy of a block stands behind the top level, and nothing else changed. -/
structure Duplicated (ws ws' : Workspace) (id made : BlockId) (b copy : Block) : Prop where
  block : ws.get? id = some b
  placed : ws' = { ws with blocks := ws.blocks ++ [copy], lastId := ws.lastId.after b.size }
  alike : copy.unnamed = b.unnamed
  ids : copy.ids = (List.range' 1 b.size).map ws.lastId.after
  headed : copy.id = made

end Workspace

/-- By how many blocks an edit changes a workspace, in view of its result. -/
def Edit.growth (ws : Workspace) (e : Edit) : Int :=
  match e, (e.apply ws).2 with
  | _, .created _ => 1
  | duplicate id, .copied (some _) => ((ws.get? id).map Block.size).getD 0
  | _, .removed (some b) => -b.size
  | _, _ => 0

namespace Workspace
variable {ws ws' : Workspace}

theorem nest_eq_ok {child id : BlockId} (h : ws.nest child id = (ws', .ok ())) :
    ∃ b rest, Block.takeFirst? child ws.blocks = some (b, rest) ∧ b.find? id = none ∧
      putInside { ws with registry := ws.registry.detach child, blocks := rest } id b =
        .ok ws' := by
  unfold nest at h
  split at h
  · cases h
  · next b htop =>
    split at h
    · cases h
    · next hout =>
      split at h
      · cases h
      · obtain ⟨rest, hcut⟩ := takeFirst?_of_topLevel htop
        simp only [hcut] at h
        split at h
        · next hput =>
          obtain rfl := congrArg Prod.fst h
          exact ⟨b, rest, hcut, Option.not_isSome_iff_eq_none.1 hout, hput⟩
        · cases h

/-- What a removal cuts out, and what it leaves of the edges. -/
theorem remove_eq_some {id : BlockId} {b : Block} (h : ws.remove id = (ws', some b)) :
    Block.Cut b ws.blocks ws'.blocks ∧ b.id = id ∧
      (id ∈ ws.topIds ∧ ws'.registry = ws.registry.detach id ∨
        id ∉ ws.topIds ∧ ws'.registry = ws.registry) ∧
      ws'.lastId = ws.lastId ∧
      ws'.events = ws.events ++ [⟨.warning, "deleted: " ++ b.opcode.description⟩] := by
  unfold remove at h
  cases htop : Block.takeFirst? id ws.blocks with
  | some r =>
    simp only [htop] at h
    obtain ⟨rfl, hb⟩ := Prod.mk.inj h
    obtain rfl := Option.some.inj hb
    obtain ⟨hcut, hid⟩ := Block.cut_of_takeFirst? htop
    have hmem : id ∈ ws.topIds := (Block.map_id_takeFirst? htop).mem_iff.2 List.mem_cons_self
    exact ⟨hcut, hid, .inl ⟨hmem, rfl⟩, rfl, rfl⟩
  | none =>
    cases hin : Block.takeInside? id ws.blocks with
    | some r =>
      simp only [htop, hin, Option.map_some] at h
      obtain ⟨rfl, hb⟩ := Prod.mk.inj h
      obtain rfl := Option.some.inj hb
      obtain ⟨hcut, hid⟩ := Block.cut_of_takeInside? hin
      exact ⟨hcut, hid, .inr ⟨Block.takeFirst?_eq_none_iff.1 htop, rfl⟩, rfl, rfl⟩
    | none =>
      simp only [htop, hin, Option.map_none] at h
      cases h

theorem duplicate_eq_some {id made : BlockId} (h : ws.duplicate id = (ws', some made)) :
    ∃ b, ws.get? id = some b ∧ made = (b.renumber ws.lastId).1.id ∧
      ws' = { ws with
        blocks := ws.blocks ++ [(b.renumber ws.lastId).1]
        lastId := (b.renumber ws.lastId).2 } := by
  unfold duplicate at h
  split at h
  · cases h
  · next b hb =>
    obtain ⟨hws, hmade⟩ := Prod.mk.inj h
    exact ⟨b, hb, (Option.some.inj hmade).symm, hws.symm⟩

namespace Sound
variable (h : ws.Sound)
include h

theorem nested {child id : BlockId} (hnest : ws.nest child id = (ws', .ok ())) :
    ∃ b x, Nested ws ws' child id b x := by
  obtain ⟨b, rest, hcut, hout, hput⟩ := nest_eq_ok hnest
  obtain ⟨x, blocks, hx, -, hswap, rfl⟩ := putInside_eq_ok hput
  obtain ⟨before, after, hblocks, rfl, rfl⟩ := Block.takeFirst?_eq_some hcut
  obtain ⟨hcutSound, hfits⟩ := h.cutTop hcut
  have hnodup' : (Block.idsIn blocks).Nodup := (hcutSound.putInside hfits hput).1.distinct
  have hxid : x.id = id := (Block.mem_of_findIn? hx).2
  have hsame : (Block.withChild b x).id = x.id := rfl
  -- With the block behind the others, the top level has the faces it had before.
  have hback : (Block.facesIn (before ++ after ++ [b])).Perm (Block.facesIn ws.blocks) := by
    rw [hblocks, List.perm_iff_count]
    intro e
    simp only [Block.facesIn_append, Block.facesIn_cons, Block.facesIn_nil, List.append_nil,
      List.count_append]
    omega
  have hnodupBack : (Block.idsIn (before ++ after ++ [b])).Nodup := by
    rw [Block.idsIn_append, Block.idsIn, Block.idsIn, List.append_nil]
    exact hfits.distinct
  refine ⟨b, x,
    { block := ?_, container := ?_, moved := ⟨before, after, hblocks, hswap⟩, top := ?_, kept := ?_,
      grown := ?_, others := fun i hi => ?_, registry := h.registry.without_detach b.id,
      rest := ⟨rfl, rfl⟩ }⟩
  · refine (Block.findIn?_eq_some_iff h.distinct).2 ⟨Block.mem_nodesIn_of_mem ?_, rfl⟩
    rw [hblocks]
    exact List.mem_append_right _ List.mem_cons_self
  · rw [← hx]
    exact (Block.findIn?_of_takeFirst? hcut hout).symm
  · exact (hswap.map_id hsame).trans ((Block.cut_of_takeFirst? hcut).1.map_id_rest h.distinct)
  · refine (Block.findIn?_eq_some_iff hnodup').2 ⟨hswap.new_subset ?_, rfl⟩
    refine Block.mem_nodes_iff.2 (.inr (Block.mem_nodesIn_of_mem ?_))
    exact List.mem_append_right _ List.mem_cons_self
  · exact (Block.findIn?_eq_some_iff hnodup').2
      ⟨hswap.new_subset (Block.self_mem_nodes _), hsame.trans hxid⟩
  · rw [get?, hswap.map_face_findIn? hnodupBack (hxid ▸ hi)]
    exact Block.map_face_findIn?_congr h.distinct hnodupBack fun f => hback.mem_iff

theorem removed {id : BlockId} {b : Block} (hremove : ws.remove id = (ws', some b)) :
    Removed ws ws' id b := by
  obtain ⟨hcut, rfl, hreg, hlast, hevents⟩ := remove_eq_some hremove
  refine
    { block := hcut.findIn?_eq h.distinct
      cut := hcut
      top := hcut.map_id_rest h.distinct
      gone := fun i hi => Block.findIn?_eq_none_iff.2 (hcut.not_mem_rest h.distinct hi)
      others := fun i hi => hcut.map_face_findIn? h.distinct hi
      registry := ?_
      nested := fun hid => ?_
      lastId := hlast
      told := hevents }
  · rcases hreg with ⟨-, hreg⟩ | ⟨hid, hreg⟩ <;> rw [hreg]
    · exact h.registry.without_detach b.id
    · -- Edges run between top-level blocks, so none touches a nested one.
      refine h.registry.without_untouched fun a c hac => ?_
      obtain ⟨ha, hc⟩ := h.chained a c hac
      exact ⟨fun he => hid (he ▸ ha), fun he => hid (he ▸ hc)⟩
  · rcases hreg with ⟨hmem, -⟩ | ⟨-, hreg⟩
    · exact absurd hmem hid
    · exact hreg

end Sound

theorem duplicated {id made : BlockId} (hdup : ws.duplicate id = (ws', some made)) :
    ∃ b copy, Duplicated ws ws' id made b copy := by
  obtain ⟨b, hb, rfl, rfl⟩ := duplicate_eq_some hdup
  obtain ⟨hids, hlast⟩ := Block.ids_renumber_eq ws.lastId b
  exact ⟨b, (b.renumber ws.lastId).1,
    { block := hb, placed := by rw [hlast], alike := Block.unnamed_renumber _ b, ids := hids,
      headed := rfl }⟩

section Count

theorem blockCount_putInside {id : BlockId} {child : Block} (h : ws.putInside id child = .ok ws') :
    ws'.blockCount = ws.blockCount + child.size := by
  obtain ⟨x, blocks, -, -, hswap, rfl⟩ := putInside_eq_ok h
  have hsize := hswap.sizeIn_add
  rw [Block.size_withChild] at hsize
  simp only [blockCount]
  omega

theorem blockCount_addChild {container id : BlockId} {opcode : Opcode} {params : Parameters}
    (h : ws.addChild container opcode params = (ws', .ok id)) :
    ws'.blockCount = ws.blockCount + 1 := by
  unfold addChild at h
  split at h
  · cases h
  · dsimp only at h
    split at h
    · next hput =>
      obtain rfl := congrArg Prod.fst h
      exact blockCount_putInside hput
    · cases h

theorem blockCount_duplicate {id made : BlockId} (h : ws.duplicate id = (ws', some made)) :
    ∃ b, ws.get? id = some b ∧ ws'.blockCount = ws.blockCount + b.size := by
  obtain ⟨b, hb, -, rfl⟩ := duplicate_eq_some h
  refine ⟨b, hb, ?_⟩
  simp [blockCount, Block.sizeIn, Block.size_renumber]

theorem blockCount_remove {id : BlockId} {b : Block} (h : ws.remove id = (ws', some b)) :
    ws.blockCount = b.size + ws'.blockCount :=
  (remove_eq_some h).1.sizeIn_eq

theorem blockCount_setParam (ws : Workspace) (id : BlockId) (name : String) (value : ParamValue) :
    (ws.setParam id name value).1.blockCount = ws.blockCount := by
  unfold setParam
  split
  · rfl
  · next blocks hblocks =>
    obtain ⟨x, -, hswap⟩ := Block.swap_of_modifyIn? hblocks
    have hsize := hswap.sizeIn_add
    rw [Block.size_withParam] at hsize
    exact Nat.add_right_cancel hsize

theorem blockCount_nest (ws : Workspace) (child id : BlockId) :
    (ws.nest child id).1.blockCount = ws.blockCount := by
  cases hnest : ws.nest child id with
  | mk ws' r =>
    cases r with
    | error e =>
      have hsame := nest_of_error (congrArg Prod.snd hnest)
      rw [hnest] at hsame
      exact congrArg blockCount hsame
    | ok u =>
      obtain ⟨b, rest, hcut, -, hput⟩ := nest_eq_ok hnest
      have hsize := (Block.cut_of_takeFirst? hcut).1.sizeIn_eq
      exact (blockCount_putInside hput).trans ((Nat.add_comm _ _).trans hsize.symm)

theorem blocks_connect (ws : Workspace) (source target : BlockId) (gap : Proximity) :
    (ws.connect source target gap).1.blocks = ws.blocks := by
  unfold connect
  split
  · rfl
  · rfl
  · split
    · split <;> rfl
    · rfl

theorem blocks_disconnect (ws : Workspace) (id : BlockId) :
    (ws.disconnect id).1.blocks = ws.blocks := by
  unfold disconnect
  split <;> rfl

/-- Every edit changes the number of blocks by its growth. -/
theorem blockCount_apply (ws : Workspace) (e : Edit) :
    ((e.apply ws).1.blockCount : Int) = ws.blockCount + e.growth ws := by
  cases e with
  | add opcode params =>
    simp [Edit.apply, Edit.growth, add, blockCount, Block.leaf, Block.sizeIn, Block.size]
  | addChild container opcode params =>
    cases hadd : ws.addChild container opcode params with
    | mk ws' r =>
      cases r with
      | error e =>
        have hsame := addChild_of_error (congrArg Prod.snd hadd)
        rw [hadd] at hsame
        simp [Edit.apply, Edit.growth, Edit.Result.ofExcept, hadd, hsame]
      | ok id =>
        have hcount := blockCount_addChild hadd
        simp [Edit.apply, Edit.growth, Edit.Result.ofExcept, hadd, hcount]
  | duplicate block =>
    cases hdup : ws.duplicate block with
    | mk ws' r =>
      cases r with
      | none =>
        have hsame := duplicate_of_none (congrArg Prod.snd hdup)
        rw [hdup] at hsame
        simp [Edit.apply, Edit.growth, hdup, hsame]
      | some made =>
        obtain ⟨b, hb, hcount⟩ := blockCount_duplicate hdup
        simp [Edit.apply, Edit.growth, hdup, hb, hcount]
  | remove block =>
    cases hremove : ws.remove block with
    | mk ws' r =>
      cases r with
      | none =>
        have hsame := remove_of_none (congrArg Prod.snd hremove)
        rw [hremove] at hsame
        simp [Edit.apply, Edit.growth, hremove, hsame]
      | some b =>
        have hcount := blockCount_remove hremove
        simp only [Edit.apply, Edit.growth, hremove]
        omega
  | setParam block name value =>
    have hcount := ws.blockCount_setParam block name value
    simp only [Edit.apply, Edit.growth, hcount]
    cases (ws.setParam block name value).2 <;> simp [Edit.Result.ofExcept]
  | nest child container =>
    have hcount := ws.blockCount_nest child container
    simp only [Edit.apply, Edit.growth, hcount]
    cases (ws.nest child container).2 <;> simp [Edit.Result.ofExcept]
  | connect source target gap =>
    have hblocks := ws.blocks_connect source target gap
    simp only [Edit.apply, Edit.growth, blockCount, hblocks]
    cases (ws.connect source target gap).2 <;> simp [Edit.Result.ofExcept]
  | disconnect block =>
    have hblocks := ws.blocks_disconnect block
    simp [Edit.apply, Edit.growth, blockCount, hblocks]
  | takeEvents => simp [Edit.apply, Edit.growth, takeEvents, blockCount]

end Count

/-- In a workspace that a history with fewer than `2 ^ 32` identities leaves,
the edits that move whole trees neither lose nor alter a block, and every edit
changes the number of blocks by its growth. -/
theorem surgery_of_history (tolerance : Float) (es : List Edit)
    (hroom : Edit.allocatedAll (empty tolerance) es < UInt32.size) :
    let ws := Edit.applyAll (empty tolerance) es
    (∀ child id ws', ws.nest child id = (ws', .ok ()) → ∃ b x, Nested ws ws' child id b x) ∧
    (∀ id b ws', ws.remove id = (ws', some b) → Removed ws ws' id b) ∧
    (∀ id made ws', ws.duplicate id = (ws', some made) →
      ∃ b copy, Duplicated ws ws' id made b copy) ∧
    ∀ e : Edit, ((e.apply ws).1.blockCount : Int) = ws.blockCount + e.growth ws := by
  intro ws
  have hs : ws.Sound := sound_of_history tolerance es hroom
  exact ⟨fun _ _ _ hnest => hs.nested hnest, fun _ _ _ hremove => hs.removed hremove,
    fun _ _ _ hdup => duplicated hdup, ws.blockCount_apply⟩

/-- A chained block goes into a branch inside a loop, the branch is cut out, and
the loop is copied with the branch. -/
theorem surgery_of_history_loop :
    let es : List Edit := [.add .repeatTimes ∅, .addChild ⟨1⟩ .ifThen ∅, .add .move ∅,
      .add .wait ∅, .connect ⟨3⟩ ⟨4⟩ (.adjacent true)]
    let ws := Edit.applyAll (empty 20.0) es
    Edit.allocatedAll (empty 20.0) es < UInt32.size ∧
      (∃ b x, Nested ws (ws.nest ⟨3⟩ ⟨2⟩).1 ⟨3⟩ ⟨2⟩ b x) ∧
      (∃ b, Removed ws (ws.remove ⟨2⟩).1 ⟨2⟩ b) ∧
      (∃ b copy, Duplicated ws (ws.duplicate ⟨1⟩).1 ⟨1⟩ ⟨5⟩ b copy) ∧
      (((Edit.duplicate ⟨1⟩).apply ws).1.blockCount : Int) = ws.blockCount + 2 := by
  intro es ws
  have hroom : Edit.allocatedAll (empty 20.0) es < UInt32.size := by decide
  obtain ⟨hnest, hremove, hdup, hcount⟩ := surgery_of_history 20.0 es hroom
  exact ⟨hroom, hnest ⟨3⟩ ⟨2⟩ _ rfl, ⟨_, hremove ⟨2⟩ _ _ rfl⟩, hdup ⟨1⟩ ⟨5⟩ _ rfl,
    hcount (.duplicate ⟨1⟩)⟩

end Workspace
end SpriteBlocks
