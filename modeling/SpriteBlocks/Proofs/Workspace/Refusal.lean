import SpriteBlocks.Workspace.Edit
import SpriteBlocks.Proofs.Block.Surgery
import SpriteBlocks.Proofs.Chain.Sound

/-!
# Edits without effect

An edit that is refused, or that finds nothing to work on, hands the workspace
back as it was. An edit of several steps looks everything up before the first
step, and the later steps cannot fail: a block that is cut out to be put inside
a container always gets there. None of this needs a coherent workspace.
-/
namespace SpriteBlocks

namespace Block

theorem findIn?_append (i : BlockId) (as bs : List Block) :
    findIn? i (as ++ bs) = (findIn? i as).or (findIn? i bs) := by
  induction as with
  | nil => rfl
  | cons a as ih => rw [List.cons_append, findIn?, findIn?, ih, Option.or_assoc]

/-- A search that does not hit the tree cut out finds the same without it. -/
theorem findIn?_of_takeFirst? {id i : BlockId} {b : Block} {bs rest : List Block}
    (hcut : takeFirst? id bs = some (b, rest)) (hb : b.find? i = none) :
    findIn? i rest = findIn? i bs := by
  obtain ⟨before, after, rfl, rfl, -⟩ := takeFirst?_eq_some hcut
  rw [findIn?_append, findIn?_append, findIn?, hb, Option.none_or]

end Block

/-- The edit was refused or found nothing to work on. -/
def Edit.Result.isVoid : Result → Bool
  | refused _ => true
  | copied none => true
  | removed none => true
  | connected false => true
  | disconnected none => true
  | _ => false

namespace Workspace
variable {ws : Workspace}

/-- The search for a container gives the same wherever the search for its identity does. -/
theorem container_congr {ws' : Workspace} {id : BlockId} (h : ws'.get? id = ws.get? id) :
    ws'.container id = ws.container id := by
  rw [container, container, h]

theorem putInside_of_container {id : BlockId} {x : Block} (h : ws.container id = .ok x)
    (child : Block) : ∃ ws', ws.putInside id child = .ok ws' := by
  have hsome : (Block.modifyIn? id (Block.withChild child) ws.blocks).isSome := by
    rw [Block.isSome_modifyIn?]
    unfold container get? at h
    split at h
    · cases h
    · next hx => rw [hx]; rfl
  obtain ⟨blocks, hblocks⟩ := Option.isSome_iff_exists.1 hsome
  exact ⟨{ ws with blocks }, by rw [putInside, h]; simp only [hblocks]⟩

/-- The second search for the container succeeds, so no identity is wasted. -/
theorem addChild_of_container {id : BlockId} {x : Block} (h : ws.container id = .ok x)
    (opcode : Opcode) (params : Parameters) :
    ∃ ws', ws.addChild id opcode params = (ws', .ok ws.lastId.next) := by
  have hcounted : ({ ws with lastId := ws.lastId.next } : Workspace).container id = .ok x := h
  obtain ⟨ws', hput⟩ := putInside_of_container hcounted (Block.leaf ws.lastId.next opcode params)
  exact ⟨ws', by rw [addChild, h]; simp only [hput]⟩

theorem takeFirst?_of_topLevel {id : BlockId} {b : Block} (h : ws.topLevel id = .ok b) :
    ∃ rest, Block.takeFirst? id ws.blocks = some (b, rest) := by
  unfold topLevel at h
  split at h
  · next hb =>
    cases h
    rw [← Block.map_fst_takeFirst?, Option.map_eq_some_iff] at hb
    obtain ⟨⟨x, rest⟩, hcut, rfl⟩ := hb
    exact ⟨rest, hcut⟩
  · cases h

/-- What `nest` does once its checks have passed. The container is outside the
block, so it is still there when the block has been cut out. -/
theorem nest_of_checks {child id : BlockId} {b x : Block} (htop : ws.topLevel child = .ok b)
    (hout : b.find? id = none) (hin : ws.container id = .ok x) :
    ∃ rest ws', Block.takeFirst? child ws.blocks = some (b, rest) ∧
      container { ws with registry := ws.registry.detach child, blocks := rest } id = .ok x ∧
      putInside { ws with registry := ws.registry.detach child, blocks := rest } id b = .ok ws' ∧
      ws.nest child id = (ws', .ok ()) := by
  obtain ⟨rest, hcut⟩ := takeFirst?_of_topLevel htop
  have hstill : container { ws with registry := ws.registry.detach child, blocks := rest } id =
      .ok x := by
    rw [← hin]
    exact container_congr (Block.findIn?_of_takeFirst? hcut hout)
  obtain ⟨ws', hput⟩ := putInside_of_container hstill b
  refine ⟨rest, ws', hcut, hstill, hput, ?_⟩
  simp only [nest, htop, hout, hin, hcut, hput, Option.isSome_none, Bool.false_eq_true, if_false]

section Void

theorem addChild_of_error {id : BlockId} {opcode : Opcode} {params : Parameters}
    {e : WorkspaceError} (h : (ws.addChild id opcode params).2 = .error e) :
    (ws.addChild id opcode params).1 = ws := by
  cases hc : ws.container id with
  | error e' => rw [addChild, hc]
  | ok x =>
    obtain ⟨ws', hadd⟩ := addChild_of_container hc opcode params
    rw [hadd] at h
    cases h

theorem duplicate_of_none {id : BlockId} (h : (ws.duplicate id).2 = none) :
    (ws.duplicate id).1 = ws := by
  unfold duplicate at h ⊢
  split
  · rfl
  · next hb =>
    rw [hb] at h
    cases h

theorem remove_of_none {id : BlockId} (h : (ws.remove id).2 = none) : (ws.remove id).1 = ws := by
  unfold remove at h ⊢
  dsimp only at h ⊢
  split at h
  · rfl
  · cases h

theorem setParam_of_error {id : BlockId} {name : String} {value : ParamValue}
    {e : WorkspaceError} (h : (ws.setParam id name value).2 = .error e) :
    (ws.setParam id name value).1 = ws := by
  unfold setParam at h ⊢
  split
  · rfl
  · next hblocks =>
    rw [hblocks] at h
    cases h

theorem nest_of_error {child id : BlockId} {e : WorkspaceError}
    (h : (ws.nest child id).2 = .error e) : (ws.nest child id).1 = ws := by
  cases htop : ws.topLevel child with
  | error e' => rw [nest, htop]
  | ok b =>
    cases hout : b.find? id with
    | some y => simp only [nest, htop, hout, Option.isSome_some, if_true]
    | none =>
      cases hin : ws.container id with
      | error e' =>
        simp only [nest, htop, hout, hin, Option.isSome_none, Bool.false_eq_true, if_false]
      | ok x =>
        obtain ⟨rest, ws', -, -, -, hnest⟩ := nest_of_checks htop hout hin
        rw [hnest] at h
        cases h

/-- A connection is not made if it is refused or the blocks are too far apart. -/
theorem connect_of_not_made {source target : BlockId} {gap : Proximity}
    (h : (ws.connect source target gap).2 ≠ .ok true) :
    (ws.connect source target gap).1 = ws := by
  unfold connect at h ⊢
  split
  · rfl
  · rfl
  · next hs ht =>
    split
    · next hgap =>
      split
      · next registry previous hreg => simp [hs, ht, hgap, hreg] at h
      · next registry e hreg =>
        have hsame := ws.registry.connect_of_error (congrArg Prod.snd hreg)
        rw [hreg] at hsame
        obtain rfl : registry = ws.registry := hsame
        rfl
    · rfl

/-- What a connection that is not refused leaves: it is made and told of if the
gap is near enough, and otherwise nothing happens. -/
theorem connect_of_ok {source target : BlockId} {gap : Proximity} {made : Bool}
    (h : (ws.connect source target gap).2 = .ok made) :
    made = ws.registry.canConnect gap ∧
      (ws.connect source target gap).1.registry.tolerance = ws.registry.tolerance ∧
      (ws.connect source target gap).1.events = ws.events ++
        if made then [⟨.connection, "connected: " ++ ws.describe source ++ " -> " ++
          ws.describe target⟩] else [] := by
  have htolerance := ws.registry.tolerance_connect source target
  unfold connect at h ⊢
  split at h
  · cases h
  · cases h
  · split at h
    · next hgap =>
      rw [if_pos hgap]
      split at h
      · next registry previous hconnect =>
        rw [hconnect] at htolerance
        cases h
        exact ⟨hgap.symm, htolerance, rfl⟩
      · cases h
    · next hgap =>
      cases h
      rw [if_neg hgap]
      exact ⟨(Bool.not_eq_true _ ▸ hgap).symm, rfl, (List.append_nil _).symm⟩

theorem disconnect_of_none {id : BlockId} (h : (ws.disconnect id).2 = none) :
    (ws.disconnect id).1 = ws := by
  unfold disconnect at h ⊢
  split
  · rfl
  · next hreg =>
    rw [hreg] at h
    cases h

end Void

/-- An edit without effect leaves the whole workspace as it was; and a block
that passed the checks of `nest` reaches its container. -/
theorem unchanged_of_void (ws : Workspace) :
    (∀ e : Edit, (e.apply ws).2.isVoid = true → (e.apply ws).1 = ws) ∧
    ∀ child id b x, ws.topLevel child = .ok b → b.find? id = none → ws.container id = .ok x →
      ∃ rest ws', Block.takeFirst? child ws.blocks = some (b, rest) ∧
        container { ws with registry := ws.registry.detach child, blocks := rest } id = .ok x ∧
        putInside { ws with registry := ws.registry.detach child, blocks := rest } id b = .ok ws' ∧
        ws.nest child id = (ws', .ok ()) := by
  refine ⟨fun e hvoid => ?_, fun _ _ _ _ => nest_of_checks⟩
  cases e with
  | add opcode params => cases hvoid
  | addChild container opcode params =>
    cases hres : (ws.addChild container opcode params).2 with
    | error e => exact addChild_of_error hres
    | ok id => simp [Edit.apply, hres, Edit.Result.ofExcept, Edit.Result.isVoid] at hvoid
  | duplicate block =>
    cases hres : (ws.duplicate block).2 with
    | none => exact duplicate_of_none hres
    | some id => simp [Edit.apply, hres, Edit.Result.isVoid] at hvoid
  | remove block =>
    cases hres : (ws.remove block).2 with
    | none => exact remove_of_none hres
    | some b => simp [Edit.apply, hres, Edit.Result.isVoid] at hvoid
  | setParam block name value =>
    cases hres : (ws.setParam block name value).2 with
    | error e => exact setParam_of_error hres
    | ok u => simp [Edit.apply, hres, Edit.Result.ofExcept, Edit.Result.isVoid] at hvoid
  | nest child container =>
    cases hres : (ws.nest child container).2 with
    | error e => exact nest_of_error hres
    | ok u => simp [Edit.apply, hres, Edit.Result.ofExcept, Edit.Result.isVoid] at hvoid
  | connect source target gap =>
    refine connect_of_not_made fun hres => ?_
    simp [Edit.apply, hres, Edit.Result.ofExcept, Edit.Result.isVoid] at hvoid
  | disconnect block =>
    cases hres : (ws.disconnect block).2 with
    | none => exact disconnect_of_none hres
    | some next => simp [Edit.apply, hres, Edit.Result.isVoid] at hvoid
  | takeEvents => cases hvoid

/-- A loop that may not go into its own branch, blocks that do not connect, and
a chained block that goes into the branch. -/
theorem unchanged_of_void_nested :
    let ws := Edit.applyAll (empty 20.0) [.add .repeatTimes ∅, .addChild ⟨1⟩ .ifThen ∅,
      .add .move ∅, .add .wait ∅, .connect ⟨3⟩ ⟨4⟩ (.adjacent true)]
    ((Edit.nest ⟨1⟩ ⟨2⟩).apply ws).2.isVoid = true ∧ ((Edit.nest ⟨1⟩ ⟨2⟩).apply ws).1 = ws ∧
      ((Edit.connect ⟨4⟩ ⟨3⟩ (.adjacent true)).apply ws).2.isVoid = true ∧
      ((Edit.connect ⟨4⟩ ⟨3⟩ (.adjacent true)).apply ws).1 = ws ∧
      ∃ ws', ws.nest ⟨3⟩ ⟨2⟩ = (ws', .ok ()) := by
  intro ws
  have hnest : ((Edit.nest ⟨1⟩ ⟨2⟩).apply ws).2.isVoid = true := by decide
  have hcycle : ((Edit.connect ⟨4⟩ ⟨3⟩ (.adjacent true)).apply ws).2.isVoid = true := by decide
  obtain ⟨hvoid, hchecked⟩ := unchanged_of_void ws
  obtain ⟨-, ws', -, -, -, hdone⟩ :=
    hchecked ⟨3⟩ ⟨2⟩ (Block.leaf ⟨3⟩ .move) (Block.leaf ⟨2⟩ .ifThen) rfl rfl rfl
  exact ⟨hnest, hvoid _ hnest, hcycle, hvoid _ hcycle, ws', hdone⟩

end Workspace
end SpriteBlocks
