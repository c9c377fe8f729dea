import SpriteBlocks.Proofs.Chain.History
import SpriteBlocks.Proofs.Workspace.Chains

/-!
# The outline of a program

The outline of a workspace is what a run writes whatever its blocks do: lines,
most of them with a top-level block that is executed right behind. Chains follow
each other in the order of their entry points, and a block that stands alone has
the number of its place among all top-level blocks. The outline of a sound
workspace has every top-level block once.
-/
namespace SpriteBlocks

/-- A line of the outline, and the block that is executed right behind it. -/
structure Part where
  line : LogEvent
  block? : Option Block

namespace Workspace

def opening (ws : Workspace) : List Part :=
  [⟨⟨.execution, "running program"⟩, none⟩,
    ⟨if ws.isEmpty then ⟨.warning, "workspace has no blocks"⟩
      else ⟨.info, "found " ++ toString ws.length ++ " blocks"⟩, none⟩]

/-- Blocks of a chain of `total`, numbered from `first` on. -/
def steps (total first : Nat) (bs : List Block) : List Part :=
  (bs.zipIdx first).map fun (b, k) =>
    ⟨⟨.execution, "chain step " ++ toString k ++ "/" ++ toString total ++ ": " ++
      b.opcode.description⟩, some b⟩

/-- The parts for the chain that starts at the `i`-th top-level block. -/
def chainParts (ws : Workspace) (b : Block) (i : Nat) : List Part :=
  let chain := ws.chainFrom b.id
  if 1 < chain.length then
    ⟨⟨.execution, "executing chain of " ++ toString chain.length ++ " blocks"⟩, none⟩ ::
      steps chain.length 1 chain
  else [⟨⟨.execution, "block " ++ toString i ++ ": " ++ b.opcode.description⟩, some b⟩]

def entriesAmong (ws : Workspace) (bs : List (Block × Nat)) : List (Block × Nat) :=
  bs.filter fun e => !ws.registry.isSuccessor e.1.id

/-- The entry points with their places among all top-level blocks, counted from one. -/
def placedEntries (ws : Workspace) : List (Block × Nat) := ws.entriesAmong (ws.blocks.zipIdx 1)

def outline (ws : Workspace) : List Part :=
  ws.opening ++ ws.placedEntries.flatMap fun e => ws.chainParts e.1 e.2

/-- What the outline makes of the blocks and their chains. -/
structure Outlined (ws : Workspace) : Prop where
  distinct : ws.topIds.Nodup
  entries : ws.placedEntries.map Prod.fst = ws.entryPoints
  places : ∀ e ∈ ws.placedEntries, 1 ≤ e.2 ∧ ws.blocks[e.2 - 1]? = some e.1
  inOrder : ∀ e ∈ ws.entryPoints,
    (ws.chainFrom e.id).map Block.id = ws.registry.chainFrom e.id ∧ ws.registry.Complete e.id
  executed : (ws.outline.filterMap Part.block?).Perm ws.blocks

theorem entriesAmong_cons (ws : Workspace) (b : Block) (i : Nat) (bs : List (Block × Nat)) :
    ws.entriesAmong ((b, i) :: bs) =
      if ws.registry.isSuccessor b.id then ws.entriesAmong bs
      else (b, i) :: ws.entriesAmong bs := by
  rw [entriesAmong, List.filter_cons]
  cases ws.registry.isSuccessor b.id <;> rfl

theorem filterMap_block?_steps (total first : Nat) (bs : List Block) :
    (steps total first bs).filterMap Part.block? = bs := by
  induction bs generalizing first with
  | nil => rfl
  | cons b bs ih => exact congrArg (b :: ·) (ih (first + 1))

theorem map_fst_placedEntries (ws : Workspace) :
    ws.placedEntries.map Prod.fst = ws.entryPoints := by
  have hsame := List.filter_map (f := Prod.fst) (l := ws.blocks.zipIdx 1)
    (p := fun b : Block => !ws.registry.isSuccessor b.id)
  rw [List.zipIdx_map_fst] at hsame
  exact hsame.symm

theorem getElem?_of_mem_placedEntries {ws : Workspace} {e : Block × Nat}
    (he : e ∈ ws.placedEntries) : 1 ≤ e.2 ∧ ws.blocks[e.2 - 1]? = some e.1 :=
  List.mem_zipIdx_iff_le_and_getElem?_sub.1 (List.mem_filter.1 he).1

namespace Sound
variable {ws : Workspace} (h : ws.Sound)
include h

/-- The parts for a chain have its blocks, also if there is only one. -/
theorem filterMap_block?_chainParts {b : Block} (hb : b ∈ ws.blocks) (i : Nat) :
    (ws.chainParts b i).filterMap Part.block? = ws.chainFrom b.id := by
  rw [chainParts]
  split
  · exact filterMap_block?_steps _ _ _
  · next hlen =>
    obtain ⟨rest, hrest⟩ := List.head?_eq_some_iff.1 (h.head_chainFrom hb)
    rw [hrest, List.length_cons] at hlen
    obtain rfl : rest = [] := List.eq_nil_of_length_eq_zero (by omega)
    exact hrest.symm

theorem filterMap_block?_outline :
    ws.outline.filterMap Part.block? = ws.chains.flatten := by
  have hopening : ws.opening.filterMap Part.block? = [] := rfl
  have hparts : ∀ e ∈ ws.placedEntries,
      (ws.chainParts e.1 e.2).filterMap Part.block? = ws.chainFrom e.1.id := fun e he =>
    h.filterMap_block?_chainParts (List.mem_of_getElem? (getElem?_of_mem_placedEntries he).2) e.2
  rw [outline, List.filterMap_append, hopening, List.nil_append, List.filterMap_flatMap,
    List.flatMap_congr hparts, chains, ← map_fst_placedEntries, List.map_map]
  rfl

theorem outlined : ws.Outlined where
  distinct := h.topIds_nodup
  entries := ws.map_fst_placedEntries
  places _ := getElem?_of_mem_placedEntries
  inOrder e he := by
    have htop : e.id ∈ ws.topIds := List.mem_map_of_mem (mem_entryPoints_iff.1 he).1
    exact ⟨h.map_id_chainFrom htop, h.registry.complete e.id⟩
  executed := h.filterMap_block?_outline ▸ h.flatten_chains_perm

end Sound
end Workspace
end SpriteBlocks
