import SpriteBlocks.Proofs.Block.Copies
import SpriteBlocks.Script.Assembly

/-!
# What entries describe

An entry describes a tree of blocks: its tag gives the kind of block, its slots
the parameters, and the entries inside it the blocks inside. The blocks have no
identities yet. A description may leave out what stands inside blocks of certain
kinds.
-/
namespace SpriteBlocks.Script.BlockEntry

mutual
def nodes : BlockEntry → List BlockEntry
  | ⟨label, tag, slots, children⟩ => ⟨label, tag, slots, children⟩ :: nodesIn children

def nodesIn : List BlockEntry → List BlockEntry
  | [] => []
  | e :: es => e.nodes ++ nodesIn es
end

def kind (e : BlockEntry) : Opcode := Opcode.ofTag e.opcode.value

/-- What is written in the slots, without what a slot cannot hold. -/
def slotValues (slots : List (String × Toml.Located Toml.Node)) : List (String × ParamValue) :=
  slots.filterMap fun s => (Assembly.slotValue s.1 s.2.value).1.map fun v => (s.1, v)

mutual
/-- The tree that an entry describes, with the entries inside of the kinds that keep them. -/
def outline (keep : Opcode → Bool) : BlockEntry → Block
  | ⟨_, tag, slots, children⟩ =>
    ⟨⟨0⟩, Opcode.ofTag tag.value, SortedMap.ofList (slotValues slots.entries),
      if keep (Opcode.ofTag tag.value) then outlineIn keep children else []⟩

def outlineIn (keep : Opcode → Bool) : List BlockEntry → List Block
  | [] => []
  | e :: es => e.outline keep :: outlineIn keep es
end

/-- The kind of block may have blocks inside if there are entries inside. -/
def Contained (e : BlockEntry) : Prop := e.children ≠ [] → e.kind.isContainer = true

mutual
theorem unnamed_outline (keep : Opcode → Bool) : ∀ e : BlockEntry,
    (e.outline keep).unnamed = e.outline keep
  | ⟨label, tag, slots, children⟩ => by
    rw [outline, Block.unnamed]
    split
    · rw [unnamedIn_outlineIn keep children]
    · rfl

theorem unnamedIn_outlineIn (keep : Opcode → Bool) : ∀ es : List BlockEntry,
    Block.unnamedIn (outlineIn keep es) = outlineIn keep es
  | [] => rfl
  | e :: es => by
    rw [outlineIn, Block.unnamedIn, unnamed_outline keep e, unnamedIn_outlineIn keep es]
end

mutual
/-- No entry makes more than one block. -/
theorem size_outline_le (keep : Opcode → Bool) : ∀ e : BlockEntry,
    (e.outline keep).size ≤ e.nodes.length
  | ⟨label, tag, slots, children⟩ => by
    have hchildren := sizeIn_outlineIn_le keep children
    rw [outline, Block.size, nodes, List.length_cons]
    split
    · exact Nat.succ_le_succ hchildren
    · exact Nat.succ_le_succ (Nat.zero_le _)

theorem sizeIn_outlineIn_le (keep : Opcode → Bool) : ∀ es : List BlockEntry,
    Block.sizeIn (outlineIn keep es) ≤ (nodesIn es).length
  | [] => Nat.le_refl 0
  | e :: es => by
    rw [outlineIn, Block.sizeIn, nodesIn, List.length_append]
    exact Nat.add_le_add (size_outline_le keep e) (sizeIn_outlineIn_le keep es)
end

mutual
theorem size_outline : ∀ e : BlockEntry, (e.outline fun _ => true).size = e.nodes.length
  | ⟨label, tag, slots, children⟩ => by
    rw [outline, Block.size, nodes, List.length_cons, if_pos rfl, sizeIn_outlineIn children]

theorem sizeIn_outlineIn : ∀ es : List BlockEntry,
    Block.sizeIn (outlineIn (fun _ => true) es) = (nodesIn es).length
  | [] => rfl
  | e :: es => by
    rw [outlineIn, Block.sizeIn, nodesIn, List.length_append, size_outline e, sizeIn_outlineIn es]
end

mutual
/-- Nothing is left out if only containers have entries inside. -/
theorem outline_contained : ∀ {e : BlockEntry}, (∀ x ∈ e.nodes, x.Contained) →
    e.outline Opcode.isContainer = e.outline fun _ => true
  | ⟨label, tag, slots, children⟩, h => by
    rw [nodes, List.forall_mem_cons] at h
    rw [outline, outline, if_pos rfl, outlineIn_contained h.2]
    by_cases hc : (Opcode.ofTag tag.value).isContainer = true
    · rw [if_pos hc]
    · have hnone : children = [] := not_not.1 fun hne => hc (h.1 hne)
      rw [if_neg hc, hnone, outlineIn]

theorem outlineIn_contained : ∀ {es : List BlockEntry}, (∀ x ∈ nodesIn es, x.Contained) →
    outlineIn Opcode.isContainer es = outlineIn (fun _ => true) es
  | [], _ => rfl
  | e :: es, h => by
    rw [nodesIn, List.forall_mem_append] at h
    rw [outlineIn, outlineIn, outline_contained h.1, outlineIn_contained h.2]
end

end SpriteBlocks.Script.BlockEntry
