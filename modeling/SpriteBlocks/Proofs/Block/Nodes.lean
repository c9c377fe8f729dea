import SpriteBlocks.Block.Tree
import Mathlib.Data.List.Nodup

/-!
# The blocks of a tree

The nodes of a tree are the tree itself and all trees inside it. A search finds
a node, and renumbering keeps the shape of the tree.
-/
namespace SpriteBlocks

theorem BlockId.toNat_next {i : BlockId} (h : i.raw.toNat + 1 < UInt32.size) :
    i.next.raw.toNat = i.raw.toNat + 1 := by
  rw [BlockId.next, UInt32.toNat_add]
  exact Nat.mod_eq_of_lt h

namespace Block

mutual
/-- The tree and all trees inside it, each before those inside it. -/
def nodes : Block → List Block
  | ⟨i, o, p, cs⟩ => ⟨i, o, p, cs⟩ :: nodesIn cs

def nodesIn : List Block → List Block
  | [] => []
  | b :: bs => b.nodes ++ nodesIn bs
end

/-- Only containers have blocks inside. -/
def Shaped (b : Block) : Prop := b.children ≠ [] → b.isContainer

theorem self_mem_nodes (b : Block) : b ∈ b.nodes := by
  cases b
  simp [nodes]

theorem mem_nodes_iff {x b : Block} : x ∈ b.nodes ↔ x = b ∨ x ∈ nodesIn b.children := by
  cases b
  simp [nodes]

theorem mem_nodesIn_iff {x : Block} {bs : List Block} :
    x ∈ nodesIn bs ↔ ∃ b ∈ bs, x ∈ b.nodes := by
  induction bs with
  | nil => simp [nodesIn]
  | cons b bs ih => simp [nodesIn, ih]

@[simp] theorem nodesIn_append (as bs : List Block) :
    nodesIn (as ++ bs) = nodesIn as ++ nodesIn bs := by
  induction as with
  | nil => rfl
  | cons a as ih => simp [nodesIn, ih]

theorem mem_nodesIn_of_mem {b : Block} {bs : List Block} (h : b ∈ bs) : b ∈ nodesIn bs :=
  mem_nodesIn_iff.2 ⟨b, h, b.self_mem_nodes⟩

theorem size_pos (b : Block) : 0 < b.size := by
  cases b
  exact Nat.succ_pos _

mutual
theorem map_id_nodes : ∀ b : Block, b.nodes.map Block.id = b.ids
  | ⟨i, _, _, cs⟩ => by rw [nodes, ids, List.map_cons, map_id_nodesIn cs]

theorem map_id_nodesIn : ∀ bs : List Block, (nodesIn bs).map Block.id = idsIn bs
  | [] => rfl
  | b :: bs => by rw [nodesIn, idsIn, List.map_append, map_id_nodes b, map_id_nodesIn bs]
end

theorem ids_withChild (child b : Block) : (withChild child b).ids = b.ids ++ child.ids := by
  obtain ⟨i, o, p, cs⟩ := b
  simp [withChild, ids, idsIn]

theorem ids_withParam (name : String) (value : ParamValue) (b : Block) :
    (withParam name value b).ids = b.ids := by
  obtain ⟨i, o, p, cs⟩ := b
  simp [withParam, ids]

theorem map_id_sublist_idsIn (bs : List Block) : (bs.map Block.id).Sublist (idsIn bs) := by
  induction bs with
  | nil => exact .slnil
  | cons b bs ih =>
    obtain ⟨i, o, p, cs⟩ := b
    exact (ih.trans (List.sublist_append_right _ _)).cons_cons i

mutual
theorem nodes_subset {x : Block} : ∀ {b : Block}, x ∈ b.nodes → x.nodes ⊆ b.nodes
  | ⟨i, o, p, cs⟩, h => by
    rcases mem_nodes_iff.1 h with rfl | h
    · exact fun _ hy => hy
    · exact fun y hy => mem_nodes_iff.2 (.inr (nodesIn_subset h hy))

theorem nodesIn_subset {x : Block} : ∀ {bs : List Block}, x ∈ nodesIn bs → x.nodes ⊆ nodesIn bs
  | [], h => by cases h
  | b :: bs, h => by
    rcases List.mem_append.1 h with h | h
    · exact fun y hy => List.mem_append_left _ (nodes_subset h hy)
    · exact fun y hy => List.mem_append_right _ (nodesIn_subset h hy)
end

mutual
theorem mem_of_find? {id : BlockId} {x : Block} :
    ∀ {b : Block}, b.find? id = some x → x ∈ b.nodes ∧ x.id = id
  | ⟨i, o, p, cs⟩, h => by
    rw [find?] at h
    split at h
    · next hi => exact Option.some.inj h ▸ ⟨self_mem_nodes _, hi⟩
    · obtain ⟨hx, hid⟩ := mem_of_findIn? h
      exact ⟨mem_nodes_iff.2 (.inr hx), hid⟩

theorem mem_of_findIn? {id : BlockId} {x : Block} :
    ∀ {bs : List Block}, findIn? id bs = some x → x ∈ nodesIn bs ∧ x.id = id
  | [], h => by cases h
  | b :: bs, h => by
    rw [findIn?, Option.or_eq_some_iff] at h
    rcases h with h | ⟨-, h⟩
    · obtain ⟨hx, hid⟩ := mem_of_find? h
      exact ⟨List.mem_append_left _ hx, hid⟩
    · obtain ⟨hx, hid⟩ := mem_of_findIn? h
      exact ⟨List.mem_append_right _ hx, hid⟩
end

theorem id_renumber (last : BlockId) (b : Block) : (renumber last b).1.id = last.next := by
  cases b
  rw [renumber]

mutual
theorem shaped_renumber (last : BlockId) : ∀ b : Block, (∀ x ∈ b.nodes, x.Shaped) →
    ∀ x ∈ (renumber last b).1.nodes, x.Shaped
  | ⟨i, o, p, cs⟩, h => by
    intro x hx
    rcases mem_nodes_iff.1 hx with rfl | hx
    · intro hne
      cases cs with
      | nil => exact absurd rfl hne
      | cons c cs => exact h ⟨i, o, p, c :: cs⟩ (self_mem_nodes _) (List.cons_ne_nil _ _)
    · rw [renumber] at hx
      exact shaped_renumberIn last.next cs (fun y hy => h y (mem_nodes_iff.2 (.inr hy))) x hx

theorem shaped_renumberIn (last : BlockId) : ∀ bs : List Block, (∀ x ∈ nodesIn bs, x.Shaped) →
    ∀ x ∈ nodesIn (renumberIn last bs).1, x.Shaped
  | [], _ => by simp [renumberIn, nodesIn]
  | b :: bs, h => by
    intro x hx
    rw [renumberIn] at hx
    rcases List.mem_append.1 hx with hx | hx
    · exact shaped_renumber last b (fun y hy => h y (List.mem_append_left _ hy)) x hx
    · exact shaped_renumberIn _ bs (fun y hy => h y (List.mem_append_right _ hy)) x hx
end

end Block
end SpriteBlocks
