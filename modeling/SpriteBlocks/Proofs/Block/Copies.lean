import SpriteBlocks.Proofs.Block.Nodes

/-!
# Copies of trees

A copy differs from the tree it is made of in the identities only. Those count
on from the last identity handed out, each block before the blocks inside it.
-/
namespace SpriteBlocks

/-- The identity handed out `k` calls after this one. -/
def BlockId.after (last : BlockId) (k : Nat) : BlockId := ⟨last.raw + UInt32.ofNat k⟩

namespace BlockId

theorem after_zero (last : BlockId) : last.after 0 = last := by
  cases last
  simp [after]

theorem after_next (last : BlockId) (k : Nat) : last.next.after k = last.after (k + 1) := by
  simp [after, next, UInt32.ofNat_add, UInt32.add_assoc, UInt32.add_comm]

theorem after_after (last : BlockId) (k n : Nat) : (last.after k).after n = last.after (k + n) := by
  simp [after, UInt32.ofNat_add, UInt32.add_assoc]

theorem toNat_after {last : BlockId} {k : Nat} (h : last.raw.toNat + k < UInt32.size) :
    (last.after k).raw.toNat = last.raw.toNat + k := by
  have hk : (UInt32.ofNat k).toNat = k :=
    Nat.mod_eq_of_lt (Nat.lt_of_le_of_lt (Nat.le_add_left _ _) h)
  rw [after, UInt32.toNat_add, hk]
  exact Nat.mod_eq_of_lt h

end BlockId

namespace Block

mutual
def unnamed : Block → Block
  | ⟨_, o, p, cs⟩ => ⟨⟨0⟩, o, p, unnamedIn cs⟩

def unnamedIn : List Block → List Block
  | [] => []
  | b :: bs => b.unnamed :: unnamedIn bs
end

mutual
theorem unnamed_renumber (last : BlockId) : ∀ b : Block, (renumber last b).1.unnamed = b.unnamed
  | ⟨i, o, p, cs⟩ => by rw [renumber, unnamed, unnamed, unnamedIn_renumberIn last.next cs]

theorem unnamedIn_renumberIn (last : BlockId) : ∀ bs : List Block,
    unnamedIn (renumberIn last bs).1 = unnamedIn bs
  | [] => by rw [renumberIn]
  | b :: bs => by
    rw [renumberIn, unnamedIn, unnamedIn, unnamed_renumber last b, unnamedIn_renumberIn _ bs]
end

theorem map_after_append (last : BlockId) (m n : Nat) :
    (List.range' 1 m).map last.after ++ (List.range' 1 n).map (last.after m).after =
      (List.range' 1 (m + n)).map last.after := by
  have hshift : last.after ∘ (m + ·) = (last.after m).after :=
    funext fun k => (last.after_after m k).symm
  rw [← List.range'_append_1, List.map_append, Nat.add_comm 1 m, ← List.map_add_range',
    List.map_map, hshift]

theorem map_after_next (last : BlockId) (n : Nat) :
    last.next :: (List.range' 1 n).map last.next.after =
      (List.range' 1 (n + 1)).map last.after := by
  have happend := map_after_append last 1 n
  rw [← last.after_next 0, last.next.after_zero, Nat.add_comm 1 n] at happend
  rw [← happend, List.range'_one, List.map_singleton, ← last.after_next 0, last.next.after_zero]
  rfl

mutual
/-- A copy takes the next identities in the order of its nodes. -/
theorem ids_renumber_eq (last : BlockId) : ∀ b : Block,
    (renumber last b).1.ids = (List.range' 1 b.size).map last.after ∧
      (renumber last b).2 = last.after b.size
  | ⟨i, o, p, cs⟩ => by
    obtain ⟨hids, hlast⟩ := idsIn_renumberIn_eq last.next cs
    rw [renumber, ids, hids, hlast, size, map_after_next]
    exact ⟨rfl, last.after_next _⟩

theorem idsIn_renumberIn_eq (last : BlockId) : ∀ bs : List Block,
    idsIn (renumberIn last bs).1 = (List.range' 1 (sizeIn bs)).map last.after ∧
      (renumberIn last bs).2 = last.after (sizeIn bs)
  | [] => ⟨rfl, last.after_zero.symm⟩
  | b :: bs => by
    obtain ⟨hids, hlast⟩ := ids_renumber_eq last b
    obtain ⟨hids', hlast'⟩ := idsIn_renumberIn_eq (last.after b.size) bs
    rw [← hlast] at hids' hlast'
    refine ⟨?_, ?_⟩
    · rw [renumberIn, idsIn, sizeIn, hids, hids', hlast, map_after_append]
    · rw [renumberIn, sizeIn, hlast', hlast, last.after_after]
end

theorem size_renumber (last : BlockId) (b : Block) : (renumber last b).1.size = b.size := by
  rw [← length_ids, (ids_renumber_eq last b).1, List.length_map, List.length_range']

theorem map_toNat_after {last : BlockId} {n : Nat} (h : last.raw.toNat + n < UInt32.size) :
    ((List.range' 1 n).map last.after).map (fun i => i.raw.toNat) =
      List.range' (last.raw.toNat + 1) n := by
  have hcount : ∀ k ∈ List.range' 1 n, (last.after k).raw.toNat = last.raw.toNat + k :=
    fun k hk => BlockId.toNat_after (by rw [List.mem_range'_1] at hk; omega)
  rw [List.map_map, ← List.map_add_range']
  exact List.map_congr_left hcount

theorem ids_renumber {last : BlockId} {b : Block} (h : last.raw.toNat + b.size < UInt32.size) :
    (renumber last b).1.ids.map (fun i => i.raw.toNat) =
        List.range' (last.raw.toNat + 1) b.size ∧
      (renumber last b).2.raw.toNat = last.raw.toNat + b.size := by
  obtain ⟨hids, hlast⟩ := ids_renumber_eq last b
  exact ⟨hids ▸ map_toNat_after h, hlast ▸ BlockId.toNat_after h⟩

theorem idsIn_renumberIn {last : BlockId} {bs : List Block}
    (h : last.raw.toNat + sizeIn bs < UInt32.size) :
    (idsIn (renumberIn last bs).1).map (fun i => i.raw.toNat) =
      List.range' (last.raw.toNat + 1) (sizeIn bs) :=
  (idsIn_renumberIn_eq last bs).1 ▸ map_toNat_after h

end Block
end SpriteBlocks
