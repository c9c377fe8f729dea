import SpriteBlocks.Proofs.Block.Nodes
import Mathlib.Data.List.Perm.Basic

/-!
# Surgery on lists of trees

An edit of a workspace replaces one subtree or cuts one out. Both are relations
between the lists before and after, and say where the subtree stands by their
derivation. What the operations on trees do is one of the two, so a fact about
all edits is one induction on a derivation.
-/
namespace SpriteBlocks.Block

/-- The second list is the first with one occurrence of a subtree replaced. -/
inductive Swap (old new : Block) : List Block → List Block → Prop
  | here (bs : List Block) : Swap old new (old :: bs) (new :: bs)
  | inside {i : BlockId} {o : Opcode} {p : Parameters} {cs cs' : List Block} (bs : List Block) :
    Swap old new cs cs' → Swap old new (⟨i, o, p, cs⟩ :: bs) (⟨i, o, p, cs'⟩ :: bs)
  | later (b : Block) {bs bs' : List Block} :
    Swap old new bs bs' → Swap old new (b :: bs) (b :: bs')

/-- The second list is the first with one occurrence of a subtree cut out. -/
inductive Cut (x : Block) : List Block → List Block → Prop
  | here (bs : List Block) : Cut x (x :: bs) bs
  | inside {i : BlockId} {o : Opcode} {p : Parameters} {cs cs' : List Block} (bs : List Block) :
    Cut x cs cs' → Cut x (⟨i, o, p, cs⟩ :: bs) (⟨i, o, p, cs'⟩ :: bs)
  | later (b : Block) {bs bs' : List Block} : Cut x bs bs' → Cut x (b :: bs) (b :: bs')

namespace Swap
variable {old new : Block} {bs bs' : List Block}

theorem append_right (h : Swap old new bs bs') (rest : List Block) :
    Swap old new (bs ++ rest) (bs' ++ rest) := by
  induction h with
  | here bs => exact .here _
  | inside bs h _ => exact .inside _ h
  | later b _ ih => exact .later b ih

theorem ne_nil (h : Swap old new bs bs') : bs ≠ [] := by
  cases h <;> exact List.cons_ne_nil _ _

/-- The identities of the new subtree take the place of those of the old one. -/
theorem idsIn_perm (h : Swap old new bs bs') :
    (idsIn bs' ++ old.ids).Perm (idsIn bs ++ new.ids) := by
  rw [List.perm_iff_count]
  intro a
  induction h with
  | here bs =>
    simp only [idsIn, List.count_append]
    omega
  | inside bs _ ih =>
    simp only [idsIn, ids, List.count_append, List.count_cons] at ih ⊢
    omega
  | later b _ ih =>
    simp only [idsIn, List.count_append] at ih ⊢
    omega

theorem map_id (h : Swap old new bs bs') (hid : new.id = old.id) :
    bs'.map Block.id = bs.map Block.id := by
  induction h with
  | here bs => rw [List.map_cons, List.map_cons, hid]
  | inside bs _ _ => rfl
  | later b _ ih => rw [List.map_cons, List.map_cons, ih]

theorem shaped (h : Swap old new bs bs') (hnew : ∀ x ∈ new.nodes, x.Shaped)
    (hbs : ∀ x ∈ nodesIn bs, x.Shaped) : ∀ x ∈ nodesIn bs', x.Shaped := by
  induction h with
  | here bs =>
    intro x hx
    rcases List.mem_append.1 hx with hx | hx
    · exact hnew x hx
    · exact hbs x (List.mem_append_right _ hx)
  | @inside i o p cs cs' bs hcs ih =>
    intro x hx
    rcases List.mem_append.1 hx with hx | hx
    · rcases mem_nodes_iff.1 hx with rfl | hx
      · exact fun _ => hbs ⟨i, o, p, cs⟩ (List.mem_append_left _ (self_mem_nodes _)) hcs.ne_nil
      · exact ih (fun y hy => hbs y (List.mem_append_left _ (mem_nodes_iff.2 (.inr hy)))) x hx
    · exact hbs x (List.mem_append_right _ hx)
  | later b _ ih =>
    intro x hx
    rcases List.mem_append.1 hx with hx | hx
    · exact hbs x (List.mem_append_left _ hx)
    · exact ih (fun y hy => hbs y (List.mem_append_right _ hy)) x hx

end Swap

namespace Cut
variable {x : Block} {bs bs' : List Block}

theorem middle (x : Block) (before after : List Block) :
    Cut x (before ++ x :: after) (before ++ after) := by
  induction before with
  | nil => exact .here after
  | cons b before ih => exact .later b ih

theorem append_right (h : Cut x bs bs') (rest : List Block) : Cut x (bs ++ rest) (bs' ++ rest) := by
  induction h with
  | here bs => exact .here _
  | inside bs h _ => exact .inside _ h
  | later b _ ih => exact .later b ih

theorem ne_nil (h : Cut x bs bs') : bs ≠ [] := by
  cases h <;> exact List.cons_ne_nil _ _

theorem idsIn_perm (h : Cut x bs bs') : (idsIn bs).Perm (x.ids ++ idsIn bs') := by
  rw [List.perm_iff_count]
  intro a
  induction h with
  | here bs => rfl
  | inside bs _ ih =>
    simp only [idsIn, ids, List.count_append, List.count_cons] at ih ⊢
    omega
  | later b _ ih =>
    simp only [idsIn, List.count_append] at ih ⊢
    omega

theorem nodes_subset (h : Cut x bs bs') : x.nodes ⊆ nodesIn bs := by
  induction h with
  | here bs => exact fun y hy => List.mem_append_left _ hy
  | inside bs _ ih => exact fun y hy => List.mem_append_left _ (mem_nodes_iff.2 (.inr (ih hy)))
  | later b _ ih => exact fun y hy => List.mem_append_right _ (ih hy)

theorem shaped (h : Cut x bs bs') (hbs : ∀ y ∈ nodesIn bs, y.Shaped) :
    ∀ y ∈ nodesIn bs', y.Shaped := by
  induction h with
  | here bs => exact fun y hy => hbs y (List.mem_append_right _ hy)
  | @inside i o p cs cs' bs hcs ih =>
    intro y hy
    rcases List.mem_append.1 hy with hy | hy
    · rcases mem_nodes_iff.1 hy with rfl | hy
      · exact fun _ => hbs ⟨i, o, p, cs⟩ (List.mem_append_left _ (self_mem_nodes _)) hcs.ne_nil
      · exact ih (fun z hz => hbs z (List.mem_append_left _ (mem_nodes_iff.2 (.inr hz)))) y hy
    · exact hbs y (List.mem_append_right _ hy)
  | later b _ ih =>
    intro y hy
    rcases List.mem_append.1 hy with hy | hy
    · exact hbs y (List.mem_append_left _ hy)
    · exact ih (fun z hz => hbs z (List.mem_append_right _ hz)) y hy

end Cut

mutual
theorem isSome_modify? (id : BlockId) (f : Block → Block) : ∀ b : Block,
    (b.modify? id f).isSome = (b.find? id).isSome
  | ⟨i, o, p, cs⟩ => by
    rw [modify?, find?]
    split
    · rfl
    · rw [Option.isSome_map, isSome_modifyIn? id f cs]

theorem isSome_modifyIn? (id : BlockId) (f : Block → Block) : ∀ bs : List Block,
    (modifyIn? id f bs).isSome = (findIn? id bs).isSome
  | [] => rfl
  | b :: bs => by
    have hb := isSome_modify? id f b
    rw [modifyIn?, findIn?, Option.isSome_or, ← hb]
    split
    · next h => rw [h]; rfl
    · next h => rw [h, Option.isSome_map, isSome_modifyIn? id f bs]; rfl
end

mutual
theorem swap_of_modify? {id : BlockId} {f : Block → Block} : ∀ {b b' : Block},
    b.modify? id f = some b' → ∃ x, b.find? id = some x ∧ Swap x (f x) [b] [b']
  | ⟨i, o, p, cs⟩, b', h => by
    rw [modify?] at h
    split at h
    · next hi =>
      cases h
      exact ⟨⟨i, o, p, cs⟩, by rw [find?, if_pos hi], .here []⟩
    · next hi =>
      obtain ⟨cs', hcs, rfl⟩ := Option.map_eq_some_iff.1 h
      obtain ⟨x, hx, hswap⟩ := swap_of_modifyIn? hcs
      exact ⟨x, by rw [find?, if_neg hi, hx], .inside [] hswap⟩

theorem swap_of_modifyIn? {id : BlockId} {f : Block → Block} : ∀ {bs bs' : List Block},
    modifyIn? id f bs = some bs' → ∃ x, findIn? id bs = some x ∧ Swap x (f x) bs bs'
  | [], _, h => by cases h
  | b :: bs, bs', h => by
    rw [modifyIn?] at h
    split at h
    · next b' hb =>
      cases h
      obtain ⟨x, hx, hswap⟩ := swap_of_modify? hb
      exact ⟨x, by rw [findIn?, hx, Option.some_or], hswap.append_right bs⟩
    · next hb =>
      obtain ⟨rest, hrest, rfl⟩ := Option.map_eq_some_iff.1 h
      obtain ⟨x, hx, hswap⟩ := swap_of_modifyIn? hrest
      have hnone : b.find? id = none := by
        rw [← Option.not_isSome_iff_eq_none, ← isSome_modify? id f, hb]
        exact Bool.false_ne_true
      exact ⟨x, by rw [findIn?, hnone, Option.none_or, hx], .later b hswap⟩
end

/-- The block that is cut out of a list stands between two parts of it. -/
theorem takeFirst?_eq_some {id : BlockId} {x : Block} {bs rest : List Block}
    (h : takeFirst? id bs = some (x, rest)) :
    ∃ before after, bs = before ++ x :: after ∧ rest = before ++ after ∧ x.id = id := by
  induction bs generalizing rest with
  | nil => cases h
  | cons b bs ih =>
    rw [takeFirst?] at h
    split at h
    · next hb =>
      cases h
      exact ⟨[], bs, rfl, rfl, hb⟩
    · obtain ⟨⟨y, rest'⟩, hy, he⟩ := Option.map_eq_some_iff.1 h
      cases he
      obtain ⟨before, after, rfl, rfl, hid⟩ := ih hy
      exact ⟨b :: before, after, rfl, rfl, hid⟩

theorem map_fst_takeFirst? (id : BlockId) (bs : List Block) :
    (takeFirst? id bs).map Prod.fst = bs.find? fun b => b.id = id := by
  induction bs with
  | nil => rfl
  | cons b bs ih =>
    rw [takeFirst?, List.find?_cons]
    by_cases hb : b.id = id
    · simp [hb]
    · simpa [hb, Function.comp_def] using ih

theorem takeFirst?_eq_none_iff {id : BlockId} {bs : List Block} :
    takeFirst? id bs = none ↔ id ∉ bs.map Block.id := by
  rw [← Option.map_eq_none_iff (f := Prod.fst), map_fst_takeFirst?, List.find?_eq_none]
  simp

theorem cut_of_takeFirst? {id : BlockId} {x : Block} {bs rest : List Block}
    (h : takeFirst? id bs = some (x, rest)) : Cut x bs rest ∧ x.id = id := by
  obtain ⟨before, after, rfl, rfl, hid⟩ := takeFirst?_eq_some h
  exact ⟨.middle x before after, hid⟩

theorem map_id_takeFirst? {id : BlockId} {x : Block} {bs rest : List Block}
    (h : takeFirst? id bs = some (x, rest)) :
    (bs.map Block.id).Perm (id :: rest.map Block.id) := by
  obtain ⟨before, after, rfl, rfl, rfl⟩ := takeFirst?_eq_some h
  rw [List.map_append, List.map_cons, List.map_append]
  exact List.perm_middle

mutual
theorem cut_of_takeDescendant? {id : BlockId} {x : Block} : ∀ {b b' : Block},
    b.takeDescendant? id = some (x, b') → Cut x [b] [b'] ∧ x.id = id
  | ⟨i, o, p, cs⟩, b', h => by
    rw [takeDescendant?] at h
    split at h
    · next y rest hy =>
      cases h
      obtain ⟨hcut, hid⟩ := cut_of_takeFirst? hy
      exact ⟨.inside [] hcut, hid⟩
    · obtain ⟨⟨y, rest⟩, hy, he⟩ := Option.map_eq_some_iff.1 h
      cases he
      obtain ⟨hcut, hid⟩ := cut_of_takeInside? hy
      exact ⟨.inside [] hcut, hid⟩

theorem cut_of_takeInside? {id : BlockId} {x : Block} : ∀ {bs bs' : List Block},
    takeInside? id bs = some (x, bs') → Cut x bs bs' ∧ x.id = id
  | [], _, h => by cases h
  | b :: bs, bs', h => by
    rw [takeInside?] at h
    split at h
    · next y b' hb =>
      cases h
      obtain ⟨hcut, hid⟩ := cut_of_takeDescendant? hb
      exact ⟨hcut.append_right bs, hid⟩
    · obtain ⟨⟨y, rest⟩, hy, he⟩ := Option.map_eq_some_iff.1 h
      cases he
      obtain ⟨hcut, hid⟩ := cut_of_takeInside? hy
      exact ⟨.later b hcut, hid⟩
end

theorem id_takeDescendant? {id : BlockId} {x b b' : Block}
    (h : b.takeDescendant? id = some (x, b')) : b'.id = b.id := by
  obtain ⟨i, o, p, cs⟩ := b
  rw [takeDescendant?] at h
  split at h
  · cases h
    rfl
  · obtain ⟨r, -, he⟩ := Option.map_eq_some_iff.1 h
    cases he
    rfl

theorem map_id_takeInside? {id : BlockId} {x : Block} {bs bs' : List Block}
    (h : takeInside? id bs = some (x, bs')) : bs'.map Block.id = bs.map Block.id := by
  induction bs generalizing bs' with
  | nil => cases h
  | cons b bs ih =>
    rw [takeInside?] at h
    split at h
    · next hb =>
      cases h
      rw [List.map_cons, List.map_cons, id_takeDescendant? hb]
    · obtain ⟨⟨y, rest⟩, hy, he⟩ := Option.map_eq_some_iff.1 h
      cases he
      rw [List.map_cons, List.map_cons, ih hy]

end SpriteBlocks.Block
