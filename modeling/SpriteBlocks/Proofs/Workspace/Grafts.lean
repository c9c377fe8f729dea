import SpriteBlocks.Proofs.Block.Faces
import SpriteBlocks.Proofs.Workspace.History
import SpriteBlocks.Proofs.Workspace.Refusal

/-!
# Grafts

A graft puts trees behind the others at the top level or inside a block, and
names their blocks with the next identities. A tree can be grafted in one go, or
its root first and the trees inside it afterwards: the root has an identity of
its own, so what is put inside it goes nowhere else.
-/
namespace SpriteBlocks

namespace Block

def withChildren (new : List Block) (b : Block) : Block := { b with children := b.children ++ new }

/-- The list with trees put behind the others, at the top level or inside a block. -/
def putIn (parent : Option BlockId) (new bs : List Block) : List Block :=
  match parent with
  | none => bs ++ new
  | some c => (modifyIn? c (withChildren new) bs).getD bs

section Modify
variable {id c : BlockId} {f g h : Block → Block}

theorem modify?_self {b : Block} (hb : b.id = id) (f : Block → Block) :
    b.modify? id f = some (f b) := by
  obtain ⟨i, o, p, cs⟩ := b
  rw [modify?, if_pos hb]

theorem modify?_eq_none {b : Block} (hid : id ∉ b.ids) (f : Block → Block) :
    b.modify? id f = none := by
  rw [← Option.isNone_iff_eq_none, ← Option.not_isSome, isSome_modify?, find?_eq_none_iff.2 hid]
  rfl

theorem modifyIn?_append {as : List Block} (hid : id ∉ idsIn as) (f : Block → Block)
    (bs : List Block) : modifyIn? id f (as ++ bs) = (modifyIn? id f bs).map (as ++ ·) := by
  induction as with
  | nil => simp
  | cons a as ih =>
    rw [idsIn, List.mem_append, not_or] at hid
    rw [List.cons_append, modifyIn?, modify?_eq_none hid.1, ih hid.2, Option.map_map]
    rfl

mutual
/-- Two changes, the second of them inside the block that the first one changed,
are one change of that block. -/
theorem modify?_modify? : ∀ {b b' : Block}, (∀ x ∈ b.nodes, x.id = id → x.id = c) →
    (∀ x ∈ b.nodes, x.id = c → (g x).modify? id f = some (h x)) → b.modify? c g = some b' →
    b'.modify? id f = b.modify? c h
  | ⟨i, o, p, cs⟩, b', hid, hnode, hmod => by
    rw [nodes, List.forall_mem_cons] at hid hnode
    rw [modify?] at hmod ⊢
    by_cases hi : i = c
    · rw [if_pos hi] at hmod ⊢
      cases hmod
      exact hnode.1 hi
    · rw [if_neg hi] at hmod ⊢
      obtain ⟨cs', hcs, rfl⟩ := Option.map_eq_some_iff.1 hmod
      rw [modify?, if_neg fun he => hi (hid.1 he), modifyIn?_modifyIn? hid.2 hnode.2 hcs]

theorem modifyIn?_modifyIn? : ∀ {bs bs' : List Block}, (∀ x ∈ nodesIn bs, x.id = id → x.id = c) →
    (∀ x ∈ nodesIn bs, x.id = c → (g x).modify? id f = some (h x)) →
    modifyIn? c g bs = some bs' → modifyIn? id f bs' = modifyIn? c h bs
  | [], _, _, _, hmod => by cases hmod
  | b :: bs, bs', hid, hnode, hmod => by
    rw [nodesIn, List.forall_mem_append] at hid hnode
    have hsome : (b.modify? c h).isSome = (b.modify? c g).isSome := by
      rw [isSome_modify?, isSome_modify?]
    rw [modifyIn?] at hmod ⊢
    cases hb : b.modify? c g with
    | some b' =>
      rw [hb] at hmod hsome
      cases hmod
      rw [modifyIn?, modify?_modify? hid.1 hnode.1 hb]
      obtain ⟨b'', hb''⟩ := Option.isSome_iff_exists.1 hsome
      rw [hb'']
    | none =>
      rw [hb] at hmod hsome
      obtain ⟨rest, hmodrest, rfl⟩ := Option.map_eq_some_iff.1 hmod
      have hfresh : id ∉ b.ids := by
        intro hmem
        rw [← map_id_nodes] at hmem
        obtain ⟨x, hx, hxid⟩ := List.mem_map.1 hmem
        have hc : c ∉ b.ids := by
          rw [← find?_eq_none_iff, ← Option.not_isSome_iff_eq_none, ← isSome_modify? c g, hb]
          exact Bool.false_ne_true
        exact hc (hid.1 x hx hxid ▸ map_id_nodes b ▸ List.mem_map_of_mem hx)
      rw [Option.isSome_none, Option.isSome_eq_false_iff, Option.isNone_iff_eq_none] at hsome
      rw [modifyIn?, modify?_eq_none hfresh, hsome, modifyIn?_modifyIn? hid.2 hnode.2 hmodrest]
end

end Modify

theorem eq_of_swap_self {x : Block} {bs bs' : List Block} (h : Swap x x bs bs') : bs' = bs := by
  induction h with
  | here bs => rfl
  | inside bs _ ih => rw [ih]
  | later b _ ih => rw [ih]

/-- A change of the last tree, which alone has the identity. -/
theorem modifyIn?_concat {x : Block} {bs : List Block} (hfresh : x.id ∉ idsIn bs)
    (f : Block → Block) : modifyIn? x.id f (bs ++ [x]) = some (bs ++ [f x]) := by
  rw [modifyIn?_append hfresh, modifyIn?, modify?_self rfl]
  rfl

theorem putIn_nil (parent : Option BlockId) (bs : List Block) : putIn parent [] bs = bs := by
  cases parent with
  | none => exact List.append_nil bs
  | some c =>
    rw [putIn]
    cases hmod : modifyIn? c (withChildren []) bs with
    | none => rfl
    | some bs' =>
      obtain ⟨x, -, hswap⟩ := swap_of_modifyIn? hmod
      have hsame : withChildren [] x = x := by
        cases x
        simp [withChildren]
      exact eq_of_swap_self (hsame ▸ hswap)

/-- The place is there: a block with the identity, if one is named. -/
def Place (parent : Option BlockId) (bs : List Block) : Prop := ∀ c ∈ parent, c ∈ idsIn bs

section Place
variable {parent : Option BlockId} {bs : List Block} (hplace : Place parent bs)
include hplace

theorem Place.modifyIn? {c : BlockId} (hc : parent = some c) (f : Block → Block) :
    ∃ bs', Block.modifyIn? c f bs = some bs' := by
  rw [← Option.isSome_iff_exists, isSome_modifyIn?, ← Option.ne_none_iff_isSome, ne_eq,
    findIn?_eq_none_iff, not_not]
  exact hplace c hc

theorem putIn_append (new more : List Block) :
    putIn parent more (putIn parent new bs) = putIn parent (new ++ more) bs := by
  cases parent with
  | none => exact List.append_assoc bs new more
  | some c =>
    obtain ⟨bs', hmod⟩ := hplace.modifyIn? rfl (withChildren new)
    have hboth : Block.modifyIn? c (withChildren more) bs' =
        Block.modifyIn? c (withChildren (new ++ more)) bs := by
      refine modifyIn?_modifyIn? (fun x _ hx => hx) (fun x _ hx => ?_) hmod
      rw [modify?_self (b := withChildren new x) hx]
      simp [withChildren]
    obtain ⟨bs'', hmore⟩ := hplace.modifyIn? rfl (withChildren (new ++ more))
    simp only [putIn, hmod, Option.getD_some, hboth, hmore]

/-- Trees that are put inside a block put in just before go there and nowhere else. -/
theorem putIn_inside {x : Block} (hfresh : x.id ∉ idsIn bs) (new : List Block) :
    putIn (some x.id) new (putIn parent [x] bs) = putIn parent [withChildren new x] bs := by
  cases parent with
  | none => simp only [putIn, modifyIn?_concat hfresh, Option.getD_some]
  | some c =>
    obtain ⟨bs', hmod⟩ := hplace.modifyIn? rfl (withChildren [x])
    have hboth : Block.modifyIn? x.id (withChildren new) bs' =
        Block.modifyIn? c (withChildren [withChildren new x]) bs := by
      refine modifyIn?_modifyIn? (fun y hy hyx => ?_) (fun y hy _ => ?_) hmod
      · rw [← hyx, ← map_id_nodesIn] at hfresh
        exact absurd (List.mem_map_of_mem hy) hfresh
      · obtain ⟨i, o, p, cs⟩ := y
        have hinner : x.id ∉ i :: idsIn cs := fun hmem => hfresh <| by
          rw [← map_id_nodesIn] at hmem ⊢
          exact List.map_subset _ (nodesIn_subset hy) hmem
        rw [List.mem_cons, not_or] at hinner
        rw [withChildren, modify?, if_neg (Ne.symm hinner.1), modifyIn?_concat hinner.2]
        rfl
    obtain ⟨bs'', hmore⟩ := hplace.modifyIn? rfl (withChildren [withChildren new x])
    simp only [putIn, hmod, Option.getD_some, hboth, hmore]

end Place
end Block

namespace Workspace

/-- The workspace with trees put behind the others at a place, under the next identities. -/
def graft (ws : Workspace) (parent : Option BlockId) (trees : List Block) : Workspace :=
  { ws with
    blocks := Block.putIn parent (Block.renumberIn ws.lastId trees).1 ws.blocks
    lastId := (Block.renumberIn ws.lastId trees).2 }

/-- The place takes blocks: it is the top level or a container. -/
def Open (ws : Workspace) (parent : Option BlockId) : Prop :=
  ∀ c ∈ parent, ∃ x, ws.container c = .ok x

theorem container_eq_ok_iff {ws : Workspace} {c : BlockId} {x : Block} :
    ws.container c = .ok x ↔ Block.findIn? c ws.blocks = some x ∧ x.isContainer = true := by
  rw [container, get?]
  cases Block.findIn? c ws.blocks with
  | none => simp
  | some y =>
    by_cases hy : y.isContainer = true
    · simp only [hy, if_true, Except.ok.injEq, Option.some.injEq]
      exact ⟨fun h => ⟨h, h ▸ hy⟩, And.left⟩
    · have hne (h : y = x) : ¬ x.isContainer = true := h ▸ hy
      simpa [hy] using hne

section Graft
variable {ws : Workspace} {parent : Option BlockId}

theorem open_top (ws : Workspace) : ws.Open none := by
  intro c hc
  cases hc

theorem open_of_container {c : BlockId} {x : Block} (h : ws.container c = .ok x) :
    ws.Open (some c) := by
  intro c' hc'
  exact ⟨x, Option.mem_some.1 hc' ▸ h⟩

theorem Open.place (h : ws.Open parent) : Block.Place parent ws.blocks := by
  intro c hc
  obtain ⟨x, hx⟩ := h c hc
  have hfind := (container_eq_ok_iff.1 hx).1
  by_contra hnot
  rw [Block.findIn?_eq_none_iff.2 hnot] at hfind
  cases hfind

theorem graft_nil (ws : Workspace) (parent : Option BlockId) : ws.graft parent [] = ws := by
  simp only [graft, Block.renumberIn, Block.putIn_nil]

theorem lastId_graft (ws : Workspace) (parent : Option BlockId) (trees : List Block) :
    (ws.graft parent trees).lastId = ws.lastId.after (Block.sizeIn trees) :=
  (Block.idsIn_renumberIn_eq ws.lastId trees).2

theorem graft_cons (h : ws.Open parent) (t : Block) (ts : List Block) :
    (ws.graft parent [t]).graft parent ts = ws.graft parent (t :: ts) := by
  simp only [graft, Block.renumberIn, Block.putIn_append h.place, List.singleton_append]

/-- A tree can be grafted as its root first and then the trees inside. -/
theorem graft_inside (h : ws.Open parent) (hfresh : ws.lastId.next ∉ Block.idsIn ws.blocks)
    (opcode : Opcode) (params : Parameters) (cs : List Block) :
    (ws.graft parent [Block.leaf ⟨0⟩ opcode params]).graft (some ws.lastId.next) cs =
      ws.graft parent [⟨⟨0⟩, opcode, params, cs⟩] := by
  have hroot := Block.putIn_inside h.place (x := Block.leaf ws.lastId.next opcode params) hfresh
    (Block.renumberIn ws.lastId.next cs).1
  simp only [graft, Block.leaf, Block.renumberIn, Block.renumber] at hroot ⊢
  rw [hroot, Block.withChildren, List.nil_append]

theorem add_eq_graft (ws : Workspace) (opcode : Opcode) (params : Parameters) :
    ws.add opcode params =
      (ws.graft none [Block.leaf ⟨0⟩ opcode params], ws.lastId.next) := by
  simp only [add, graft, Block.leaf, Block.renumberIn, Block.renumber, Block.putIn]

theorem addChild_eq_graft {c : BlockId} {x : Block} (h : ws.container c = .ok x)
    (opcode : Opcode) (params : Parameters) :
    ws.addChild c opcode params =
      (ws.graft (some c) [Block.leaf ⟨0⟩ opcode params], .ok ws.lastId.next) := by
  obtain ⟨blocks, hmod⟩ := (open_of_container h).place.modifyIn? rfl
    (Block.withChildren [Block.leaf ws.lastId.next opcode params])
  have hcounted : ({ ws with lastId := ws.lastId.next } : Workspace).container c = .ok x := h
  have hput : Block.modifyIn? c (Block.withChild (Block.leaf ws.lastId.next opcode params))
      ws.blocks = some blocks := hmod
  simp only [addChild, h, putInside, hcounted, hput]
  simp only [Block.leaf] at hmod
  simp only [graft, Block.leaf, Block.renumberIn, Block.renumber, Block.putIn, hmod,
    Option.getD_some]

/-- A graft inside a container replaces it by itself with more blocks inside. -/
theorem swap_graft {c : BlockId} {x : Block} (h : ws.container c = .ok x) (trees : List Block) :
    Block.Swap x (Block.withChildren (Block.renumberIn ws.lastId trees).1 x) ws.blocks
      (ws.graft (some c) trees).blocks := by
  obtain ⟨blocks, hmod⟩ := (open_of_container h).place.modifyIn? rfl
    (Block.withChildren (Block.renumberIn ws.lastId trees).1)
  obtain ⟨y, hfind, hswap⟩ := Block.swap_of_modifyIn? hmod
  rw [(container_eq_ok_iff.1 h).1, Option.some.injEq] at hfind
  simpa only [graft, Block.putIn, hmod, Option.getD_some, hfind] using hswap

theorem mem_nodesIn_graft (h : ws.Open parent) {trees : List Block} {b : Block}
    (hb : b ∈ (Block.renumberIn ws.lastId trees).1) :
    b ∈ Block.nodesIn (ws.graft parent trees).blocks := by
  cases parent with
  | none => exact Block.mem_nodesIn_of_mem (List.mem_append_right _ hb)
  | some c =>
    obtain ⟨x, hx⟩ := h c rfl
    refine (swap_graft hx trees).new_subset (Block.mem_nodes_iff.2 (.inr ?_))
    exact Block.mem_nodesIn_of_mem (List.mem_append_right _ hb)

theorem Open.graft (h : ws.Open parent) {trees : List Block}
    (hsound : (ws.graft parent trees).Sound) : (ws.graft parent trees).Open parent := by
  intro c hc
  obtain ⟨x, hx⟩ := h c hc
  obtain rfl : parent = some c := hc
  refine ⟨_, container_eq_ok_iff.2 ⟨(Block.findIn?_eq_some_iff hsound.distinct).2
    ⟨(swap_graft hx trees).new_subset (Block.self_mem_nodes _), ?_⟩, ?_⟩⟩
  · exact (Block.mem_of_findIn? (container_eq_ok_iff.1 hx).1).2
  · exact (container_eq_ok_iff.1 hx).2

theorem Open.root (h : ws.Open parent) {opcode : Opcode} {params : Parameters}
    (hcontainer : opcode.isContainer = true)
    (hsound : (ws.graft parent [Block.leaf ⟨0⟩ opcode params]).Sound) :
    (ws.graft parent [Block.leaf ⟨0⟩ opcode params]).Open (some ws.lastId.next) := by
  intro c hc
  obtain rfl : ws.lastId.next = c := Option.mem_some.1 hc
  have hmem : Block.leaf ws.lastId.next opcode params ∈
      (Block.renumberIn ws.lastId [Block.leaf ⟨0⟩ opcode params]).1 := by
    simp [Block.leaf, Block.renumberIn, Block.renumber]
  exact ⟨_, container_eq_ok_iff.2 ⟨(Block.findIn?_eq_some_iff hsound.distinct).2
    ⟨mem_nodesIn_graft h hmem, rfl⟩, hcontainer⟩⟩

/-- One block more keeps a workspace sound as long as identities are left. -/
theorem Sound.graft_leaf (hsound : ws.Sound) (h : ws.Open parent)
    (hroom : ws.lastId.raw.toNat + 1 < UInt32.size) (opcode : Opcode) (params : Parameters) :
    (ws.graft parent [Block.leaf ⟨0⟩ opcode params]).Sound := by
  cases parent with
  | none =>
    have hadded := hsound.add opcode params hroom
    rwa [add_eq_graft] at hadded
  | some c =>
    obtain ⟨x, hx⟩ := h c rfl
    have hone : (Edit.addChild c opcode params).allocated ws = 1 := by rw [Edit.allocated, hx]
    have hadded := (hsound.addChild c opcode params (hone ▸ hroom)).1
    rwa [addChild_eq_graft hx] at hadded

theorem Sound.next_fresh (hsound : ws.Sound) (hroom : ws.lastId.raw.toNat + 1 < UInt32.size) :
    ws.lastId.next ∉ Block.idsIn ws.blocks := by
  intro hmem
  have hle := BlockId.le_iff_toNat_le.1 (hsound.counted _ hmem).2
  rw [BlockId.toNat_next hroom] at hle
  omega

end Graft
end Workspace
end SpriteBlocks
