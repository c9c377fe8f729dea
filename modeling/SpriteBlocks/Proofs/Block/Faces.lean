import SpriteBlocks.Proofs.Block.Surgery

/-!
# What surgery leaves alone

The face of a block is what it is apart from what its children have inside. If
identities are distinct, a search finds whatever node has the identity. So a
count of faces before and after surgery tells what every search finds: cutting a
subtree out changes the face of its parent only, and putting one in that of its
container only.
-/
namespace SpriteBlocks.Block

/-- A block without what its children have inside. -/
structure Face where
  opcode : Opcode
  params : Parameters
  children : List BlockId
deriving DecidableEq

def Face.without (id : BlockId) (f : Face) : Face :=
  { f with children := f.children.filter (· ≠ id) }

/-- Faces with their identities, and without one of the children. -/
def withoutChild (child : BlockId) (es : List (BlockId × Face)) : List (BlockId × Face) :=
  es.map fun e => (e.1, e.2.without child)

def face (b : Block) : Face := ⟨b.opcode, b.params, b.children.map Block.id⟩

/-- The kind of a block, and what stands in its slots. -/
def make (b : Block) : Opcode × Parameters := (b.opcode, b.params)

/-- The faces of a tree with their identities, each before those inside it. -/
def faces (b : Block) : List (BlockId × Face) := b.nodes.map fun x => (x.id, x.face)

def facesIn (bs : List Block) : List (BlockId × Face) := (nodesIn bs).map fun x => (x.id, x.face)

theorem faces_eq (b : Block) : b.faces = (b.id, b.face) :: facesIn b.children := by
  cases b
  simp [faces, facesIn, nodes]

@[simp] theorem facesIn_nil : facesIn [] = [] := rfl

@[simp] theorem facesIn_cons (b : Block) (bs : List Block) :
    facesIn (b :: bs) = b.faces ++ facesIn bs := by
  simp [faces, facesIn, nodesIn]

@[simp] theorem facesIn_append (as bs : List Block) :
    facesIn (as ++ bs) = facesIn as ++ facesIn bs := by
  simp [facesIn]

@[simp] theorem sizeIn_append (as bs : List Block) : sizeIn (as ++ bs) = sizeIn as + sizeIn bs := by
  simp [← length_idsIn]

theorem size_withChild (child b : Block) : (withChild child b).size = b.size + child.size := by
  simp [← length_ids, ids_withChild]

theorem size_withParam (name : String) (value : ParamValue) (b : Block) :
    (withParam name value b).size = b.size := by
  simp [← length_ids, ids_withParam]

theorem id_mem_ids (b : Block) : b.id ∈ b.ids := by
  cases b
  simp [ids]

theorem mem_ids_of_mem_faces {b : Block} {e : BlockId × Face} (h : e ∈ b.faces) : e.1 ∈ b.ids := by
  obtain ⟨x, hx, rfl⟩ := List.mem_map.1 h
  exact map_id_nodes b ▸ List.mem_map_of_mem hx

theorem children_subset_idsIn {bs : List Block} {e : BlockId × Face} (h : e ∈ facesIn bs) :
    e.2.children ⊆ idsIn bs := by
  obtain ⟨x, hx, rfl⟩ := List.mem_map.1 h
  intro i hi
  obtain ⟨c, hc, rfl⟩ := List.mem_map.1 hi
  have hin : c ∈ nodesIn x.children := mem_nodesIn_of_mem hc
  rw [← map_id_nodesIn]
  exact List.mem_map_of_mem (nodesIn_subset hx (mem_nodes_iff.2 (.inr hin)))

section Search

mutual
theorem find?_eq_none_iff {i : BlockId} : ∀ {b : Block}, b.find? i = none ↔ i ∉ b.ids
  | ⟨j, o, p, cs⟩ => by
    by_cases hj : j = i
    · simp [find?, ids, hj]
    · simp [find?, ids, hj, Ne.symm hj, @findIn?_eq_none_iff i cs]

theorem findIn?_eq_none_iff {i : BlockId} : ∀ {bs : List Block}, findIn? i bs = none ↔ i ∉ idsIn bs
  | [] => by simp [findIn?, idsIn]
  | b :: bs => by
    simp [findIn?, idsIn, @find?_eq_none_iff i b, @findIn?_eq_none_iff i bs]
end

variable {bs bs' : List Block} (hnodup : (idsIn bs).Nodup)
include hnodup

theorem eq_of_mem_nodesIn {x y : Block} (hx : x ∈ nodesIn bs) (hy : y ∈ nodesIn bs)
    (hid : x.id = y.id) : x = y := by
  rw [← map_id_nodesIn] at hnodup
  exact List.inj_on_of_nodup_map hnodup hx hy hid

theorem findIn?_eq_some_iff {i : BlockId} {x : Block} :
    findIn? i bs = some x ↔ x ∈ nodesIn bs ∧ x.id = i := by
  refine ⟨mem_of_findIn?, fun ⟨hx, hid⟩ => ?_⟩
  cases hfind : findIn? i bs with
  | none =>
    have hmem : i ∈ idsIn bs := by
      rw [← map_id_nodesIn, ← hid]
      exact List.mem_map_of_mem hx
    exact absurd hmem (findIn?_eq_none_iff.1 hfind)
  | some y =>
    obtain ⟨hy, hyid⟩ := mem_of_findIn? hfind
    rw [eq_of_mem_nodesIn hnodup hx hy (hid.trans hyid.symm)]

theorem map_face_findIn?_iff {i : BlockId} {f : Face} :
    (findIn? i bs).map face = some f ↔ (i, f) ∈ facesIn bs := by
  simp only [Option.map_eq_some_iff, findIn?_eq_some_iff hnodup, facesIn, List.mem_map,
    Prod.mk.injEq, and_assoc]

/-- Two searches find the same face if the lists have the same faces with the identity. -/
theorem map_face_findIn?_congr (hnodup' : (idsIn bs').Nodup) {i : BlockId}
    (h : ∀ f, (i, f) ∈ facesIn bs' ↔ (i, f) ∈ facesIn bs) :
    (findIn? i bs').map face = (findIn? i bs).map face := by
  refine Option.ext fun f => ?_
  rw [map_face_findIn?_iff hnodup, map_face_findIn?_iff hnodup', h f]

end Search

namespace Swap
variable {old new : Block} {bs bs' : List Block}

theorem new_subset (h : Swap old new bs bs') : new.nodes ⊆ nodesIn bs' := by
  induction h with
  | here bs => exact fun y hy => List.mem_append_left _ hy
  | inside bs _ ih => exact fun y hy => List.mem_append_left _ (mem_nodes_iff.2 (.inr (ih hy)))
  | later b _ ih => exact fun y hy => List.mem_append_right _ (ih hy)

theorem sizeIn_add (h : Swap old new bs bs') :
    sizeIn bs' + old.size = sizeIn bs + new.size := by
  have hlen := h.idsIn_perm.length_eq
  rwa [List.length_append, List.length_append, length_idsIn, length_idsIn, length_ids,
    length_ids] at hlen

/-- The faces of the new subtree take the place of those of the old one. -/
theorem facesIn_perm (h : Swap old new bs bs') (hid : new.id = old.id) :
    (facesIn bs' ++ old.faces).Perm (facesIn bs ++ new.faces) := by
  rw [List.perm_iff_count]
  intro e
  induction h with
  | here bs =>
    simp only [facesIn_cons, List.count_append]
    omega
  | inside bs hcs ih =>
    simp only [facesIn_cons, faces_eq, face, hcs.map_id hid, List.count_append,
      List.count_cons] at ih ⊢
    omega
  | later b _ ih =>
    simp only [facesIn_cons, List.count_append] at ih ⊢
    omega

theorem facesIn_withChild {c x : Block} (h : Swap x (withChild c x) bs bs') :
    (facesIn bs' ++ [(x.id, x.face)]).Perm
      (facesIn bs ++ (x.id, (withChild c x).face) :: c.faces) := by
  have hperm := h.facesIn_perm rfl
  rw [List.perm_iff_count] at hperm ⊢
  intro e
  have hcount := hperm e
  have hchildren : (withChild c x).children = x.children ++ [c] := rfl
  have hid : (withChild c x).id = x.id := rfl
  simp only [faces_eq x, faces_eq (withChild c x), hchildren, hid, facesIn_append, facesIn_cons,
    facesIn_nil, List.append_nil, List.count_append, List.count_cons, List.count_nil] at hcount ⊢
  omega

/-- With one more child, a search for another block finds what it finds with the
child at the top level. -/
theorem map_face_findIn? {c x : Block} (h : Swap x (withChild c x) bs bs')
    (hnodup : (idsIn (bs ++ [c])).Nodup) {i : BlockId} (hi : i ≠ x.id) :
    (findIn? i bs').map face = (findIn? i (bs ++ [c])).map face := by
  have hnodup' : (idsIn bs').Nodup := by
    have hids : (idsIn bs' ++ x.ids).Perm (idsIn (bs ++ [c]) ++ x.ids) := by
      refine h.idsIn_perm.trans (List.perm_iff_count.2 fun a => ?_)
      simp only [ids_withChild, idsIn_append, idsIn, List.append_nil, List.count_append]
      omega
    exact ((List.perm_append_right_iff _).1 hids).nodup_iff.2 hnodup
  refine map_face_findIn?_congr hnodup hnodup' fun f => ?_
  have hmem := h.facesIn_withChild.mem_iff (a := (i, f))
  simpa [hi] using hmem

end Swap

namespace Cut
variable {x : Block} {bs bs' : List Block} (h : Cut x bs bs')
include h

theorem sizeIn_eq : sizeIn bs = x.size + sizeIn bs' := by
  have hlen := h.idsIn_perm.length_eq
  rwa [List.length_append, length_idsIn, length_idsIn, length_ids] at hlen

theorem filter_map_id :
    (bs'.map Block.id).filter (· ≠ x.id) = (bs.map Block.id).filter (· ≠ x.id) := by
  induction h with
  | here bs => simp
  | inside bs _ _ => rfl
  | later b _ ih => simp only [List.map_cons, List.filter_cons, ih]

theorem facesIn_perm : (withoutChild x.id (facesIn bs)).Perm
    (withoutChild x.id x.faces ++ withoutChild x.id (facesIn bs')) := by
  rw [List.perm_iff_count]
  intro e
  induction h with
  | here bs => simp [withoutChild]
  | @inside i o p cs cs' bs hcs ih =>
    have hface : Face.without x.id (face ⟨i, o, p, cs'⟩) = Face.without x.id (face ⟨i, o, p, cs⟩) :=
      congrArg (Face.mk o p) hcs.filter_map_id
    simp only [withoutChild, facesIn_cons, faces_eq ⟨i, o, p, cs⟩, faces_eq ⟨i, o, p, cs'⟩,
      List.map_append, List.map_cons, hface, List.count_append, List.count_cons] at ih ⊢
    omega
  | later b _ ih =>
    simp only [withoutChild, facesIn_cons, List.map_append, List.count_append] at ih ⊢
    omega

variable (hnodup : (idsIn bs).Nodup)
include hnodup

theorem findIn?_eq : findIn? x.id bs = some x :=
  (findIn?_eq_some_iff hnodup).2 ⟨h.nodes_subset x.self_mem_nodes, rfl⟩

theorem nodup_append : (x.ids ++ idsIn bs').Nodup := h.idsIn_perm.nodup_iff.1 hnodup

theorem nodup_rest : (idsIn bs').Nodup := (List.nodup_append.1 (h.nodup_append hnodup)).2.1

theorem not_mem_rest {i : BlockId} (hi : i ∈ x.ids) : i ∉ idsIn bs' := fun hi' =>
  (List.nodup_append.1 (h.nodup_append hnodup)).2.2 i hi i hi' rfl

/-- What is left of the list is the list without the tree, if it stood there. -/
theorem map_id_rest : bs'.map Block.id = (bs.map Block.id).filter (· ≠ x.id) := by
  rw [← h.filter_map_id, eq_comm, List.filter_eq_self]
  intro i hi
  have hrest : i ∈ idsIn bs' := (map_id_sublist_idsIn bs').subset hi
  exact decide_eq_true fun hix => h.not_mem_rest hnodup (hix ▸ x.id_mem_ids) hrest

/-- No face of what is left has the child that was cut out. -/
theorem withoutChild_rest : withoutChild x.id (facesIn bs') = facesIn bs' := by
  have hfixed : ∀ e ∈ facesIn bs', (e.1, e.2.without x.id) = e := by
    intro e he
    have hkeep : e.2.children.filter (· ≠ x.id) = e.2.children := by
      refine List.filter_eq_self.2 fun i hi => decide_eq_true ?_
      rintro rfl
      exact h.not_mem_rest hnodup x.id_mem_ids (children_subset_idsIn he hi)
    exact Prod.ext rfl (congrArg (Face.mk e.2.opcode e.2.params) hkeep)
  rw [withoutChild, List.map_congr_left hfixed, List.map_id']

theorem map_face_findIn? {i : BlockId} (hi : i ∉ x.ids) :
    (findIn? i bs').map face = ((findIn? i bs).map face).map (Face.without x.id) := by
  refine Option.ext fun f => ?_
  have hmem := h.facesIn_perm.mem_iff (a := (i, f))
  have hout : (i, f) ∉ withoutChild x.id x.faces := by
    intro hf
    obtain ⟨e, he, hef⟩ := List.mem_map.1 hf
    have hid : e.1 = i := congrArg Prod.fst hef
    exact hi (hid ▸ mem_ids_of_mem_faces he)
  rw [List.mem_append, or_iff_right hout, h.withoutChild_rest hnodup] at hmem
  rw [map_face_findIn?_iff (h.nodup_rest hnodup), ← hmem, Option.map_eq_some_iff]
  simp only [map_face_findIn?_iff hnodup, withoutChild, List.mem_map, Prod.exists, Prod.mk.injEq]
  constructor
  · rintro ⟨_, g, hg, rfl, hgf⟩
    exact ⟨g, hg, hgf⟩
  · rintro ⟨g, hg, hgf⟩
    exact ⟨i, g, hg, rfl, hgf⟩

end Cut
end SpriteBlocks.Block
