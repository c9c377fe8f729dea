import SpriteBlocks.Proofs.Block.Faces

/-!
# Taking a block out of a tree

A block is taken out of a tree by looking through the children first and then
into each child in turn, and every child that is looked into is written back.
Whatever the identities, one entry of one list of children goes, or none does
and the tree stays as it was. The order of the search differs from that of
`find?`, so the two agree on the block if identities are distinct.
-/
namespace SpriteBlocks.Block

mutual
/-- Take a block out of the inside of a tree in place: the block if there is
one, and the tree as it is afterwards. -/
def takeInPlace (id : BlockId) : Block → Option Block × Block
  | ⟨i, o, p, cs⟩ =>
    match cs.findIdx? fun c => c.id = id with
    | some k => (cs[k]?, ⟨i, o, p, cs.eraseIdx k⟩)
    | none => ((takeInPlaceIn id cs).1, ⟨i, o, p, (takeInPlaceIn id cs).2⟩)

/-- Look into the trees one after the other, up to the first that gives a block.
Each of them is replaced by what it is afterwards. -/
def takeInPlaceIn (id : BlockId) : List Block → Option Block × List Block
  | [] => (none, [])
  | b :: bs =>
    match takeInPlace id b with
    | (some x, b') => (some x, b' :: bs)
    | (none, b') => ((takeInPlaceIn id bs).1, b' :: (takeInPlaceIn id bs).2)
end

/-- One entry of one list of children is gone: a block with the identity. -/
structure Taken (id : BlockId) (b x b' : Block) : Prop where
  named : x.id = id
  inside : x ∈ nodesIn b.children
  root : b'.id = b.id ∧ b'.opcode = b.opcode ∧ b'.params = b.params
  cut : Cut x b.children b'.children
  size : b.size = b'.size + x.size

section Search
variable {id : BlockId}

theorem mem_idsIn_iff {bs : List Block} :
    id ∈ idsIn bs ↔ id ∈ bs.map Block.id ∨ ∃ b ∈ bs, id ∈ idsIn b.children := by
  induction bs with
  | nil => simp [idsIn]
  | cons b bs ih =>
    obtain ⟨i, o, p, cs⟩ := b
    simp only [idsIn, ids, List.cons_append, List.mem_cons, List.mem_append, ih, List.map_cons,
      or_and_right, exists_or, exists_eq_left]
    tauto

theorem takeFirst?_of_findIdx? {bs : List Block} {k : Nat}
    (h : (bs.findIdx? fun b => b.id = id) = some k) :
    ∃ x, bs[k]? = some x ∧ takeFirst? id bs = some (x, bs.eraseIdx k) := by
  induction bs generalizing k with
  | nil => cases h
  | cons b bs ih =>
    rw [List.findIdx?_cons] at h
    rw [takeFirst?]
    by_cases hb : b.id = id
    · obtain rfl : 0 = k := by simpa [hb] using h
      exact ⟨b, rfl, if_pos hb⟩
    · obtain ⟨k, hk, rfl⟩ : ∃ k', (bs.findIdx? fun b => b.id = id) = some k' ∧ k' + 1 = k := by
        simpa [hb] using h
      obtain ⟨x, hx, htake⟩ := ih hk
      exact ⟨x, hx, by rw [if_neg hb, htake]; rfl⟩

theorem takeFirst?_of_findIdx?_none {bs : List Block}
    (h : (bs.findIdx? fun b => b.id = id) = none) : takeFirst? id bs = none := by
  rw [takeFirst?_eq_none_iff]
  simpa [List.findIdx?_eq_none_iff] using h

mutual
theorem takeDescendant?_eq_none_iff : ∀ {b : Block},
    b.takeDescendant? id = none ↔ id ∉ idsIn b.children
  | ⟨i, o, p, cs⟩ => by
    rw [mem_idsIn_iff, ← not_iff_not, not_not, takeDescendant?]
    cases hfirst : takeFirst? id cs with
    | some r =>
      have hmem : id ∈ cs.map Block.id := by
        by_contra hnot
        rw [takeFirst?_eq_none_iff.2 hnot] at hfirst
        cases hfirst
      exact iff_of_true nofun (.inl hmem)
    | none =>
      have hnot := takeFirst?_eq_none_iff.1 hfirst
      rw [or_iff_right hnot, Option.map_eq_none_iff, takeInside?_eq_none_iff]
      simp

theorem takeInside?_eq_none_iff : ∀ {bs : List Block},
    takeInside? id bs = none ↔ ∀ b ∈ bs, id ∉ idsIn b.children
  | [] => by simp [takeInside?]
  | b :: bs => by
    rw [takeInside?, List.forall_mem_cons, ← takeDescendant?_eq_none_iff,
      ← takeInside?_eq_none_iff]
    cases b.takeDescendant? id <;> simp
end

mutual
/-- Taking in place writes back every tree that gives nothing as it was. -/
theorem takeInPlace_eq (id : BlockId) : ∀ b : Block, b.takeInPlace id =
    ((b.takeDescendant? id).map Prod.fst, ((b.takeDescendant? id).map Prod.snd).getD b)
  | ⟨i, o, p, cs⟩ => by
    rw [takeInPlace, takeDescendant?]
    cases hplace : cs.findIdx? fun c => c.id = id with
    | some k =>
      obtain ⟨x, hx, htake⟩ := takeFirst?_of_findIdx? hplace
      simp only [hx, htake, Option.map_some, Option.getD_some]
    | none =>
      simp only [takeFirst?_of_findIdx?_none hplace, takeInPlaceIn_eq id cs]
      cases takeInside? id cs <;> rfl

theorem takeInPlaceIn_eq (id : BlockId) : ∀ bs : List Block, takeInPlaceIn id bs =
    ((takeInside? id bs).map Prod.fst, ((takeInside? id bs).map Prod.snd).getD bs)
  | [] => by simp [takeInPlaceIn, takeInside?]
  | b :: bs => by
    rw [takeInPlaceIn, takeInside?, takeInPlace_eq id b]
    cases b.takeDescendant? id with
    | some r => rfl
    | none =>
      simp only [Option.map_none, Option.getD_none, takeInPlaceIn_eq id bs]
      cases takeInside? id bs <;> rfl
end

end Search

/-- What is cut out of the children of a tree that keeps its root is taken. -/
theorem taken_of_takeDescendant? {id : BlockId} {b x b' : Block}
    (h : b.takeDescendant? id = some (x, b')) : Taken id b x b' := by
  obtain ⟨hcut, hid⟩ := cut_of_takeDescendant? h
  have hsize := hcut.sizeIn_eq
  obtain ⟨i, o, p, cs⟩ := b
  rw [takeDescendant?] at h
  have hinside {cs' : List Block} (hcs : Cut x cs cs') : x ∈ nodesIn cs :=
    hcs.nodes_subset x.self_mem_nodes
  have hsum : (Block.mk i o p cs).size = b'.size + x.size := by
    simp only [sizeIn] at hsize
    omega
  split at h
  · next y rest hfirst =>
    cases h
    have hcs := (cut_of_takeFirst? hfirst).1
    exact ⟨hid, hinside hcs, ⟨rfl, rfl, rfl⟩, hcs, hsum⟩
  · obtain ⟨⟨y, rest⟩, hin, he⟩ := Option.map_eq_some_iff.1 h
    cases he
    have hcs := (cut_of_takeInside? hin).1
    exact ⟨hid, hinside hcs, ⟨rfl, rfl, rfl⟩, hcs, hsum⟩

theorem findIn?_singleton (i : BlockId) (b : Block) : findIn? i [b] = b.find? i := by
  rw [findIn?, findIn?, Option.or_none]

theorem idsIn_singleton (b : Block) : idsIn [b] = b.ids := by
  rw [idsIn, idsIn, List.append_nil]

theorem make_eq_of_face {x y : Block} {id : BlockId}
    (h : y.face = x.face.without id) : y.make = x.make :=
  Prod.ext (congrArg Face.opcode h) (congrArg Face.params h)

section Distinct
variable {id : BlockId} {b x b' : Block}

/-- Searches before and after a block was taken, if identities are distinct. -/
theorem find?_of_takeDescendant? (hnodup : b.ids.Nodup) (h : b.takeDescendant? id = some (x, b')) :
    b.find? id = some x ∧ b'.find? id = none ∧
      ∀ i ∉ x.ids, (b'.find? i).map make = (b.find? i).map make := by
  obtain ⟨hcut, rfl⟩ := cut_of_takeDescendant? h
  rw [← idsIn_singleton] at hnodup
  simp only [← findIn?_singleton]
  refine ⟨hcut.findIn?_eq hnodup,
    findIn?_eq_none_iff.2 (hcut.not_mem_rest hnodup x.id_mem_ids), fun i hi => ?_⟩
  have hface := hcut.map_face_findIn? hnodup hi
  cases hbefore : findIn? i [b] with
  | none =>
    rw [hbefore, Option.map_none, Option.map_none, Option.map_eq_none_iff] at hface
    rw [hface]
  | some y =>
    rw [hbefore, Option.map_some, Option.map_some, Option.map_eq_some_iff] at hface
    obtain ⟨z, hz, hface⟩ := hface
    rw [hz, Option.map_some, Option.map_some, make_eq_of_face hface]

/-- If nothing was taken, no search but that for the root would have found anything. -/
theorem find?_of_takeDescendant?_none (hroot : b.id ≠ id) (h : b.takeDescendant? id = none) :
    b.find? id = none := by
  obtain ⟨i, o, p, cs⟩ := b
  rw [find?_eq_none_iff, ids, List.mem_cons, not_or]
  exact ⟨Ne.symm hroot, takeDescendant?_eq_none_iff.1 h⟩

end Distinct

/-- A block is taken out of a tree, in place or not, exactly if a block inside
has the identity; then one subtree goes, else the tree stays as it was. If
identities are distinct, the block is the one that a search finds, and every
search for a block outside of it finds what it found before. -/
theorem takeDescendant_exact (b : Block) (id : BlockId) :
    ∃ taken left, b.takeInPlace id = (taken, left) ∧
      b.takeDescendant? id = taken.map (fun x => (x, left)) ∧
      (taken.isSome ↔ id ∈ idsIn b.children) ∧
      (∀ x, taken = some x → Taken id b x left) ∧
      (taken = none → left = b) ∧
      (b.ids.Nodup → b.id ≠ id →
        taken = b.find? id ∧ left.find? id = none ∧
          ∀ i, (∀ x, taken = some x → i ∉ x.ids) →
            (left.find? i).map make = (b.find? i).map make) := by
  refine ⟨_, _, takeInPlace_eq id b, ?_⟩
  cases htake : b.takeDescendant? id with
  | none =>
    have hnot := takeDescendant?_eq_none_iff.1 htake
    refine ⟨rfl, iff_of_false Bool.false_ne_true hnot, nofun, fun _ => rfl, fun _ hroot => ?_⟩
    have hnone := find?_of_takeDescendant?_none hroot htake
    exact ⟨hnone.symm, hnone, fun _ _ => rfl⟩
  | some r =>
    obtain ⟨x, left⟩ := r
    have hmem : id ∈ idsIn b.children := by
      by_contra hnot
      rw [takeDescendant?_eq_none_iff.2 hnot] at htake
      cases htake
    refine ⟨rfl, iff_of_true rfl hmem, ?_, nofun, fun hnodup _ => ?_⟩
    · rintro y ⟨⟩
      exact taken_of_takeDescendant? htake
    · obtain ⟨hfind, hgone, hothers⟩ := find?_of_takeDescendant? hnodup htake
      exact ⟨hfind.symm, hgone, fun i hi => hothers i (hi x rfl)⟩

/-- A branch is taken out of a loop with what is inside of it. -/
theorem takeDescendant_exact_branch :
    let b : Block := ⟨⟨1⟩, .repeatTimes, ∅, [leaf ⟨2⟩ .move, ⟨⟨3⟩, .ifThen, ∅, [leaf ⟨4⟩ .wait]⟩]⟩
    b.ids.Nodup ∧ b.id ≠ ⟨3⟩ ∧ ∃ x left, b.takeDescendant? ⟨3⟩ = some (x, left) ∧
      Taken ⟨3⟩ b x left ∧ b.find? ⟨3⟩ = some x ∧ left.find? ⟨3⟩ = none ∧
      (left.find? ⟨2⟩).map make = (b.find? ⟨2⟩).map make := by
  intro b
  have hnodup : b.ids.Nodup := by decide
  have hroot : b.id ≠ ⟨3⟩ := by decide
  obtain ⟨taken, left, -, htake, hsome, htaken, -, hfind⟩ := takeDescendant_exact b ⟨3⟩
  obtain ⟨hbefore, hafter, hothers⟩ := hfind hnodup hroot
  obtain ⟨x, rfl⟩ := Option.isSome_iff_exists.1 (hsome.2 (by decide))
  refine ⟨hnodup, hroot, x, left, htake, htaken x rfl, hbefore.symm, hafter, hothers ⟨2⟩ ?_⟩
  rintro y ⟨⟩
  obtain rfl : (⟨⟨3⟩, .ifThen, ∅, [leaf ⟨4⟩ .wait]⟩ : Block) = x := Option.some.inj hbefore.symm
  decide

/-- With an identity twice, the child of the root goes and a search finds the deeper block. -/
example :
    let b : Block := ⟨⟨1⟩, .forever, ∅, [⟨⟨2⟩, .ifThen, ∅, [leaf ⟨3⟩ .move]⟩, leaf ⟨3⟩ .wait]⟩
    (b.takeInPlace ⟨3⟩).1.map Block.opcode = some .wait ∧
      (b.find? ⟨3⟩).map Block.opcode = some .move := by
  decide

end SpriteBlocks.Block
