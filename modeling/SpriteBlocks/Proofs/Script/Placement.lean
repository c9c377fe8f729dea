import SpriteBlocks.Proofs.Script.Faithful

/-!
# Which entries are put

The loader visits the entries of a file in order, each before those inside it,
and the block of every entry is put at a place or refused by the workspace. What
stands inside a block that is no container is not visited. So blocks, labels and
warnings are those of the entries that were put, however many there are and
whatever mistakes were found: each such law is one induction on the list of them.
-/
namespace SpriteBlocks.Script
open Toml BlockEntry

namespace BlockEntry

mutual
def kept : BlockEntry → List BlockEntry
  | ⟨label, tag, slots, children⟩ =>
    ⟨label, tag, slots, children⟩ ::
      if (Opcode.ofTag tag.value).isContainer then keptIn children else []

def keptIn : List BlockEntry → List BlockEntry
  | [] => []
  | e :: es => e.kept ++ keptIn es
end

theorem kept_of_container {e : BlockEntry} (h : e.kind.isContainer = true) :
    e.kept = e :: keptIn e.children := by
  cases e
  rw [kept]
  exact congrArg _ (if_pos h)

theorem kept_of_not_container {e : BlockEntry} (h : ¬ e.kind.isContainer = true) :
    e.kept = [e] := by
  cases e
  rw [kept]
  exact congrArg _ (if_neg h)

mutual
/-- Every entry is visited if of those that are, only containers have entries inside. -/
theorem kept_contained : ∀ {e : BlockEntry}, (∀ x ∈ e.kept, x.Contained) → e.kept = e.nodes
  | ⟨label, tag, slots, children⟩, h => by
    rw [kept, List.forall_mem_cons] at h
    rw [kept, nodes]
    by_cases hc : (Opcode.ofTag tag.value).isContainer = true
    · rw [if_pos hc] at h ⊢
      rw [keptIn_contained h.2]
    · have hnone : children = [] := not_not.1 fun hne => hc (h.1 hne)
      rw [if_neg hc, hnone, nodesIn]

theorem keptIn_contained : ∀ {es : List BlockEntry}, (∀ x ∈ keptIn es, x.Contained) →
    keptIn es = nodesIn es
  | [], _ => rfl
  | e :: es, h => by
    rw [keptIn, List.forall_mem_append] at h
    rw [keptIn, nodesIn, kept_contained h.1, keptIn_contained h.2]
end

mutual
theorem kept_sublist : ∀ e : BlockEntry, e.kept.Sublist e.nodes
  | ⟨label, tag, slots, children⟩ => by
    rw [kept, nodes]
    split
    · exact (keptIn_sublist children).cons_cons _
    · exact (List.nil_sublist _).cons_cons _

theorem keptIn_sublist : ∀ es : List BlockEntry, (keptIn es).Sublist (nodesIn es)
  | [] => .slnil
  | e :: es => (kept_sublist e).append (keptIn_sublist es)
end

end BlockEntry

def Problem.isMissing : Problem → Bool
  | noSuchLabel _ => true
  | _ => false

namespace Assembly

section Parts
variable {a a₁ : Assembly} {parent : Option BlockId} {e : BlockEntry} {id : BlockId}

theorem placeEntry_eq_ok (h : a.placeEntry parent e = (a₁, .ok id)) :
    a.workspace.Open parent ∧ id = a.workspace.lastId.next ∧ ∃ notes,
      a₁ = { a.checked e with workspace := a.workspace.graft parent [e.root], notes } := by
  have hopen : a.workspace.Open parent := by
    cases parent with
    | none => exact a.workspace.open_top
    | some c =>
      cases hc : a.workspace.container c with
      | error error =>
        have hworkspace : (a.checked e).workspace = a.workspace := rfl
        rw [placeEntry, prepare_checked] at h
        simp [place, Workspace.addChild, hworkspace, hc] at h
      | ok x => exact Workspace.open_of_container hc
  obtain ⟨notes, heq⟩ := placeEntry_of_open hopen e
  cases h.symm.trans heq
  exact ⟨hopen, rfl, notes, rfl⟩

theorem placeEntry_eq_error {error : WorkspaceError}
    (h : a.placeEntry parent e = (a₁, .error error)) : a₁ = a.checked e := by
  rw [placeEntry, prepare_checked] at h
  cases parent with
  | none => cases h
  | some c =>
    have hresult : ((a.checked e).workspace.addChild c e.kind e.root.params).2 = .error error :=
      congrArg Prod.snd h
    have hassembly := congrArg Prod.fst h
    simp only [place, Workspace.addChild_of_error hresult] at hassembly
    exact hassembly.symm

@[simp] theorem warnings_nameEntry (a : Assembly) (e : BlockEntry) (id : BlockId) :
    (a.nameEntry e id).warnings = a.warnings := by
  rw [nameEntry]
  split
  · rw [addLabel]
    split <;> rfl
  · rfl

/-- An entry is blamed for its label only if it is not the first to have it. -/
theorem errors_nameEntry (a : Assembly) (e : BlockEntry) (id : BlockId) :
    ∃ found, (a.nameEntry e id).errors = a.errors ++ found ∧
      ∀ g ∈ found, g.problem.isMissing = false := by
  rw [nameEntry]
  split
  · rw [addLabel]
    split
    · exact ⟨_, rfl, by simp [Problem.isMissing]⟩
    · exact ⟨[], by simp, by simp⟩
  · exact ⟨[], by simp, by simp⟩

/-- The label of an entry is known afterwards, whether or not another has it as well. -/
theorem contains_nameEntry (a : Assembly) (e : BlockEntry) (id : BlockId) (name : String) :
    (a.nameEntry e id).labels.contains name = true ↔
      a.labels.contains name = true ∨ e.label.map Located.value = some name := by
  rw [nameEntry]
  cases hlabel : e.label with
  | none => simp
  | some label =>
    simp only [addLabel, SortedMap.contains, Option.map_some, Option.some.injEq]
    cases hfirst : a.labels.get? label.value with
    | some first =>
      refine ⟨Or.inl, fun h => h.elim (fun hold => hold) ?_⟩
      rintro rfl
      simp [fail, hfirst]
    | none =>
      by_cases hname : label.value = name
      · simp [hname]
      · simp [hname, Ne.symm hname]

end Parts

/-- The blocks of these entries are put one after the other, each at some place,
and in between the workspace may refuse others. -/
inductive Puts : Assembly → List BlockEntry → Assembly → Prop
  | refl (a : Assembly) : Puts a [] a
  | put {a a₁ a' : Assembly} {parent : Option BlockId} {e : BlockEntry} {id : BlockId}
    {es : List BlockEntry} (hplace : a.placeEntry parent e = (a₁, .ok id))
    (h : Puts (a₁.nameEntry e id) es a') : Puts a (e :: es) a'
  | refuse {a a₁ a' : Assembly} {parent : Option BlockId} {e : BlockEntry}
    {error : WorkspaceError} {es : List BlockEntry}
    (hplace : a.placeEntry parent e = (a₁, .error error))
    (h : Puts (a₁.fail { problem := .refused error, span := e.opcode.span }) es a') : Puts a es a'

namespace Puts
variable {a a' a'' : Assembly} {put put' : List BlockEntry}

theorem trans (h : Puts a put a') (h' : Puts a' put' a'') : Puts a (put ++ put') a'' := by
  induction h with
  | refl a => exact h'
  | put hplace _ ih => exact .put hplace (ih h')
  | refuse hplace _ ih => exact .refuse hplace (ih h')

/-- Errors are only added, and none of them is about a connection. -/
theorem errors (h : Puts a put a') :
    ∃ found, a'.errors = a.errors ++ found ∧ ∀ g ∈ found, g.problem.isMissing = false := by
  have hmisplaced (e : BlockEntry) : ∀ g ∈ e.misplaced, g.problem.isMissing = false := by
    unfold misplaced
    split <;> simp [Problem.isMissing]
  induction h with
  | refl a => exact ⟨[], by simp, by simp⟩
  | @put a a₁ _ _ e id _ hplace _ ih =>
    obtain ⟨-, rfl, notes, rfl⟩ := placeEntry_eq_ok hplace
    obtain ⟨found, heq, hfound⟩ := ih
    obtain ⟨named, hnamed, hnot⟩ := errors_nameEntry _ e a.workspace.lastId.next
    refine ⟨e.misplaced ++ (named ++ found), ?_, ?_⟩
    · rw [heq, hnamed, checked]
      simp
    · simp only [List.forall_mem_append]
      exact ⟨hmisplaced e, hnot, hfound⟩
  | @refuse a _ _ _ e error _ hplace _ ih =>
    obtain rfl := placeEntry_eq_error hplace
    obtain ⟨found, heq, hfound⟩ := ih
    refine ⟨e.misplaced ++ ({ problem := .refused error, span := e.opcode.span } :: found), ?_, ?_⟩
    · rw [heq, fail, checked]
      simp
    · simp only [List.forall_mem_append, List.forall_mem_cons]
      exact ⟨hmisplaced e, rfl, hfound⟩

theorem errors_prefix (h : Puts a put a') : a.errors <+: a'.errors := by
  obtain ⟨found, heq, -⟩ := h.errors
  exact heq ▸ List.prefix_append _ _

theorem clean (h : Puts a put a') (hclean : a'.errors = []) : a.errors = [] :=
  List.prefix_nil.1 (hclean ▸ h.errors_prefix)

/-- The connections of the workspace and what it told stay as they are. -/
theorem quiet (h : Puts a put a') : a'.workspace.registry = a.workspace.registry ∧
    a'.workspace.events = a.workspace.events := by
  induction h with
  | refl a => exact ⟨rfl, rfl⟩
  | put hplace _ ih =>
    obtain ⟨-, rfl, notes, rfl⟩ := placeEntry_eq_ok hplace
    rwa [workspace_nameEntry] at ih
  | refuse hplace _ ih =>
    obtain rfl := placeEntry_eq_error hplace
    exact ih

/-- The labels afterwards are those of the entries that were put. -/
theorem contains_labels (h : Puts a put a') (name : String) :
    a'.labels.contains name = true ↔ a.labels.contains name = true ∨
      ∃ e ∈ put, e.label.map Located.value = some name := by
  induction h with
  | refl a => simp
  | @put a a₁ _ _ e id _ hplace _ ih =>
    obtain ⟨-, rfl, notes, rfl⟩ := placeEntry_eq_ok hplace
    have hlabels : (a.checked e).labels = a.labels := rfl
    rw [ih, contains_nameEntry, hlabels, or_assoc]
    simp
  | refuse hplace _ ih =>
    obtain rfl := placeEntry_eq_error hplace
    exact ih

/-- Without errors every entry that was put may have those inside it. -/
theorem contained (h : Puts a put a') (hclean : a'.errors = []) : ∀ e ∈ put, e.Contained := by
  induction h with
  | refl a => simp
  | put hplace hrest ih =>
    have hnamed := hrest.clean hclean
    obtain ⟨-, rfl, notes, rfl⟩ := placeEntry_eq_ok hplace
    obtain ⟨found, heq, -⟩ := errors_nameEntry _ _ _
    rw [heq, checked, List.append_eq_nil_iff, List.append_eq_nil_iff] at hnamed
    exact List.forall_mem_cons.2 ⟨contained_of_misplaced hnamed.1.2, ih hclean⟩
  | refuse hplace _ ih => exact ih hclean

end Puts

def Accepted (a : Assembly) : Prop := ∀ g ∈ a.errors, ∀ error, g.problem ≠ .refused error

theorem Accepted.of_puts {a a' : Assembly} {put : List BlockEntry} (h : a'.Accepted)
    (hputs : Puts a put a') : a.Accepted :=
  fun g hg => h g (hputs.errors_prefix.subset hg)

mutual
/-- Putting a block comes to putting those of the entries that are visited, all
of them if the workspace refuses none. -/
theorem addBlock_puts : ∀ (e : BlockEntry) (parent : Option BlockId) (a : Assembly),
    ∃ put, Puts a put (addBlock parent e a) ∧ put.Sublist e.kept ∧
      ((addBlock parent e a).Accepted → put = e.kept)
  | ⟨label, tag, slots, children⟩, parent, a => by
    rw [addBlock_eq]
    rcases hplace : a.placeEntry parent ⟨label, tag, slots, children⟩ with ⟨a₁, error | id⟩
    · refine ⟨[], .refuse hplace (.refl _), List.nil_sublist _, fun haccepted => ?_⟩
      exact absurd rfl (haccepted _ (List.mem_append_right _ (List.mem_singleton_self _)) error)
    · by_cases hc : (BlockEntry.mk label tag slots children).kind.isContainer = true
      · obtain ⟨put, hputs, hsub, hall⟩ := addBlocks_puts children (some id)
          (a₁.nameEntry ⟨label, tag, slots, children⟩ id)
        simp only [if_pos hc, kept_of_container hc]
        exact ⟨_ :: put, .put hplace hputs, hsub.cons_cons _, fun h => by rw [hall h]⟩
      · simp only [if_neg hc, kept_of_not_container hc]
        exact ⟨_, .put hplace (.refl _), .refl _, fun _ => rfl⟩

theorem addBlocks_puts : ∀ (es : List BlockEntry) (parent : Option BlockId) (a : Assembly),
    ∃ put, Puts a put (addBlocks parent es a) ∧ put.Sublist (keptIn es) ∧
      ((addBlocks parent es a).Accepted → put = keptIn es)
  | [], parent, a => ⟨[], .refl a, .slnil, fun _ => rfl⟩
  | e :: es, parent, a => by
    obtain ⟨put, hputs, hsub, hall⟩ := addBlock_puts e parent a
    obtain ⟨put', hputs', hsub', hall'⟩ := addBlocks_puts es parent (addBlock parent e a)
    rw [addBlocks, keptIn]
    exact ⟨put ++ put', hputs.trans hputs', hsub.append hsub',
      fun h => by rw [hall (h.of_puts hputs'), hall' h]⟩
end

/-- Without errors every entry of the list is put. -/
theorem addBlocks_puts_nodes {es : List BlockEntry} {parent : Option BlockId} {a : Assembly}
    (hclean : (addBlocks parent es a).errors = []) :
    Puts a (nodesIn es) (addBlocks parent es a) := by
  obtain ⟨put, hputs, -, hall⟩ := addBlocks_puts es parent a
  obtain rfl := hall (by simp [Accepted, hclean])
  rwa [← keptIn_contained (hputs.contained hclean)]

/-- No block is refused as long as identities are left. -/
theorem accepted_addBlocks {es : List BlockEntry} {parent : Option BlockId} {a : Assembly}
    (ha : a.Accepted) (h : a.workspace.Ready parent (nodesIn es).length) :
    (addBlocks parent es a).Accepted := by
  obtain ⟨found, heq, hfound⟩ := addBlocks_blames es h
  rw [Accepted, heq, List.forall_mem_append]
  exact ⟨ha, hfound⟩

end Assembly
end SpriteBlocks.Script
