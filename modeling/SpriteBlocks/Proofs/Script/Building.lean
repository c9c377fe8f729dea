import SpriteBlocks.Proofs.Script.Entries
import SpriteBlocks.Proofs.Workspace.Grafts

/-!
# Building the blocks of a script

An entry is checked before its block is put: what it is warned of and what it is
blamed for is noted and stops nothing. Putting the block grafts the tree that the
entry describes, whatever mistakes were found: its root is put first and the
trees inside it afterwards. The container that a block goes into was put just
before and can be found, so the workspace refuses none of them.
-/
namespace SpriteBlocks

/-- A text that chooses something else than it says chooses `always`. -/
theorem Condition.choice_ofChoice_ne_iff (s : String) :
    Text.trim s ≠ (ofChoice s).choice ↔ ofChoice s = .always ∧ Text.trim s ≠ "always" := by
  constructor
  · intro hne
    have halways : ofChoice s = .always := by
      unfold ofChoice at hne ⊢
      cases hfind : menu.find? fun c => c.choice = Text.trim s with
      | none => rfl
      | some c =>
        rw [hfind] at hne
        have hchoice := List.find?_some hfind
        exact absurd (of_decide_eq_true hchoice).symm hne
    exact ⟨halways, by rwa [halways] at hne⟩
  · rintro ⟨halways, hne⟩
    rwa [halways]

/-- The workspace takes that many more blocks at the place. -/
structure Workspace.Ready (ws : Workspace) (parent : Option BlockId) (count : Nat) : Prop where
  sound : ws.Sound
  open_ : ws.Open parent
  room : ws.lastId.raw.toNat + count < UInt32.size

namespace Workspace.Ready
variable {ws : Workspace} {parent : Option BlockId} {n k : Nat}

theorem mono (h : ws.Ready parent n) (hle : k ≤ n) : ws.Ready parent k :=
  ⟨h.sound, h.open_, Nat.lt_of_le_of_lt (Nat.add_le_add_left hle _) h.room⟩

/-- After a graft there is room for what is left. -/
theorem graft {trees : List Block} (h : ws.Ready parent n) (hsize : Block.sizeIn trees + k ≤ n)
    (hsound : (ws.graft parent trees).Sound) : (ws.graft parent trees).Ready parent k := by
  have hroom := h.room
  refine ⟨hsound, h.open_.graft hsound, ?_⟩
  rw [lastId_graft, BlockId.toNat_after (by omega)]
  omega

/-- After the graft of a container there is room inside it. -/
theorem root {opcode : Opcode} {params : Parameters} (h : ws.Ready parent (n + 1))
    (hcontainer : opcode.isContainer = true) :
    (ws.graft parent [Block.leaf ⟨0⟩ opcode params]).Ready (some ws.lastId.next) n := by
  have hroom := h.room
  have hsound := h.sound.graft_leaf h.open_ (by omega) opcode params
  have hsize : Block.sizeIn [Block.leaf ⟨0⟩ opcode params] = 1 := rfl
  refine ⟨hsound, h.open_.root hcontainer hsound, ?_⟩
  rw [lastId_graft, hsize, BlockId.toNat_after (by omega)]
  omega

end Workspace.Ready

namespace Script

/-- What the loader warns of when it reads a slot: a number is fine, so is a text
unless it should choose a condition and chooses none, and nothing else fits. -/
def slotWarning (slot : String × Toml.Located Toml.Node) : Option Finding :=
  match slot.2.value with
  | .integer _ _ | .float _ _ => none
  | .string _ s =>
    if slot.1 = "condition" ∧ Text.trim s ≠ (Condition.ofChoice s).choice then
      some { problem := .unknownCondition s, span := slot.2.span }
    else none
  | other => some { problem := .unusableParameter slot.1 other, span := slot.2.span }

def BlockEntry.tagWarning (e : BlockEntry) : Option Finding :=
  match e.kind with
  | .unknown tag => some { problem := .unknownOpcode tag, span := e.opcode.span }
  | _ => none

/-- What the loader warns of when it reads an entry: its tag first, then its
slots in the order of their names. -/
def BlockEntry.warnings (e : BlockEntry) : List Finding :=
  e.tagWarning.toList ++ e.params.entries.filterMap slotWarning

/-- What an entry is blamed for if it has entries inside although it may not. -/
def BlockEntry.misplaced (e : BlockEntry) : List Finding :=
  if !e.children.isEmpty && !e.kind.isContainer then
    [{ problem := .cannotContain e.kind, span := e.opcode.span }]
  else []

def BlockEntry.root (e : BlockEntry) : Block :=
  Block.leaf ⟨0⟩ e.kind (SortedMap.ofList (slotValues e.params.entries))

namespace BlockEntry
variable {e : BlockEntry}

theorem length_nodes (e : BlockEntry) : e.nodes.length = (nodesIn e.children).length + 1 := by
  cases e
  rw [nodes, List.length_cons]

theorem outline_of_container (h : e.kind.isContainer = true) :
    e.outline Opcode.isContainer =
      ⟨⟨0⟩, e.kind, e.root.params, outlineIn Opcode.isContainer e.children⟩ := by
  cases e
  rw [outline]
  exact congrArg _ (if_pos h)

theorem outline_of_not_container (h : ¬ e.kind.isContainer = true) :
    e.outline Opcode.isContainer = e.root := by
  cases e
  rw [outline]
  exact congrArg _ (if_neg h)

end BlockEntry

namespace Assembly
open BlockEntry

def prepare (a : Assembly) (e : BlockEntry) : Parameters × Assembly :=
  addSlots e.params.entries ∅ (a.checkOpcode e.kind e.opcode.span !e.children.isEmpty)

def placeEntry (a : Assembly) (parent : Option BlockId) (e : BlockEntry) :
    Assembly × Except WorkspaceError BlockId :=
  (a.prepare e).2.place parent e.kind (a.prepare e).1

def nameEntry (a : Assembly) (e : BlockEntry) (id : BlockId) : Assembly :=
  match e.label with
  | some label => a.addLabel label id
  | none => a

theorem addBlock_eq (parent : Option BlockId) (e : BlockEntry) (a : Assembly) :
    addBlock parent e a = match a.placeEntry parent e with
      | (a', .error error) => a'.fail { problem := .refused error, span := e.opcode.span }
      | (a', .ok id) =>
        if e.kind.isContainer then addBlocks (some id) e.children (a'.nameEntry e id)
        else a'.nameEntry e id := by
  cases e
  rw [addBlock]
  rfl

/-- The assembly after the checks on an entry: what it is warned of and blamed for is noted. -/
def checked (a : Assembly) (e : BlockEntry) : Assembly :=
  { a with warnings := a.warnings ++ e.warnings, errors := a.errors ++ e.misplaced }

theorem slotWarning_eq (slot : String × Toml.Located Toml.Node) : slotWarning slot =
    (slotValue slot.1 slot.2.value).2.map fun p => { problem := p, span := slot.2.span } := by
  obtain ⟨name, ⟨node, span⟩⟩ := slot
  cases node with
  | string _ s =>
    by_cases hname : name = "condition"
    · simp only [slotWarning, slotValue, hname, true_and, if_true, Condition.choice_ofChoice_ne_iff]
      split <;> rfl
    · simp [slotWarning, slotValue, hname]
  | _ => rfl

theorem addSlots_warned (slots : List (String × Toml.Located Toml.Node)) (params : Parameters)
    (a : Assembly) : addSlots slots params a =
      ((slotValues slots).foldl (fun m s => m.insert s.1 s.2) params,
        { a with warnings := a.warnings ++ slots.filterMap slotWarning }) := by
  induction slots generalizing params a with
  | nil => simp [addSlots, slotValues]
  | cons slot rest ih =>
    obtain ⟨name, node⟩ := slot
    simp only [addSlots, ih, List.filterMap_cons, slotWarning_eq, slotValues]
    refine Prod.ext ?_ ?_
    · cases (slotValue name node.value).1 <;> rfl
    · cases (slotValue name node.value).2 <;> simp [warn]

theorem checkOpcode_checked (a : Assembly) (e : BlockEntry) :
    a.checkOpcode e.kind e.opcode.span (!e.children.isEmpty) =
      { a with
        warnings := a.warnings ++ e.tagWarning.toList
        errors := a.errors ++ e.misplaced } := by
  by_cases hblamed : (!e.children.isEmpty && !e.kind.isContainer) = true
  · simp only [checkOpcode, misplaced, hblamed, if_true, tagWarning]
    cases e.kind <;> simp [warn, fail]
  · simp only [checkOpcode, misplaced, hblamed, tagWarning]
    cases e.kind <;> simp [warn]

theorem prepare_checked (a : Assembly) (e : BlockEntry) :
    a.prepare e = (e.root.params, a.checked e) := by
  rw [prepare, checkOpcode_checked, addSlots_warned, checked, warnings, List.append_assoc]
  rfl

section Parts
variable {a : Assembly}

theorem placeEntry_of_open {parent : Option BlockId} (h : a.workspace.Open parent)
    (e : BlockEntry) : ∃ notes, a.placeEntry parent e =
      ({ a.checked e with workspace := a.workspace.graft parent [e.root], notes },
        .ok a.workspace.lastId.next) := by
  rw [placeEntry, prepare_checked]
  cases parent with
  | none => exact ⟨_, rfl⟩
  | some c =>
    obtain ⟨x, hx⟩ := h c rfl
    have hgraft : (a.checked e).workspace.addChild c e.kind e.root.params =
        (a.workspace.graft (some c) [e.root], .ok a.workspace.lastId.next) :=
      Workspace.addChild_eq_graft hx _ _
    exact ⟨_, by rw [place, hgraft]⟩

/-- The second assembly is the first with the block of the entry put. -/
structure Placed (a : Assembly) (parent : Option BlockId) (e : BlockEntry) (a₁ : Assembly) :
    Prop where
  eq : a.placeEntry parent e = (a₁, .ok a.workspace.lastId.next)
  workspace : a₁.workspace = a.workspace.graft parent [e.root]
  labels : a₁.labels = a.labels
  errors : a₁.errors = a.errors ++ e.misplaced

theorem exists_placed {parent : Option BlockId} (h : a.workspace.Open parent) (e : BlockEntry) :
    ∃ a₁, Placed a parent e a₁ := by
  obtain ⟨notes, heq⟩ := placeEntry_of_open h e
  exact ⟨_, heq, rfl, rfl, rfl⟩

@[simp] theorem workspace_nameEntry (e : BlockEntry) (id : BlockId) :
    (a.nameEntry e id).workspace = a.workspace := by
  rw [nameEntry]
  split
  · rw [addLabel]
    split <;> rfl
  · rfl

end Parts

section Ready
variable {a a₁ : Assembly} {parent : Option BlockId} {e : BlockEntry}

theorem Placed.addBlock_eq (h : Placed a parent e a₁) : addBlock parent e a =
    if e.kind.isContainer then
      addBlocks (some a.workspace.lastId.next) e.children (a₁.nameEntry e a.workspace.lastId.next)
    else a₁.nameEntry e a.workspace.lastId.next := by
  rw [Assembly.addBlock_eq, h.eq]

theorem Placed.workspace_named (h : Placed a parent e a₁) (id : BlockId) :
    (a₁.nameEntry e id).workspace = a.workspace.graft parent [e.root] := by
  rw [workspace_nameEntry, h.workspace]

theorem Placed.ready_inside (h : Placed a parent e a₁)
    (hready : a.workspace.Ready parent e.nodes.length) (hc : e.kind.isContainer = true) :
    (a₁.nameEntry e a.workspace.lastId.next).workspace.Ready
      (some a.workspace.lastId.next) (nodesIn e.children).length := by
  rw [h.workspace_named]
  rw [length_nodes] at hready
  exact hready.root hc

theorem ready_behind {ws ws' : Workspace} {es : List BlockEntry}
    (h : ws.Ready parent (nodesIn (e :: es)).length)
    (heq : ws' = ws.graft parent [e.outline Opcode.isContainer]) (hsound : ws'.Sound) :
    ws'.Ready parent (nodesIn es).length := by
  have hsize : Block.sizeIn [e.outline Opcode.isContainer] ≤ e.nodes.length :=
    size_outline_le Opcode.isContainer e
  rw [nodesIn, List.length_append] at h
  subst heq
  exact h.graft (Nat.add_le_add_right hsize _) hsound

theorem ready_first {ws : Workspace} {es : List BlockEntry}
    (h : ws.Ready parent (nodesIn (e :: es)).length) : ws.Ready parent e.nodes.length := by
  rw [nodesIn, List.length_append] at h
  exact h.mono (Nat.le_add_right _ _)

end Ready

mutual
/-- Putting a block grafts the tree that its entry describes, whatever mistakes are found. -/
theorem addBlock_grafts : ∀ (e : BlockEntry) {parent : Option BlockId} {a : Assembly},
    a.workspace.Ready parent e.nodes.length →
    (addBlock parent e a).workspace = a.workspace.graft parent [e.outline Opcode.isContainer] ∧
      (addBlock parent e a).workspace.Sound
  | ⟨label, tag, slots, children⟩, parent, a, h => by
    obtain ⟨a₁, hplaced⟩ := exists_placed h.open_ ⟨label, tag, slots, children⟩
    have hroom := h.room
    rw [length_nodes] at hroom
    rw [hplaced.addBlock_eq]
    by_cases hc : (BlockEntry.mk label tag slots children).kind.isContainer = true
    · have hinside := addBlocks_grafts children (hplaced.ready_inside h hc)
      rw [if_pos hc, outline_of_container hc,
        ← Workspace.graft_inside h.open_ (h.sound.next_fresh (by omega))]
      rwa [hplaced.workspace_named] at hinside
    · rw [if_neg hc, outline_of_not_container hc, hplaced.workspace_named]
      exact ⟨rfl, h.sound.graft_leaf h.open_ (by omega) _ _⟩

theorem addBlocks_grafts : ∀ (es : List BlockEntry) {parent : Option BlockId} {a : Assembly},
    a.workspace.Ready parent (nodesIn es).length →
    (addBlocks parent es a).workspace =
        a.workspace.graft parent (outlineIn Opcode.isContainer es) ∧
      (addBlocks parent es a).workspace.Sound
  | [], parent, a, h => by
    rw [addBlocks, outlineIn, Workspace.graft_nil]
    exact ⟨rfl, h.sound⟩
  | e :: es, parent, a, h => by
    obtain ⟨hfirst, hsound⟩ := addBlock_grafts e (ready_first h)
    obtain ⟨hall, hsound'⟩ := addBlocks_grafts es (ready_behind h hfirst hsound)
    rw [addBlocks]
    refine ⟨?_, hsound'⟩
    rw [hall, hfirst, Workspace.graft_cons h.open_, outlineIn]
end

theorem ready_rest {parent : Option BlockId} {e : BlockEntry} {es : List BlockEntry} {a : Assembly}
    (h : a.workspace.Ready parent (nodesIn (e :: es)).length) :
    (addBlock parent e a).workspace.Ready parent (nodesIn es).length := by
  obtain ⟨hfirst, hsound⟩ := addBlock_grafts e (ready_first h)
  exact ready_behind h hfirst hsound

/-- Some findings are added to the errors, and none of them is that the
workspace refuses a block. -/
def Blames (a a' : Assembly) : Prop :=
  ∃ found, a'.errors = a.errors ++ found ∧ ∀ f ∈ found, ∀ error, f.problem ≠ .refused error

namespace Blames
variable {a a' a'' : Assembly}

theorem of_eq (h : a'.errors = a.errors) : Blames a a' := ⟨[], by simp [h], by simp⟩

theorem single {f : Finding} (h : a'.errors = a.errors ++ [f])
    (hf : ∀ error, f.problem ≠ .refused error) : Blames a a' := ⟨[f], h, by simpa using hf⟩

theorem refl (a : Assembly) : Blames a a := of_eq rfl

theorem trans (h : Blames a a') (h' : Blames a' a'') : Blames a a'' := by
  obtain ⟨found, heq, hfound⟩ := h
  obtain ⟨found', heq', hfound'⟩ := h'
  exact ⟨found ++ found', by rw [heq', heq, List.append_assoc],
    List.forall_mem_append.2 ⟨hfound, hfound'⟩⟩

theorem clean (h : Blames a a') (hclean : a'.errors = []) : a.errors = [] := by
  obtain ⟨found, heq, -⟩ := h
  rw [heq, List.append_eq_nil_iff] at hclean
  exact hclean.1

theorem placed {parent : Option BlockId} {e : BlockEntry} (h : Placed a parent e a') :
    Blames a a' := by
  have herrors := h.errors
  rw [misplaced] at herrors
  split at herrors
  · exact .single herrors (by simp)
  · exact .of_eq (herrors.trans (List.append_nil _))

theorem named (a : Assembly) (e : BlockEntry) (id : BlockId) : Blames a (a.nameEntry e id) := by
  rw [nameEntry]
  split
  · rw [addLabel]
    split
    · exact .single rfl (by simp)
    · exact .of_eq rfl
  · exact .refl a

theorem root {parent : Option BlockId} {e : BlockEntry} (h : Placed a parent e a') (id : BlockId) :
    Blames a (a'.nameEntry e id) := (placed h).trans (named a' e id)

end Blames

mutual
theorem addBlock_blames : ∀ (e : BlockEntry) {parent : Option BlockId} {a : Assembly},
    a.workspace.Ready parent e.nodes.length → Blames a (addBlock parent e a)
  | ⟨label, tag, slots, children⟩, parent, a, h => by
    obtain ⟨a₁, hplaced⟩ := exists_placed h.open_ ⟨label, tag, slots, children⟩
    have hroot := Blames.root hplaced a.workspace.lastId.next
    rw [hplaced.addBlock_eq]
    by_cases hc : (BlockEntry.mk label tag slots children).kind.isContainer = true
    · rw [if_pos hc]
      exact hroot.trans (addBlocks_blames children (hplaced.ready_inside h hc))
    · rw [if_neg hc]
      exact hroot

theorem addBlocks_blames : ∀ (es : List BlockEntry) {parent : Option BlockId} {a : Assembly},
    a.workspace.Ready parent (nodesIn es).length → Blames a (addBlocks parent es a)
  | [], _, a, _ => .refl a
  | e :: es, _, _, h =>
    (addBlock_blames e (ready_first h)).trans (addBlocks_blames es (ready_rest h))
end

/-- Putting the entries of a list comes to the call that puts an entry at a
place, with the assembly as it is then. -/
inductive Calls : Option BlockId → List BlockEntry → Assembly →
    Option BlockId → BlockEntry → Assembly → Prop
  | here (parent : Option BlockId) (e : BlockEntry) (es : List BlockEntry) (a : Assembly) :
    Calls parent (e :: es) a parent e a
  | inside {parent place : Option BlockId} {e f : BlockEntry} {es : List BlockEntry}
    {a a₁ b : Assembly} {id : BlockId} (hplace : a.placeEntry parent e = (a₁, .ok id))
    (hc : e.kind.isContainer = true)
    (h : Calls (some id) e.children (a₁.nameEntry e id) place f b) :
    Calls parent (e :: es) a place f b
  | behind {parent place : Option BlockId} {e f : BlockEntry} {es : List BlockEntry}
    {a b : Assembly} (h : Calls parent es (addBlock parent e a) place f b) :
    Calls parent (e :: es) a place f b

/-- Every call finds its place open. -/
theorem Calls.ready {parent place : Option BlockId} {es : List BlockEntry} {f : BlockEntry}
    {a b : Assembly} (h : Calls parent es a place f b)
    (hready : a.workspace.Ready parent (nodesIn es).length) :
    b.workspace.Ready place f.nodes.length := by
  induction h with
  | here parent e es a => exact ready_first hready
  | inside hplace hc _ ih =>
    obtain ⟨a₂, hplaced⟩ := exists_placed hready.open_ _
    cases hplace.symm.trans hplaced.eq
    exact ih (hplaced.ready_inside (ready_first hready) hc)
  | behind _ ih => exact ih (ready_rest hready)

end Assembly
end Script
end SpriteBlocks
