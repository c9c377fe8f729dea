import SpriteBlocks.Proofs.Script.Building
import SpriteBlocks.Proofs.Workspace.Conservation
import SpriteBlocks.Script.Load

/-!
# Faithful loading

A script that loads without errors holds what its file says: the blocks are
those of the entries at the same places, numbered in the order of the file, and
a label names the block of the entry that declares it. Entries are put before
connections are made, and connections leave blocks and labels alone.
-/
namespace SpriteBlocks.Script
open Toml BlockEntry

/-- An entry with the label stands where the block with the identity stands. -/
def Declares (es : List BlockEntry) (bs : List Block) (name : String) (x : Located BlockId) :
    Prop :=
  ∃ p ∈ (nodesIn es).zip (Block.nodesIn bs), p.1.label = some ⟨name, x.span⟩ ∧ p.2.id = x.value

section Declares
variable {e : BlockEntry} {es : List BlockEntry} {b : Block} {bs : List Block} {name : String}
  {x : Located BlockId}

theorem declares_cons (h : e.nodes.length = b.nodes.length) :
    Declares (e :: es) (b :: bs) name x ↔ Declares [e] [b] name x ∨ Declares es bs name x := by
  simp only [Declares, nodesIn, Block.nodesIn, List.append_nil, List.zip_append h, List.mem_append,
    or_and_right, exists_or]

theorem declares_single : Declares [e] [b] name x ↔
    e.label = some ⟨name, x.span⟩ ∧ b.id = x.value ∨ Declares e.children b.children name x := by
  obtain ⟨label, tag, slots, children⟩ := e
  obtain ⟨i, o, p, cs⟩ := b
  simp only [Declares, nodesIn, Block.nodesIn, nodes, Block.nodes, List.append_nil,
    List.zip_cons_cons, List.mem_cons, or_and_right, exists_or, exists_eq_left]

/-- No block has two labels if the blocks have distinct identities. -/
theorem Declares.unique {name' : String} {x' : Located BlockId} (hnodup : (Block.idsIn bs).Nodup)
    (hlength : (Block.nodesIn bs).length ≤ (nodesIn es).length)
    (h : Declares es bs name x) (h' : Declares es bs name' x') (hid : x.value = x'.value) :
    name = name' := by
  obtain ⟨p, hp, hlabel, hx⟩ := h
  obtain ⟨p', hp', hlabel', hx'⟩ := h'
  have hsnd := congrArg (List.map Block.id) (List.map_snd_zip hlength)
  rw [List.map_map, Block.map_id_nodesIn] at hsnd
  have hsame : p = p' := by
    rw [← hsnd] at hnodup
    exact List.inj_on_of_nodup_map hnodup hp hp' (hx.trans (hid.trans hx'.symm))
  rw [hsame, hlabel', Option.some.injEq] at hlabel
  exact (congrArg Located.value hlabel).symm

end Declares

namespace Assembly

theorem contained_of_misplaced {e : BlockEntry} (h : e.misplaced = []) : e.Contained := by
  intro hne
  rw [misplaced] at h
  split at h
  · cases h
  · next hnot => simpa [hne] using hnot

/-- A label that causes no mistake is new and names the block. -/
theorem labels_nameEntry {a : Assembly} {e : BlockEntry} {id : BlockId}
    (h : (a.nameEntry e id).errors = []) (name : String) (x : Located BlockId) :
    (a.nameEntry e id).labels.get? name = some x ↔
      a.labels.get? name = some x ∨ e.label = some ⟨name, x.span⟩ ∧ id = x.value := by
  rw [nameEntry] at h ⊢
  cases hlabel : e.label with
  | none => simp
  | some label =>
    simp only [hlabel, addLabel] at h ⊢
    cases hfirst : a.labels.get? label.value with
    | some first =>
      rw [hfirst] at h
      simp [fail] at h
    | none =>
      obtain ⟨text, span⟩ := label
      obtain ⟨value, span'⟩ := x
      by_cases hname : name = text
      · subst hname
        simp [hfirst, and_comm]
      · simp [hname, Ne.symm hname]

theorem length_nodes_renumber {e : BlockEntry} (h : ∀ x ∈ e.nodes, x.Contained) (last : BlockId) :
    e.nodes.length = (Block.renumber last (e.outline Opcode.isContainer)).1.nodes.length := by
  rw [← List.length_map (f := Block.id), Block.map_id_nodes, Block.length_ids, Block.size_renumber,
    outline_contained h, size_outline]

/-- An entry of the list itself stands where a block of the top level stands. -/
theorem exists_zip_of_mem {es : List BlockEntry} (h : ∀ x ∈ nodesIn es, x.Contained)
    (last : BlockId) {e : BlockEntry} (he : e ∈ es) :
    ∃ b ∈ (Block.renumberIn last (outlineIn Opcode.isContainer es)).1,
      (e, b) ∈ (nodesIn es).zip
        (Block.nodesIn (Block.renumberIn last (outlineIn Opcode.isContainer es)).1) := by
  induction es generalizing last with
  | nil => cases he
  | cons e' es ih =>
    rw [nodesIn, List.forall_mem_append] at h
    have hlength := length_nodes_renumber h.1 last
    simp only [outlineIn, Block.renumberIn, nodesIn, Block.nodesIn, List.zip_append hlength,
      List.mem_append]
    rcases List.mem_cons.1 he with rfl | he
    · refine ⟨_, List.mem_cons_self, .inl ?_⟩
      cases e
      simp only [outline, Block.renumber, nodes, Block.nodes, List.zip_cons_cons,
        List.mem_cons_self]
    · obtain ⟨b, hb, hzip⟩ := ih h.2 (Block.renumber last (e'.outline Opcode.isContainer)).2 he
      exact ⟨b, List.mem_cons_of_mem _ hb, .inr hzip⟩

mutual
/-- What holds of an entry whose block is put without a mistake. -/
theorem addBlock_clean : ∀ (e : BlockEntry) {parent : Option BlockId} {a : Assembly},
    a.workspace.Ready parent e.nodes.length → (addBlock parent e a).errors = [] →
    (∀ x ∈ e.nodes, x.Contained) ∧ ∀ name x, (addBlock parent e a).labels.get? name = some x ↔
      a.labels.get? name = some x ∨
        Declares [e] [(Block.renumber a.workspace.lastId (e.outline Opcode.isContainer)).1] name x
  | ⟨label, tag, slots, children⟩, parent, a, h, hclean => by
    obtain ⟨a₁, hplaced⟩ := exists_placed h.open_ ⟨label, tag, slots, children⟩
    have hroot (hnamed : (a₁.nameEntry ⟨label, tag, slots, children⟩
        a.workspace.lastId.next).errors = []) :
        (BlockEntry.mk label tag slots children).Contained := by
      have herrors := hplaced.errors
      rw [(Blames.named _ _ _).clean hnamed] at herrors
      exact contained_of_misplaced (List.append_eq_nil_iff.1 herrors.symm).2
    simp only [nodes, declares_single, Block.id_renumber]
    rw [hplaced.addBlock_eq] at hclean ⊢
    by_cases hc : (BlockEntry.mk label tag slots children).kind.isContainer = true
    · rw [if_pos hc] at hclean ⊢
      have hready := hplaced.ready_inside h hc
      have hnamed := (addBlocks_blames children hready).clean hclean
      obtain ⟨hinside, hlabels⟩ := addBlocks_clean children hready hclean
      refine ⟨List.forall_mem_cons.2 ⟨hroot hnamed, hinside⟩, fun name x => ?_⟩
      rw [hlabels, labels_nameEntry hnamed, hplaced.labels, hplaced.workspace_named,
        outline_of_container hc, or_assoc]
      rfl
    · rw [if_neg hc] at hclean ⊢
      have hnone : children = [] := not_not.1 fun hne => hc (hroot hclean hne)
      refine ⟨List.forall_mem_cons.2 ⟨hroot hclean, by simp [hnone, nodesIn]⟩, fun name x => ?_⟩
      rw [labels_nameEntry hclean, hplaced.labels]
      simp [hnone, Declares, nodesIn]

theorem addBlocks_clean : ∀ (es : List BlockEntry) {parent : Option BlockId} {a : Assembly},
    a.workspace.Ready parent (nodesIn es).length → (addBlocks parent es a).errors = [] →
    (∀ x ∈ nodesIn es, x.Contained) ∧ ∀ name x, (addBlocks parent es a).labels.get? name = some x ↔
      a.labels.get? name = some x ∨ Declares es
        (Block.renumberIn a.workspace.lastId (outlineIn Opcode.isContainer es)).1 name x
  | [], _, a, _, _ => ⟨nofun, fun name x => by simp [addBlocks, Declares, nodesIn]⟩
  | e :: es, parent, a, h, hclean => by
    have hrest := ready_rest h
    rw [addBlocks] at hclean ⊢
    have hclean' := (addBlocks_blames es hrest).clean hclean
    obtain ⟨hfirst, hlabels⟩ := addBlock_clean e (ready_first h) hclean'
    obtain ⟨hothers, hlabels'⟩ := addBlocks_clean es hrest hclean
    have hlast : (addBlock parent e a).workspace.lastId =
        (Block.renumber a.workspace.lastId (e.outline Opcode.isContainer)).2 := by
      rw [(addBlock_grafts e (ready_first h)).1]
      rfl
    refine ⟨List.forall_mem_append.2 ⟨hfirst, hothers⟩, fun name x => ?_⟩
    rw [hlabels', hlabels, hlast, or_assoc]
    exact or_congr_right (declares_cons (length_nodes_renumber hfirst _)).symm
end

/-- The second assembly has the blocks and labels of the first, and the errors of
the first among its own. -/
structure Keeps (a a' : Assembly) : Prop where
  blocks : a'.workspace.blocks = a.workspace.blocks
  labels : a'.labels = a.labels
  errors : a.errors <+: a'.errors

namespace Keeps
variable {a a' a'' : Assembly}

theorem refl (a : Assembly) : Keeps a a := ⟨rfl, rfl, List.prefix_rfl⟩

theorem trans (h : Keeps a a') (h' : Keeps a' a'') : Keeps a a'' :=
  ⟨h'.blocks.trans h.blocks, h'.labels.trans h.labels, h.errors.trans h'.errors⟩

theorem resolve (a : Assembly) (label : Located String) : Keeps a (a.resolve label).1 := by
  rw [Assembly.resolve]
  split
  · exact .refl a
  · exact ⟨rfl, rfl, List.prefix_append _ _⟩

theorem joinBlocks (a : Assembly) (e : ConnectionEntry) (source target : BlockId) :
    Keeps a (a.joinBlocks e source target) := by
  have hblocks := a.workspace.blocks_connect source target e.gap
  unfold Assembly.joinBlocks
  dsimp only
  split
  · next hconnect =>
    rw [hconnect] at hblocks
    split <;> exact ⟨hblocks, rfl, List.prefix_rfl⟩
  · next hconnect =>
    rw [hconnect] at hblocks
    exact ⟨hblocks, rfl, List.prefix_rfl⟩
  · next hconnect =>
    rw [hconnect] at hblocks
    exact ⟨hblocks, rfl, List.prefix_append _ _⟩

theorem addConnection (a : Assembly) (e : ConnectionEntry) : Keeps a (a.addConnection e) := by
  have hends := (resolve a e.source).trans (resolve (a.resolve e.source).1 e.target)
  unfold Assembly.addConnection
  dsimp only
  split
  · exact hends.trans (joinBlocks _ _ _ _)
  · exact hends

theorem connections (cs : List ConnectionEntry) (a : Assembly) :
    Keeps a (cs.foldl Assembly.addConnection a) := by
  induction cs generalizing a with
  | nil => exact .refl a
  | cons e es ih => exact (addConnection a e).trans (ih _)

end Keeps

def start (tolerance : Option Float) : Assembly :=
  { workspace := .empty (tolerance.getD Registry.defaultTolerance) }

theorem ready_start (tolerance : Option Float) {es : List BlockEntry}
    (h : (nodesIn es).length < UInt32.size) :
    (start tolerance).workspace.Ready none (nodesIn es).length where
  sound := Workspace.sound_empty _
  open_ := Workspace.open_top _
  room := by
    have hzero : (start tolerance).workspace.lastId.raw.toNat = 0 := rfl
    rwa [hzero, Nat.zero_add]

theorem keeps_ofFile (tolerance : Option Float) (f : File) :
    Keeps (addBlocks none f.blocks (start tolerance)) (ofFile tolerance f) :=
  .connections f.connections _

/-- The blocks are those that the entries describe, whatever mistakes are found. -/
theorem blocks_addBlocks (tolerance : Option Float) {es : List BlockEntry}
    (h : (nodesIn es).length < UInt32.size) :
    (addBlocks none es (start tolerance)).workspace.blocks =
      (Block.renumberIn ⟨0⟩ (outlineIn Opcode.isContainer es)).1 :=
  congrArg Workspace.blocks (addBlocks_grafts es (ready_start tolerance h)).1

end Assembly

/-- Blocks and labels hold what the entries say. -/
structure Faithful (es : List BlockEntry) (bs : List Block)
    (labels : SortedMap String (Located BlockId)) : Prop where
  /-- But for their identities the blocks are those that the entries describe,
  and no entry is left out. -/
  forest : Block.unnamedIn bs = outlineIn (fun _ => true) es
  numbered : (Block.idsIn bs).map (fun i => i.raw.toNat) = List.range' 1 (nodesIn es).length
  labelled : ∀ name x, labels.get? name = some x ↔ Declares es bs name x
  injective : ∀ m n x y, labels.get? m = some x → labels.get? n = some y → x.value = y.value →
    m = n

/-- Entries that are put without a mistake are held faithfully. -/
theorem faithful_addBlocks {t : Option Float} {es : List BlockEntry}
    (h : (nodesIn es).length < UInt32.size)
    (hclean : (Assembly.addBlocks none es (Assembly.start t)).errors = []) :
    Faithful es (Assembly.addBlocks none es (Assembly.start t)).workspace.blocks
      (Assembly.addBlocks none es (Assembly.start t)).labels := by
  obtain ⟨hcontained, hlabelled⟩ := Assembly.addBlocks_clean es (Assembly.ready_start t h) hclean
  have hforest := Assembly.blocks_addBlocks t h
  rw [outlineIn_contained hcontained] at hforest
  have hnumbered :
      (Block.idsIn (Assembly.addBlocks none es (Assembly.start t)).workspace.blocks).map
        (fun i => i.raw.toNat) = List.range' 1 (nodesIn es).length := by
    rw [← sizeIn_outlineIn] at h ⊢
    rw [hforest]
    exact Block.idsIn_renumberIn ((Nat.zero_add _).symm ▸ h)
  have hdeclares : ∀ name x,
      (Assembly.addBlocks none es (Assembly.start t)).labels.get? name = some x ↔
        Declares es (Assembly.addBlocks none es (Assembly.start t)).workspace.blocks name x := by
    intro name x
    refine (hlabelled name x).trans ?_
    rw [hforest, ← outlineIn_contained hcontained]
    have hnew : (Assembly.start t).labels.get? name ≠ some x := by simp [Assembly.start]
    exact or_iff_right hnew
  refine ⟨?_, hnumbered, hdeclares, fun m n x y hx hy hid => ?_⟩
  · rw [hforest, Block.unnamedIn_renumberIn, unnamedIn_outlineIn]
  · have hnodup := List.Nodup.of_map (fun i : BlockId => i.raw.toNat)
      (hnumbered ▸ List.nodup_range')
    have hlength := congrArg List.length hnumbered
    rw [List.length_map, List.length_range', ← Block.map_id_nodesIn, List.length_map] at hlength
    exact ((hdeclares m x).1 hx).unique hnodup hlength.le ((hdeclares n y).1 hy) hid

theorem eq_ok_of_toOption {ε α : Type} {x : Except ε α} {a : α} (h : x.toOption = some a) :
    x = .ok a := by
  cases x with
  | error e => cases h
  | ok b => exact congrArg Except.ok (Option.some.inj h)

/-- A script that loads is what is left of an assembly without errors. -/
theorem eq_of_assemble {source : String} {f : File} {s : Script}
    (h : (assemble source f).result = .ok s) :
    ∃ t, tolerance f.settings = .ok t ∧ (Assembly.ofFile t f).errors = [] ∧
      s = { workspace := (Assembly.ofFile t f).workspace.takeEvents.1
            settings := f.settings.erase "tolerance"
            labels := (Assembly.ofFile t f).labels
            events := (Assembly.ofFile t f).workspace.events
            warnings := (Assembly.ofFile t f).warnings } := by
  unfold assemble at h
  split at h
  · cases h
  · next t ht =>
    simp only [ofAssembly] at h
    split at h
    · next hempty =>
      cases h
      exact ⟨t, ht, List.isEmpty_iff.1 hempty, rfl⟩
    · cases h

/-- A script that loads comes from an assembly without errors. -/
theorem assembly_of_assemble {source : String} {f : File} {s : Script}
    (h : (assemble source f).result = .ok s) :
    ∃ t, (Assembly.ofFile t f).errors = [] ∧
      s.workspace.blocks = (Assembly.ofFile t f).workspace.blocks ∧
      s.labels = (Assembly.ofFile t f).labels := by
  obtain ⟨t, -, hclean, rfl⟩ := eq_of_assemble h
  exact ⟨t, hclean, rfl, rfl⟩

/-- Loading is faithful: a script that loads holds what its file says, and no
block of any file is refused by the workspace. -/
theorem assemble_faithful (source : String) (f : File)
    (h : (nodesIn f.blocks).length < UInt32.size) :
    (∀ s, (assemble source f).result = .ok s → Faithful f.blocks s.workspace.blocks s.labels) ∧
    ∀ t,
      (∀ c e a, Assembly.Calls none f.blocks (Assembly.start t) (some c) e a →
        ∃ id, (a.workspace.addChild c e.kind (a.prepare e).1).2 = .ok id ∧
          (a.placeEntry (some c) e).2 = .ok id) ∧
      (∀ g ∈ (Assembly.addBlocks none f.blocks (Assembly.start t)).errors,
        ∀ error, g.problem ≠ .refused error) ∧
      (Assembly.ofFile t f).workspace.blocks =
        (Block.renumberIn ⟨0⟩ (outlineIn Opcode.isContainer f.blocks)).1 := by
  refine ⟨fun s hs => ?_, fun t => ⟨fun c e a hcalls => ?_, ?_, ?_⟩⟩
  · obtain ⟨t, hclean, hblocks, hlabels⟩ := assembly_of_assemble hs
    have hkeeps := Assembly.keeps_ofFile t f
    rw [hblocks, hlabels, hkeeps.blocks, hkeeps.labels]
    exact faithful_addBlocks h (List.prefix_nil.1 (hclean ▸ hkeeps.errors))
  · have hready := hcalls.ready (Assembly.ready_start t h)
    obtain ⟨a₁, hplaced⟩ := Assembly.exists_placed hready.open_ e
    obtain ⟨x, hx⟩ := hready.open_ c rfl
    refine ⟨a.workspace.lastId.next, ?_, congrArg Prod.snd hplaced.eq⟩
    rw [Workspace.addChild_eq_graft hx]
  · obtain ⟨found, herrors, hfound⟩ := Assembly.addBlocks_blames f.blocks (Assembly.ready_start t h)
    rw [herrors]
    exact hfound
  · rw [(Assembly.keeps_ofFile t f).blocks, Assembly.blocks_addBlocks t h]

/-- A script with blocks inside blocks, labels and a connection loads. Another one
does not, for it has blocks inside a block that is no container and a label
twice; still the block behind these mistakes goes into the loop. -/
theorem assemble_faithful_nested :
    let word (text : String) (start : Nat) : Located String := ⟨text, ⟨start, start + 1⟩⟩
    let f : File := {
      blocks := [
        { label := word "loop" 0, opcode := word "repeat" 1, children := [
          { label := word "step" 2, opcode := word "move" 3 },
          { opcode := word "if" 4, children := [{ opcode := word "wait" 5 }] }] },
        { label := word "end" 6, opcode := word "say" 7 }]
      connections := [{ source := word "loop" 8, target := word "end" 9 }] }
    let late : BlockEntry := { label := word "step" 4, opcode := word "show" 5 }
    let loop : BlockEntry := { opcode := word "forever" 0, children := [
      { label := word "step" 1, opcode := word "move" 2,
        children := [{ opcode := word "wait" 3 }] },
      late] }
    let g : File := { blocks := [loop] }
    (∃ s, (assemble "" f).result = .ok s ∧ Faithful f.blocks s.workspace.blocks s.labels) ∧
      (assemble "" g).result.isOk = false ∧
      ∃ a, Assembly.Calls none g.blocks (Assembly.start none) (some ⟨1⟩) late a ∧
        ∃ id, (a.workspace.addChild ⟨1⟩ late.kind (a.prepare late).1).2 = .ok id := by
  intro word f late loop g
  have hf : (nodesIn f.blocks).length < UInt32.size := by decide
  have hg : (nodesIn g.blocks).length < UInt32.size := by decide
  have hloads : (assemble "" f).result.isOk = true := by decide +kernel
  obtain ⟨a₁, hplaced⟩ := Assembly.exists_placed (Assembly.start none).workspace.open_top loop
  have hcalls : Assembly.Calls none g.blocks (Assembly.start none) (some ⟨1⟩) late _ :=
    .inside hplaced.eq (by decide +kernel) (.behind (.here _ late [] _))
  refine ⟨?_, by decide +kernel, _, hcalls, ?_⟩
  · cases hresult : (assemble "" f).result with
    | error failure =>
      rw [hresult] at hloads
      cases hloads
    | ok s => exact ⟨s, rfl, (assemble_faithful "" f hf).1 s hresult⟩
  · obtain ⟨id, hadded, -⟩ := ((assemble_faithful "" g hg).2 none).1 ⟨1⟩ late _ hcalls
    exact ⟨id, hadded⟩

end SpriteBlocks.Script
