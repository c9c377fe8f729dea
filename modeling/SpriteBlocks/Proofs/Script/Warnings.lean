import SpriteBlocks.Proofs.Script.Joining
import SpriteBlocks.Proofs.Script.Placement
import SpriteBlocks.Proofs.Text.ByteOrder
import Mathlib.Data.List.Forall2

/-!
# What a loaded script was warned of

Loading never changes anything in silence. The warnings of a script that loads
are those of its entries in document order and then those of its connections;
what a slot could not hold was warned of and so was every connection that was
not made. The blocks show what is left, and the events announce the connections
that were made.
-/
namespace SpriteBlocks

namespace SortedMap
variable {ν : Type}

theorem contains_foldl_insert (l : List (String × ν)) (m : SortedMap String ν) (name : String) :
    (l.foldl (fun m e => m.insert e.1 e.2) m).contains name = true ↔
      m.contains name = true ∨ ∃ e ∈ l, e.1 = name := by
  induction l generalizing m with
  | nil => simp
  | cons e l ih =>
    have hinsert : (m.insert e.1 e.2).contains name = true ↔
        m.contains name = true ∨ e.1 = name := by
      by_cases hname : name = e.1
      · simp [contains, hname]
      · simp [contains, hname, Ne.symm hname]
    rw [List.foldl_cons, ih, hinsert, List.exists_mem_cons_iff, or_assoc]

theorem contains_ofList (l : List (String × ν)) (name : String) :
    (ofList l).contains name = true ↔ ∃ e ∈ l, e.1 = name :=
  (contains_foldl_insert l ∅ name).trans (or_iff_right Bool.false_ne_true)

end SortedMap

namespace Block

/-- One more child leaves the makes of the other blocks alone. -/
theorem Swap.make_perm {c x : Block} {bs bs' : List Block} (h : Swap x (withChild c x) bs bs') :
    ((nodesIn bs').map make).Perm ((nodesIn bs).map make ++ c.nodes.map make) := by
  have hfaces := h.facesIn_withChild.map fun e => (e.2.opcode, e.2.params)
  simp only [facesIn, faces, List.map_append, List.map_cons, List.map_map, List.map_nil] at hfaces
  have hlast : ((nodesIn bs').map make ++ [x.make]).Perm
      ((nodesIn bs).map make ++ x.make :: c.nodes.map make) := hfaces
  refine (List.perm_append_right_iff [x.make]).1 (hlast.trans ?_)
  rw [List.append_assoc]
  exact (List.perm_append_singleton _ _).symm.append_left _

mutual
theorem map_make_unnamed : ∀ b : Block, b.unnamed.nodes.map make = b.nodes.map make
  | ⟨i, o, p, cs⟩ => by
    rw [unnamed, nodes, nodes, List.map_cons, List.map_cons, map_make_unnamedIn cs]
    rfl

theorem map_make_unnamedIn : ∀ bs : List Block,
    (nodesIn (unnamedIn bs)).map make = (nodesIn bs).map make
  | [] => rfl
  | b :: bs => by
    rw [unnamedIn, nodesIn, nodesIn, List.map_append, List.map_append, map_make_unnamed b,
      map_make_unnamedIn bs]
end

end Block

namespace Workspace
variable {ws : Workspace}

/-- A block that is put adds its make. -/
theorem make_graft_perm {parent : Option BlockId} (h : ws.Open parent) (opcode : Opcode)
    (params : Parameters) :
    ((Block.nodesIn (ws.graft parent [Block.leaf ⟨0⟩ opcode params]).blocks).map Block.make).Perm
      ((Block.nodesIn ws.blocks).map Block.make ++ [(opcode, params)]) := by
  cases parent with
  | none =>
    simp [graft, Block.putIn, Block.leaf, Block.renumberIn, Block.renumber, Block.nodesIn,
      Block.nodes, Block.make]
  | some c =>
    obtain ⟨x, hx⟩ := h c rfl
    exact (swap_graft hx [Block.leaf ⟨0⟩ opcode params]).make_perm

end Workspace

namespace Script
open Toml BlockEntry

def ConnectionEntry.warning (limit : Float) (c : ConnectionEntry) : Option Finding :=
  if c.gap.within limit then none
  else
    some { problem := .tooFar c.source.value c.target.value limit, span := c.target.span,
           related := c.source.span }

theorem ConnectionEntry.isNone_warning (limit : Float) (c : ConnectionEntry) :
    (c.warning limit).isNone = c.gap.within limit := by
  unfold warning
  split
  · next hnear => rw [hnear]; rfl
  · next hfar => rw [Bool.eq_false_iff.2 hfar]; rfl

def unusable (slot : String × Located Node) : Finding :=
  { problem := .unusableParameter slot.1 slot.2.value, span := slot.2.span }

section Severity

theorem severity_tagWarning {e : BlockEntry} {w : Finding} (h : e.tagWarning = some w) :
    w.severity = .warning := by
  unfold tagWarning at h
  split at h
  · cases h
    rfl
  · cases h

theorem severity_slotWarning {slot : String × Located Node} {w : Finding}
    (h : slotWarning slot = some w) : w.severity = .warning := by
  unfold slotWarning at h
  split at h
  · cases h
  · cases h
  · split at h
    · cases h
      rfl
    · cases h
  · cases h
    rfl

theorem severity_warnings {e : BlockEntry} {w : Finding} (h : w ∈ e.warnings) :
    w.severity = .warning := by
  rcases List.mem_append.1 h with h | h
  · exact severity_tagWarning (Option.mem_toList.1 h)
  · obtain ⟨slot, -, hslot⟩ := List.mem_filterMap.1 h
    exact severity_slotWarning hslot

theorem ConnectionEntry.severity_warning {limit : Float} {c : ConnectionEntry} {w : Finding}
    (h : c.warning limit = some w) : w.severity = .warning := by
  unfold warning at h
  split at h
  · cases h
  · cases h
    rfl

end Severity

theorem isSome_slotValue_iff (slot : String × Located Node) :
    (Assembly.slotValue slot.1 slot.2.value).1.isSome = true ↔
      slotWarning slot ≠ some (unusable slot) := by
  obtain ⟨name, ⟨node, span⟩⟩ := slot
  cases node with
  | string _ s =>
    by_cases hname : name = "condition"
    · simp only [Assembly.slotValue, slotWarning, unusable, hname, if_true, true_and]
      split <;> simp
    · simp [Assembly.slotValue, slotWarning, hname]
  | _ => simp [Assembly.slotValue, slotWarning, unusable]

/-- The block is what the entry names, with a value in each slot of the entry
that can hold one. -/
structure Shows (e : BlockEntry) (b : Block) : Prop where
  opcode : b.opcode = e.kind
  /-- The tag is warned of if it names no kind of block. -/
  known : b.opcode.isKnown = e.tagWarning.isNone
  slots : ∀ s ∈ e.params.entries, b.params.contains s.1 = true ↔ slotWarning s ≠ some (unusable s)
  others : ∀ name, b.params.contains name = true → ∃ s ∈ e.params.entries, s.1 = name

theorem contains_root_params (e : BlockEntry) (name : String) :
    e.root.params.contains name = true ↔
      ∃ s ∈ e.params.entries, s.1 = name ∧ slotWarning s ≠ some (unusable s) := by
  simp only [root, Block.leaf, SortedMap.contains_ofList, slotValues, List.mem_filterMap,
    ← isSome_slotValue_iff, Option.map_eq_some_iff, Option.isSome_iff_exists]
  constructor
  · rintro ⟨_, ⟨s, hs, v, hv, rfl⟩, rfl⟩
    exact ⟨s, hs, rfl, v, hv⟩
  · rintro ⟨s, hs, rfl, v, hv⟩
    exact ⟨_, ⟨s, hs, v, hv, rfl⟩, rfl⟩

theorem make_root (e : BlockEntry) : e.root.make = (e.kind, e.root.params) := by
  rw [Block.make, root, Block.leaf]

theorem Shows.of_make {e : BlockEntry} {b : Block} (h : b.make = e.root.make) : Shows e b := by
  rw [make_root, Block.make, Prod.mk.injEq] at h
  obtain ⟨hopcode, hparams⟩ := h
  have hknown : e.kind.isKnown = e.tagWarning.isNone := by
    rw [tagWarning]
    cases e.kind <;> rfl
  refine ⟨hopcode, hopcode ▸ hknown, fun s hs => ?_, fun name hname => ?_⟩
  · rw [hparams, contains_root_params]
    refine ⟨?_, fun husable => ⟨s, hs, rfl, husable⟩⟩
    -- no other entry has the name
    rintro ⟨⟨name, node⟩, hs', rfl, husable⟩
    have hnode := (SortedMap.get?_eq_some_iff_mem e.params _ _).2 hs'
    rw [(SortedMap.get?_eq_some_iff_mem e.params _ _).2 hs] at hnode
    cases hnode
    exact husable
  · rw [hparams, contains_root_params] at hname
    obtain ⟨s, hs, hname, -⟩ := hname
    exact ⟨s, hs, hname⟩

namespace BlockEntry

mutual
theorem map_make_outline : ∀ e : BlockEntry,
    (e.outline fun _ => true).nodes.map Block.make = e.nodes.map fun x => x.root.make
  | ⟨label, tag, slots, children⟩ => by
    rw [outline, Block.nodes, nodes, List.map_cons, List.map_cons, if_pos rfl,
      map_make_outlineIn children]
    rfl

/-- The blocks that entries describe are of the same makes as the entries. -/
theorem map_make_outlineIn : ∀ es : List BlockEntry,
    (Block.nodesIn (outlineIn (fun _ => true) es)).map Block.make =
      (nodesIn es).map fun x => x.root.make
  | [] => rfl
  | e :: es => by
    rw [outlineIn, Block.nodesIn, nodesIn, List.map_append, List.map_append, map_make_outline e,
      map_make_outlineIn es]
end

end BlockEntry

theorem forall₂_shows {es : List BlockEntry} {bs : List Block}
    (h : bs.map Block.make = es.map fun e => e.root.make) : List.Forall₂ Shows es bs := by
  have hmakes : List.Forall₂ (· = ·) (es.map fun e => e.root.make) (bs.map Block.make) :=
    List.forall₂_eq_eq_eq ▸ h.symm
  have hpairs := List.forall₂_map_left_iff.1 (List.forall₂_map_right_iff.1 hmakes)
  exact hpairs.imp fun _ _ hmake => .of_make hmake.symm

namespace Assembly

namespace Puts
variable {a a' : Assembly} {put : List BlockEntry}

/-- Without errors the warnings are those of the entries that were put. -/
theorem warnings (h : Puts a put a') (hclean : a'.errors = []) :
    a'.warnings = a.warnings ++ put.flatMap BlockEntry.warnings := by
  induction h with
  | refl a => simp
  | put hplace _ ih =>
    obtain ⟨-, rfl, notes, rfl⟩ := placeEntry_eq_ok hplace
    rw [ih hclean, warnings_nameEntry, checked, List.append_assoc, List.flatMap_cons]
  | refuse hplace hrest _ =>
    have hfail := hrest.clean hclean
    rw [fail, List.append_eq_nil_iff] at hfail
    exact absurd hfail.2 (List.cons_ne_nil _ _)

/-- The blocks are those that stood there before and those of the entries that were put. -/
theorem make_perm (h : Puts a put a') : ((Block.nodesIn a'.workspace.blocks).map Block.make).Perm
    ((Block.nodesIn a.workspace.blocks).map Block.make ++ put.map fun e => e.root.make) := by
  induction h with
  | refl a => simp
  | @put a a₁ _ _ e id _ hplace _ ih =>
    obtain ⟨hopen, rfl, notes, rfl⟩ := placeEntry_eq_ok hplace
    rw [workspace_nameEntry] at ih
    refine ih.trans ?_
    rw [List.map_cons, List.append_cons, make_root]
    exact (Workspace.make_graft_perm hopen e.kind e.root.params).append_right _
  | refuse hplace _ ih =>
    obtain rfl := placeEntry_eq_error hplace
    exact ih

end Puts

/-- What the second assembly reports that the first did not: of the connections it
was asked for it announces those near enough and warns of the others. -/
structure Reports (limit : Float) (a : Assembly) (cs : List ConnectionEntry) (a' : Assembly) :
    Prop where
  keeps : a.Keeps a'
  tolerance : a'.workspace.registry.tolerance = limit
  warnings : a'.warnings = a.warnings ++ cs.filterMap (ConnectionEntry.warning limit)
  events : a'.workspace.events = a.workspace.events ++
    (cs.filter fun c => c.gap.within limit).map (ConnectionEntry.announcement a.workspace a.labels)

theorem Reports.trans {limit : Float} {a a' a'' : Assembly} {cs ds : List ConnectionEntry}
    (h : Reports limit a cs a') (h' : Reports limit a' ds a'') :
    Reports limit a (cs ++ ds) a'' where
  keeps := h.keeps.trans h'.keeps
  tolerance := h'.tolerance
  warnings := by rw [h'.warnings, h.warnings, List.append_assoc, List.filterMap_append]
  events := by
    rw [h'.events, h.events, List.append_assoc, List.filter_append, List.map_append,
      ConnectionEntry.announcement_congr h.keeps.blocks h.keeps.labels]

section Connections
variable {a : Assembly} {c : ConnectionEntry}

theorem exists_ends_of_clean (h : (a.addConnection c).errors = []) :
    ∃ i j, c.ends a.labels = some (i, j) := by
  cases hsource : a.labels.get? c.source.value with
  | none =>
    cases htarget : a.labels.get? c.target.value <;>
      simp [addConnection, resolve, hsource, htarget, fail] at h
  | some x =>
    cases htarget : a.labels.get? c.target.value with
    | none => simp [addConnection, resolve, hsource, htarget, fail] at h
    | some y =>
      refine ⟨x.value, y.value, ConnectionEntry.ends_eq_some_iff.2 ⟨?_, ?_⟩⟩
      · rw [blockOf, hsource]
        rfl
      · rw [blockOf, htarget]
        rfl

/-- One connection without errors is announced, or it is too far and warned of. -/
theorem addConnection_reports (h : (a.addConnection c).errors = []) :
    Reports a.workspace.registry.tolerance a [c] (a.addConnection c) := by
  have hkeeps := Keeps.addConnection a c
  obtain ⟨i, j, hends⟩ := exists_ends_of_clean h
  rw [addConnection_of_ends hends] at h hkeeps ⊢
  rcases hconnect : a.workspace.connect i j c.gap with ⟨ws, result⟩
  cases result with
  | error error =>
    simp [joinBlocks, hconnect, fail] at h
  | ok made =>
    have hok := Workspace.connect_of_ok (congrArg Prod.snd hconnect)
    rw [hconnect] at hok
    obtain ⟨hmade, htolerance, hevents⟩ := hok
    rw [← ConnectionEntry.announcement_of_ends hends] at hevents
    have hnear : c.gap.within a.workspace.registry.tolerance = made := hmade.symm
    cases made with
    | true =>
      have hwarning : c.warning a.workspace.registry.tolerance = none := by
        rw [ConnectionEntry.warning, if_pos hnear]
      refine ⟨hkeeps, ?_, ?_, ?_⟩ <;> simp only [joinBlocks, hconnect]
      · split <;> exact htolerance
      · simp only [List.filterMap_cons, hwarning, List.filterMap_nil, List.append_nil]
        split <;> rfl
      · simp only [List.filter_cons, hnear, if_true, List.filter_nil, List.map_singleton]
        split <;> exact hevents
    | false =>
      have hwarning : c.warning a.workspace.registry.tolerance =
          some { problem := .tooFar c.source.value c.target.value a.workspace.registry.tolerance
                 span := c.target.span
                 related := c.source.span } := by
        rw [ConnectionEntry.warning, hnear]
        rfl
      refine ⟨hkeeps, ?_, ?_, ?_⟩ <;> simp only [joinBlocks, hconnect]
      · exact htolerance
      · simp only [List.filterMap_cons, hwarning, List.filterMap_nil]
        rfl
      · simp only [List.filter_cons, hnear, Bool.false_eq_true, if_false, List.filter_nil]
        exact hevents

/-- Connections without errors are announced or warned of, each in its turn. -/
theorem connections_reports {cs : List ConnectionEntry}
    (h : (cs.foldl addConnection a).errors = []) :
    Reports a.workspace.registry.tolerance a cs (cs.foldl addConnection a) := by
  induction cs generalizing a with
  | nil => exact ⟨.refl a, rfl, (List.append_nil _).symm, (List.append_nil _).symm⟩
  | cons c cs ih =>
    have hprefix := (Keeps.connections cs (a.addConnection c)).errors
    have hrest := ih h
    rw [List.foldl_cons] at h
    rw [h, List.prefix_nil] at hprefix
    have hfirst := addConnection_reports hprefix
    rw [hfirst.tolerance] at hrest
    exact hfirst.trans hrest

end Connections
end Assembly

/-- What was reported while a script was loaded, as the file has it. -/
structure Reported (f : File) (limit : Float) (s : Script) : Prop where
  /-- The warnings of the entries stand first, each entry before those inside it,
  and then those of the connections. -/
  warnings : s.warnings = (nodesIn f.blocks).flatMap BlockEntry.warnings ++
    f.connections.filterMap (ConnectionEntry.warning limit)
  mild : ∀ w ∈ s.warnings, w.severity = .warning
  /-- A connection that is not warned of is announced. -/
  events : s.events = (f.connections.filter fun c => (c.warning limit).isNone).map
    (ConnectionEntry.announcement s.workspace s.labels)
  /-- The slots of an entry stand in the order of the bytes of their names. -/
  ordered : ∀ e ∈ nodesIn f.blocks,
    (e.params.entries.map fun s => Text.bytes s.1).Pairwise (· < ·)
  /-- Every block shows one entry, and the blocks stand in the order of the
  entries as long as identities are left. -/
  shown : ∃ bs, List.Forall₂ Shows (nodesIn f.blocks) bs ∧
    bs.Perm (Block.nodesIn s.workspace.blocks) ∧
    ((nodesIn f.blocks).length < UInt32.size → bs = Block.nodesIn s.workspace.blocks)

/-- Lists whose images are the same but for the order differ by a reordering. -/
theorem exists_perm_of_map_perm {α β γ : Type} {f : α → γ} {g : β → γ} {as : List α} {bs : List β}
    (h : (as.map f).Perm (bs.map g)) : ∃ bs' : List β, bs'.map g = as.map f ∧ bs'.Perm bs := by
  have hself : List.Forall₂ (fun c b => c = g b) (bs.map g) bs :=
    List.forall₂_map_left_iff.2 (List.forall₂_same.2 fun _ _ => rfl)
  obtain ⟨bs', hmap, hperm⟩ := List.perm_comp_forall₂ h hself
  exact ⟨bs', (List.forall₂_eq_eq_eq ▸ List.forall₂_map_right_iff.2 hmap).symm, hperm⟩

/-- Without errors the blocks show the entries. -/
theorem exists_shown {t : Option Float} {es : List BlockEntry}
    (hclean : (Assembly.addBlocks none es (Assembly.start t)).errors = []) :
    ∃ bs, List.Forall₂ Shows (nodesIn es) bs ∧
      bs.Perm (Block.nodesIn (Assembly.addBlocks none es (Assembly.start t)).workspace.blocks) ∧
      ((nodesIn es).length < UInt32.size →
        bs = Block.nodesIn (Assembly.addBlocks none es (Assembly.start t)).workspace.blocks) := by
  by_cases h : (nodesIn es).length < UInt32.size
  · refine ⟨_, forall₂_shows ?_, .refl _, fun _ => rfl⟩
    rw [← Block.map_make_unnamedIn, (faithful_addBlocks h hclean).forest, map_make_outlineIn]
  · have hperm := (Assembly.addBlocks_puts_nodes hclean).make_perm
    have hnone : Block.nodesIn (Assembly.start t).workspace.blocks = [] := rfl
    rw [hnone, List.map_nil, List.nil_append] at hperm
    obtain ⟨bs, hmakes, hbs⟩ := exists_perm_of_map_perm hperm.symm
    exact ⟨bs, forall₂_shows hmakes, hbs, fun hroom => absurd hroom h⟩

/-- Without errors every entry was put, and then every connection was reported. -/
theorem Assembly.ofFile_reports {t : Option Float} {f : File} (hclean : (ofFile t f).errors = []) :
    (addBlocks none f.blocks (start t)).errors = [] ∧
      Puts (start t) (nodesIn f.blocks) (addBlocks none f.blocks (start t)) ∧
      Reports (t.getD Registry.defaultTolerance) (addBlocks none f.blocks (start t)) f.connections
        (ofFile t f) := by
  have hblocks : (addBlocks none f.blocks (start t)).errors = [] :=
    List.prefix_nil.1 (hclean ▸ (keeps_ofFile t f).errors)
  have hputs := addBlocks_puts_nodes hblocks
  have hlimit : (addBlocks none f.blocks (start t)).workspace.registry.tolerance =
      t.getD Registry.defaultTolerance := by
    rw [hputs.quiet.1]
    rfl
  exact ⟨hblocks, hputs, hlimit ▸ connections_reports hclean⟩

/-- An assembly without errors reports what its file has it report. -/
theorem reported_of_clean {t : Option Float} {f : File} (hclean : (Assembly.ofFile t f).errors = [])
    (settings : SortedMap String Node) :
    Reported f (t.getD Registry.defaultTolerance)
      { workspace := (Assembly.ofFile t f).workspace.takeEvents.1
        settings
        labels := (Assembly.ofFile t f).labels
        events := (Assembly.ofFile t f).workspace.events
        warnings := (Assembly.ofFile t f).warnings } := by
  obtain ⟨hblocks, hputs, hreports⟩ := Assembly.ofFile_reports hclean
  have hwarnings := hreports.warnings
  rw [hputs.warnings hblocks] at hwarnings
  have hevents := hreports.events
  rw [hputs.quiet.2, ConnectionEntry.announcement_congr hreports.keeps.blocks.symm
    hreports.keeps.labels.symm] at hevents
  have hshown := exists_shown hblocks
  rw [← hreports.keeps.blocks] at hshown
  refine ⟨hwarnings, ?_, ?_, fun e _ => Text.pairwise_bytes_keys e.params, hshown⟩
  · rw [hwarnings]
    intro w hw
    rcases List.mem_append.1 hw with hw | hw
    · obtain ⟨e, -, hentry⟩ := List.mem_flatMap.1 hw
      exact severity_warnings hentry
    · obtain ⟨c, -, hconnection⟩ := List.mem_filterMap.1 hw
      exact ConnectionEntry.severity_warning hconnection
  · simp only [ConnectionEntry.isNone_warning]
    exact hevents

/-- A script that loads is what is left of an assembly of its file without errors. -/
theorem eq_of_load {source : String} {s : Script} (h : (load source).result = .ok s) :
    ∃ root f t, root? source = some root ∧ File.ofNode root = .ok f ∧
      tolerance f.settings = .ok t ∧ (Assembly.ofFile t f).errors = [] ∧
      s = { workspace := (Assembly.ofFile t f).workspace.takeEvents.1
            settings := f.settings.erase "tolerance"
            labels := (Assembly.ofFile t f).labels
            events := (Assembly.ofFile t f).workspace.events
            warnings := (Assembly.ofFile t f).warnings } := by
  unfold load at h
  split at h
  · cases h
  · next root hroot =>
    split at h
    · cases h
    · next f hfile =>
      obtain ⟨t, ht, hclean, hs⟩ := eq_of_assemble h
      exact ⟨root, f, t, hroot, hfile, ht, hclean, hs⟩

/-- Nothing is degraded in silence: a script that loads was warned of all that
its file has and the script does not, and of nothing else. -/
theorem reported_of_load {source : String} {s : Script} (h : (load source).result = .ok s) :
    ∃ root f t, root? source = some root ∧ File.ofNode root = .ok f ∧
      tolerance f.settings = .ok t ∧ Reported f (t.getD Registry.defaultTolerance) s := by
  obtain ⟨root, f, t, hroot, hfile, ht, hclean, rfl⟩ := eq_of_load h
  exact ⟨root, f, t, hroot, hfile, ht, reported_of_clean hclean _⟩

/-- A script with three mistakes loads all the same: it was warned of each of them,
and of its two connections the one that was made is announced. -/
theorem reported_of_load_degraded :
    let source := "[[block]]\nlabel = \"a\"\nopcode = \"jump\"\nparams = \x7b b = true \x7d\n" ++
      "[[block]]\nlabel = \"b\"\nopcode = \"if\"\n" ++
      "[[connection]]\nfrom = \"a\"\nto = \"b\"\n" ++
      "[[connection]]\nfrom = \"b\"\nto = \"a\"\nadjacent = false\n"
    ∃ s, (load source).result = .ok s ∧
      s.warnings.map Finding.message = ["unknown block type " ++ ticked "jump",
        "parameter " ++ ticked "b" ++ " must be a number or text, found boolean",
        ticked "a" ++ " is too far from " ++ ticked "b" ++ " to connect"] ∧
      s.events.map LogEvent.message = ["connected: unknown block -> if block"] ∧
      ∃ root f t, root? source = some root ∧ File.ofNode root = .ok f ∧
        tolerance f.settings = .ok t ∧ Reported f (t.getD Registry.defaultTolerance) s := by
  intro source
  have hreported : (load source).result.toOption.map
      (fun s => (s.warnings.map Finding.message, s.events.map LogEvent.message)) =
        some (["unknown block type " ++ ticked "jump",
          "parameter " ++ ticked "b" ++ " must be a number or text, found boolean",
          ticked "a" ++ " is too far from " ++ ticked "b" ++ " to connect"],
          ["connected: unknown block -> if block"]) := by
    decide +kernel
  obtain ⟨s, hs, hpair⟩ := Option.map_eq_some_iff.1 hreported
  have hload := eq_ok_of_toOption hs
  exact ⟨s, hload, congrArg Prod.fst hpair, congrArg Prod.snd hpair, reported_of_load hload⟩

end Script
end SpriteBlocks
