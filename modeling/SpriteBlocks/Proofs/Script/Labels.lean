import SpriteBlocks.Proofs.Script.Placement

/-!
# Labels that no block has

A connection is reported if it names a label that no entry which was put has,
once for each such end and in the order of the file. Other mistakes do not
matter, with one exception: what stands inside a block that is no container is
not put, so a label there counts as declared by nobody.
-/
namespace SpriteBlocks.Script
open Toml BlockEntry

def labelsOf (es : List BlockEntry) : List String :=
  es.filterMap fun e => e.label.map Located.value

/-- The ends of a connection that name none of the labels, the source first. -/
def ConnectionEntry.missing (known : List String) (c : ConnectionEntry) : List Finding :=
  [c.source, c.target].filterMap fun label =>
    if label.value ∈ known then none
    else some { problem := .noSuchLabel label.value, span := label.span }

def Loading.errors (loading : Loading) : List Finding :=
  match loading.result with
  | .error (.findings errors) => errors
  | _ => []

/-- What a text says as a script, and the tolerance it sets, if it has the shape of one. -/
def wellShaped? (source : String) : Option (File × Option Float) := do
  let root ← root? source
  let f ← (File.ofNode root).toOption
  let t ← (tolerance f.settings).toOption
  some (f, t)

namespace Assembly

/-- The reports of labels that no block has. -/
def missing (a : Assembly) : List Finding := a.errors.filter fun g => g.problem.isMissing

theorem missing_of_puts {a a' : Assembly} {put : List BlockEntry} (h : Puts a put a') :
    a'.missing = a.missing := by
  obtain ⟨found, heq, hfound⟩ := h.errors
  have hnone : found.filter (fun g => g.problem.isMissing) = [] :=
    List.filter_eq_nil_iff.2 fun g hg => Bool.eq_false_iff.1 (hfound g hg)
  rw [missing, heq, List.filter_append, hnone, List.append_nil, missing]

theorem missing_resolve (a : Assembly) (label : Located String) :
    (a.resolve label).1.missing = a.missing ++
      if a.labels.contains label.value then []
      else [{ problem := .noSuchLabel label.value, span := label.span }] := by
  rw [resolve, SortedMap.contains]
  cases a.labels.get? label.value with
  | some found => exact (List.append_nil _).symm
  | none => exact List.filter_append _ _

theorem missing_joinBlocks (a : Assembly) (c : ConnectionEntry) (source target : BlockId) :
    (a.joinBlocks c source target).missing = a.missing := by
  unfold joinBlocks
  dsimp only
  split
  · split <;> rfl
  · rfl
  · next error _ =>
    have hother : (refusal c.source.value c.target.value source error).isMissing = false := by
      unfold refusal
      split <;> rfl
    simp [missing, fail, hother]

theorem missing_addConnection {a : Assembly} {known : List String}
    (hknown : ∀ name, a.labels.contains name = true ↔ name ∈ known) (c : ConnectionEntry) :
    (a.addConnection c).missing = a.missing ++ c.missing known := by
  have hends : ((a.resolve c.source).1.resolve c.target).1.missing =
      a.missing ++ c.missing known := by
    rw [missing_resolve, missing_resolve, (Keeps.resolve a c.source).labels, List.append_assoc]
    simp only [hknown, ConnectionEntry.missing, List.filterMap_cons, List.filterMap_nil]
    split <;> split <;> rfl
  unfold addConnection
  dsimp only
  split
  · rw [missing_joinBlocks, hends]
  · exact hends

theorem missing_connections {a : Assembly} {known : List String}
    (hknown : ∀ name, a.labels.contains name = true ↔ name ∈ known) (cs : List ConnectionEntry) :
    (cs.foldl addConnection a).missing =
      a.missing ++ cs.flatMap (ConnectionEntry.missing known) := by
  induction cs generalizing a with
  | nil => exact (List.append_nil _).symm
  | cons c cs ih =>
    have hkept : ∀ name, (a.addConnection c).labels.contains name = true ↔ name ∈ known := by
      rwa [(Keeps.addConnection a c).labels]
    rw [List.foldl_cons, ih hkept, missing_addConnection hknown, List.append_assoc,
      List.flatMap_cons]

theorem contains_labels_of_puts {t : Option Float} {put : List BlockEntry} {a : Assembly}
    (h : Puts (start t) put a) (name : String) :
    a.labels.contains name = true ↔ name ∈ labelsOf put := by
  have hnone : (start t).labels.contains name = false := rfl
  rw [h.contains_labels, hnone, labelsOf, List.mem_filterMap]
  simp

end Assembly

/-- The mistakes of a well-shaped script are those found while it was assembled. -/
theorem errors_of_wellShaped {source : String} {f : File} {t : Option Float}
    (h : wellShaped? source = some (f, t)) :
    (load source).errors = (Assembly.ofFile t f).errors := by
  simp only [wellShaped?, Option.bind_eq_bind, Option.bind_eq_some_iff, Option.some.injEq,
    Prod.mk.injEq] at h
  obtain ⟨root, hroot, f, hfile, t, ht, rfl, rfl⟩ := h
  rw [load, hroot]
  simp only [eq_ok_of_toOption hfile, assemble, eq_ok_of_toOption ht, ofAssembly]
  by_cases hempty : (Assembly.ofFile t f).errors.isEmpty = true
  · rw [if_pos hempty, List.isEmpty_iff.1 hempty]
    rfl
  · rw [if_neg hempty]
    rfl

/-- A well-shaped script is reported to name a missing label exactly where a
connection names one that no entry which was put has. Every entry is put that is
not inside a block that is no container, as long as identities are left. -/
theorem missing_of_load {source : String} {f : File} {t : Option Float}
    (h : wellShaped? source = some (f, t)) :
    ∃ put, (load source).errors.filter (fun g => g.problem.isMissing) =
        f.connections.flatMap (ConnectionEntry.missing (labelsOf put)) ∧
      Assembly.Puts (Assembly.start t) put (Assembly.addBlocks none f.blocks (Assembly.start t)) ∧
      put.Sublist (keptIn f.blocks) ∧
      ((nodesIn f.blocks).length < UInt32.size → put = keptIn f.blocks) ∧
      ((∀ e ∈ nodesIn f.blocks, e.Contained) → keptIn f.blocks = nodesIn f.blocks) := by
  obtain ⟨put, hputs, hsub, hall⟩ :=
    Assembly.addBlocks_puts f.blocks none (Assembly.start t)
  refine ⟨put, ?_, hputs, hsub, fun hroom => hall ?_, fun hcontained => keptIn_contained ?_⟩
  · have hmissing := Assembly.missing_connections (Assembly.contains_labels_of_puts hputs)
      f.connections
    rw [Assembly.missing_of_puts hputs] at hmissing
    rw [errors_of_wellShaped h]
    exact hmissing
  · exact Assembly.accepted_addBlocks nofun (Assembly.ready_start t hroom)
  · exact fun e he => hcontained e ((keptIn_sublist f.blocks).subset he)

/-- Of a connection from a label inside a loop to one that is nowhere, the latter is reported. -/
theorem missing_of_load_nested :
    let source := "[[block]]\nopcode = \"forever\"\n" ++
      "children = [\x7b label = \"a\", opcode = \"hide\" \x7d]\n" ++
      "[[connection]]\nfrom = \"a\"\nto = \"b\"\n"
    ∃ f t, wellShaped? source = some (f, t) ∧
      ((load source).errors.filter fun g => g.problem.isMissing).map Finding.message =
        ["no block labelled " ++ ticked "b"] := by
  intro source
  have hfile : (wellShaped? source).map (fun p =>
      ((nodesIn p.1.blocks).length, labelsOf (keptIn p.1.blocks),
        (p.1.connections.flatMap (ConnectionEntry.missing ["a"])).map Finding.message)) =
      some (2, ["a"], ["no block labelled " ++ ticked "b"]) := by
    decide +kernel
  obtain ⟨⟨f, t⟩, hshape, hparts⟩ := Option.map_eq_some_iff.1 hfile
  simp only [Prod.mk.injEq] at hparts
  obtain ⟨hlength, hkept, hmessages⟩ := hparts
  obtain ⟨put, hmissing, -, -, hroom, -⟩ := missing_of_load hshape
  have hsmall : (nodesIn f.blocks).length < UInt32.size := hlength ▸ by decide
  exact ⟨f, t, hshape, by rw [hmissing, hroom hsmall, hkept, hmessages]⟩

/-- A label inside a block that is no container is declared, and yet a connection
to it is reported to name no block. -/
theorem declared_label_missing :
    let source := "[[block]]\nlabel = \"a\"\nopcode = \"move\"\n" ++
      "children = [\x7b label = \"b\", opcode = \"hide\" \x7d]\n" ++
      "[[connection]]\nfrom = \"a\"\nto = \"b\"\n"
    ∃ f t, wellShaped? source = some (f, t) ∧ labelsOf (nodesIn f.blocks) = ["a", "b"] ∧
      (load source).errors.map Finding.message =
        [ticked "move" ++ " blocks cannot contain other blocks",
          "no block labelled " ++ ticked "b"] := by
  intro source
  have hboth : (wellShaped? source).map (fun p => (labelsOf (nodesIn p.1.blocks),
      (Assembly.ofFile p.2 p.1).errors.map Finding.message)) = some (["a", "b"],
        [ticked "move" ++ " blocks cannot contain other blocks",
          "no block labelled " ++ ticked "b"]) := by
    decide +kernel
  obtain ⟨⟨f, t⟩, hshape, hpair⟩ := Option.map_eq_some_iff.1 hboth
  rw [Prod.mk.injEq, ← errors_of_wellShaped hshape] at hpair
  exact ⟨f, t, hshape, hpair⟩

end SpriteBlocks.Script
