import SpriteBlocks.Proofs.Chain.Rewiring
import SpriteBlocks.Proofs.Workspace.Conservation

/-!
# What edits tell

A connection that is made, one that is dropped and a block that is deleted are
told of, each in one line; no other edit and no refused one is. The words for a
block are those of its kind, since the ends of every edge stand at the top
level, also while the edge goes. The lines wait until they are taken: the
batches that were handed out and what is still waiting are the lines of all
edits in order.
-/
namespace SpriteBlocks

namespace Edit

def Result.isTold : Result → Bool
  | connected true => true
  | disconnected (some _) => true
  | removed (some _) => true
  | _ => false

/-- What an edit tells when it hands back a result. -/
inductive Tells (ws : Workspace) : Edit → Result → Log → Prop
  | connected {source target : BlockId} {gap : Proximity} {a b : Block}
    (ha : a ∈ ws.blocks ∧ ws.get? source = some a) (hb : b ∈ ws.blocks ∧ ws.get? target = some b) :
    Tells ws (.connect source target gap) (.connected true)
      [⟨.connection, "connected: " ++ a.opcode.description ++ " -> " ++ b.opcode.description⟩]
  | disconnected {id next : BlockId} {a b : Block}
    (ha : a ∈ ws.blocks ∧ ws.get? id = some a) (hb : b ∈ ws.blocks ∧ ws.get? next = some b) :
    Tells ws (.disconnect id) (.disconnected (some next))
      [⟨.warning, "disconnected: " ++ a.opcode.description ++ " -> " ++ b.opcode.description⟩]
  | removed {id : BlockId} {a : Block} (ha : ws.get? id = some a) :
    Tells ws (.remove id) (.removed (some a)) [⟨.warning, "deleted: " ++ a.opcode.description⟩]
  | silent {e : Edit} {r : Result} (h : r.isTold = false) : Tells ws e r []

/-- What a history tells, in the order of its edits. -/
inductive TellsAll : Workspace → List Edit → Log → Prop
  | nil (ws : Workspace) : TellsAll ws [] []
  | cons {ws : Workspace} {e : Edit} {es : List Edit} {log rest : Log} :
    Tells ws e (e.apply ws).2 log → TellsAll (e.apply ws).1 es rest →
      TellsAll ws (e :: es) (log ++ rest)

def Result.batch : Result → Log
  | events log => log
  | _ => []

def results (ws : Workspace) : List Edit → List Result
  | [] => []
  | e :: es => (e.apply ws).2 :: results (e.apply ws).1 es

theorem Tells.unique {ws : Workspace} {e : Edit} {r : Result} {log log' : Log}
    (h : Tells ws e r log) (h' : Tells ws e r log') : log = log' := by
  cases h with
  | connected ha hb =>
    cases h' with
    | connected ha' hb' =>
      obtain rfl := Option.some.inj (ha.2.symm.trans ha'.2)
      obtain rfl := Option.some.inj (hb.2.symm.trans hb'.2)
      rfl
    | silent h => cases h
  | disconnected ha hb =>
    cases h' with
    | disconnected ha' hb' =>
      obtain rfl := Option.some.inj (ha.2.symm.trans ha'.2)
      obtain rfl := Option.some.inj (hb.2.symm.trans hb'.2)
      rfl
    | silent h => cases h
  | removed ha =>
    cases h' with
    | removed ha' => rfl
    | silent h => cases h
  | silent h =>
    cases h' with
    | silent _ => rfl
    | _ => cases h

theorem TellsAll.unique {ws : Workspace} {es : List Edit} {log log' : Log}
    (h : TellsAll ws es log) (h' : TellsAll ws es log') : log = log' := by
  induction h generalizing log' with
  | nil => cases h'; rfl
  | cons hfirst _ ih =>
    cases h' with
    | cons hfirst' hrest' => rw [hfirst.unique hfirst', ih hrest']

end Edit

namespace Workspace
variable {ws ws' : Workspace}

theorem events_putInside {id : BlockId} {child : Block} (h : ws.putInside id child = .ok ws') :
    ws'.events = ws.events := by
  obtain ⟨_, _, -, -, -, rfl⟩ := putInside_eq_ok h
  rfl

theorem events_addChild (ws : Workspace) (container : BlockId) (opcode : Opcode)
    (params : Parameters) : (ws.addChild container opcode params).1.events = ws.events := by
  unfold addChild
  split
  · rfl
  · dsimp only
    split
    · next hput =>
      have hevents := events_putInside hput
      exact hevents
    · rfl

theorem events_duplicate (ws : Workspace) (id : BlockId) :
    (ws.duplicate id).1.events = ws.events := by
  unfold duplicate
  split <;> rfl

theorem events_setParam (ws : Workspace) (id : BlockId) (name : String) (value : ParamValue) :
    (ws.setParam id name value).1.events = ws.events := by
  unfold setParam
  split <;> rfl

theorem events_nest (ws : Workspace) (child container : BlockId) :
    (ws.nest child container).1.events = ws.events := by
  cases hnest : ws.nest child container with
  | mk ws' r =>
    cases r with
    | error e =>
      have hsame := nest_of_error (congrArg Prod.snd hnest)
      rw [hnest] at hsame
      exact congrArg events hsame
    | ok u =>
      obtain ⟨_, _, -, -, hput⟩ := nest_eq_ok hnest
      have hevents := events_putInside hput
      exact hevents

theorem describe_of_get? {id : BlockId} {b : Block} (h : ws.get? id = some b) :
    ws.describe id = b.opcode.description := by
  rw [describe, h]
  rfl

/-- What a connection that goes leaves: the blocks, and one more line. -/
theorem disconnect_of_some {id next : BlockId} (h : (ws.disconnect id).2 = some next) :
    ws.registry.Leads id next ∧ (ws.disconnect id).1.events = ws.events ++
      [⟨.warning, "disconnected: " ++ ws.describe id ++ " -> " ++ ws.describe next⟩] := by
  have hnext := Registry.snd_disconnect ws.registry id
  unfold disconnect at h ⊢
  split at h
  · cases h
  · next registry next' hreg =>
    rw [hreg] at hnext
    cases h
    exact ⟨hnext.symm, rfl⟩

namespace Sound
variable (h : ws.Sound)
include h

theorem exists_top {id : BlockId} (hid : id ∈ ws.topIds) :
    ∃ b, b ∈ ws.blocks ∧ ws.get? id = some b := by
  obtain ⟨b, hb, rfl⟩ := List.mem_map.1 hid
  exact ⟨b, hb, (Block.findIn?_eq_some_iff h.distinct).2 ⟨Block.mem_nodesIn_of_mem hb, rfl⟩⟩

theorem tells_connect (source target : BlockId) (gap : Proximity) :
    ∃ log, Edit.Tells ws (.connect source target gap)
        ((Edit.connect source target gap).apply ws).2 log ∧
      (ws.connect source target gap).1.events = ws.events ++ log := by
  by_cases hmade : (ws.connect source target gap).2 = .ok true
  · have htop : source ∈ ws.topIds ∧ target ∈ ws.topIds := by
      unfold Workspace.connect at hmade
      split at hmade
      · cases hmade
      · cases hmade
      · next hsource htarget =>
        exact ⟨mem_topIds_of_topLevel hsource, mem_topIds_of_topLevel htarget⟩
    obtain ⟨a, ha⟩ := h.exists_top htop.1
    obtain ⟨b, hb⟩ := h.exists_top htop.2
    refine ⟨_, ?_, (connect_of_ok hmade).2.2⟩
    simp only [Edit.apply, hmade, Edit.Result.ofExcept, if_true, describe_of_get? ha.2,
      describe_of_get? hb.2]
    exact .connected ha hb
  · refine ⟨[], .silent ?_, ?_⟩
    · simp only [Edit.apply]
      cases hres : (ws.connect source target gap).2 with
      | error e => rfl
      | ok made =>
        cases made with
        | false => rfl
        | true => exact absurd hres hmade
    · rw [connect_of_not_made hmade, List.append_nil]

theorem tells_disconnect (id : BlockId) :
    ∃ log, Edit.Tells ws (.disconnect id) ((Edit.disconnect id).apply ws).2 log ∧
      (ws.disconnect id).1.events = ws.events ++ log := by
  cases hres : (ws.disconnect id).2 with
  | none =>
    refine ⟨[], .silent ?_, ?_⟩
    · simp only [Edit.apply, hres]
      rfl
    · rw [disconnect_of_none hres, List.append_nil]
  | some next =>
    obtain ⟨hleads, hevents⟩ := disconnect_of_some hres
    obtain ⟨hid, hnext⟩ := h.chained id next hleads
    obtain ⟨a, ha⟩ := h.exists_top hid
    obtain ⟨b, hb⟩ := h.exists_top hnext
    refine ⟨_, ?_, hevents⟩
    simp only [Edit.apply, hres, describe_of_get? ha.2, describe_of_get? hb.2]
    exact .disconnected ha hb

theorem tells_remove (id : BlockId) :
    ∃ log, Edit.Tells ws (.remove id) ((Edit.remove id).apply ws).2 log ∧
      (ws.remove id).1.events = ws.events ++ log := by
  cases hremove : ws.remove id with
  | mk ws' r =>
    cases r with
    | none =>
      have hsame := remove_of_none (congrArg Prod.snd hremove)
      rw [hremove] at hsame
      refine ⟨[], .silent ?_, ?_⟩
      · simp only [Edit.apply, hremove]
        rfl
      · exact (congrArg events hsame).trans (List.append_nil _).symm
    | some b =>
      obtain ⟨hblock, -, -, -, -, -, -, -, htold⟩ := h.removed hremove
      refine ⟨_, ?_, htold⟩
      simp only [Edit.apply, hremove]
      exact .removed hblock

/-- What an edit hands over and what waits behind it are what waited before it
and what it tells. -/
theorem tells_apply (e : Edit) : ∃ log, Edit.Tells ws e (e.apply ws).2 log ∧
    (e.apply ws).2.batch ++ (e.apply ws).1.events = ws.events ++ log := by
  -- Most edits hand over nothing; those of them that tell nothing leave what waits.
  have hquiet {e : Edit} (hbatch : (e.apply ws).2.batch = [])
      (htold : (e.apply ws).2.isTold = false) (hevents : (e.apply ws).1.events = ws.events) :
      ∃ log, Edit.Tells ws e (e.apply ws).2 log ∧
        (e.apply ws).2.batch ++ (e.apply ws).1.events = ws.events ++ log :=
    ⟨[], .silent htold, by rw [hbatch, hevents, List.nil_append, List.append_nil]⟩
  cases e with
  | add opcode params => exact hquiet rfl rfl rfl
  | addChild container opcode params =>
    refine hquiet ?_ ?_ (ws.events_addChild container opcode params) <;>
      simp only [Edit.apply] <;> cases (ws.addChild container opcode params).2 <;> rfl
  | duplicate id => exact hquiet rfl rfl (ws.events_duplicate id)
  | setParam id name value =>
    refine hquiet ?_ ?_ (ws.events_setParam id name value) <;>
      simp only [Edit.apply] <;> cases (ws.setParam id name value).2 <;> rfl
  | nest child container =>
    refine hquiet ?_ ?_ (ws.events_nest child container) <;>
      simp only [Edit.apply] <;> cases (ws.nest child container).2 <;> rfl
  | remove id =>
    obtain ⟨log, htells, hevents⟩ := h.tells_remove id
    exact ⟨log, htells, hevents⟩
  | connect source target gap =>
    obtain ⟨log, htells, hevents⟩ := h.tells_connect source target gap
    have hbatch : ((Edit.connect source target gap).apply ws).2.batch = [] := by
      simp only [Edit.apply]
      cases (ws.connect source target gap).2 <;> rfl
    exact ⟨log, htells, by rw [hbatch, List.nil_append]; exact hevents⟩
  | disconnect id =>
    obtain ⟨log, htells, hevents⟩ := h.tells_disconnect id
    exact ⟨log, htells, hevents⟩
  | takeEvents => exact ⟨[], .silent rfl, rfl⟩

/-- What a history hands over and what waits at its end are what waited at its
start and what it tells. -/
theorem tells_applyAll (es : List Edit)
    (hroom : ws.lastId.raw.toNat + Edit.allocatedAll ws es < UInt32.size) :
    ∃ log, Edit.TellsAll ws es log ∧
      (Edit.results ws es).flatMap Edit.Result.batch ++ (Edit.applyAll ws es).events =
        ws.events ++ log := by
  induction es generalizing ws with
  | nil => exact ⟨[], .nil ws, (List.append_nil _).symm⟩
  | cons e es ih =>
    rw [Edit.allocatedAll] at hroom
    obtain ⟨hsound, hlast⟩ := h.apply e (by omega)
    obtain ⟨log, htells, hevents⟩ := h.tells_apply e
    obtain ⟨rest, htellsAll, hrest⟩ := ih hsound (by omega)
    refine ⟨log ++ rest, .cons htells htellsAll, ?_⟩
    rw [Edit.results, Edit.applyAll, List.flatMap_cons, List.append_assoc, hrest,
      ← List.append_assoc, hevents, List.append_assoc]

end Sound

/-- The lines that a history hands over and those that still wait at its end are
the lines that its edits tell, each once and in order, if it hands out fewer
than `2 ^ 32` identities. -/
theorem told_once_of_history (tolerance : Float) (es : List Edit)
    (hroom : Edit.allocatedAll (empty tolerance) es < UInt32.size) (log : Log) :
    Edit.TellsAll (empty tolerance) es log ↔
      (Edit.results (empty tolerance) es).flatMap Edit.Result.batch ++
        (Edit.applyAll (empty tolerance) es).events = log := by
  have hempty : (empty tolerance).lastId.raw.toNat = 0 := rfl
  obtain ⟨told, htells, hevents⟩ := (sound_empty tolerance).tells_applyAll es (by omega)
  have hwaiting : (empty tolerance).events ++ told = told := rfl
  rw [hevents, hwaiting]
  exact ⟨htells.unique, fun h => h ▸ htells⟩

/-- A connection that is made and taken, one that is too far, one that goes and is gone, and a
block that is deleted inside a loop. -/
theorem told_once_of_history_taken :
    let es : List Edit := [.add .whenGreenFlag ∅, .add .repeatTimes ∅, .addChild ⟨2⟩ .move ∅,
      .connect ⟨1⟩ ⟨2⟩ (.adjacent true), .takeEvents, .connect ⟨1⟩ ⟨2⟩ (.adjacent false),
      .disconnect ⟨1⟩, .disconnect ⟨1⟩, .remove ⟨3⟩]
    let made : LogEvent := ⟨.connection, "connected: when green flag block -> repeat block"⟩
    let gone : LogEvent := ⟨.warning, "disconnected: when green flag block -> repeat block"⟩
    let deleted : LogEvent := ⟨.warning, "deleted: move block"⟩
    Edit.allocatedAll (empty 20.0) es < UInt32.size ∧
      (Edit.results (empty 20.0) es).flatMap Edit.Result.batch = [made] ∧
      (Edit.applyAll (empty 20.0) es).events = [gone, deleted] ∧
      Edit.TellsAll (empty 20.0) es [made, gone, deleted] := by
  intro es made gone deleted
  have hroom : Edit.allocatedAll (empty 20.0) es < UInt32.size := by decide
  have htaken : (Edit.results (empty 20.0) es).flatMap Edit.Result.batch = [made] := by
    decide +kernel
  have hwaiting : (Edit.applyAll (empty 20.0) es).events = [gone, deleted] := by decide +kernel
  refine ⟨hroom, htaken, hwaiting, (told_once_of_history 20.0 es hroom _).2 ?_⟩
  rw [htaken, hwaiting]
  rfl

end Workspace
end SpriteBlocks
