import SpriteBlocks.Workspace.Basic

/-!
# Edits

An edit is one call on a workspace, with its arguments. A history of a
workspace is a list of edits.
-/
namespace SpriteBlocks

inductive Edit where
  | add (opcode : Opcode) (params : Parameters)
  | addChild (container : BlockId) (opcode : Opcode) (params : Parameters)
  | duplicate (block : BlockId)
  | remove (block : BlockId)
  | setParam (block : BlockId) (name : String) (value : ParamValue)
  | nest (child container : BlockId)
  | connect (source target : BlockId) (gap : Proximity)
  | disconnect (block : BlockId)
  | takeEvents

namespace Edit

inductive Result where
  | created (block : BlockId)
  | copied (block : Option BlockId)
  | removed (block : Option Block)
  | done
  | connected (verdict : Bool)
  | disconnected (next : Option BlockId)
  | events (log : Log)
  | refused (error : WorkspaceError)

def Result.ofExcept {α : Type} (f : α → Result) : Except WorkspaceError α → Result
  | .ok a => f a
  | .error e => .refused e

def apply (ws : Workspace) : Edit → Workspace × Result
  | add opcode params => let (ws', id) := ws.add opcode params; (ws', .created id)
  | addChild container opcode params =>
    let (ws', r) := ws.addChild container opcode params
    (ws', .ofExcept .created r)
  | duplicate block => let (ws', r) := ws.duplicate block; (ws', .copied r)
  | remove block => let (ws', r) := ws.remove block; (ws', .removed r)
  | setParam block name value =>
    let (ws', r) := ws.setParam block name value
    (ws', .ofExcept (fun _ => .done) r)
  | nest child container =>
    let (ws', r) := ws.nest child container
    (ws', .ofExcept (fun _ => .done) r)
  | connect source target gap =>
    let (ws', r) := ws.connect source target gap
    (ws', .ofExcept .connected r)
  | disconnect block => let (ws', r) := ws.disconnect block; (ws', .disconnected r)
  | takeEvents => let (ws', log) := ws.takeEvents; (ws', .events log)

def applyAll (ws : Workspace) : List Edit → Workspace
  | [] => ws
  | e :: es => applyAll (e.apply ws).1 es

end Edit
end SpriteBlocks
