import SpriteBlocks.Block.Tree
import SpriteBlocks.Chain.Registry
import SpriteBlocks.Log.Event

/-!
# The workspace

A workspace holds the blocks of a program. Top-level blocks stand in insertion
order and may be chained; other blocks live inside containers. Every edit
returns the workspace after it together with its result, so that a refused edit
shows what it left behind.
-/
namespace SpriteBlocks

inductive WorkspaceError where
  | unknownBlock (block : BlockId)
  | notTopLevel (block : BlockId)
  | notAContainer (block : BlockId)
  | nestingCycle (child container : BlockId)
  | connect (error : ConnectError)
deriving DecidableEq, Inhabited

namespace WorkspaceError

def message : WorkspaceError → String
  | unknownBlock block => "no block " ++ block.shown ++ " in the workspace"
  | notTopLevel block =>
    "block " ++ block.shown ++ " is inside a container and cannot be chained"
  | notAContainer block => "block " ++ block.shown ++ " is not a container"
  | nestingCycle child container =>
    "block " ++ child.shown ++ " cannot be placed inside itself (" ++ container.shown ++ ")"
  | connect error => error.message

end WorkspaceError

/-- The blocks of a program, their connections and the edits not yet reported. -/
structure Workspace where
  blocks : List Block
  registry : Registry
  /-- The identity handed out last. -/
  lastId : BlockId
  /-- Log events of edits that the host has not taken yet. -/
  events : Log
deriving Inhabited

namespace Workspace

def empty (tolerance : Float := Registry.defaultTolerance) : Workspace :=
  ⟨[], Registry.empty tolerance, ⟨0⟩, []⟩

/-- The block with the identity, at any depth. -/
def get? (ws : Workspace) (id : BlockId) : Option Block := Block.findIn? id ws.blocks

def container (ws : Workspace) (id : BlockId) : Except WorkspaceError Block :=
  match ws.get? id with
  | none => .error (.unknownBlock id)
  | some b => if b.isContainer then .ok b else .error (.notAContainer id)

def topLevel (ws : Workspace) (id : BlockId) : Except WorkspaceError Block :=
  match ws.blocks.find? fun b => b.id = id with
  | some b => .ok b
  | none => .error (if (ws.get? id).isSome then .notTopLevel id else .unknownBlock id)

def describe (ws : Workspace) (id : BlockId) : String :=
  ((ws.get? id).map fun b => b.opcode.description).getD "unknown block"

def notify (ws : Workspace) (level : LogLevel) (message : String) : Workspace :=
  { ws with events := ws.events ++ [⟨level, message⟩] }

/-- Put a block behind the others inside a container. -/
def putInside (ws : Workspace) (id : BlockId) (child : Block) : Except WorkspaceError Workspace :=
  match ws.container id with
  | .error e => .error e
  | .ok _ =>
    match Block.modifyIn? id (Block.withChild child) ws.blocks with
    | some blocks => .ok { ws with blocks }
    | none => .error (.unknownBlock id)

/-- Put a new block at the end of the top level. -/
def add (ws : Workspace) (opcode : Opcode) (params : Parameters) : Workspace × BlockId :=
  let id := ws.lastId.next
  ({ ws with blocks := ws.blocks ++ [Block.leaf id opcode params], lastId := id }, id)

/-- Put a new block behind the others inside a container. -/
def addChild (ws : Workspace) (container : BlockId) (opcode : Opcode) (params : Parameters) :
    Workspace × Except WorkspaceError BlockId :=
  match ws.container container with
  | .error e => (ws, .error e)
  | .ok _ =>
    let id := ws.lastId.next
    let counted := { ws with lastId := id }
    match counted.putInside container (Block.leaf id opcode params) with
    | .ok ws' => (ws', .ok id)
    | .error e => (counted, .error e)

/-- Copy a block with everything inside it to the end of the top level. -/
def duplicate (ws : Workspace) (id : BlockId) : Workspace × Option BlockId :=
  match ws.get? id with
  | none => (ws, none)
  | some b =>
    let (copy, last) := b.renumber ws.lastId
    ({ ws with blocks := ws.blocks ++ [copy], lastId := last }, some copy.id)

def remove (ws : Workspace) (id : BlockId) : Workspace × Option Block :=
  let cut := match Block.takeFirst? id ws.blocks with
    | some (b, rest) => some (b, { ws with registry := ws.registry.detach id, blocks := rest })
    | none => (Block.takeInside? id ws.blocks).map fun (b, blocks) => (b, { ws with blocks })
  match cut with
  | none => (ws, none)
  | some (b, ws') => (ws'.notify .warning ("deleted: " ++ b.opcode.description), some b)

def setParam (ws : Workspace) (id : BlockId) (name : String) (value : ParamValue) :
    Workspace × Except WorkspaceError Unit :=
  match Block.modifyIn? id (Block.withParam name value) ws.blocks with
  | none => (ws, .error (.unknownBlock id))
  | some blocks => ({ ws with blocks }, .ok ())

/-- Move a top-level block with everything inside it into a container, behind
the blocks there. Its connections are dropped. -/
def nest (ws : Workspace) (child container : BlockId) : Workspace × Except WorkspaceError Unit :=
  match ws.topLevel child with
  | .error e => (ws, .error e)
  | .ok b =>
    if (b.find? container).isSome then (ws, .error (.nestingCycle child container))
    else
      match ws.container container with
      | .error e => (ws, .error e)
      | .ok _ =>
        match Block.takeFirst? child ws.blocks with
        | none => (ws, .error (.unknownBlock child))
        | some (b, rest) =>
          let cut := { ws with registry := ws.registry.detach child, blocks := rest }
          match cut.putInside container b with
          | .ok ws' => (ws', .ok ())
          | .error e => (cut, .error e)

/-- Let `target` follow `source` if they are close enough; tells whether they
were. -/
def connect (ws : Workspace) (source target : BlockId) (gap : Proximity) :
    Workspace × Except WorkspaceError Bool :=
  match ws.topLevel source, ws.topLevel target with
  | .error e, _ => (ws, .error e)
  | .ok _, .error e => (ws, .error e)
  | .ok _, .ok _ =>
    if ws.registry.canConnect gap then
      match ws.registry.connect source target with
      | (registry, .ok _) =>
        let ws' := { ws with registry }
        (ws'.notify .connection
          ("connected: " ++ ws'.describe source ++ " -> " ++ ws'.describe target), .ok true)
      | (registry, .error e) => ({ ws with registry }, .error (.connect e))
    else (ws, .ok false)

/-- Drop the connection out of a block; hands back the block it led to. -/
def disconnect (ws : Workspace) (id : BlockId) : Workspace × Option BlockId :=
  match ws.registry.disconnect id with
  | (_, none) => (ws, none)
  | (registry, some next) =>
    let ws' := { ws with registry }
    (ws'.notify .warning ("disconnected: " ++ ws'.describe id ++ " -> " ++ ws'.describe next),
      some next)

/-- Hand over the events of the edits since the last call. -/
def takeEvents (ws : Workspace) : Workspace × Log := ({ ws with events := [] }, ws.events)

/-- Top-level blocks that no other block leads to. Each starts a chain. -/
def entryPoints (ws : Workspace) : List Block :=
  ws.blocks.filter fun b => !ws.registry.isSuccessor b.id

def chainFrom (ws : Workspace) (start : BlockId) : List Block :=
  (ws.registry.chainFrom start).filterMap fun id => ws.blocks.find? fun b => b.id = id

def length (ws : Workspace) : Nat := ws.blocks.length

def isEmpty (ws : Workspace) : Bool := ws.blocks.isEmpty

def blockCount (ws : Workspace) : Nat := Block.sizeIn ws.blocks

end Workspace
end SpriteBlocks
