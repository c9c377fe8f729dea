import SpriteBlocks.Script.Load

/-!
# Listings

A listing shows the blocks of a script with their labels and parameters, each
block inside another one level further in, and below them the chains.
-/
namespace SpriteBlocks.CommandLine

def labelOf? (labels : List (String × Toml.Located BlockId)) (id : BlockId) : Option String :=
  (labels.find? fun e => e.2.value = id).map (·.1)

/-- The line of one block, without what is in front of it. -/
def blockLine (label : Option String) (id : BlockId) (opcode : Opcode) (params : Parameters) :
    String :=
  id.shown ++ " " ++ opcode.tag ++ (if opcode.isHat then " (event)" else "") ++
    (label.elim "" fun l => " (" ++ l ++ ")") ++
    (if params.isEmpty then ""
      else " [" ++ ", ".intercalate (params.entries.map fun e => e.1 ++ "=" ++ e.2.shown) ++ "]")

mutual
def blockLines (labels : List (String × Toml.Located BlockId)) (front : String) :
    Block → List String
  | ⟨id, opcode, params, children⟩ =>
    (front ++ blockLine (labelOf? labels id) id opcode params) ::
      blocksLines labels (front ++ "  ") children

def blocksLines (labels : List (String × Toml.Located BlockId)) (front : String) :
    List Block → List String
  | [] => []
  | b :: bs => blockLines labels front b ++ blocksLines labels front bs
end

/-- The chains of more than one block. -/
def chains (ws : Workspace) : List (List Block) :=
  (ws.entryPoints.map fun entry => ws.chainFrom entry.id).filter fun chain => 1 < chain.length

def chainLine (chain : List Block) : String :=
  "chain: " ++ " -> ".intercalate (chain.map fun b => b.id.shown)

def listing (script : Script) : List String :=
  let chains := chains script.workspace
  blocksLines script.labels.entries "" script.workspace.blocks ++
    (if chains.isEmpty then [] else "" :: chains.map chainLine)

end SpriteBlocks.CommandLine
