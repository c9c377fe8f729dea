import SpriteBlocks.Run.Settings
import SpriteBlocks.Text.Quoted
import SpriteBlocks.Workspace.Basic

/-!
# Dumps

A dump shows everything a workspace or a set of settings holds as an indented
outline.
-/
namespace SpriteBlocks.CommandLine

inductive Outline where
  | atom (text : String)
  /-- A named value around one other. -/
  | wrapped (name : String) (inner : Outline)
  | record (name : String) (fields : List (String × Outline))
  | list (items : List Outline)
  | map (entries : List (Outline × Outline))
deriving Inhabited

namespace Outline

/-- The lines with the first of them behind a text. -/
def behind (front : String) : List String → List String
  | [] => [front]
  | l :: ls => (front ++ l) :: ls

/-- The lines with a text behind the last of them. -/
def closedBy (back : String) : List String → List String
  | [] => [back]
  | [l] => [l ++ back]
  | l :: ls => l :: closedBy back ls

def indent (lines : List String) : List String := lines.map fun l => "    " ++ l

/-- Lines between an opening and a closing one; on one line if there are none. -/
def enclosed (opening closing : String) (inner : List String) : List String :=
  if inner.isEmpty then [opening ++ closing] else opening :: indent inner ++ [closing]

mutual
def lines : Outline → List String
  | atom text => [text]
  | wrapped name inner => enclosed (name ++ "(") ")" (closedBy "," inner.lines)
  | record name fields => enclosed (name ++ " \x7b") "\x7d" (fieldLines fields)
  | list items => enclosed "[" "]" (itemLines items)
  | map entries => enclosed "\x7b" "\x7d" (entryLines entries)

def fieldLines : List (String × Outline) → List String
  | [] => []
  | (name, value) :: rest => closedBy "," (behind (name ++ ": ") value.lines) ++ fieldLines rest

def itemLines : List Outline → List String
  | [] => []
  | value :: rest => closedBy "," value.lines ++ itemLines rest

def entryLines : List (Outline × Outline) → List String
  | [] => []
  | (key, value) :: rest =>
    closedBy "," (match key.lines.reverse with
      | [] => value.lines
      | last :: front => front.reverse ++ behind (last ++ ": ") value.lines) ++ entryLines rest
end

def ofText (s : String) : Outline := atom (Text.quoted s)

def ofFloat (x : Float) : Outline := atom (Decimal.write Decimal.listed x)

def ofId (id : BlockId) : Outline := wrapped "BlockId" (atom (toString id.raw))

def ofOpcode : Opcode → Outline
  | .move => atom "Move"
  | .turnRight => atom "TurnRight"
  | .turnLeft => atom "TurnLeft"
  | .say => atom "Say"
  | .showSprite => atom "Show"
  | .hideSprite => atom "Hide"
  | .wait => atom "Wait"
  | .repeatTimes => atom "Repeat"
  | .forever => atom "Forever"
  | .ifThen => atom "If"
  | .moveTo => atom "MoveTo"
  | .glide => atom "Glide"
  | .sayCustom => atom "SayCustom"
  | .changeSize => atom "ChangeSize"
  | .whenClicked => atom "WhenClicked"
  | .whenGreenFlag => atom "WhenGreenFlag"
  | .unknown tag => wrapped "Unknown" (ofText tag)

def ofParam : ParamValue → Outline
  | .number x => wrapped "Number" (ofFloat x)
  | .text s => wrapped "Text" (ofText s)
  | .choice s => wrapped "Choice" (ofText s)

def ofParameters (params : Parameters) : Outline :=
  record "Parameters" [("values", map (params.entries.map fun e => (ofText e.1, ofParam e.2)))]

mutual
def ofBlock : Block → Outline
  | ⟨id, opcode, params, children⟩ =>
    record "Block"
      [("id", ofId id), ("opcode", ofOpcode opcode), ("params", ofParameters params),
        ("children", list (ofBlocks children))]

def ofBlocks : List Block → List Outline
  | [] => []
  | b :: bs => ofBlock b :: ofBlocks bs
end

/-- The connections in one of their two directions. -/
def ofEdges (edges : List (BlockId × BlockId)) : Outline :=
  map (edges.map fun e => (ofId e.1, ofId e.2))

def ofRegistry (r : Registry) : Outline :=
  record "ConnectionRegistry"
    [("successors", ofEdges r.successors.entries), ("predecessors", ofEdges r.predecessors.entries),
      ("tolerance", ofFloat r.tolerance)]

def ofLevel : LogLevel → Outline
  | .info => atom "Info"
  | .warning => atom "Warning"
  | .error => atom "Error"
  | .execution => atom "Execution"
  | .success => atom "Success"
  | .connection => atom "Connection"

def ofEvent (e : LogEvent) : Outline :=
  record "LogEvent" [("level", ofLevel e.level), ("message", ofText e.message)]

def ofWorkspace (ws : Workspace) : Outline :=
  record "Workspace"
    [("blocks", list (ofBlocks ws.blocks)), ("registry", ofRegistry ws.registry),
      ("next_id", atom (toString ws.lastId.raw)), ("events", list (ws.events.map ofEvent))]

def ofSettings (s : Settings) : Outline :=
  record "Settings"
    [("move_step", ofFloat s.moveStep), ("turn_degrees", ofFloat s.turnDegrees),
      ("move_settle_ms", atom (toString s.moveSettleMs)),
      ("move_to_settle_ms", atom (toString s.moveToSettleMs)),
      ("forever_pacing_ms", atom (toString s.foreverPacingMs)),
      ("say_duration_ms", atom (toString s.sayDurationMs)), ("say_text", ofText s.sayText),
      ("default_repeat", atom (toString s.defaultRepeat)),
      ("forever_log_every", atom (toString s.foreverLogEvery))]

end Outline
end SpriteBlocks.CommandLine
