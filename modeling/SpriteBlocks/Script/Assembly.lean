import SpriteBlocks.Run.Effect
import SpriteBlocks.Script.Entry
import SpriteBlocks.Script.Problem

/-!
# Assembling a workspace

The entries of a script are put into a workspace one after the other: every
block with the blocks inside it, then every connection. A mistake is noted and
assembling goes on, so that all mistakes of a script are found at once.
-/
namespace SpriteBlocks.Script
open Toml

structure Assembly where
  workspace : Workspace
  /-- The block of each label, and where the label stands. -/
  labels : SortedMap String (Located BlockId) := ∅
  warnings : List Finding := []
  errors : List Finding := []
  notes : List Note := []
deriving Inhabited

namespace Assembly

def warn (a : Assembly) (f : Finding) : Assembly := { a with warnings := a.warnings ++ [f] }

def fail (a : Assembly) (f : Finding) : Assembly := { a with errors := a.errors ++ [f] }

def note (a : Assembly) (n : Note) : Assembly := { a with notes := a.notes ++ [n] }

/-- The value for the slot with a name, and what is to be warned of. There is
no value if a slot cannot hold the node. -/
def slotValue (name : String) (node : Node) : Option ParamValue × Option Problem :=
  match node with
  | .integer _ n => (some (.number (Float.ofInt n)), none)
  | .float _ x => (some (.number x), none)
  | .string _ s =>
    if name = "condition" then
      (some (.choice s),
        if Condition.ofChoice s = .always ∧ Text.trim s ≠ "always" then some (.unknownCondition s)
        else none)
    else (some (.text s), none)
  | other => (none, some (.unusableParameter name other))

def addSlots : List (String × Located Node) → Parameters → Assembly → Parameters × Assembly
  | [], params, a => (params, a)
  | (name, node) :: rest, params, a =>
    let (value, problem) := slotValue name node.value
    addSlots rest
      (match value with
        | some v => params.insert name v
        | none => params)
      (match problem with
        | some p => a.warn { problem := p, span := node.span }
        | none => a)

/-- Put a block without the blocks inside it. -/
def place (a : Assembly) (parent : Option BlockId) (opcode : Opcode) (params : Parameters) :
    Assembly × Except WorkspaceError BlockId :=
  match parent with
  | none =>
    let (workspace, id) := a.workspace.add opcode params
    ({ a with workspace }.note (.added id opcode), .ok id)
  | some container =>
    let (workspace, result) := a.workspace.addChild container opcode params
    ({ a with workspace }, result)

/-- Let a label name a block, unless it names another one already. -/
def addLabel (a : Assembly) (label : Located String) (id : BlockId) : Assembly :=
  match a.labels.get? label.value with
  | some first =>
    a.fail { problem := .duplicateLabel label.value, span := label.span, related := first.span }
  | none => { a with labels := a.labels.insert label.value ⟨id, label.span⟩ }

/-- The checks on an opcode and on whether there are blocks inside. -/
def checkOpcode (a : Assembly) (opcode : Opcode) (span : Span) (hasChildren : Bool) : Assembly :=
  let a :=
    match opcode with
    | .unknown tag => a.warn { problem := .unknownOpcode tag, span }
    | _ => a
  if hasChildren && !opcode.isContainer then a.fail { problem := .cannotContain opcode, span }
  else a

mutual
/-- Put a block with everything inside it. Blocks inside a block that is no
container are left out. -/
def addBlock (parent : Option BlockId) : BlockEntry → Assembly → Assembly
  | ⟨label, tag, slots, children⟩, a =>
    let opcode := Opcode.ofTag tag.value
    let (params, a) :=
      addSlots slots.entries ∅ (a.checkOpcode opcode tag.span !children.isEmpty)
    match a.place parent opcode params with
    | (a, .error error) => a.fail { problem := .refused error, span := tag.span }
    | (a, .ok id) =>
      let a :=
        match label with
        | some label => a.addLabel label id
        | none => a
      if opcode.isContainer then addBlocks (some id) children a else a

def addBlocks (parent : Option BlockId) : List BlockEntry → Assembly → Assembly
  | [], a => a
  | e :: es, a => addBlocks parent es (addBlock parent e a)
end

def resolve (a : Assembly) (label : Located String) : Assembly × Option BlockId :=
  match a.labels.get? label.value with
  | some found => (a, some found.value)
  | none => (a.fail { problem := .noSuchLabel label.value, span := label.span }, none)

def refusal (source target : String) (sourceId : BlockId) : WorkspaceError → Problem
  | .connect (.wouldCycle _ _) => .cycle source target
  | .connect (.selfConnection _) => .selfConnection source
  | .notTopLevel id => .insideContainer (if id = sourceId then source else target)
  | other => .refused other

def joinBlocks (a : Assembly) (e : ConnectionEntry) (source target : BlockId) : Assembly :=
  let before := a.workspace.registry
  match a.workspace.connect source target e.gap with
  | (workspace, .ok true) =>
    let a := { a with workspace }
    let a :=
      match before.displaced source target with
      | some previous => a.note (.displaced target previous)
      | none => a
    a.note (.connected source target)
  | (workspace, .ok false) =>
    ({ a with workspace }.note (.tooFar source target e.gap)).warn
      { problem := .tooFar e.source.value e.target.value before.tolerance,
        span := e.target.span, related := e.source.span }
  | (workspace, .error error) =>
    { a with workspace }.fail
      { problem := refusal e.source.value e.target.value source error,
        span := e.target.span, related := e.source.span }

/-- Make the connection that an entry asks for. Both ends are looked up before
either may be found missing. -/
def addConnection (a : Assembly) (e : ConnectionEntry) : Assembly :=
  let (a, source) := a.resolve e.source
  let (a, target) := a.resolve e.target
  match source, target with
  | some source, some target => a.joinBlocks e source target
  | _, _ => a

def ofFile (tolerance : Option Float) (f : File) : Assembly :=
  f.connections.foldl addConnection
    (addBlocks none f.blocks { workspace := .empty (tolerance.getD Registry.defaultTolerance) })

end Assembly
end SpriteBlocks.Script
