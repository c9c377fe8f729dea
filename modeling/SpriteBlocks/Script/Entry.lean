import SpriteBlocks.Chain.Proximity
import SpriteBlocks.Toml.Shape

/-!
# Entries of a script

A script file lists settings, blocks and connections. An entry is what the file
says about one of them, before any of it is checked against the others.
-/
namespace SpriteBlocks.Script
open Toml

structure BlockEntry where
  label : Option (Located String) := none
  opcode : Located String := default
  params : SortedMap String (Located Node) := ∅
  children : List BlockEntry := []
deriving Inhabited

structure ConnectionEntry where
  source : Located String := default
  target : Located String := default
  /-- The gap between the blocks in pixels. -/
  distance : Option Float := none
  /-- The verdict of the host; it counts if no distance is given. -/
  adjacent : Option Bool := none
deriving Inhabited

/-- How far apart the ends of the connection are. Ends of which nothing is
known are close. -/
def ConnectionEntry.gap (e : ConnectionEntry) : Proximity :=
  match e.distance with
  | some gap => .distance gap
  | none => .adjacent (e.adjacent.getD true)

structure File where
  settings : SortedMap String Node := ∅
  blocks : List BlockEntry := []
  connections : List ConnectionEntry := []
deriving Inhabited

open RecordShape

/-- How a block entry is read, given how the entries inside it are read. -/
def blockShape (readChild : Node → Reading BlockEntry) : RecordShape BlockEntry where
  name := "BlockEntry"
  start := {}
  fields :=
    [field "label" .optional (Node.readLocated Node.readText)
        fun label e => { e with label := some label },
      field "opcode" .required (Node.readLocated Node.readText)
        fun opcode e => { e with opcode },
      field "params" .optional
        (Node.readEntries (Node.readLocated fun node => .ok node.plain))
        fun params e => { e with params := .ofList params },
      field "children" .optional (Node.readItems readChild)
        fun children e => { e with children }]

/-- A block entry with at most `depth` levels of entries inside. -/
def readBlock : Nat → Node → Reading BlockEntry
  | 0, node => node.mismatch "struct BlockEntry"
  | depth + 1, node => (blockShape (readBlock depth)).read node

def connectionShape : RecordShape ConnectionEntry where
  name := "ConnectionEntry"
  start := {}
  fields :=
    [field "from" .required (Node.readLocated Node.readText) fun source e => { e with source },
      field "to" .required (Node.readLocated Node.readText) fun target e => { e with target },
      field "distance" .optional Node.readFloat fun gap e => { e with distance := some gap },
      field "adjacent" .optional Node.readBoolean
        fun verdict e => { e with adjacent := some verdict }]

def readSettings (node : Node) : Reading (SortedMap String Node) :=
  match node.entries? with
  | some entries => .ok (Node.plainEntries entries)
  | none => node.mismatch "a map"

/-- How a script file is read; its blocks have at most `depth` levels. -/
def fileShape (depth : Nat) : RecordShape File where
  name := "File"
  start := {}
  fields :=
    [field "settings" .optional readSettings fun settings f => { f with settings },
      field "block" .optional (Node.readItems (readBlock depth)) fun blocks f => { f with blocks },
      field "connection" .optional (Node.readItems connectionShape.read)
        fun connections f => { f with connections }]

def File.ofNode (root : Node) : Reading File := (fileShape root.depth).read root

end SpriteBlocks.Script
