import SpriteBlocks.SortedMap

/-!
# Nodes of a TOML document

A node is a value with the bytes of the source at which it stands. Tables that
a document only implies have no place of their own. `plain` forgets the places
and lists every table in the order of its keys.
-/
namespace SpriteBlocks.Toml

/-- The bytes from `start` up to but not including `stop`. -/
structure Span where
  start : Nat
  stop : Nat
deriving DecidableEq, Inhabited

structure Located (α : Type) where
  value : α
  span : Span
deriving DecidableEq, Inhabited

structure Key where
  name : String
  span : Option Span := none
deriving DecidableEq, Inhabited

inductive Node where
  | string (span : Option Span) (text : String)
  | integer (span : Option Span) (value : Int)
  | float (span : Option Span) (value : Float)
  | boolean (span : Option Span) (value : Bool)
  /-- A date, a time or both, in its usual written form. -/
  | moment (span : Option Span) (text : String)
  | array (span : Option Span) (items : List Node)
  | table (span : Option Span) (entries : List (Key × Node))
deriving Inhabited

namespace Node

def span : Node → Option Span
  | string s _ | integer s _ | float s _ | boolean s _ | moment s _ | array s _ | table s _ => s

def kind : Node → String
  | string .. => "string"
  | integer .. => "integer"
  | float .. => "float"
  | boolean .. => "boolean"
  | moment .. => "datetime"
  | array .. => "array"
  | table .. => "table"

mutual
/-- The node without places, its tables sorted by key. -/
def plain : Node → Node
  | string _ text => string none text
  | integer _ value => integer none value
  | float _ value => float none value
  | boolean _ value => boolean none value
  | moment _ text => moment none text
  | array _ items => array none (plainItems items)
  | table _ entries =>
    table none ((plainEntries entries).entries.map fun e => (⟨e.1, none⟩, e.2))

def plainItems : List Node → List Node
  | [] => []
  | n :: ns => n.plain :: plainItems ns

def plainEntries : List (Key × Node) → SortedMap String Node
  | [] => ∅
  | (key, node) :: rest => (plainEntries rest).insert key.name node.plain
end

mutual
/-- The number of levels of values, the node's own included. -/
def depth : Node → Nat
  | array _ items => depthItems items + 1
  | table _ entries => depthEntries entries + 1
  | _ => 1

def depthItems : List Node → Nat
  | [] => 0
  | n :: ns => max n.depth (depthItems ns)

def depthEntries : List (Key × Node) → Nat
  | [] => 0
  | (_, node) :: rest => max node.depth (depthEntries rest)
end

end Node
end SpriteBlocks.Toml
