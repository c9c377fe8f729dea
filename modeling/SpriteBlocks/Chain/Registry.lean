import SpriteBlocks.SortedMap
import SpriteBlocks.Block.Id
import SpriteBlocks.Chain.Proximity

/-!
# The connection registry

The registry records which block runs right after which. A block has at most
one successor and at most one predecessor, and a connection that would close a
cycle is refused, so that every chain is a list. Edges are kept in both
directions; the operations keep the two maps in agreement.
-/
namespace SpriteBlocks

inductive ConnectError where
  | selfConnection (block : BlockId)
  | wouldCycle (source target : BlockId)
deriving DecidableEq, Inhabited

namespace ConnectError

def message : ConnectError → String
  | selfConnection block => "block " ++ block.shown ++ " cannot follow itself"
  | wouldCycle source target =>
    "connecting " ++ source.shown ++ " -> " ++ target.shown ++ " would form a cycle"

end ConnectError

/-- The edges between blocks, and the distance below which blocks connect. -/
structure Registry where
  successors : SortedMap BlockId BlockId
  predecessors : SortedMap BlockId BlockId
  tolerance : Float
deriving DecidableEq

namespace Registry

def defaultTolerance : Float := 20.0

def empty (tolerance : Float := defaultTolerance) : Registry := ⟨∅, ∅, tolerance⟩

instance : Inhabited Registry := ⟨empty⟩

def canConnect (r : Registry) (p : Proximity) : Bool := p.within r.tolerance

def successor (r : Registry) (b : BlockId) : Option BlockId := r.successors.get? b

def predecessor (r : Registry) (b : BlockId) : Option BlockId := r.predecessors.get? b

def isSuccessor (r : Registry) (b : BlockId) : Bool := r.predecessors.contains b

/-- The blocks after `current` that have not been seen, at most as many as the
fuel says. -/
def walk (next : BlockId → Option BlockId) : Nat → List BlockId → BlockId → List BlockId
  | 0, _, _ => []
  | fuel + 1, seen, current =>
    match next current with
    | none => []
    | some b => if b ∈ seen then [] else b :: walk next fuel (b :: seen) b

/-- The chain from a block on, up to the first block that occurs a second time.
Every step leaves a block that has an edge and was not left before, so the
number of edges bounds the walk. -/
def chainFrom (r : Registry) (start : BlockId) : List BlockId :=
  start :: walk r.successor r.successors.size [start] start

/-- The registry without the edge out of a block, and the block it led to. -/
def disconnect (r : Registry) (b : BlockId) : Registry × Option BlockId :=
  match r.successor b with
  | none => (r, none)
  | some next =>
    ({ r with successors := r.successors.erase b, predecessors := r.predecessors.erase next },
      some next)

def dropIncoming (r : Registry) (b : BlockId) : Registry :=
  match r.predecessor b with
  | none => r
  | some pred =>
    { r with predecessors := r.predecessors.erase b, successors := r.successors.erase pred }

/-- The registry without the edges that touch a block. -/
def detach (r : Registry) (b : BlockId) : Registry := (r.disconnect b).1.dropIncoming b

/-- Let `target` follow `source`, instead of the successor that `source` had
and the predecessor that `target` had. The old successor is handed back. -/
def connect (r : Registry) (source target : BlockId) :
    Registry × Except ConnectError (Option BlockId) :=
  if source = target then (r, .error (.selfConnection source))
  else if source ∈ r.chainFrom target then (r, .error (.wouldCycle source target))
  else
    let (cut, previous) := r.disconnect source
    let cut := cut.dropIncoming target
    ({ cut with
        successors := cut.successors.insert source target
        predecessors := cut.predecessors.insert target source },
      .ok previous)

/-- The predecessor that `target` loses when it is connected after `source`. -/
def displaced (r : Registry) (source target : BlockId) : Option BlockId :=
  (r.disconnect source).1.predecessor target

/-- All edges in the order of their sources. -/
def edges (r : Registry) : List (BlockId × BlockId) := r.successors.entries

def size (r : Registry) : Nat := r.successors.size

def isEmpty (r : Registry) : Bool := r.successors.isEmpty

@[simp] theorem tolerance_disconnect (r : Registry) (b : BlockId) :
    (r.disconnect b).1.tolerance = r.tolerance := by
  unfold disconnect; split <;> rfl

@[simp] theorem tolerance_dropIncoming (r : Registry) (b : BlockId) :
    (r.dropIncoming b).tolerance = r.tolerance := by
  unfold dropIncoming; split <;> rfl

@[simp] theorem tolerance_connect (r : Registry) (source target : BlockId) :
    (r.connect source target).1.tolerance = r.tolerance := by
  unfold connect; split
  · rfl
  · split <;> simp

end Registry
end SpriteBlocks
