import SpriteBlocks.Toml.Strings

/-!
# Tables under construction

While a document is read, its tables are drafts that know how they came about.
A table that a path merely passed through is implicit and may still get a header
of its own; a table made by dotted keys may grow by dotted keys alone.
-/
namespace SpriteBlocks.Toml

/-- A value that may still grow. -/
inductive Draft where
  | closed (node : Node)
  | table (span : Option Span) (implicit dotted : Bool) (entries : List (Key × Draft))
  | tables (span : Option Span) (items : List Draft)
deriving Inhabited

namespace Draft

def empty (span : Option Span) : Draft := table span false false []

def lookup (name : String) : List (Key × Draft) → Option Draft
  | [] => none
  | (k, d) :: rest => if k.name = name then some d else lookup name rest

/-- Put a value in the place of that of a key. -/
def replace (name : String) (d : Draft) : List (Key × Draft) → List (Key × Draft)
  | [] => []
  | (k, old) :: rest =>
    if k.name = name then (k, d) :: rest else (k, old) :: replace name d rest

def span : Draft → Option Span
  | closed node => node.span
  | table s .. => s
  | tables s _ => s

/-- Change the table at the end of a path. Missing tables on the way become
implicit ones; of an array of tables the last one is meant. -/
def modify (dotted : Bool) (f : Draft → Option Draft) : List Key → Draft → Option Draft
  | [], d => f d
  | k :: ks, table s i d entries =>
    match lookup k.name entries with
    | none => do
      let inner ← modify dotted f ks (table none true dotted [])
      some (table s i d (entries ++ [(k, inner)]))
    | some (closed _) => none
    | some (tables span items) =>
      match items.getLast? with
      | none => none
      | some last => do
        let inner ← modify dotted f ks last
        some (table s i d (replace k.name (tables span (items.dropLast ++ [inner])) entries))
    | some (table s' implicit' dotted' entries') =>
      if dotted && !implicit' then none
      else do
        let inner ← modify dotted f ks (table s' implicit' dotted' entries')
        some (table s i d (replace k.name inner entries))
  | _ :: _, _ => none

def addEntry (k : Key) (value : Draft) : Draft → Option Draft
  | table s i d entries =>
    if (lookup k.name entries).isSome then none else some (table s i d (entries ++ [(k, value)]))
  | _ => none

/-- Write a value at the end of a dotted path. A table that has a header does
not grow by dotted keys from elsewhere. -/
def insertDotted (path : List Key) (node : Node) (d : Draft) : Option Draft :=
  match path.getLast? with
  | none => none
  | some k => modify true (write k path.dropLast.isEmpty) path.dropLast d
where
  write (k : Key) (here : Bool) : Draft → Option Draft
    | table s i isDotted entries =>
      if isDotted == here then none else addEntry k (closed node) (table s i isDotted entries)
    | _ => none

/-- The place of a table up to the last value written directly below its
header. -/
def extendSpan (stop : Option Span) : Draft → Draft
  | table (some s) i d entries =>
    table (some ⟨s.start, (stop.map Span.stop).getD s.stop⟩) i d entries
  | d => d

mutual
def node : Draft → Node
  | closed n => n
  | table s _ _ entries => .table s (nodeEntries entries)
  | tables s items => .array s (nodeItems items)

def nodeEntries : List (Key × Draft) → List (Key × Node)
  | [] => []
  | (k, d) :: rest => (k, d.node) :: nodeEntries rest

def nodeItems : List Draft → List Node
  | [] => []
  | d :: rest => d.node :: nodeItems rest
end

end Draft

/-- A document so far: the finished part, and the table that grows now with the
path of its header. -/
structure Outline where
  root : Draft
  current : Draft
  path : List Key
  inArray : Bool

namespace Outline

def start : Outline := ⟨.empty none, .empty (some ⟨0, 0⟩), [], false⟩

def pushTable (t : Draft) : Draft → Option Draft
  | .tables _ items =>
    let items := items ++ [t]
    let span := match items.head?.bind Draft.span, items.getLast?.bind Draft.span with
      | some first, some last => some ⟨first.start, last.stop⟩
      | _, _ => none
    some (.tables span items)
  | _ => none

/-- Make the array of tables of a key, unless it is there. -/
def openArray (k : Key) : Draft → Option Draft
  | .table s i d entries =>
    match Draft.lookup k.name entries with
    | none => some (.table s i d (entries ++ [(k, .tables none [])]))
    | some (.tables _ _) => some (.table s i d entries)
    | some _ => none
  | _ => none

def close (o : Outline) : Option Outline :=
  match o.path.getLast? with
  | none => some { o with root := o.current, current := .empty none, path := [], inArray := false }
  | some k => do
    let place : Draft → Option Draft := fun
      | .table s i d entries =>
        if o.inArray then
          match Draft.lookup k.name entries with
          | none => none
          | some array => do
            let array ← pushTable o.current array
            some (.table s i d (Draft.replace k.name array entries))
        else Draft.addEntry k o.current (.table s i d entries)
      | _ => none
    let root ← Draft.modify false place o.path.dropLast o.root
    some { root, current := .empty none, path := [], inArray := false }

/-- Take the implicit table of a key out of its parent, to go on with it. -/
def takeImplicit (k : Key) : Draft → Option (Draft × List (Key × Draft))
  | .table s i d entries =>
    match Draft.lookup k.name entries with
    | none => some (.table s i d entries, [])
    | some (.table _ true false inner) =>
      some (.table s i d (entries.filter fun e => e.1.name ≠ k.name), inner)
    | some _ => none
  | _ => none

/-- The entries of the implicit table at a path, if the header may claim it. -/
def claimed (path : List Key) (root : Draft) : Option (List (Key × Draft)) :=
  match path with
  | [] => none
  | [k] => (takeImplicit k root).map Prod.snd
  | k :: ks =>
    match root with
    | .table _ _ _ entries =>
      match Draft.lookup k.name entries with
      | none => some []
      | some (.tables _ items) => (items.getLast?).bind (claimed ks)
      | some d => claimed ks d
    | _ => none

def openTable (path : List Key) (span : Span) (o : Outline) : Option Outline := do
  let o ← o.close
  let k ← path.getLast?
  let inner ← claimed path o.root
  let root ← Draft.modify false (fun d => (takeImplicit k d).map Prod.fst) path.dropLast o.root
  some { root, current := .table (some span) false false inner, path, inArray := false }

def openArrayTable (path : List Key) (span : Span) (o : Outline) : Option Outline := do
  let o ← o.close
  let k ← path.getLast?
  let root ← Draft.modify false (openArray k) path.dropLast o.root
  some { root, current := .empty (some span), path, inArray := true }

def write (path : List Key) (value : Node) (o : Outline) : Option Outline := do
  let current ← (o.current.extendSpan value.span).insertDotted path value
  some { o with current }

end Outline
end SpriteBlocks.Toml
