import SpriteBlocks.Toml.Draft
import SpriteBlocks.Toml.Numbers

/-!
# TOML documents

A document is a sequence of lines: headers, keys with values, and lines without
meaning. `Document.root?` gives the table that a text stands for, or nothing if
the text is no document.
-/
namespace SpriteBlocks.Toml

def word? (w : List Char) (c : Cursor) : Option Cursor :=
  if w.isPrefixOf c.rest then some (c.skipMany w.length) else none

mutual
/-- A value; `depth` arrays and inline tables are open around it. -/
def value? : Nat → Nat → Cursor → Option (Node × Cursor)
  | 0, _, _ => none
  | fuel + 1, depth, c =>
    match c.rest with
    | [] => none
    | d :: _ =>
      if d = '"' ∨ d = '\'' then
        (string? c).map fun (s, next) => (.string (some (c.spanTo next)) s, next)
      else if d = '[' then
        if depth + 1 < nestingLimit then
          (arrayItems? fuel (depth + 1) c.skip.skipLines).map fun (items, next) =>
            (.array (some (c.spanTo next)) items, next)
        else none
      else if d = '{' then
        if depth + 1 < nestingLimit then
          (inlineEntries? fuel (depth + 1) c.skip.skipBlanks (.empty none)).map fun (draft, next) =>
            (match draft.node with
              | .table _ entries => .table (some (c.spanTo next)) entries
              | other => other, next)
        else none
      else if d = 't' then
        (word? ['t', 'r', 'u', 'e'] c).map fun next =>
          (.boolean (some (c.spanTo next)) true, next)
      else if d = 'f' then
        (word? ['f', 'a', 'l', 's', 'e'] c).map fun next =>
          (.boolean (some (c.spanTo next)) false, next)
      else number? c

/-- The items of an array up to its bracket; a comma may follow the last. -/
def arrayItems? : Nat → Nat → Cursor → Option (List Node × Cursor)
  | 0, _, _ => none
  | fuel + 1, depth, c =>
    match c.expect ']' with
    | some next => some ([], next)
    | none => do
      let (item, c) ← value? fuel depth c
      let c := c.skipLines
      match c.expect ']' with
      | some next => some ([item], next)
      | none =>
        let next ← c.expect ','
        let (items, c) ← arrayItems? fuel depth next.skipLines
        some (item :: items, c)

/-- The entries of an inline table up to its brace, added to a draft. -/
def inlineEntries? : Nat → Nat → Cursor → Draft → Option (Draft × Cursor)
  | 0, _, _, _ => none
  | fuel + 1, depth, c, draft =>
    match c.expect '\x7d' with
    | some next => some (draft, next)
    | none => inlineEntry? fuel depth c draft

def inlineEntry? : Nat → Nat → Cursor → Draft → Option (Draft × Cursor)
  | 0, _, _, _ => none
  | fuel + 1, depth, c, draft => do
    let (path, c) ← keyPath? c
    let c ← c.expect '='
    let (value, c) ← value? fuel depth c.skipBlanks
    let draft ← draft.insertDotted path value
    let c := c.skipBlanks
    match c.expect '\x7d' with
    | some next => some (draft, next)
    | none => inlineEntry? fuel depth (← c.expect ',') draft
end

def header? (c : Cursor) (o : Outline) : Option (Outline × Cursor) :=
  match c.rest with
  | '[' :: '[' :: _ => do
    let (path, next) ← keyPath? c.skip.skip
    let next ← (← next.expect ']').expect ']'
    let o ← o.openArrayTable path (c.spanTo next)
    some (o, ← next.finishLine?)
  | _ => do
    let (path, next) ← keyPath? c.skip
    let next ← next.expect ']'
    let o ← o.openTable path (c.spanTo next)
    some (o, ← next.finishLine?)

def keyLine? (c : Cursor) (o : Outline) : Option (Outline × Cursor) := do
  let (path, c) ← keyPath? c
  let c ← c.expect '='
  let (value, c) ← value? (2 * c.rest.length + 2) 0 c.skipBlanks
  let o ← o.write path value
  some (o, ← c.finishLine?)

/-- The lines of a document, at most `fuel` of them. -/
def lines? : Nat → Cursor → Outline → Option Outline
  | 0, _, _ => none
  | fuel + 1, c, o =>
    let c := c.skipBlanks
    match c.rest with
    | [] => some o
    | d :: _ =>
      if d = '#' ∨ d = '\n' ∨ d = '\r' then
        match c.finishLine? with
        | some next => lines? fuel next o
        | none => none
      else if d = '[' then
        match header? c o with
        | some (o, next) => lines? fuel next o
        | none => none
      else
        match keyLine? c o with
        | some (o, next) => lines? fuel next o
        | none => none

/-- The cursor at the start of a source, behind a byte order mark. -/
def Cursor.ofSource (source : String) : Cursor :=
  let c : Cursor := ⟨source.toList, 0⟩
  if c.rest.head? = some '\ufeff' then c.skip else c

/-- The table that a text stands for, if it is a document. -/
def root? (source : String) : Option Node := do
  let c := Cursor.ofSource source
  let o ← lines? (c.rest.length + 1) c .start
  let o ← o.close
  some o.root.node

end SpriteBlocks.Toml
