import SpriteBlocks.Toml.Node

/-!
# Reading position

A cursor is what is left of a source and the number of bytes before it. The
scans here skip what carries no meaning: blanks, comments and line ends.
-/
namespace SpriteBlocks.Toml

/-- The characters still to be read and the bytes before them. -/
structure Cursor where
  rest : List Char
  offset : Nat
deriving DecidableEq, Inhabited

namespace Cursor

def skip (c : Cursor) : Cursor :=
  match c.rest with
  | [] => c
  | d :: ds => ⟨ds, c.offset + d.utf8Size⟩

def skipMany : Nat → Cursor → Cursor
  | 0, c => c
  | n + 1, c => skipMany n c.skip

def expect (d : Char) (c : Cursor) : Option Cursor :=
  if c.rest.head? = some d then some c.skip else none

def takeWhile (p : Char → Bool) (c : Cursor) : List Char × Cursor :=
  let taken := c.rest.takeWhile p
  (taken, c.skipMany taken.length)

def skipBlanks (c : Cursor) : Cursor := (c.takeWhile fun d => d = ' ' || d = '\t').2

/-- The cursor after a line end: a line feed, or a carriage return and one. -/
def lineEnd? (c : Cursor) : Option Cursor :=
  match c.rest with
  | '\n' :: _ => some c.skip
  | '\r' :: '\n' :: _ => some c.skip.skip
  | _ => none

def isCommentChar (d : Char) : Bool := d = '\t' || (0x20 ≤ d.toNat && d.toNat ≠ 0x7f)

def skipComment (c : Cursor) : Cursor :=
  if c.rest.head? = some '#' then (c.skip.takeWhile isCommentChar).2 else c

/-- The cursor after the rest of a line that holds nothing but blanks and a
comment. The end of the source ends a line too. -/
def finishLine? (c : Cursor) : Option Cursor :=
  let c := c.skipBlanks.skipComment
  if c.rest.isEmpty then some c else c.lineEnd?

/-- The cursor after blanks, comments and line ends, at most `fuel` of them. -/
def skipLinesFor : Nat → Cursor → Cursor
  | 0, c => c
  | fuel + 1, c =>
    let c := c.skipBlanks
    match c.skipComment.lineEnd? with
    | some next => skipLinesFor fuel next
    | none => c

def skipLines (c : Cursor) : Cursor := c.skipLinesFor (c.rest.length + 1)

def spanTo (start stop : Cursor) : Span := ⟨start.offset, stop.offset⟩

end Cursor
end SpriteBlocks.Toml
