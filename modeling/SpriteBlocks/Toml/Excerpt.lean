import SpriteBlocks.Text.Search
import SpriteBlocks.Toml.Shape

/-!
# Excerpts

An excerpt shows the line of a document on which a shape error stands, with
marks below the place. Lines and columns count from one.
-/
namespace SpriteBlocks.Toml

/-- The line and the column of a byte, when so many are counted already. -/
def positionFrom (line column byte : Nat) : List Char → Nat × Nat
  | [] => (line, column + byte)
  | c :: cs =>
    if byte = 0 then (line, column)
    else if c = '\n' then positionFrom (line + 1) 1 (byte - 1) cs
    else positionFrom line (column + 1) (byte - c.utf8Size) cs

def position (source : String) (byte : Nat) : Nat × Nat := positionFrom 1 1 byte source.toList

def positionText (p : Nat × Nat) : String :=
  "TOML parse error at line " ++ toString p.1 ++ ", column " ++ toString p.2

def spaces (n : Nat) : String := String.ofList (List.replicate n ' ')

/-- The line of the place, between a line of its gutter and a line of marks. -/
def excerpt (source : String) (span : Span) : String :=
  let (line, column) := position source span.start
  let number := toString line
  let gutter := spaces (number.length + 1) ++ "|"
  let content := (Text.split '\n' source).getD (line - 1) ""
  let marks := min (span.stop - span.start) (Text.byteLength content.toList - (column - 1))
  positionText (line, column) ++ "\n" ++ gutter ++ "\n" ++
    number ++ " | " ++ content ++ "\n" ++
    gutter ++ spaces column ++ String.ofList (List.replicate (max 1 marks) '^') ++ "\n"

/-- The words for a shape error, with the excerpt if it has a place. -/
def ShapeError.report (source : String) (e : ShapeError) : String :=
  match e.span with
  | some span => excerpt source span ++ e.message ++ "\n"
  | none => e.described

end SpriteBlocks.Toml
