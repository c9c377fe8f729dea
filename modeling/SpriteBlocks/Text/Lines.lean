/-!
# Lines of a text

A line runs up to and including its line feed; the last one may lack it.
`cutLines_flatten` says that cutting a text into lines loses nothing.
-/
namespace SpriteBlocks.Text

/-- The lines, each with its line feed. -/
def cutLines : List Char → List (List Char)
  | [] => []
  | c :: cs =>
    if c = '\n' then [c] :: cutLines cs
    else
      match cutLines cs with
      | [] => [[c]]
      | line :: rest => (c :: line) :: rest

/-- The line without its end, which is a line feed or a carriage return and a
line feed. A carriage return alone is part of the line. -/
def dropLineEnd (line : List Char) : List Char :=
  match line.reverse with
  | '\n' :: '\r' :: rest => rest.reverse
  | '\n' :: rest => rest.reverse
  | _ => line

def lines (s : String) : List String :=
  (cutLines s.toList).map fun line => String.ofList (dropLineEnd line)

theorem cutLines_flatten (cs : List Char) : (cutLines cs).flatten = cs := by
  induction cs with
  | nil => rfl
  | cons c cs ih =>
    rw [cutLines]
    split
    · simp [ih]
    · split
      · next h => rw [h] at ih; simp [← ih]
      · next h => rw [h] at ih; simp [← ih]

/-- The number of the line that holds the byte, from one. -/
def lineOfByte (byte : Nat) : List Char → Nat
  | [] => 1
  | c :: cs =>
    if byte = 0 then 1
    else (if c = '\n' then 1 else 0) + lineOfByte (byte - c.utf8Size) cs

end SpriteBlocks.Text
