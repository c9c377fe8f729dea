/-!
# Padding to a width

Texts are padded with spaces up to a number of characters; longer texts stay
as they are.
-/
namespace SpriteBlocks.Text

/-- The text at the left of a field. -/
def padRight (width : Nat) (s : String) : String :=
  s ++ String.ofList (List.replicate (width - s.length) ' ')

def padLeft (width : Nat) (s : String) : String :=
  String.ofList (List.replicate (width - s.length) ' ') ++ s

def upper (s : String) : String := String.ofList (s.toList.map Char.toUpper)

end SpriteBlocks.Text
