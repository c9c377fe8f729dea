/-!
# Finding a text inside a text

Occurrences are compared character by character; positions count the bytes of
the text's encoding.
-/
namespace SpriteBlocks.Text

/-- Whether the characters occur next to each other in the second list. -/
def occursIn (needle : List Char) : List Char → Bool
  | [] => needle.isEmpty
  | c :: cs => needle.isPrefixOf (c :: cs) || occursIn needle cs

/-- Whether `text` has `needle` inside. The empty text is inside every text. -/
def contains (text needle : String) : Bool := occursIn needle.toList text.toList

def byteLength : List Char → Nat
  | [] => 0
  | c :: cs => c.utf8Size + byteLength cs

def firstByte (needle : List Char) (start : Nat) : List Char → Option Nat
  | [] => if needle.isEmpty then some start else none
  | c :: cs =>
    if needle.isPrefixOf (c :: cs) then some start
    else firstByte needle (start + c.utf8Size) cs

def splitChars (c : Char) : List Char → List (List Char)
  | [] => [[]]
  | d :: ds =>
    match splitChars c ds with
    | piece :: pieces => if d = c then [] :: piece :: pieces else (d :: piece) :: pieces
    | [] => [[d]]

/-- The pieces of a text between occurrences of a character; at least one. -/
def split (c : Char) (s : String) : List String := (splitChars c s.toList).map String.ofList

theorem occursIn_iff (needle text : List Char) : occursIn needle text ↔ needle <:+: text := by
  induction text with
  | nil => cases needle <;> simp [occursIn]
  | cons c cs ih => simp [occursIn, List.infix_cons_iff, ih]

theorem contains_iff (text needle : String) :
    contains text needle ↔ needle.toList <:+: text.toList := occursIn_iff _ _

@[simp] theorem byteLength_append (as bs : List Char) :
    byteLength (as ++ bs) = byteLength as + byteLength bs := by
  induction as with
  | nil => simp [byteLength]
  | cons c as ih => simp [byteLength, ih, Nat.add_assoc]

end SpriteBlocks.Text
