import SpriteBlocks.Decimal.Shortest

/-!
# Written forms of numbers

Numbers are written in positional notation with the fewest digits that read
back, or rounded to a fixed number of places. A `Style` holds the choices that
differ between the messages of the program.
-/
namespace SpriteBlocks.Decimal

structure Style where
  /-- Whole numbers end in `.0`. -/
  pointed : Bool := false
  /-- A plus sign stands before numbers that have no minus sign. -/
  plus : Bool := false
  /-- Numbers from `10 ^ 16` on and below `10 ^ -4` have an exponent. -/
  exponents : Bool := false

/-- The form in messages: positional, no point on whole numbers. -/
def plain : Style := {}

/-- The form of a change: a sign always stands in front. -/
def signed : Style := { plus := true }

/-- The form of a value of fractional type, which always shows a point. -/
def pointed : Style := { pointed := true }

def listed : Style := { pointed := true, exponents := true }

def digitsOf (n : Nat) : List Char := Nat.toDigits 10 n

def zeros (n : Nat) : List Char := List.replicate n '0'

/-- The last `places` digits after the point, the others before it. -/
def insertPoint (digits : List Char) (places : Nat) : List Char :=
  let padded := zeros (places + 1 - digits.length) ++ digits
  let whole := padded.length - places
  if places = 0 then digits else padded.take whole ++ '.' :: padded.drop whole

def positional (s : Shortest) : List Char :=
  if s.digits = 0 then ['0']
  else if 0 ≤ s.place then digitsOf s.digits ++ zeros s.place.toNat
  else insertPoint (digitsOf s.digits) (-s.place).toNat

def scientific (s : Shortest) : List Char :=
  let digits := digitsOf s.digits
  let exponent := s.place + digits.length - 1
  let fraction := digits.drop 1
  digits.take 1 ++ (if fraction.isEmpty then [] else '.' :: fraction) ++
    'e' :: (toString exponent).toList

def withPoint (text : List Char) : List Char :=
  if '.' ∈ text then text else text ++ ['.', '0']

def sign (style : Style) (negative : Bool) : List Char :=
  if negative then ['-'] else if style.plus then ['+'] else []

/-- Whether the decimal exponent of the leading digit asks for an exponent. -/
def usesExponent (s : Shortest) : Bool :=
  let top := s.place + (digitsOf s.digits).length - 1
  s.digits ≠ 0 && (top < -4 || 16 ≤ top)

def write (style : Style) (x : Float) : String :=
  match read x with
  | .notANumber => "NaN"
  | .infinite negative => String.ofList (sign style negative ++ ['i', 'n', 'f'])
  | .finite negative magnitude =>
    let s := magnitude.shortest
    let digits :=
      if style.exponents && usesExponent s then scientific s
      else if style.pointed then withPoint (positional s)
      else positional s
    String.ofList (sign style negative ++ digits)

/-- The number rounded to a fixed number of places, a half to the even
neighbour. The sign of the number stays even if all digits are zero. -/
def writeFixed (places : Nat) (x : Float) : String :=
  match read x with
  | .notANumber => "NaN"
  | .infinite negative => String.ofList (sign plain negative ++ ['i', 'n', 'f'])
  | .finite negative magnitude =>
    let scaled := roundDiv (magnitude.numerator (-(places : Int)))
      (magnitude.denominator (-(places : Int)))
    String.ofList (sign plain negative ++ insertPoint (digitsOf scaled) places)

end SpriteBlocks.Decimal
