/-!
# Reading numerals

A numeral has an optional sign, digits with at most one point and at least one
digit, and an optional exponent; the words for infinity and for no number count
too, in any case. Numbers too large for a double read as infinite.
-/
namespace SpriteBlocks.Decimal

def infinity : Float := Float.ofBits 0x7ff0000000000000

def notANumber : Float := Float.ofBits 0x7ff8000000000000

def digitsValue (ds : List Char) : Nat :=
  ds.foldl (fun n d => 10 * n + (d.toNat - '0'.toNat)) 0

/-- The double nearest to `digits * 10 ^ exponent`. Values far outside the range
of doubles are decided by their leading place alone. -/
def nearest (digits : Nat) (exponent : Int) : Float :=
  let top := ((Nat.toDigits 10 digits).length : Int) + exponent
  if digits = 0 || top < -330 then 0.0
  else if 310 < top then infinity
  else Float.ofScientific digits (exponent < 0) exponent.natAbs

def negateIf (negative : Bool) (x : Float) : Float := if negative then -x else x

def takeSign : List Char → Bool × List Char
  | '-' :: cs => (true, cs)
  | '+' :: cs => (false, cs)
  | cs => (false, cs)

/-- The exponent part of a numeral: nothing, or a letter, a sign and digits. -/
def exponent? : List Char → Option Int
  | [] => some 0
  | c :: cs =>
    if c = 'e' || c = 'E' then
      let (negative, ds) := takeSign cs
      if ds.isEmpty || !ds.all Char.isDigit then none
      else some (if negative then -(digitsValue ds : Int) else digitsValue ds)
    else none

def magnitude? (cs : List Char) : Option Float :=
  let whole := cs.takeWhile Char.isDigit
  let rest := cs.dropWhile Char.isDigit
  let (fraction, rest) := match rest with
    | '.' :: r => (r.takeWhile Char.isDigit, r.dropWhile Char.isDigit)
    | r => ([], r)
  if whole.isEmpty && fraction.isEmpty then none
  else (exponent? rest).map fun e => nearest (digitsValue (whole ++ fraction)) (e - fraction.length)

def number? (s : String) : Option Float :=
  let (negative, cs) := takeSign s.toList
  let word := String.ofList (cs.map Char.toLower)
  if word = "inf" || word = "infinity" then some (negateIf negative infinity)
  else if word = "nan" then some notANumber
  else (magnitude? cs).map (negateIf negative)

end SpriteBlocks.Decimal
