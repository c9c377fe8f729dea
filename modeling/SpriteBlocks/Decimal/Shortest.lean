import SpriteBlocks.Decimal.Binary

/-!
# The fewest digits that read back

Every real number in the rounding interval of a double reads back as that
double; the ends belong to it when the significand is even. `shortest` takes
the coarsest decimal grid that has a point in the interval and, of its points
next to the value, the nearer one.
-/
namespace SpriteBlocks.Decimal

/-- A decimal number `digits * 10 ^ place`. -/
structure Shortest where
  digits : Nat
  place : Int
deriving DecidableEq

namespace Binary

/-- The value in quarters of its last binary unit. -/
def quarters (b : Binary) : Binary := ⟨4 * b.significand, b.exponent - 2⟩

/-- The lower end of the rounding interval. Below a power of two the doubles
lie twice as close. -/
def lowerEnd (b : Binary) : Binary :=
  let gap := if b.significand = Nat.pow 2 52 ∧ minExponent < b.exponent then 1 else 2
  ⟨4 * b.significand - gap, b.exponent - 2⟩

def upperEnd (b : Binary) : Binary := ⟨4 * b.significand + 2, b.exponent - 2⟩

def readsBack (b : Binary) (digits : Nat) (place : Int) : Bool :=
  let point := digits * b.quarters.denominator place
  let low := b.lowerEnd.numerator place
  let high := b.upperEnd.numerator place
  if b.significand % 2 = 0 then low ≤ point && point ≤ high
  else low < point && point < high

/-- The grid point next to the value that reads back; of two the nearer one. -/
def onGrid? (b : Binary) (place : Int) : Option Nat :=
  let num := b.quarters.numerator place
  let den := b.quarters.denominator place
  let below := num / den
  match b.readsBack below place, b.readsBack (below + 1) place with
  | true, true => some (if 2 * (num % den) < den then below else below + 1)
  | true, false => some below
  | false, true => some (below + 1)
  | false, false => none

def searchGrids (b : Binary) : Nat → Int → Shortest
  | 0, place => ⟨roundDiv (b.quarters.numerator place) (b.quarters.denominator place), place⟩
  | n + 1, place =>
    match b.onGrid? place with
    | some digits => ⟨digits, place⟩
    | none => searchGrids b n (place - 1)

/-- A place at or above the leading digit: 30103 / 100000 is just over the
decimal logarithm of two. -/
def topPlace (b : Binary) : Int :=
  ((b.significand.log2 : Int) + 1 + b.exponent) * 30103 / 100000 + 1

/-- The fewest digits that read back. Seventeen always do, and the search
starts at most a few places above the leading one. -/
def shortest (b : Binary) : Shortest :=
  if b.significand = 0 then ⟨0, 0⟩ else b.searchGrids 24 b.topPlace

end Binary
end SpriteBlocks.Decimal
