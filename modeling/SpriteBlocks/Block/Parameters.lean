import SpriteBlocks.SortedMap
import SpriteBlocks.Text.Blank
import SpriteBlocks.Decimal.Written
import SpriteBlocks.Decimal.Numeral

/-!
# Parameters of a block

The input slots of a block hold numbers, texts and menu choices by name.
Reading a slot never fails: a missing or unusable value gives the default.
-/
namespace SpriteBlocks

/-- A value in an input slot. -/
inductive ParamValue where
  | number (x : Float)
  | text (s : String)
  | choice (s : String)
deriving DecidableEq, Inhabited

namespace ParamValue

/-- The value as a finite number. A text counts if it is a numeral. -/
def number? : ParamValue → Option Float
  | number x => finite? x
  | text s | choice s => (Decimal.number? (Text.trim s)).bind finite?
where
  finite? (x : Float) : Option Float := if x.isFinite then some x else none

def text? : ParamValue → Option String
  | number _ => none
  | text s | choice s => some s

def shown : ParamValue → String
  | number x => Decimal.write Decimal.plain x
  | text s => "\"" ++ s ++ "\""
  | choice s => s

theorem isFinite_of_finite? {x y : Float} (h : number?.finite? x = some y) : y.isFinite := by
  unfold number?.finite? at h
  split at h
  · next hf => exact Option.some.inj h ▸ hf
  · cases h

theorem isFinite_of_number? {v : ParamValue} {x : Float} (h : v.number? = some x) :
    x.isFinite := by
  have bound : ∀ o : Option Float, o.bind number?.finite? = some x → x.isFinite := by
    intro o ho
    obtain ⟨y, _, hy⟩ := Option.bind_eq_some_iff.1 ho
    exact isFinite_of_finite? hy
  cases v with
  | number y => exact isFinite_of_finite? h
  | text s => rw [number?] at h; exact bound _ h
  | choice s => rw [number?] at h; exact bound _ h

end ParamValue

/-- The named input values of a block. -/
abbrev Parameters := SortedMap String ParamValue

namespace Parameters

def numberOr (p : Parameters) (name : String) (default : Float) : Float :=
  ((p.get? name).bind ParamValue.number?).getD default

def textOr (p : Parameters) (name : String) (default : String) : String :=
  ((p.get? name).bind ParamValue.text?).getD default

end Parameters
end SpriteBlocks
