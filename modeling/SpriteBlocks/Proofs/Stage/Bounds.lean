import SpriteBlocks.Stage.Sprite

/-!
# The bounds of the sprite

A change of the sprite sets its position, its heading, its size or whether it
is visible. Whatever numbers a change is made with, it keeps the sprite on the
stage: a target that is not finite is dropped before it is held between bounds.
Of the arithmetic it is used only that finite numbers are ordered totally.
-/
namespace SpriteBlocks

namespace Decimal
open Float.Model

/-- Numbers compare one way as the other way round, turned. -/
theorem compare_swap (x y : UnpackedFloat) : y.compare x = (x.compare y).map Ordering.swap := by
  have hsame (e e' : Int) (m m' : Nat) : (compare e' e).then (compare m' m) =
      ((compare e e').then (compare m m')).swap := by
    rw [Ordering.swap_then, ← Std.OrientedCmp.eq_swap, ← Std.OrientedCmp.eq_swap]
  cases x with
  | notANumber => cases y <;> rfl
  | infinity s =>
    cases y with
    | infinity t => cases s <;> cases t <;> rfl
    | _ => cases s <;> rfl
  | zero s =>
    cases y with
    | notANumber => rfl
    | zero t => rfl
    | infinity t => cases t <;> rfl
    | finite t => cases t <;> rfl
  | finite s m e =>
    cases y with
    | notANumber => cases s <;> rfl
    | zero t => cases s <;> rfl
    | infinity t => cases s <;> cases t <;> rfl
    | finite t m' e' =>
      cases s <;> cases t
      · exact congrArg (some ∘ Ordering.swap) (hsame e e' m m')
      · rfl
      · rfl
      · exact congrArg some (hsame e e' m m')

theorem exists_compare {x y : UnpackedFloat} (hx : x.isNaN = false) (hy : y.isNaN = false) :
    ∃ o, x.compare y = some o := by
  cases x with
  | notANumber => cases hx
  | _ s =>
    cases y with
    | notANumber => cases hy
    | _ t => cases s <;> cases t <;> exact ⟨_, rfl⟩

theorem le_of_not_lt_unpacked {x y : UnpackedFloat} (hx : x.isNaN = false) (hy : y.isNaN = false)
    (h : ¬ x.lt y = true) : y.le x = true := by
  obtain ⟨o, ho⟩ := exists_compare hx hy
  rw [UnpackedFloat.lt, ho] at h
  rw [UnpackedFloat.le, compare_swap x y, ho]
  cases o <;> simp_all

theorem isNaN_of_isFinite {x : Float} (h : x.isFinite = true) : x.isNaN = false := by
  have key : ∀ u : UnpackedFloat, u.isFinite = true → u.isNaN = false := by
    intro u hu
    cases u with
    | notANumber => cases hu
    | _ => rfl
  exact key _ h

/-- Of two numbers neither of which is NaN, the one that is not below the other
is above it or equal. -/
theorem le_of_not_lt {x y : Float} (hx : x.isNaN = false) (hy : y.isNaN = false) (h : ¬ x < y) :
    y ≤ x := by
  have hmodel : y.toModel ≤ x.toModel :=
    le_of_not_lt_unpacked hx hy fun hlt => h (decide_eq_true hlt)
  exact decide_eq_true hmodel

end Decimal

namespace Sprite

theorem clamp_within {low high x : Float} (hx : x.isFinite = true) (hlow : low ≤ low)
    (hbounds : low ≤ high) (hhigh : high ≤ high) (hlowNum : low.isNaN = false)
    (hhighNum : high.isNaN = false) : low ≤ clamp low high x ∧ clamp low high x ≤ high := by
  have hxNum := Decimal.isNaN_of_isFinite hx
  have hheld : low ≤ (if x < low then low else x) ∧ (if x < low then low else x).isNaN = false := by
    by_cases h : x < low
    · rw [if_pos h]
      exact ⟨hlow, hlowNum⟩
    · rw [if_neg h]
      exact ⟨Decimal.le_of_not_lt hxNum hlowNum h, hxNum⟩
  simp only [clamp]
  by_cases h : high < (if x < low then low else x)
  · simp only [if_pos h]
    exact ⟨hbounds, hhigh⟩
  · simp only [if_neg h]
    exact ⟨hheld.1, Decimal.le_of_not_lt hhighNum hheld.2 h⟩

/-- The sprite is on the stage, its size is within the bounds, and its heading is a number. -/
structure InBounds (s : Sprite) : Prop where
  x : stageMin ≤ s.x ∧ s.x ≤ stageMax
  y : stageMin ≤ s.y ∧ s.y ≤ stageMax
  size : minSize ≤ s.size ∧ s.size ≤ maxSize
  rotation : s.rotation.isFinite = true

inductive Change where
  | place (x y : Float)
  | turn (degrees : Float)
  | grow (delta : Float)
  | appear (visible : Bool)

def Change.apply (s : Sprite) : Change → Sprite
  | place x y => s.setPosition x y
  | turn degrees => s.turn degrees
  | grow delta => s.changeSize delta
  | appear visible => { s with visible }

theorem stage_within {x : Float} (hx : x.isFinite = true) :
    stageMin ≤ clamp stageMin stageMax x ∧ clamp stageMin stageMax x ≤ stageMax :=
  clamp_within hx (by decide) (by decide) (by decide) (by decide) (by decide)

theorem size_within {x : Float} (hx : x.isFinite = true) :
    minSize ≤ clamp minSize maxSize x ∧ clamp minSize maxSize x ≤ maxSize :=
  clamp_within hx (by decide) (by decide) (by decide) (by decide) (by decide)

/-- A new position counts for both coordinates or for neither. -/
theorem setPosition_eq (s : Sprite) (x y : Float) :
    x.isFinite = true ∧ y.isFinite = true ∧ s.setPosition x y =
        { s with x := clamp stageMin stageMax x, y := clamp stageMin stageMax y } ∨
      (x.isFinite = false ∨ y.isFinite = false) ∧ s.setPosition x y = s := by
  cases hx : x.isFinite <;> cases hy : y.isFinite <;> simp [setPosition, hx, hy]

namespace InBounds
variable {s : Sprite} (h : s.InBounds)
include h

theorem setPosition (x y : Float) : (s.setPosition x y).InBounds := by
  rcases s.setPosition_eq x y with ⟨hx, hy, heq⟩ | ⟨-, heq⟩
  · rw [heq]
    exact ⟨stage_within hx, stage_within hy, h.size, h.rotation⟩
  · rw [heq]
    exact h

theorem turn (degrees : Float) : (s.turn degrees).InBounds := by
  simp only [Sprite.turn]
  split
  · next hfinite => exact ⟨h.x, h.y, h.size, hfinite⟩
  · exact h

theorem changeSize (delta : Float) : (s.changeSize delta).InBounds := by
  simp only [Sprite.changeSize]
  split
  · next hfinite => exact ⟨h.x, h.y, size_within hfinite, h.rotation⟩
  · exact h

/-- No change leads out of the bounds. -/
theorem apply (c : Change) : (c.apply s).InBounds := by
  cases c with
  | place x y => exact h.setPosition x y
  | turn degrees => exact h.turn degrees
  | grow delta => exact h.changeSize delta
  | appear visible => exact ⟨h.x, h.y, h.size, h.rotation⟩

end InBounds
end Sprite
end SpriteBlocks
