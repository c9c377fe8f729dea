import SpriteBlocks.Block.Condition
import SpriteBlocks.Block.Opcode
import SpriteBlocks.Decimal.Written
import SpriteBlocks.Proofs.Text.Pieces

/-!
# Texts on one line

A text without line feeds is its own only line. Numbers in all written forms,
the names of kinds and the names of conditions are such texts.
-/
namespace SpriteBlocks

namespace Text

/-- The text has no line feed. -/
def IsLine (s : String) : Prop := '\n' ∉ s.toList

instance (s : String) : Decidable (IsLine s) := inferInstanceAs (Decidable ('\n' ∉ s.toList))

@[simp] theorem isLine_append {s t : String} : IsLine (s ++ t) ↔ IsLine s ∧ IsLine t := by
  simp [IsLine, not_or]

@[simp] theorem isLine_ofList {cs : List Char} : IsLine (String.ofList cs) ↔ '\n' ∉ cs := by
  rw [IsLine, String.toList_ofList]

theorem IsLine.split_eq {s : String} (h : IsLine s) : split '\n' s = [s] := split_of_not_mem h

end Text

namespace Decimal

theorem not_mem_digitsOf (n : Nat) : '\n' ∉ digitsOf n := fun h =>
  absurd (Nat.isDigit_of_mem_toDigits (by decide) (by decide) h) (by decide)

theorem not_mem_zeros (n : Nat) : '\n' ∉ zeros n := fun h =>
  absurd (List.eq_of_mem_replicate h) (by decide)

theorem not_mem_insertPoint {digits : List Char} (h : '\n' ∉ digits) (places : Nat) :
    '\n' ∉ insertPoint digits places := by
  have hpadded (n : Nat) : '\n' ∉ zeros n ++ digits := by simp [not_mem_zeros, h]
  rw [insertPoint]
  split
  · exact h
  · rw [List.mem_append, List.mem_cons, not_or, not_or]
    exact ⟨fun hmem => hpadded _ (List.mem_of_mem_take hmem), by decide,
      fun hmem => hpadded _ (List.mem_of_mem_drop hmem)⟩

theorem not_mem_positional (s : Shortest) : '\n' ∉ positional s := by
  rw [positional]
  split
  · decide
  · split
    · simp [not_mem_digitsOf, not_mem_zeros]
    · exact not_mem_insertPoint (not_mem_digitsOf _) _

theorem not_mem_withPoint {text : List Char} (h : '\n' ∉ text) : '\n' ∉ withPoint text := by
  rw [withPoint]
  split
  · exact h
  · simpa using h

theorem not_mem_sign (style : Style) (negative : Bool) : '\n' ∉ sign style negative := by
  rw [sign]
  split
  · decide
  · split <;> decide

end Decimal

namespace Text

@[simp] theorem isLine_repr (n : Nat) : IsLine n.repr := by
  rw [Nat.repr_eq_ofList_toDigits, isLine_ofList]
  exact Decimal.not_mem_digitsOf n

theorem isLine_sign_append (style : Decimal.Style) (negative : Bool) {digits : List Char}
    (h : '\n' ∉ digits) : IsLine (String.ofList (Decimal.sign style negative ++ digits)) := by
  rw [isLine_ofList, List.mem_append, not_or]
  exact ⟨Decimal.not_mem_sign style negative, h⟩

theorem isLine_write {style : Decimal.Style} (h : style.exponents = false) (x : Float) :
    IsLine (Decimal.write style x) := by
  rw [Decimal.write]
  split
  · decide
  · exact isLine_sign_append _ _ (by decide)
  · have hdigits (s : Decimal.Shortest) : '\n' ∉
        if style.pointed then Decimal.withPoint (Decimal.positional s)
        else Decimal.positional s := by
      split
      · exact Decimal.not_mem_withPoint (Decimal.not_mem_positional s)
      · exact Decimal.not_mem_positional s
    simp only [h, Bool.false_and, Bool.false_eq_true, if_false]
    exact isLine_sign_append _ _ (hdigits _)

@[simp] theorem isLine_writeFixed (places : Nat) (x : Float) :
    IsLine (Decimal.writeFixed places x) := by
  rw [Decimal.writeFixed]
  split
  · decide
  · exact isLine_sign_append _ _ (by decide)
  · exact isLine_sign_append _ _ (Decimal.not_mem_insertPoint (Decimal.not_mem_digitsOf _) _)

@[simp] theorem isLine_description (o : Opcode) : IsLine o.description := by
  cases o with
  | unknown tag => exact (by decide : IsLine "unknown block")
  | _ => decide

@[simp] theorem isLine_label (c : Condition) : IsLine c.label := by
  cases c <;> decide

end Text
end SpriteBlocks
