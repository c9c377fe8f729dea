/-!
# Identities of blocks

A block keeps its number for as long as it lives. Numbers have 32 bits.
-/
namespace SpriteBlocks

structure BlockId where
  raw : UInt32
deriving DecidableEq, Inhabited

namespace BlockId

def shown (id : BlockId) : String := "#" ++ toString id.raw

/-- The identity handed out after this one. -/
def next (id : BlockId) : BlockId := ⟨id.raw + 1⟩

instance : LE BlockId := ⟨fun a b => a.raw ≤ b.raw⟩

instance : LT BlockId := ⟨fun a b => a.raw < b.raw⟩

instance : DecidableLT BlockId := fun a b => inferInstanceAs (Decidable (a.raw < b.raw))

instance : Std.LawfulOrderLT BlockId where
  lt_iff a b := Std.LawfulOrderLT.lt_iff a.raw b.raw

instance : Std.IsLinearOrder BlockId where
  le_refl a := UInt32.le_refl a.raw
  le_trans _ _ _ := UInt32.le_trans
  le_antisymm a b h h' := by cases a; cases b; exact congrArg _ (UInt32.le_antisymm h h')
  le_total a b := UInt32.le_total a.raw b.raw

end BlockId
end SpriteBlocks
