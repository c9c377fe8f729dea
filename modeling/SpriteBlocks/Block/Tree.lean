import SpriteBlocks.Block.Id
import SpriteBlocks.Block.Opcode
import SpriteBlocks.Block.Parameters

/-!
# Trees of blocks

Containers own the blocks inside them. A search visits a block before the
blocks inside it, in order; `takeDescendant` looks through the direct children
first. Identities may repeat in a tree that stands alone.
-/
namespace SpriteBlocks

/-- A block with everything inside it. -/
structure Block where
  id : BlockId
  opcode : Opcode
  params : Parameters
  children : List Block
deriving Inhabited

namespace Block

def leaf (id : BlockId) (opcode : Opcode) (params : Parameters := ∅) : Block :=
  ⟨id, opcode, params, []⟩

def isContainer (b : Block) : Bool := b.opcode.isContainer

mutual
/-- The block with the identity, here or inside. -/
def find? (id : BlockId) : Block → Option Block
  | ⟨i, o, p, cs⟩ => if i = id then some ⟨i, o, p, cs⟩ else findIn? id cs

def findIn? (id : BlockId) : List Block → Option Block
  | [] => none
  | b :: bs => (b.find? id).or (findIn? id bs)
end

mutual
/-- The tree with the block that `find?` finds replaced. -/
def modify? (id : BlockId) (f : Block → Block) : Block → Option Block
  | ⟨i, o, p, cs⟩ =>
    if i = id then some (f ⟨i, o, p, cs⟩) else (modifyIn? id f cs).map fun cs' => ⟨i, o, p, cs'⟩

def modifyIn? (id : BlockId) (f : Block → Block) : List Block → Option (List Block)
  | [] => none
  | b :: bs =>
    match b.modify? id f with
    | some b' => some (b' :: bs)
    | none => (modifyIn? id f bs).map (b :: ·)
end

/-- The first block of a list with the identity, and the list without it. -/
def takeFirst? (id : BlockId) : List Block → Option (Block × List Block)
  | [] => none
  | b :: bs =>
    if b.id = id then some (b, bs) else (takeFirst? id bs).map fun r => (r.1, b :: r.2)

mutual
/-- Cut a block out of the inside of a tree: the block and the tree without it. -/
def takeDescendant? (id : BlockId) : Block → Option (Block × Block)
  | ⟨i, o, p, cs⟩ =>
    match takeFirst? id cs with
    | some (b, rest) => some (b, ⟨i, o, p, rest⟩)
    | none => (takeInside? id cs).map fun r => (r.1, ⟨i, o, p, r.2⟩)

/-- Cut a block out of the inside of the first tree of a list that has it. -/
def takeInside? (id : BlockId) : List Block → Option (Block × List Block)
  | [] => none
  | b :: bs =>
    match b.takeDescendant? id with
    | some (x, b') => some (x, b' :: bs)
    | none => (takeInside? id bs).map fun r => (r.1, b :: r.2)
end

mutual
def size : Block → Nat
  | ⟨_, _, _, cs⟩ => sizeIn cs + 1

def sizeIn : List Block → Nat
  | [] => 0
  | b :: bs => b.size + sizeIn bs
end

mutual
/-- The identities in the tree, each block before those inside it. -/
def ids : Block → List BlockId
  | ⟨i, _, _, cs⟩ => i :: idsIn cs

def idsIn : List Block → List BlockId
  | [] => []
  | b :: bs => b.ids ++ idsIn bs
end

mutual
/-- Fresh identities for the whole tree, counted on from `last`: the tree and
the last identity used. -/
def renumber (last : BlockId) : Block → Block × BlockId
  | ⟨_, o, p, cs⟩ =>
    let (cs', last') := renumberIn last.next cs
    (⟨last.next, o, p, cs'⟩, last')

def renumberIn (last : BlockId) : List Block → List Block × BlockId
  | [] => ([], last)
  | b :: bs =>
    let (b', last') := renumber last b
    let (bs', last'') := renumberIn last' bs
    (b' :: bs', last'')
end

def withOpcode (opcode : Opcode) (b : Block) : Block := { b with opcode }

def withParam (name : String) (value : ParamValue) (b : Block) : Block :=
  { b with params := b.params.insert name value }

/-- The block with one more block inside, behind the others. -/
def withChild (child : Block) (b : Block) : Block := { b with children := b.children ++ [child] }

mutual
theorem length_ids : ∀ b : Block, b.ids.length = b.size
  | ⟨_, _, _, cs⟩ => by simp [ids, size, length_idsIn cs]

theorem length_idsIn : ∀ bs : List Block, (idsIn bs).length = sizeIn bs
  | [] => rfl
  | b :: bs => by simp [idsIn, sizeIn, length_ids b, length_idsIn bs]
end

@[simp] theorem idsIn_append (as bs : List Block) : idsIn (as ++ bs) = idsIn as ++ idsIn bs := by
  induction as with
  | nil => rfl
  | cons a as ih => simp [idsIn, ih]

end Block
end SpriteBlocks
