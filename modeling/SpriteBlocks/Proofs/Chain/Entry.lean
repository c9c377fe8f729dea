import SpriteBlocks.Proofs.Chain.Sound
import Mathlib.Data.Fintype.EquivFin

/-!
# Entries of a sound registry

An entry is a block that no block leads to. In a sound registry every block is
on the chain of exactly one entry, and the neighbours in a chain are the edges
out of its blocks.
-/
namespace SpriteBlocks.Registry
open Relation

instance : Finite BlockId :=
  Finite.of_injective (fun b : BlockId => b.raw.toFin) fun a b h => by
    cases a; cases b; exact congrArg BlockId.mk (UInt32.toFin_inj.1 h)

theorem isSuccessor_eq_false_iff {r : Registry} {a : BlockId} :
    r.isSuccessor a = false ↔ r.predecessor a = none := by
  simp [isSuccessor, SortedMap.contains, predecessor]

def links {α : Type} (l : List α) : List (α × α) := l.zip l.tail

theorem map_fst_links {α : Type} (l : List α) : (links l).map Prod.fst = l.dropLast := by
  induction l with
  | nil => rfl
  | cons a l ih =>
    cases l with
    | nil => rfl
    | cons b l => exact congrArg (a :: ·) ih

theorem links_eq_nil {α : Type} {l : List α} (h : l.length ≤ 1) : links l = [] := by
  cases l with
  | nil => rfl
  | cons a l => cases l with
    | nil => rfl
    | cons b l => simp at h

/-- In a walk that ends at a block without successor the neighbours are the
edges out of its blocks. -/
theorem mem_links_iff {r : Registry} {l : List BlockId} {a b : BlockId}
    (hl : l.IsChain fun a b => r.successor a = some b)
    (hlast : ∀ x ∈ l.getLast?, r.successor x = none) :
    (a, b) ∈ links l ↔ a ∈ l ∧ r.Leads a b := by
  induction l with
  | nil => simp [links]
  | cons x l ih =>
    cases l with
    | nil =>
      have hx : r.successor x = none := hlast x rfl
      simp only [links, List.tail_cons, List.zip_nil_right, List.not_mem_nil, List.mem_singleton,
        false_iff, not_and]
      rintro rfl hab
      rw [Leads, hx] at hab
      cases hab
    | cons y l =>
      rw [List.isChain_cons_cons] at hl
      have hzip : links (x :: y :: l) = (x, y) :: links (y :: l) := rfl
      rw [hzip, List.mem_cons, ih hl.2 hlast, Prod.mk.injEq, List.mem_cons (a := a) (b := x)]
      constructor
      · rintro (⟨rfl, rfl⟩ | ⟨ha, hab⟩)
        · exact ⟨.inl rfl, hl.1⟩
        · exact ⟨.inr ha, hab⟩
      · rintro ⟨rfl | ha, hab⟩
        · exact .inl ⟨rfl, Option.some.inj (hab.symm.trans hl.1)⟩
        · exact .inr ⟨ha, hab⟩

theorem reaches_getLast {r : Registry} {a b : BlockId} (hb : b ∈ (r.chainFrom a).dropLast) :
    TransGen r.Leads b ((r.chainFrom a).getLast (r.chainFrom_ne_nil a)) := by
  have hpair := ((r.chainFrom_isChain a).imp fun x y hxy =>
    TransGen.single (r := r.Leads) hxy).pairwise
  rw [← List.dropLast_append_getLast (r.chainFrom_ne_nil a), List.pairwise_append] at hpair
  exact hpair.2.2 b hb _ List.mem_cons_self

namespace Sound
variable {r : Registry} (h : r.Sound)
include h

/-- Going back along edges ends, because no block comes after itself. -/
theorem wellFounded : WellFounded (TransGen r.Leads) := by
  have : Std.Irrefl (TransGen r.Leads) := ⟨h.acyclic⟩
  exact Finite.wellFounded_of_trans_of_irrefl _

theorem exists_entry (b : BlockId) : ∃ e, r.predecessor e = none ∧ b ∈ r.chainFrom e := by
  induction b using h.wellFounded.induction with
  | _ b ih =>
    cases hb : r.predecessor b with
    | none => exact ⟨b, hb, r.start_mem_chainFrom b⟩
    | some a =>
      have hab : r.Leads a b := (h.paired a b).2 hb
      obtain ⟨e, he, ha⟩ := ih a (.single hab)
      exact ⟨e, he, r.successor_mem_chainFrom e ha hab⟩

theorem eq_of_reaches_entry {a e : BlockId} (he : r.predecessor e = none)
    (hae : ReflTransGen r.Leads a e) : a = e := by
  rcases hae.cases_tail with rfl | ⟨c, -, hce⟩
  · rfl
  · rw [(h.paired c e).1 hce] at he
    cases he

theorem entry_unique {b e f : BlockId} (he : r.predecessor e = none) (hf : r.predecessor f = none)
    (hbe : b ∈ r.chainFrom e) (hbf : b ∈ r.chainFrom f) : e = f := by
  have hswap : Relator.RightUnique (Function.swap r.Leads) := fun _ _ _ hx hy =>
    h.source_unique hx hy
  rcases ReflTransGen.total_of_right_unique hswap
    (reflTransGen_swap.2 (mem_chainFrom_iff.1 hbe))
    (reflTransGen_swap.2 (mem_chainFrom_iff.1 hbf)) with hef | hfe
  · exact (h.eq_of_reaches_entry he (reflTransGen_swap.1 hef)).symm
  · exact h.eq_of_reaches_entry hf (reflTransGen_swap.1 hfe)

theorem successor_getLast (a : BlockId) : ∀ x ∈ (r.chainFrom a).getLast?, r.successor x = none := by
  intro x hx
  rw [List.getLast?_eq_getLast_of_ne_nil (r.chainFrom_ne_nil a), Option.mem_some_iff] at hx
  subst hx
  cases hs : r.successor ((r.chainFrom a).getLast (r.chainFrom_ne_nil a)) with
  | none => rfl
  | some b =>
    have hb := r.successor_getLast_mem a hs
    rw [← List.dropLast_append_getLast (r.chainFrom_ne_nil a), List.mem_append,
      List.mem_singleton] at hb
    rcases hb with hb | rfl
    · exact absurd ((reaches_getLast hb).tail hs) (h.acyclic b)
    · exact absurd hs (h.irrefl _)

theorem mem_links_chainFrom {a b e : BlockId} :
    (a, b) ∈ links (r.chainFrom e) ↔ a ∈ r.chainFrom e ∧ r.Leads a b :=
  mem_links_iff (r.chainFrom_isChain e) (h.successor_getLast e)

end Sound
end SpriteBlocks.Registry
