import SpriteBlocks.Chain.Registry
import Mathlib.Data.List.Chain
import Mathlib.Data.List.Perm.Subperm

/-!
# Walks along successors

Whatever the two maps of a registry hold, a chain is a walk along successors
that visits no block twice, and it stops only where the next block is missing
or was visited before. The bound on the steps of the walk is never reached,
because every block that a walk leaves has an edge of its own.
-/
namespace SpriteBlocks.Registry

/-- Of two walks from one place one is a beginning of the other. -/
theorem prefix_or_prefix {α : Type} {next : α → Option α} {l l' : List α}
    (hhead : l.head? = l'.head?) (hl : l.IsChain fun a b => next a = some b)
    (hl' : l'.IsChain fun a b => next a = some b) : l <+: l' ∨ l' <+: l := by
  induction l generalizing l' with
  | nil => exact .inl List.nil_prefix
  | cons x l ih =>
    cases l' with
    | nil => exact .inr List.nil_prefix
    | cons x' l' =>
      obtain rfl : x = x' := Option.some.inj hhead
      simp only [List.prefix_cons_inj]
      cases l with
      | nil => exact .inl List.nil_prefix
      | cons y l =>
        cases l' with
        | nil => exact .inr List.nil_prefix
        | cons y' l' =>
          have hsame : y = y' := Option.some.inj (hl.rel.symm.trans hl'.rel)
          exact ih (congrArg some hsame) hl.tail hl'.tail

theorem walk_not_seen {next : BlockId → Option BlockId} {fuel : Nat} {seen : List BlockId}
    {current x : BlockId} (hx : x ∈ walk next fuel seen current) : x ∉ seen := by
  induction fuel generalizing seen current with
  | zero => cases hx
  | succ fuel ih =>
    unfold walk at hx
    split at hx
    · cases hx
    · next b _ =>
      split at hx
      · cases hx
      · next hb =>
        rcases List.mem_cons.1 hx with rfl | hx
        · exact hb
        · exact fun hs => ih hx (List.mem_cons_of_mem b hs)

theorem walk_nodup (next : BlockId → Option BlockId) (fuel : Nat) (seen : List BlockId)
    (current : BlockId) : (walk next fuel seen current).Nodup := by
  induction fuel generalizing seen current with
  | zero => exact List.nodup_nil
  | succ fuel ih =>
    unfold walk
    split
    · exact List.nodup_nil
    · next b _ =>
      split
      · exact List.nodup_nil
      · exact List.nodup_cons.2 ⟨fun h => walk_not_seen h List.mem_cons_self, ih _ _⟩

theorem walk_isChain (next : BlockId → Option BlockId) (fuel : Nat) (seen : List BlockId)
    (current : BlockId) :
    (current :: walk next fuel seen current).IsChain fun a b => next a = some b := by
  induction fuel generalizing seen current with
  | zero => exact List.isChain_singleton current
  | succ fuel ih =>
    unfold walk
    split
    · exact List.isChain_singleton current
    · next b hb =>
      split
      · exact List.isChain_singleton current
      · exact List.isChain_cons_cons.2 ⟨hb, ih (b :: seen) b⟩

theorem length_walk_le (next : BlockId → Option BlockId) (fuel : Nat) (seen : List BlockId)
    (current : BlockId) : (walk next fuel seen current).length ≤ fuel := by
  induction fuel generalizing seen current with
  | zero => exact Nat.le_refl 0
  | succ fuel ih =>
    unfold walk
    split
    · exact Nat.zero_le _
    · split
      · exact Nat.zero_le _
      · exact Nat.succ_le_succ (ih _ _)

/-- A walk that has steps left stops at a missing or a visited block. -/
theorem walk_stops {next : BlockId → Option BlockId} {fuel : Nat} {seen : List BlockId}
    {current b : BlockId} (hfuel : (walk next fuel seen current).length < fuel)
    (hb : next ((current :: walk next fuel seen current).getLast (List.cons_ne_nil _ _)) = some b) :
    b ∈ seen ∨ b ∈ walk next fuel seen current := by
  induction fuel generalizing seen current with
  | zero => exact absurd hfuel (Nat.not_lt_zero _)
  | succ fuel ih =>
    cases hn : next current with
    | none => simp [walk, hn] at hb
    | some c =>
      by_cases hc : c ∈ seen
      · simp only [walk, hn, hc, if_true, List.getLast_singleton, Option.some.injEq] at hb
        exact .inl (hb ▸ hc)
      · simp only [walk, hn, hc, if_false, List.length_cons, Nat.add_lt_add_iff_right] at hfuel hb ⊢
        rw [List.getLast_cons (List.cons_ne_nil _ _)] at hb
        rcases ih hfuel hb with h | h
        · rcases List.mem_cons.1 h with rfl | h
          · exact .inr List.mem_cons_self
          · exact .inl h
        · exact .inr (List.mem_cons_of_mem c h)

variable (r : Registry) (start : BlockId)

theorem head_chainFrom : (r.chainFrom start).head? = some start := rfl

theorem start_mem_chainFrom : start ∈ r.chainFrom start := List.mem_cons_self

theorem chainFrom_ne_nil : r.chainFrom start ≠ [] := List.cons_ne_nil _ _

theorem chainFrom_nodup : (r.chainFrom start).Nodup :=
  List.nodup_cons.2 ⟨fun h => walk_not_seen h List.mem_cons_self, walk_nodup _ _ _ _⟩

theorem chainFrom_isChain : (r.chainFrom start).IsChain fun a b => r.successor a = some b :=
  walk_isChain _ _ _ _

def sources : List BlockId := r.successors.entries.map Prod.fst

theorem mem_sources {r : Registry} {a b : BlockId} (h : r.successor a = some b) :
    a ∈ r.sources :=
  List.mem_map_of_mem ((SortedMap.get?_eq_some_iff_mem r.successors a b).1 h)

theorem length_sources : r.sources.length = r.successors.size := List.length_map Prod.fst

/-- Blocks without repetition that all have an edge are no more than the edges. -/
theorem length_le_of_successor {r : Registry} {l : List BlockId} (hl : l.Nodup)
    (h : ∀ a ∈ l, ∃ b, r.successor a = some b) : l.length ≤ r.successors.size := by
  rw [← length_sources]
  refine (List.subperm_of_subset hl fun a ha => ?_).length_le
  obtain ⟨b, hb⟩ := h a ha
  exact mem_sources hb

theorem successor_of_mem_dropLast {r : Registry} {l : List BlockId}
    (hl : l.IsChain fun a b => r.successor a = some b) {a : BlockId} (ha : a ∈ l.dropLast) :
    ∃ b ∈ l, r.successor a = some b := by
  induction l with
  | nil => cases ha
  | cons x l ih =>
    cases l with
    | nil => cases ha
    | cons y l =>
      rw [List.isChain_cons_cons] at hl
      rcases List.mem_cons.1 ha with rfl | ha
      · exact ⟨y, by simp, hl.1⟩
      · obtain ⟨b, hb, h⟩ := ih hl.2 ha
        exact ⟨b, List.mem_cons_of_mem x hb, h⟩

/-- The last block of a chain leads nowhere or back into the chain. -/
theorem successor_getLast_mem {b : BlockId}
    (h : r.successor ((r.chainFrom start).getLast (r.chainFrom_ne_nil start)) = some b) :
    b ∈ r.chainFrom start := by
  have hfuel : (walk r.successor r.successors.size [start] start).length
      < r.successors.size := by
    refine Nat.lt_of_le_of_ne (length_walk_le _ _ _ _) fun heq => ?_
    have hall : ∀ a ∈ r.chainFrom start, ∃ b, r.successor a = some b := by
      intro a ha
      rw [← List.dropLast_append_getLast (r.chainFrom_ne_nil start)] at ha
      rcases List.mem_append.1 ha with ha | ha
      · obtain ⟨c, _, hc⟩ := successor_of_mem_dropLast (r.chainFrom_isChain start) ha
        exact ⟨c, hc⟩
      · exact ⟨b, List.mem_singleton.1 ha ▸ h⟩
    have hle := length_le_of_successor (r.chainFrom_nodup start) hall
    rw [chainFrom, List.length_cons, heq] at hle
    exact Nat.not_succ_le_self _ hle
  rcases walk_stops hfuel h with hb | hb
  · exact List.mem_singleton.1 hb ▸ r.start_mem_chainFrom start
  · exact List.mem_cons_of_mem start hb

theorem successor_mem_chainFrom {a b : BlockId} (ha : a ∈ r.chainFrom start)
    (h : r.successor a = some b) : b ∈ r.chainFrom start := by
  rw [← List.dropLast_append_getLast (r.chainFrom_ne_nil start)] at ha
  rcases List.mem_append.1 ha with ha | ha
  · obtain ⟨c, hc, h'⟩ := successor_of_mem_dropLast (r.chainFrom_isChain start) ha
    exact Option.some.inj (h.symm.trans h') ▸ hc
  · exact r.successor_getLast_mem start (List.mem_singleton.1 ha ▸ h)

end SpriteBlocks.Registry
