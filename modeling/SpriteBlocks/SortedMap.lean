/-!
# Finite maps in key order

A finite map is a list of entries whose keys strictly increase. Two maps with
the same look-ups therefore have the same entries, and listing a map in key
order costs nothing. `get?_insert`, `get?_erase` and `ext` say all that the
rest of the library uses.
-/
namespace SpriteBlocks
universe u v

/-- A finite map, kept as entries with strictly increasing keys. -/
structure SortedMap (κ : Type u) (ν : Type v) [LT κ] where
  entries : List (κ × ν)
  increasing : entries.Pairwise (fun a b => a.1 < b.1)

namespace SortedMap
variable {κ : Type u} {ν : Type v}

instance [LT κ] : EmptyCollection (SortedMap κ ν) := ⟨⟨[], .nil⟩⟩

instance [LT κ] : Inhabited (SortedMap κ ν) := ⟨∅⟩

instance [LT κ] [DecidableEq κ] [DecidableEq ν] : DecidableEq (SortedMap κ ν) :=
  fun a b => decidable_of_iff (a.entries = b.entries)
    ⟨fun h => by cases a; cases b; cases h; rfl, fun h => by rw [h]⟩

def lookup [DecidableEq κ] (k : κ) : List (κ × ν) → Option ν
  | [] => none
  | (k', v) :: rest => if k = k' then some v else lookup k rest

/-- Write an entry at its place, over an entry with the same key. -/
def insertEntry [LT κ] [DecidableLT κ] [DecidableEq κ] (k : κ) (v : ν) :
    List (κ × ν) → List (κ × ν)
  | [] => [(k, v)]
  | (k', v') :: rest =>
    if k = k' then (k, v) :: rest
    else if k < k' then (k, v) :: (k', v') :: rest
    else (k', v') :: insertEntry k v rest

theorem lookup_insertEntry [LT κ] [DecidableLT κ] [DecidableEq κ] (k x : κ) (v : ν)
    (l : List (κ × ν)) :
    lookup x (insertEntry k v l) = if x = k then some v else lookup x l := by
  induction l with
  | nil => simp [insertEntry, lookup]
  | cons e rest ih => grind [insertEntry, lookup]

theorem lookup_filter_ne [DecidableEq κ] (k x : κ) (l : List (κ × ν)) :
    lookup x (l.filter (fun e => e.1 ≠ k)) = if x = k then none else lookup x l := by
  induction l with
  | nil => simp [lookup]
  | cons e rest ih => grind [lookup]

theorem mem_of_mem_insertEntry [LT κ] [DecidableLT κ] [DecidableEq κ] {k : κ} {v : ν}
    {l : List (κ × ν)} {e : κ × ν} (h : e ∈ insertEntry k v l) : e = (k, v) ∨ e ∈ l := by
  induction l with
  | nil => simpa [insertEntry] using h
  | cons e' rest ih => grind [insertEntry]

theorem lookup_of_mem [LT κ] [DecidableEq κ] [Std.Irrefl (α := κ) (· < ·)] {k : κ} {v : ν}
    {l : List (κ × ν)} (hl : l.Pairwise (fun a b => a.1 < b.1)) (h : (k, v) ∈ l) :
    lookup k l = some v := by
  induction l with
  | nil => cases h
  | cons e rest ih =>
    rw [List.pairwise_cons] at hl
    rcases List.mem_cons.1 h with rfl | h
    · simp [lookup]
    · have hne : k ≠ e.1 := fun he => Std.lt_irrefl (he ▸ hl.1 _ h : e.1 < e.1)
      simp [lookup, hne, ih hl.2 h]

theorem mem_of_lookup [DecidableEq κ] {k : κ} {v : ν} {l : List (κ × ν)}
    (h : lookup k l = some v) : (k, v) ∈ l := by
  induction l with
  | nil => simp [lookup] at h
  | cons e rest ih => grind [lookup]

section Order
variable [LE κ] [LT κ] [DecidableLT κ] [DecidableEq κ] [Std.LawfulOrderLT κ] [Std.IsLinearOrder κ]

theorem insertEntry_pairwise (k : κ) (v : ν) {l : List (κ × ν)}
    (hl : l.Pairwise (fun a b => a.1 < b.1)) :
    (insertEntry k v l).Pairwise (fun a b => a.1 < b.1) := by
  induction l with
  | nil => simp [insertEntry]
  | cons e rest ih =>
    obtain ⟨k', v'⟩ := e
    rw [List.pairwise_cons] at hl
    rw [insertEntry]
    split
    · next h => exact List.pairwise_cons.2 ⟨fun a ha => h ▸ hl.1 a ha, hl.2⟩
    · next h =>
      split
      · next hlt =>
        refine List.pairwise_cons.2 ⟨fun a ha => ?_, List.pairwise_cons.2 hl⟩
        rcases List.mem_cons.1 ha with rfl | ha
        · exact hlt
        · exact Std.lt_trans hlt (hl.1 a ha)
      · next hlt =>
        refine List.pairwise_cons.2 ⟨fun a ha => ?_, ih hl.2⟩
        rcases mem_of_mem_insertEntry ha with rfl | ha
        · exact Std.lt_of_le_of_ne (Std.not_lt.1 hlt) (Ne.symm h)
        · exact hl.1 a ha

def insert (m : SortedMap κ ν) (k : κ) (v : ν) : SortedMap κ ν :=
  ⟨insertEntry k v m.entries, insertEntry_pairwise k v m.increasing⟩

/-- The map of a list of entries; of two with one key the later counts. -/
def ofList (l : List (κ × ν)) : SortedMap κ ν :=
  l.foldl (fun m e => m.insert e.1 e.2) ∅

end Order

section Basic
variable [LT κ] [DecidableEq κ]

def get? (m : SortedMap κ ν) (k : κ) : Option ν := lookup k m.entries

def contains (m : SortedMap κ ν) (k : κ) : Bool := (m.get? k).isSome

def erase (m : SortedMap κ ν) (k : κ) : SortedMap κ ν :=
  ⟨m.entries.filter (fun e => e.1 ≠ k), m.increasing.filter _⟩

end Basic

def size [LT κ] (m : SortedMap κ ν) : Nat := m.entries.length

def isEmpty [LT κ] (m : SortedMap κ ν) : Bool := m.entries.isEmpty

@[simp] theorem get?_empty [LT κ] [DecidableEq κ] (k : κ) :
    (∅ : SortedMap κ ν).get? k = none := rfl

@[simp] theorem get?_insert [LE κ] [LT κ] [DecidableLT κ] [DecidableEq κ] [Std.LawfulOrderLT κ]
    [Std.IsLinearOrder κ] (m : SortedMap κ ν) (k x : κ) (v : ν) :
    (m.insert k v).get? x = if x = k then some v else m.get? x :=
  lookup_insertEntry k x v m.entries

@[simp] theorem get?_erase [LT κ] [DecidableEq κ] (m : SortedMap κ ν) (k x : κ) :
    (m.erase k).get? x = if x = k then none else m.get? x :=
  lookup_filter_ne k x m.entries

theorem get?_eq_some_iff_mem [LT κ] [DecidableEq κ] [Std.Irrefl (α := κ) (· < ·)]
    (m : SortedMap κ ν) (k : κ) (v : ν) : m.get? k = some v ↔ (k, v) ∈ m.entries :=
  ⟨mem_of_lookup, lookup_of_mem m.increasing⟩

theorem ext_of_get? [LE κ] [LT κ] [DecidableEq κ] [Std.LawfulOrderLT κ] [Std.IsLinearOrder κ]
    {m n : SortedMap κ ν} (h : ∀ k, m.get? k = n.get? k) : m = n := by
  have key : ∀ {l₁ l₂ : List (κ × ν)}, l₁.Pairwise (fun a b => a.1 < b.1) →
      l₂.Pairwise (fun a b => a.1 < b.1) → (∀ e, e ∈ l₁ ↔ e ∈ l₂) → l₁ = l₂ := by
    intro l₁
    induction l₁ with
    | nil =>
      intro l₂ _ _ hm
      cases l₂ with
      | nil => rfl
      | cons e r => exact absurd ((hm e).2 List.mem_cons_self) List.not_mem_nil
    | cons e r ih =>
      intro l₂ h₁ h₂ hm
      cases l₂ with
      | nil => exact absurd ((hm e).1 List.mem_cons_self) List.not_mem_nil
      | cons e' r' =>
        rw [List.pairwise_cons] at h₁ h₂
        have hee : e = e' := by
          rcases List.mem_cons.1 ((hm e).1 List.mem_cons_self) with h | h
          · exact h
          · rcases List.mem_cons.1 ((hm e').2 List.mem_cons_self) with h' | h'
            · exact h'.symm
            · exact absurd (Std.lt_trans (h₁.1 _ h') (h₂.1 _ h)) Std.lt_irrefl
        subst hee
        have : r = r' := ih h₁.2 h₂.2 fun x => by
          constructor
          · intro hx
            rcases List.mem_cons.1 ((hm x).1 (List.mem_cons_of_mem _ hx)) with h | h
            · exact absurd (h ▸ h₁.1 _ hx : e.1 < e.1) Std.lt_irrefl
            · exact h
          · intro hx
            rcases List.mem_cons.1 ((hm x).2 (List.mem_cons_of_mem _ hx)) with h | h
            · exact absurd (h ▸ h₂.1 _ hx : e.1 < e.1) Std.lt_irrefl
            · exact h
        rw [this]
  have : m.entries = n.entries := key m.increasing n.increasing fun e => by
    rw [← get?_eq_some_iff_mem (m := m) (k := e.1) (v := e.2), h, get?_eq_some_iff_mem]
  cases m; cases n; cases this; rfl

end SortedMap
end SpriteBlocks
