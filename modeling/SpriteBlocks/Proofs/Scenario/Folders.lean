import SpriteBlocks.Proofs.Text.Pieces
import SpriteBlocks.Scenario.Category

/-!
# Categories are folders

A category is spelled by the names of the folders on its way from the root. A
name selects the categories whose way begins with its own, which is decided by
comparing the texts and looking at the next character. What is selected and
which names have no category are found by two scans that agree.
-/
namespace SpriteBlocks
namespace Scenario

/-- Names of folders, each inside the one before. -/
def IsWay (names : List String) : Prop := ∀ n ∈ names, n ≠ "" ∧ '/' ∉ n.toList

/-- The text is the way, with slashes between the names. The root has the empty text. -/
def Spells (text : String) (way : List String) : Prop := IsWay way ∧ text = "/".intercalate way

/-- The category is the folder with the name or inside of it. -/
def Inside (category name : String) : Prop :=
  ∃ way around, Spells category way ∧ Spells name around ∧ around <+: way

def components (text : String) : List String := if text = "" then [] else Text.split '/' text

instance (names : List String) : Decidable (IsWay names) :=
  inferInstanceAs (Decidable (∀ n ∈ names, n ≠ "" ∧ '/' ∉ n.toList))

theorem intercalate_components (text : String) : "/".intercalate (components text) = text := by
  rw [components]
  split
  · next h => rw [h, String.intercalate_nil]
  · exact Text.intercalate_split '/' text

/-- A text spells at most one way. -/
theorem spells_iff {text : String} {way : List String} :
    Spells text way ↔ IsWay way ∧ components text = way := by
  refine and_congr_right fun hway => ⟨?_, fun h => h ▸ (intercalate_components text).symm⟩
  rintro rfl
  cases way with
  | nil => rfl
  | cons n way =>
    have hsplit : Text.split '/' ("/".intercalate (n :: way)) = n :: way :=
      Text.split_intercalate (List.cons_ne_nil n way) fun m hm => (hway m hm).2
    have hne : "/".intercalate (n :: way) ≠ "" := by
      intro hempty
      rw [hempty] at hsplit
      exact (hway n List.mem_cons_self).1 (List.cons.inj hsplit).1.symm
    rw [components, if_neg hne, hsplit]

theorem exists_spells_iff {text : String} :
    (∃ way, Spells text way) ↔ IsWay (components text) := by
  simp [spells_iff]

theorem inside_iff {category name : String} : Inside category name ↔
    IsWay (components category) ∧ IsWay (components name) ∧
      components name <+: components category := by
  simp only [Inside, spells_iff]
  constructor
  · rintro ⟨_, _, ⟨hway, rfl⟩, ⟨haround, rfl⟩, hprefix⟩
    exact ⟨hway, haround, hprefix⟩
  · rintro ⟨hway, haround, hprefix⟩
    exact ⟨_, _, ⟨hway, rfl⟩, ⟨haround, rfl⟩, hprefix⟩

instance (category name : String) : Decidable (Inside category name) :=
  decidable_of_iff _ inside_iff.symm

/-- The text of a category begins with a name, and nothing or a slash comes behind it. -/
theorem inCategory_iff_append {category name : String} : inCategory category name = true ↔
    category = name ∨ ∃ rest, category = name ++ "/" ++ rest := by
  rw [inCategory]
  constructor
  · intro h
    split at h
    · next hprefix =>
      obtain ⟨rest, hrest⟩ := List.isPrefixOf_iff_prefix.1 hprefix
      have hcategory : category = name ++ String.ofList rest := by
        rw [← String.toList_inj, String.toList_append, String.toList_ofList, hrest]
      rw [← hrest, ← String.length_toList, List.drop_left] at h
      cases rest with
      | nil => exact .inl (by simpa using hcategory)
      | cons c rest =>
        obtain rfl : c = '/' := of_decide_eq_true h
        refine .inr ⟨String.ofList rest, ?_⟩
        rw [hcategory, ← String.toList_inj]
        simp
    · cases h
  · rintro (rfl | ⟨rest, rfl⟩)
    · simp [← String.length_toList]
    · simp [← String.length_toList, List.isPrefixOf_iff_prefix, List.append_assoc]

/-- Comparing texts finds the categories that are inside a folder. -/
theorem inCategory_iff_inside {category name : String} (hcategory : ∃ way, Spells category way)
    (hname : ∃ way, Spells name way) (hne : name ≠ "") :
    inCategory category name = true ↔ Inside category name := by
  rw [inside_iff, ← exists_spells_iff, ← exists_spells_iff]
  simp only [hcategory, hname, true_and, inCategory_iff_append]
  rw [components, if_neg hne, components]
  split
  · next hroot =>
    -- the root is inside of no other folder
    subst hroot
    refine iff_of_false ?_ fun hprefix => Text.split_ne_nil '/' name (List.prefix_nil.1 hprefix)
    rintro (h | ⟨rest, h⟩)
    · exact hne h.symm
    · have hlength := congrArg String.length h
      have hslash : "/".length = 1 := rfl
      simp only [String.length_append, String.length_empty] at hlength
      omega
  · exact (Text.split_prefix_iff (c := '/')).symm

/-- What is selected by names of folders, and which of the names have no category. -/
structure Selects {α : Type} (found : SortedMap String α) (wanted : List String)
    (kept : SortedMap String α) (missed : List String) : Prop where
  kept_iff : ∀ e, e ∈ kept.entries ↔
    e ∈ found.entries ∧ ∃ name ∈ wantedNames wanted, Inside e.1 name
  inOrder : kept.entries.Sublist found.entries
  once : (kept.entries.map Prod.fst).Nodup
  missed_eq : missed =
    (wantedNames wanted).filter fun name => ∀ e ∈ found.entries, ¬ Inside e.1 name
  void_iff : kept.entries = [] ↔ missed = wantedNames wanted

section Selection
variable {α : Type} {found : SortedMap String α} {wanted : List String}

theorem nodup_keys (m : SortedMap String α) : (m.entries.map Prod.fst).Nodup :=
  List.pairwise_map.2 (m.increasing.imp fun h => String.ne_of_lt h)

theorem select_of_ne_nil (hne : wanted ≠ []) : select found wanted =
    (⟨found.entries.filter fun e => (wantedNames wanted).any (inCategory e.1),
        found.increasing.filter _⟩,
      (wantedNames wanted).filter fun name => !found.entries.any fun e => inCategory e.1 name) :=
  if_neg (by simpa using hne)

/-- Names of folders select the categories that are inside one of the folders,
each of them once and as it was; the names that select nothing are handed back
in order; and neither the order nor the number of the names matters. -/
theorem select_follows_folders (hfound : ∀ e ∈ found.entries, ∃ way, Spells e.1 way)
    (hne : wanted ≠ [])
    (hwanted : ∀ name ∈ wantedNames wanted, name ≠ "" ∧ ∃ way, Spells name way) :
    Selects found wanted (select found wanted).1 (select found wanted).2 ∧
      ∀ wanted', (∀ w, w ∈ wanted' ↔ w ∈ wanted) →
        (select found wanted').1 = (select found wanted).1 := by
  have hinside {e : String × α} (he : e ∈ found.entries) {name : String}
      (hname : name ∈ wantedNames wanted) : inCategory e.1 name = true ↔ Inside e.1 name :=
    inCategory_iff_inside (hfound e he) (hwanted name hname).2 (hwanted name hname).1
  have hkept : ∀ e, e ∈ (select found wanted).1.entries ↔
      e ∈ found.entries ∧ ∃ name ∈ wantedNames wanted, Inside e.1 name := by
    intro e
    rw [select_of_ne_nil hne, List.mem_filter, List.any_eq_true]
    refine and_congr_right fun he => exists_congr fun name => ?_
    exact and_congr_right fun hname => hinside he hname
  have hmissed : (select found wanted).2 =
      (wantedNames wanted).filter fun name => ∀ e ∈ found.entries, ¬ Inside e.1 name := by
    rw [select_of_ne_nil hne]
    refine List.filter_congr fun name hname => Bool.eq_iff_iff.2 ?_
    rw [Bool.not_eq_true', List.any_eq_false, decide_eq_true_iff]
    exact forall₂_congr fun e he => not_congr (hinside he hname)
  refine ⟨⟨hkept, ?_, nodup_keys _, hmissed, ?_⟩, fun wanted' hsame => ?_⟩
  · rw [select_of_ne_nil hne]
    exact List.filter_sublist
  · rw [hmissed, List.filter_eq_self, List.eq_nil_iff_forall_not_mem]
    simp only [hkept, decide_eq_true_iff]
    exact ⟨fun h name hname e he hin => h e ⟨he, name, hname, hin⟩,
      fun h e ⟨he, name, hname, hin⟩ => h name hname e he hin⟩
  · have hne' : wanted' ≠ [] := by
      rintro rfl
      exact hne (List.eq_nil_iff_forall_not_mem.2 fun w hw => List.not_mem_nil ((hsame w).2 hw))
    have hnames : ∀ name, name ∈ wantedNames wanted' ↔ name ∈ wantedNames wanted := by
      simp only [wantedNames, List.mem_map, hsame, implies_true]
    rw [select_of_ne_nil hne, select_of_ne_nil hne', SortedMap.mk.injEq]
    refine List.filter_congr fun e _ => Bool.eq_iff_iff.2 ?_
    simp only [List.any_eq_true, hnames]

end Selection

/-- A folder that is named twice, one whose name begins with that of another, and one that is
not there. -/
theorem select_follows_folders_nested :
    let found : SortedMap String Nat :=
      .ofList [("", 1), ("control", 2), ("control/loops", 3), ("controls", 4), ("motion", 5)]
    let wanted := ["control/", "sound", "/control", "control/loop"]
    (∀ e ∈ found.entries, ∃ way, Spells e.1 way) ∧ wanted ≠ [] ∧
      (∀ name ∈ wantedNames wanted, name ≠ "" ∧ ∃ way, Spells name way) ∧
      (select found wanted).1.entries = [("control", 2), ("control/loops", 3)] ∧
      (select found wanted).2 = ["sound", "control/loop"] ∧
      Selects found wanted (select found wanted).1 (select found wanted).2 := by
  intro found wanted
  have hfound : ∀ e ∈ found.entries, ∃ way, Spells e.1 way := by
    simp only [exists_spells_iff]
    decide +kernel
  have hne : wanted ≠ [] := List.cons_ne_nil _ _
  have hwanted : ∀ name ∈ wantedNames wanted, name ≠ "" ∧ ∃ way, Spells name way := by
    simp only [exists_spells_iff]
    decide +kernel
  exact ⟨hfound, hne, hwanted, by decide +kernel, by decide +kernel,
    (select_follows_folders hfound hne hwanted).1⟩

end Scenario
end SpriteBlocks
