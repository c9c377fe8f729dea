import Mathlib.Data.List.Basic
import SpriteBlocks.Text.Search

/-!
# Pieces of a text

The pieces between occurrences of a character, joined by it, are the text again,
and texts without the character are found again as the pieces of what joins them.
-/
namespace SpriteBlocks.Text
variable {c : Char} {s t : String}

theorem splitChars_eq_splitOn (c : Char) (cs : List Char) : splitChars c cs = cs.splitOn c := by
  induction cs with
  | nil => rfl
  | cons d ds ih =>
    rw [splitChars, ih, List.splitOn, List.splitOn, List.splitOnP_cons_eq_if_modifyHead]
    obtain ⟨piece, pieces, hpieces⟩ :=
      List.exists_cons_of_ne_nil (List.splitOnP_ne_nil (fun x => x == c) ds)
    rw [hpieces]
    by_cases hd : d = c
    · simp [hd]
    · simp [hd]

theorem split_ne_nil (c : Char) (s : String) : split c s ≠ [] := by
  simp [split, splitChars_eq_splitOn]

theorem intercalate_split (c : Char) (s : String) :
    (String.singleton c).intercalate (split c s) = s := by
  rw [← String.toList_inj, String.toList_intercalate, split, splitChars_eq_splitOn, List.map_map]
  simp [Function.comp_def, List.intercalate_splitOn]

theorem split_intercalate {names : List String} (hne : names ≠ [])
    (hnames : ∀ n ∈ names, c ∉ n.toList) :
    split c ((String.singleton c).intercalate names) = names := by
  have hlists : ∀ l ∈ names.map String.toList, c ∉ l := by simpa using hnames
  rw [split, splitChars_eq_splitOn, String.toList_intercalate, String.toList_singleton,
    List.splitOn_intercalate c hlists (by simpa using hne), List.map_map]
  simp [Function.comp_def]

/-- The pieces of two texts with the character between them. -/
theorem split_append_singleton_append (c : Char) (s t : String) :
    split c (s ++ String.singleton c ++ t) = split c s ++ split c t := by
  simp only [split, splitChars_eq_splitOn, String.toList_append, String.toList_singleton,
    List.append_assoc, List.singleton_append, List.splitOn_append_cons_self, List.map_append]

theorem split_of_not_mem (h : c ∉ s.toList) : split c s = [s] := by
  rw [split, splitChars_eq_splitOn, List.splitOn_eq_singleton h, List.map_singleton,
    String.ofList_toList]

/-- A text without the character goes in front of the first piece. -/
theorem split_append_of_not_mem (h : c ∉ s.toList) (t : String) :
    split c (s ++ t) = (split c t).modifyHead (s ++ ·) := by
  have hlists (xs : List Char) (hxs : c ∉ xs) : (xs ++ t.toList).splitOn c =
      (t.toList.splitOn c).modifyHead (xs ++ ·) := by
    induction xs with
    | nil => exact (List.modifyHead_id ▸ rfl)
    | cons x xs ih =>
      rw [List.mem_cons, not_or] at hxs
      have hx : ¬ (x == c) = true := by simpa using Ne.symm hxs.1
      rw [List.cons_append, List.splitOn_cons_eq_if_modifyHead, if_neg hx, ih hxs.2,
        List.modifyHead_modifyHead]
      rfl
  obtain ⟨piece, pieces, hpieces⟩ :=
    List.exists_cons_of_ne_nil (List.splitOn_ne_nil c t.toList)
  simp [split, splitChars_eq_splitOn, hlists s.toList h, hpieces]

/-- The pieces of one text begin those of another exactly if the text is followed by nothing or
by the character between the pieces. -/
theorem split_prefix_iff : split c s <+: split c t ↔
    t = s ∨ ∃ rest, t = s ++ String.singleton c ++ rest := by
  constructor
  · rintro ⟨rest, hrest⟩
    have hjoin := intercalate_split c t
    rw [← hrest] at hjoin
    cases rest with
    | nil =>
      rw [List.append_nil, intercalate_split] at hjoin
      exact .inl hjoin.symm
    | cons r rest =>
      rw [String.intercalate_append_of_ne_nil (split_ne_nil c s) (List.cons_ne_nil _ _),
        intercalate_split] at hjoin
      exact .inr ⟨_, hjoin.symm⟩
  · rintro (rfl | ⟨rest, rfl⟩)
    · exact List.prefix_rfl
    · rw [split_append_singleton_append]
      exact List.prefix_append _ _

theorem not_mem_of_mem_split (h : t ∈ split c s) : c ∉ t.toList := by
  have hlists (cs : List Char) : ∀ piece ∈ splitChars c cs, c ∉ piece := by
    induction cs with
    | nil => simp [splitChars]
    | cons d ds ih =>
      rw [splitChars]
      split
      · next piece pieces hpieces =>
        rw [hpieces, List.forall_mem_cons] at ih
        by_cases hd : d = c
        · simpa [hd] using ih
        · simpa [hd, Ne.symm hd] using ih
      · next hnone => simp [splitChars_eq_splitOn] at hnone
  obtain ⟨piece, hpiece, rfl⟩ := List.mem_map.1 h
  rw [String.toList_ofList]
  exact hlists _ piece hpiece

end SpriteBlocks.Text
