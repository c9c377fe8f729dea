import Mathlib.Data.List.Basic
import SpriteBlocks.Text.Lines
import SpriteBlocks.Text.Search

/-!
# Cutting texts

A text that ends with a line feed is cut into lines apart from whatever comes
behind it, and the lines of a text are cut into themselves. A part of a text can
also be given by two places, counted in bytes.
-/
namespace SpriteBlocks.Text

/-- Whatever is put behind the text starts a new line. -/
def Closed (cs : List Char) : Prop := ∀ c ∈ cs.getLast?, c = '\n'

theorem closed_nil : Closed [] := by
  intro c hc
  cases hc

theorem closed_cons {c : Char} {cs : List Char} (h : cs ≠ []) : Closed (c :: cs) ↔ Closed cs := by
  rw [Closed, Closed, List.getLast?_cons_of_ne_nil h]

theorem closed_append {as bs : List Char} (ha : Closed as) (hb : Closed bs) :
    Closed (as ++ bs) := by
  intro c hc
  rw [List.getLast?_append, Option.mem_def, Option.or_eq_some_iff] at hc
  rcases hc with hc | ⟨-, hc⟩
  · exact hb c hc
  · exact ha c hc

section Lines
variable {c : Char} {cs line : List Char} {rest : List (List Char)}

theorem cutLines_ne_nil (h : cs ≠ []) : cutLines cs ≠ [] := by
  intro hnil
  rw [← cutLines_flatten cs, hnil] at h
  exact h rfl

theorem cutLines_lineFeed (cs : List Char) : cutLines ('\n' :: cs) = ['\n'] :: cutLines cs := by
  rw [cutLines, if_pos rfl]

theorem cutLines_cons (hc : c ≠ '\n') (h : cutLines cs = line :: rest) :
    cutLines (c :: cs) = (c :: line) :: rest := by
  rw [cutLines, if_neg hc, h]

/-- A text that ends with its last line is cut apart from what comes behind it. -/
theorem cutLines_append {as : List Char} (h : Closed as) (bs : List Char) :
    cutLines (as ++ bs) = cutLines as ++ cutLines bs := by
  induction as with
  | nil => rfl
  | cons a as ih =>
    by_cases ha : a = '\n'
    · subst ha
      have hclosed : Closed as := by
        cases as with
        | nil => exact closed_nil
        | cons b as => exact (closed_cons (List.cons_ne_nil b as)).1 h
      rw [List.cons_append, cutLines_lineFeed, cutLines_lineFeed, ih hclosed, List.cons_append]
    · have hne : as ≠ [] := by
        rintro rfl
        exact ha (h a rfl)
      obtain ⟨line, rest, hcut⟩ := List.exists_cons_of_ne_nil (cutLines_ne_nil hne)
      have hboth : cutLines (as ++ bs) = line :: (rest ++ cutLines bs) := by
        rw [ih ((closed_cons hne).1 h), hcut, List.cons_append]
      rw [List.cons_append, cutLines_cons ha hboth, cutLines_cons ha hcut, List.cons_append]

/-- The first line of a text is a single line, and it is closed if another follows. -/
theorem cutLines_first (h : cutLines cs = line :: rest) :
    cutLines line = [line] ∧ (rest ≠ [] → Closed line) ∧ cutLines rest.flatten = rest := by
  induction cs generalizing line rest with
  | nil => cases h
  | cons c cs ih =>
    by_cases hc : c = '\n'
    · subst hc
      rw [cutLines_lineFeed] at h
      obtain ⟨rfl, rfl⟩ := List.cons.inj h
      refine ⟨rfl, fun _ => ?_, by rw [cutLines_flatten]⟩
      rintro c ⟨⟩
      rfl
    · cases hcut : cutLines cs with
      | nil =>
        rw [cutLines, if_neg hc, hcut] at h
        obtain ⟨rfl, rfl⟩ := List.cons.inj h
        exact ⟨by rw [cutLines, if_neg hc, cutLines], fun hne => absurd rfl hne, rfl⟩
      | cons line' rest' =>
        rw [cutLines_cons hc hcut] at h
        obtain ⟨rfl, rfl⟩ := List.cons.inj h
        obtain ⟨hsingle, hclosed, hrest⟩ := ih hcut
        have hne : line' ≠ [] := by
          rintro rfl
          cases hsingle
        exact ⟨cutLines_cons hc hsingle, fun h => (closed_cons hne).2 (hclosed h), hrest⟩

/-- Lines of a text, taken together from the first or up to the last, are cut into themselves. -/
theorem cutLines_split {before behind : List (List Char)} (h : cutLines cs = before ++ behind) :
    cutLines before.flatten = before ∧ (behind ≠ [] → Closed before.flatten) ∧
      cutLines behind.flatten = behind := by
  induction before generalizing cs with
  | nil =>
    rw [List.nil_append] at h
    refine ⟨rfl, fun _ => closed_nil, ?_⟩
    rw [← h, cutLines_flatten]
  | cons line before ih =>
    obtain ⟨hsingle, hclosed, hrest⟩ := cutLines_first h
    obtain ⟨hbefore, hclosed', hbehind⟩ := ih hrest
    rw [List.flatten_cons]
    refine ⟨?_, fun hne => closed_append (hclosed (by simp [hne])) (hclosed' hne), hbehind⟩
    cases before with
    | nil => rwa [List.flatten_nil, List.append_nil]
    | cons next before =>
      rw [cutLines_append (hclosed (List.cons_ne_nil _ _)), hsingle, hbefore, List.singleton_append]

end Lines

section Bytes

theorem utf8ByteSize_ofList (cs : List Char) : (String.ofList cs).utf8ByteSize = byteLength cs := by
  induction cs with
  | nil => rfl
  | cons c cs ih =>
    rw [← List.singleton_append, String.ofList_append, String.utf8ByteSize_append, ih,
      byteLength_append, ← String.singleton_eq_ofList, String.utf8ByteSize_singleton]
    rfl

/-- The part of a text between two places, counted in bytes. There is none
unless both places are between characters and in this order. -/
def slice? (s : String) (start stop : Nat) : Option String :=
  if h : String.Pos.Raw.IsValid s ⟨start⟩ ∧ String.Pos.Raw.IsValid s ⟨stop⟩ ∧ start ≤ stop then
    some (s.extract ⟨⟨start⟩, h.1⟩ ⟨⟨stop⟩, h.2.1⟩)
  else none

theorem slice?_append (before part behind : List Char) :
    slice? (String.ofList (before ++ part ++ behind)) (byteLength before)
      (byteLength before + byteLength part) = some (String.ofList part) := by
  simp only [← utf8ByteSize_ofList, String.ofList_append, ← String.utf8ByteSize_append]
  generalize String.ofList before = before
  generalize String.ofList part = part
  generalize String.ofList behind = behind
  have hstart : String.Pos.Raw.IsValid (before ++ part ++ behind) ⟨before.utf8ByteSize⟩ :=
    String.Pos.Raw.isValid_iff_exists_append.2 ⟨before, part ++ behind, String.append_assoc, rfl⟩
  have hstop : String.Pos.Raw.IsValid (before ++ part ++ behind) ⟨(before ++ part).utf8ByteSize⟩ :=
    String.Pos.Raw.isValid_iff_exists_append.2 ⟨before ++ part, behind, rfl, rfl⟩
  have hle : before.utf8ByteSize ≤ (before ++ part).utf8ByteSize := by simp
  have hbehind : behind.toByteArray.extract
      (before.utf8ByteSize - (before ++ part).toByteArray.size)
      ((before ++ part).utf8ByteSize - (before ++ part).toByteArray.size) = ByteArray.empty := by
    simp
  rw [slice?, dif_pos ⟨hstart, hstop, hle⟩, Option.some.injEq, ← String.toByteArray_inj]
  calc (before ++ part ++ behind).toByteArray.extract before.utf8ByteSize
        (before ++ part).utf8ByteSize
      = (before ++ part).toByteArray.extract before.utf8ByteSize (before ++ part).utf8ByteSize := by
        rw [String.toByteArray_append, ByteArray.extract_append, hbehind, ByteArray.append_empty]
    _ = part.toByteArray := by
        rw [String.toByteArray_append, String.utf8ByteSize_append]
        exact ByteArray.extract_append_eq_right rfl rfl

end Bytes
end SpriteBlocks.Text
