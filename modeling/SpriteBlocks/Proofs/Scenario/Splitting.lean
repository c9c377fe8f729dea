import Mathlib.Data.List.TakeWhile
import SpriteBlocks.Proofs.Text.Cutting
import SpriteBlocks.Scenario.Trial

/-!
# Splitting a scenario

A file has parts exactly if its first line is a fence and a later line is one.
The parts make up the file and no line of the expectations is a fence, and there
is only one way to split a file like this. The places of the fences are found by
counting the bytes of the lines; the texts between them are the parts.
-/
namespace SpriteBlocks.Scenario
open Text

/-- The first of the lines is a fence, and so is one behind it. -/
def Fenced (lines : List (List Char)) : Prop :=
  ∃ first rest, lines = first :: rest ∧ isFence first = true ∧ ∃ line ∈ rest, isFence line = true

structure FenceLine (line : List Char) : Prop where
  single : cutLines line = [line]
  fence : isFence line = true

/-- The file is split into the parts at its first two fences. -/
structure Parts.Splits (p : Parts) (content : List Char) : Prop where
  whole : content = p.opening ++ p.expectations ++ p.closing ++ p.script
  opening : FenceLine p.opening
  openingClosed : Closed p.opening
  /-- The expectations are whole lines, and none of them is a fence. -/
  plain : ∀ line ∈ cutLines p.expectations, isFence line = false
  expectationsClosed : Closed p.expectations
  closing : FenceLine p.closing
  /-- Whatever the script starts with, it is not part of the closing fence. -/
  closingClosed : p.script ≠ [] → Closed p.closing

/-- Lines are split at the first of them, a fence, and the first fence behind it. -/
theorem splitLines_cons {opening closing : List Char} {before behind : List (List Char)}
    (hopening : isFence opening = true) (hbefore : ∀ line ∈ before, isFence line = false)
    (hclosing : isFence closing = true) :
    splitLines (opening :: (before ++ closing :: behind)) =
      .ok ⟨opening, before.flatten, closing, behind.flatten⟩ := by
  have hplain : ∀ line ∈ before, (!isFence line) = true := by simpa using hbefore
  have hdrop : (before ++ closing :: behind).dropWhile (fun l => !isFence l) =
      closing :: behind := by
    rw [List.dropWhile_append_of_pos hplain, List.dropWhile_cons_of_neg (by simp [hclosing])]
  have htake : (before ++ closing :: behind).takeWhile (fun l => !isFence l) = before := by
    rw [List.takeWhile_append_of_pos hplain, List.takeWhile_cons_of_neg (by simp [hclosing]),
      List.append_nil]
  rw [splitLines, if_pos hopening, hdrop, htake]

/-- Behind a fence all lines can be split at the first fence, if there is one. -/
theorem exists_first_fence {lines : List (List Char)} (h : ∃ line ∈ lines, isFence line = true) :
    ∃ before closing behind, lines = before ++ closing :: behind ∧
      (∀ line ∈ before, isFence line = false) ∧ isFence closing = true := by
  obtain ⟨closing, hfound⟩ := Option.isSome_iff_exists.1 (List.find?_isSome.2 h)
  obtain ⟨hclosing, before, behind, hlines, hbefore⟩ := List.find?_eq_some_iff_append.1 hfound
  exact ⟨before, closing, behind, hlines, by simpa using hbefore, hclosing⟩

theorem splitLines_eq_ok_iff {lines : List (List Char)} {p : Parts} :
    splitLines lines = .ok p ↔ ∃ before behind,
      lines = p.opening :: (before ++ p.closing :: behind) ∧ isFence p.opening = true ∧
      (∀ line ∈ before, isFence line = false) ∧ isFence p.closing = true ∧
      p.expectations = before.flatten ∧ p.script = behind.flatten := by
  constructor
  · intro h
    cases lines with
    | nil => cases h
    | cons opening rest =>
      by_cases hopening : isFence opening = true
      · by_cases hfence : ∃ line ∈ rest, isFence line = true
        · obtain ⟨before, closing, behind, rfl, hbefore, hclosing⟩ := exists_first_fence hfence
          rw [splitLines_cons hopening hbefore hclosing] at h
          cases h
          exact ⟨before, behind, rfl, hopening, hbefore, hclosing, rfl, rfl⟩
        · have hnone : rest.dropWhile (fun l => !isFence l) = [] :=
            List.dropWhile_eq_nil_iff.2 (by simpa using hfence)
          rw [splitLines, if_pos hopening, hnone] at h
          cases h
      · rw [splitLines, if_neg hopening] at h
        cases h
  · rintro ⟨before, behind, rfl, hopening, hbefore, hclosing, hexpectations, hscript⟩
    rw [splitLines_cons hopening hbefore hclosing, ← hexpectations, ← hscript]

theorem exists_split_iff {content : List Char} :
    (∃ p, split content = .ok p) ↔ Fenced (cutLines (dropMark content)) := by
  constructor
  · rintro ⟨p, h⟩
    obtain ⟨before, behind, hlines, hopening, -, hclosing, -⟩ := splitLines_eq_ok_iff.1 h
    exact ⟨p.opening, _, hlines, hopening, p.closing, by simp, hclosing⟩
  · rintro ⟨first, rest, hlines, hfirst, hfence⟩
    obtain ⟨before, closing, behind, rfl, hbefore, hclosing⟩ := exists_first_fence hfence
    exact ⟨_, by rw [split, hlines, splitLines_cons hfirst hbefore hclosing]⟩

/-- A file is split into parts in one way: at its first two fences. -/
theorem split_eq_ok_iff {content : List Char} {p : Parts} :
    split content = .ok p ↔ p.Splits (dropMark content) := by
  constructor
  · intro h
    obtain ⟨before, behind, hlines, hopening, hbefore, hclosing, hexpectations, hscript⟩ :=
      splitLines_eq_ok_iff.1 h
    obtain ⟨hopeningSingle, hopeningClosed, hrest⟩ := cutLines_first hlines
    obtain ⟨hplain, hplainClosed, hend⟩ := cutLines_split hrest
    obtain ⟨hclosingSingle, hclosingClosed, -⟩ := cutLines_first hend
    refine ⟨?_, ⟨hopeningSingle, hopening⟩, hopeningClosed (by simp), ?_, ?_,
      ⟨hclosingSingle, hclosing⟩, ?_⟩
    · rw [← cutLines_flatten (dropMark content), hlines, hexpectations, hscript]
      simp
    · rwa [hexpectations, hplain]
    · rw [hexpectations]
      exact hplainClosed (List.cons_ne_nil _ _)
    · intro hne
      refine hclosingClosed ?_
      rintro rfl
      exact hne hscript
  · intro h
    have hend : cutLines (p.closing ++ p.script) = p.closing :: cutLines p.script := by
      by_cases hscript : p.script = []
      · rw [hscript, List.append_nil, h.closing.single, cutLines]
      · rw [cutLines_append (h.closingClosed hscript), h.closing.single, List.singleton_append]
    have hlines : cutLines (dropMark content) =
        p.opening :: (cutLines p.expectations ++ p.closing :: cutLines p.script) := by
      rw [h.whole, List.append_assoc, List.append_assoc, cutLines_append h.openingClosed,
        cutLines_append h.expectationsClosed, hend, h.opening.single, List.singleton_append]
    exact splitLines_eq_ok_iff.2 ⟨_, _, hlines, h.opening.fence, h.plain, h.closing.fence,
      (cutLines_flatten _).symm, (cutLines_flatten _).symm⟩

def ofTexts (expectations script : String) : Except ReadError Scenario :=
  match Toml.root? expectations with
  | none => .error .malformed
  | some root =>
    match Expectations.ofNode root with
    | .error e => .error (.shape expectations e)
    | .ok expectations => .ok { expectations, script }

theorem read_of_split {content : String} {p : Parts} (h : split content.toList = .ok p) :
    read content = ofTexts (.ofList p.expectations) (.ofList p.script) := by
  rw [read, h]
  rfl

theorem read_of_error {content : String} {e : FenceError} (h : split content.toList = .error e) :
    read content = .error (.fences e) := by
  rw [read, h]

/-- What comes of the two texts has nothing to do with fences. -/
theorem ofTexts_ne_fences (expectations script : String) (e : FenceError) :
    ofTexts expectations script ≠ .error (.fences e) := by
  rw [ofTexts]
  split
  · simp
  · split <;> simp

section Places
open Toml

/-- Where the first two fences stand, found line by line while bytes are counted
from the start of the file on. -/
def fencePlaces : Nat → Option Span → List (List Char) → Except FenceError (Span × Span)
  | _, _, [] => .error .notClosed
  | start, opening, line :: lines =>
    let place : Span := ⟨start, start + byteLength line⟩
    if isFence line then
      match opening with
      | none => fencePlaces place.stop (some place) lines
      | some opening => .ok (opening, place)
    else
      match opening with
      | none => .error .noOpening
      | some opening => fencePlaces place.stop (some opening) lines

def Parts.places (p : Parts) : Span × Span :=
  let opened := byteLength p.opening
  let closing := opened + byteLength p.expectations
  (⟨0, opened⟩, ⟨closing, closing + byteLength p.closing⟩)

theorem fencePlaces_behind {start : Nat} {opening : Span} {before behind : List (List Char)}
    {closing : List Char} (hbefore : ∀ line ∈ before, isFence line = false)
    (hclosing : isFence closing = true) :
    fencePlaces start (some opening) (before ++ closing :: behind) =
      .ok (opening, ⟨start + byteLength before.flatten,
        start + byteLength before.flatten + byteLength closing⟩) := by
  induction before generalizing start with
  | nil => rw [List.nil_append, fencePlaces, if_pos hclosing]; rfl
  | cons line before ih =>
    rw [List.forall_mem_cons] at hbefore
    rw [List.cons_append, fencePlaces, if_neg (by simp [hbefore.1]), ih hbefore.2,
      List.flatten_cons, byteLength_append, Nat.add_assoc start]

theorem fencePlaces_of_plain {start : Nat} {opening : Span} {lines : List (List Char)}
    (h : ∀ line ∈ lines, isFence line = false) :
    fencePlaces start (some opening) lines = .error .notClosed := by
  induction lines generalizing start with
  | nil => rfl
  | cons line lines ih =>
    rw [List.forall_mem_cons] at h
    rw [fencePlaces, if_neg (by simp [h.1]), ih h.2]

/-- The search for the fences ends as the splitting of the lines does. -/
theorem fencePlaces_eq (lines : List (List Char)) :
    fencePlaces 0 none lines = (splitLines lines).map Parts.places := by
  cases lines with
  | nil => rfl
  | cons opening rest =>
    by_cases hopening : isFence opening = true
    · rw [fencePlaces, if_pos hopening]
      by_cases hfence : ∃ line ∈ rest, isFence line = true
      · obtain ⟨before, closing, behind, rfl, hbefore, hclosing⟩ := exists_first_fence hfence
        rw [splitLines_cons hopening hbefore hclosing]
        simp only [fencePlaces_behind hbefore hclosing, Nat.zero_add]
        rfl
      · have hplain : ∀ line ∈ rest, isFence line = false := by simpa using hfence
        have hnone : rest.dropWhile (fun l => !isFence l) = [] :=
          List.dropWhile_eq_nil_iff.2 (by simpa using hplain)
        rw [splitLines, if_pos hopening, hnone]
        exact fencePlaces_of_plain hplain
    · rw [fencePlaces, if_neg hopening, splitLines, if_neg hopening]
      rfl

theorem Parts.Splits.slices {content : List Char} {p : Parts} (h : p.Splits content) :
    slice? (.ofList content) p.places.1.stop p.places.2.start = some (.ofList p.expectations) ∧
      slice? (.ofList content) p.places.2.stop (String.ofList content).utf8ByteSize =
        some (.ofList p.script) := by
  have hmiddle := slice?_append p.opening p.expectations (p.closing ++ p.script)
  have hlast := slice?_append (p.opening ++ p.expectations ++ p.closing) p.script []
  rw [← List.append_assoc, ← h.whole] at hmiddle
  rw [List.append_nil, ← byteLength_append, ← h.whole, ← utf8ByteSize_ofList content,
    byteLength_append, byteLength_append] at hlast
  exact ⟨hmiddle, hlast⟩

end Places

/-- A file gets past its fences exactly if its first line is a fence and a later
line is one. There is one way to split it then; the texts of its parts are read,
and they are what stands between the places of the fences. Whole lines without a
fence are given back when they are put between two fences, with the script behind. -/
theorem read_splits (content : String) :
    let text := dropMark content.toList
    ((∀ e, read content ≠ .error (.fences e)) ↔ Fenced (cutLines text)) ∧
    (Fenced (cutLines text) → ∃ p : Parts, (∀ q : Parts, q.Splits text ↔ q = p) ∧
      read content = ofTexts (.ofList p.expectations) (.ofList p.script) ∧
      ∃ opening closing, fencePlaces 0 none (cutLines text) = .ok (opening, closing) ∧
        slice? (.ofList text) opening.stop closing.start = some (.ofList p.expectations) ∧
        slice? (.ofList text) closing.stop (String.ofList text).utf8ByteSize =
          some (.ofList p.script)) ∧
    ∀ expectations script : String, Closed expectations.toList →
      (∀ line ∈ cutLines expectations.toList, isFence line = false) →
      read ("---\n" ++ expectations ++ "---\n" ++ script) = ofTexts expectations script := by
  intro text
  refine ⟨?_, fun hfenced => ?_, fun expectations script hclosed hplain => ?_⟩
  · rw [← exists_split_iff]
    constructor
    · intro h
      cases hsplit : split content.toList with
      | error e => exact absurd (read_of_error hsplit) (h e)
      | ok p => exact ⟨p, rfl⟩
    · rintro ⟨p, hsplit⟩ e
      rw [read_of_split hsplit]
      exact ofTexts_ne_fences _ _ e
  · obtain ⟨p, hsplit⟩ := exists_split_iff.2 hfenced
    have hplaces : fencePlaces 0 none (cutLines text) = .ok p.places := by
      rw [fencePlaces_eq]
      exact congrArg (Except.map Parts.places) hsplit
    refine ⟨p, fun q => ?_, read_of_split hsplit, _, _, hplaces,
      (split_eq_ok_iff.1 hsplit).slices⟩
    rw [← split_eq_ok_iff, hsplit, Except.ok.injEq, eq_comm]
  · have hfence : FenceLine ['-', '-', '-', '\n'] := ⟨by decide, by decide⟩
    have hfenceClosed : Closed ['-', '-', '-', '\n'] := by
      rintro c ⟨⟩
      rfl
    have hsplits : Parts.Splits ⟨['-', '-', '-', '\n'], expectations.toList, ['-', '-', '-', '\n'],
        script.toList⟩ (dropMark ("---\n" ++ expectations ++ "---\n" ++ script).toList) := by
      refine ⟨?_, hfence, hfenceClosed, hplain, hclosed, hfence, fun _ => hfenceClosed⟩
      simp [dropMark]
    rw [read_of_split (split_eq_ok_iff.2 hsplits), String.ofList_toList, String.ofList_toList]

/-- A file with a byte order mark, a carriage return before each line feed and
blanks behind a fence, whose script has a line like a fence. -/
theorem read_splits_marked :
    let content := "\ufeff---\r\nseed = 4\r\n--- \t\r\n[[block]]\r\n---\n"
    Fenced (cutLines (dropMark content.toList)) ∧
      read content = ofTexts "seed = 4\r\n" "[[block]]\r\n---\n" ∧
      read ("---\n" ++ "seed = 4\n" ++ "---\n" ++ "---\n") = ofTexts "seed = 4\n" "---\n" := by
  intro content
  have hsplit : split content.toList = .ok ⟨"---\r\n".toList, "seed = 4\r\n".toList,
      "--- \t\r\n".toList, "[[block]]\r\n---\n".toList⟩ := by decide +kernel
  have hfenced : Fenced (cutLines (dropMark content.toList)) := exists_split_iff.1 ⟨_, hsplit⟩
  obtain ⟨-, hread, hback⟩ := read_splits content
  obtain ⟨p, hunique, hparts, -⟩ := hread hfenced
  obtain rfl := (hunique _).1 (split_eq_ok_iff.1 hsplit)
  refine ⟨hfenced, by simpa using hparts, hback "seed = 4\n" "---\n" ?_ ?_⟩
  · rintro c ⟨⟩
    rfl
  · decide +kernel

end SpriteBlocks.Scenario
