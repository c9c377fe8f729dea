import Mathlib.Data.List.NodupEquivFin
import SpriteBlocks.Proofs.Scenario.Verdict

/-!
# Occurrences of expected texts

Texts occur in a log if lines can be assigned to them in strictly increasing
order. The check of a log goes through the lines once and gives each text the
first line that it can have. It finds an assignment whenever there is one, and
otherwise it names the first text that no assignment reaches.
-/
namespace SpriteBlocks.Scenario

/-- Lines are assigned to the texts in strictly increasing order, each with its text in it. -/
def Occur (texts messages : List String) : Prop :=
  ∃ place : Fin texts.length → Fin messages.length,
    StrictMono place ∧ ∀ i, Mentions texts[i] messages[place i]

section Assignments
variable {texts messages : List String}

theorem Occur.sublistForall₂ (h : Occur texts messages) :
    List.SublistForall₂ Mentions texts messages := by
  obtain ⟨place, hmono, hmentions⟩ := h
  refine List.sublistForall₂_iff.2 ⟨List.ofFn fun i => messages[place i], ?_, ?_⟩
  · refine List.forall₂_iff_get.2 ⟨(List.length_ofFn).symm, fun i hi hi' => ?_⟩
    simpa using hmentions ⟨i, hi⟩
  · refine List.sublist_iff_exists_fin_orderEmbedding_get_eq.2
      ⟨.ofStrictMono (fun i => place (i.cast List.length_ofFn)) fun i j hij => hmono hij, ?_⟩
    exact fun i => List.get_ofFn _ i

theorem Occur.of_sublistForall₂ (h : List.SublistForall₂ Mentions texts messages) :
    Occur texts messages := by
  obtain ⟨found, hfound, hsub⟩ := List.sublistForall₂_iff.1 h
  obtain ⟨hlength, hmentions⟩ := List.forall₂_iff_get.1 hfound
  obtain ⟨place, hplace⟩ := List.sublist_iff_exists_fin_orderEmbedding_get_eq.1 hsub
  refine ⟨fun i => place (i.cast hlength), fun i j hij => place.strictMono hij, fun i => ?_⟩
  have hfound := hplace (i.cast hlength)
  rw [List.get_eq_getElem, List.get_eq_getElem] at hfound
  have hmention := hmentions i i.isLt (hlength ▸ i.isLt)
  rw [List.get_eq_getElem, List.get_eq_getElem] at hmention
  exact hfound ▸ hmention

theorem Occur.take (h : Occur texts messages) (n : Nat) : Occur (texts.take n) messages := by
  obtain ⟨place, hmono, hmentions⟩ := h
  have hle : (texts.take n).length ≤ texts.length := List.length_take_le' n texts
  refine ⟨fun i => place (i.castLE hle), fun i j hij => hmono hij, fun i => ?_⟩
  have htext : (texts.take n)[i] = texts[i.castLE hle] := List.getElem_take
  exact htext ▸ hmentions (i.castLE hle)

/-- The search fails on no list of texts that occurs. -/
theorem firstUnmatched_eq_none_iff_occur : firstUnmatched texts messages = none ↔
    Occur texts messages := by
  rw [firstUnmatched_eq_none_iff]
  exact ⟨.of_sublistForall₂, Occur.sublistForall₂⟩

end Assignments

section Failures
variable {texts messages : List String} {text : String}

theorem firstUnmatched_cons (text : String) (texts messages : List String) :
    firstUnmatched (text :: texts) messages =
      match messages.dropWhile fun m => !Text.contains m text with
      | [] => some text
      | _ :: later => firstUnmatched texts later := rfl

/-- Texts behind the one that is named do not matter, and those before it are found. -/
theorem exists_of_firstUnmatched (h : firstUnmatched texts messages = some text) :
    ∃ i, texts[i]? = some text ∧ (∀ j < i, firstUnmatched (texts.take (j + 1)) messages = none) ∧
      firstUnmatched (texts.take (i + 1)) messages = some text := by
  induction texts generalizing messages with
  | nil => cases h
  | cons first texts ih =>
    rw [firstUnmatched_cons] at h
    split at h
    · next hnone =>
      obtain rfl := Option.some.inj h
      refine ⟨0, rfl, by simp, ?_⟩
      simp [firstUnmatched_cons, hnone]
    · next line later hline =>
      obtain ⟨i, htext, hbefore, hfail⟩ := ih h
      refine ⟨i + 1, htext, fun j hj => ?_, ?_⟩
      · cases j with
        | zero => simp [firstUnmatched_cons, hline, firstUnmatched]
        | succ j => simpa [firstUnmatched_cons, hline] using hbefore j (Nat.lt_of_succ_lt_succ hj)
      · simpa [firstUnmatched_cons, hline] using hfail

/-- The search names the first text up to which the texts do not occur. -/
theorem firstUnmatched_eq_some_iff : firstUnmatched texts messages = some text ↔
    ∃ i, texts[i]? = some text ∧ ¬ Occur (texts.take (i + 1)) messages ∧
      ∀ j < i, Occur (texts.take (j + 1)) messages := by
  have hfirst {text : String} (h : firstUnmatched texts messages = some text) :
      ∃ i, texts[i]? = some text ∧ ¬ Occur (texts.take (i + 1)) messages ∧
        ∀ j < i, Occur (texts.take (j + 1)) messages := by
    obtain ⟨i, htext, hbefore, hfail⟩ := exists_of_firstUnmatched h
    refine ⟨i, htext, ?_, fun j hj => firstUnmatched_eq_none_iff_occur.1 (hbefore j hj)⟩
    rw [← firstUnmatched_eq_none_iff_occur, hfail]
    simp
  refine ⟨hfirst, fun ⟨i, htext, hfail, hbefore⟩ => ?_⟩
  cases hfound : firstUnmatched texts messages with
  | none => exact absurd ((firstUnmatched_eq_none_iff_occur.1 hfound).take (i + 1)) hfail
  | some other =>
    obtain ⟨k, hother, hfail', hbefore'⟩ := hfirst hfound
    -- Both numbers are the first of their kind, so there is only one.
    have hik : i = k := by
      rcases Nat.lt_trichotomy i k with hlt | heq | hlt
      · exact absurd (hbefore' i hlt) hfail
      · exact heq
      · exact absurd (hbefore k hlt) hfail'
    rw [← hother, ← htext, hik]

end Failures

/-- The search through the lines from a given one on. There is no result if it
would go on past the end of the lines. -/
def searchFrom (messages : List String) : Nat → List String → Option (Option String)
  | _, [] => some none
  | cursor, text :: texts =>
    if cursor ≤ messages.length then
      match (messages.drop cursor).findIdx? fun m => Text.contains m text with
      | some offset => searchFrom messages (cursor + offset + 1) texts
      | none => some (some text)
    else none

/-- Behind a line that is found there is at least the end of the lines. -/
theorem searchFrom_eq (messages texts : List String) {cursor : Nat}
    (hcursor : cursor ≤ messages.length) :
    searchFrom messages cursor texts = some (firstUnmatched texts (messages.drop cursor)) := by
  induction texts generalizing cursor with
  | nil => rfl
  | cons text texts ih =>
    rw [searchFrom, if_pos hcursor, firstUnmatched_cons, List.dropWhile_eq_drop_findIdx_not]
    simp only [Bool.not_not]
    cases hfound : (messages.drop cursor).findIdx? fun m => Text.contains m text with
    | none =>
      rw [List.findIdx_eq_length.2 (List.findIdx?_eq_none_iff.1 hfound), List.drop_length]
    | some offset =>
      obtain ⟨hoffset, hindex⟩ := List.findIdx?_eq_some_iff_findIdx_eq.1 hfound
      rw [hindex, List.drop_eq_getElem_cons hoffset, List.drop_drop]
      rw [List.length_drop] at hoffset
      exact ih (by omega)

/-- The check of a log passes exactly if the texts occur in it. If it fails, it
names the first text up to which they do not. It never looks for a line past the
end of the log. -/
theorem checkLog_complete (expected : List String) (log : Log) :
    (checkLog expected log = .ok () ↔ Occur expected log.messages) ∧
    (∀ e, checkLog expected log = .error e ↔ ∃ i text, e = .log text log.messages ∧
      expected[i]? = some text ∧ ¬ Occur (expected.take (i + 1)) log.messages ∧
      ∀ j < i, Occur (expected.take (j + 1)) log.messages) ∧
    searchFrom log.messages 0 expected = some (firstUnmatched expected log.messages) := by
  refine ⟨?_, fun e => ?_, searchFrom_eq _ _ (Nat.zero_le _)⟩
  · rw [checkLog, ← firstUnmatched_eq_none_iff_occur]
    cases firstUnmatched expected log.messages <;> simp
  · have hnamed : checkLog expected log = .error e ↔
        ∃ text, e = .log text log.messages ∧ firstUnmatched expected log.messages = some text := by
      rw [checkLog]
      cases firstUnmatched expected log.messages <;> simp [eq_comm]
    rw [hnamed]
    simp only [firstUnmatched_eq_some_iff]
    constructor
    · rintro ⟨text, he, i, hfirst⟩
      exact ⟨i, text, he, hfirst⟩
    · rintro ⟨i, text, he, hfirst⟩
      exact ⟨text, he, i, hfirst⟩

/-- A text that is empty needs a line as well, and a text that stands twice needs two. -/
example : checkLog ["", "a", "a"] [⟨.info, "a"⟩, ⟨.info, "ab"⟩] =
    .error (.log "a" ["a", "ab"]) := by decide

end SpriteBlocks.Scenario
