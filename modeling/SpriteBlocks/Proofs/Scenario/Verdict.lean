import Mathlib.Data.List.Forall2
import SpriteBlocks.Scenario.Trial

/-!
# Verdicts of trials

What a scenario expects is said here without any order of checks. A trial passes
exactly when all of it holds: no expectation is left out where the script loads,
and one that does not hold is never passed over.
-/
namespace SpriteBlocks.Scenario

def Mentions (text message : String) : Prop := text.toList <:+: message.toList

theorem bind_eq_ok_iff {first second : Verdict} :
    (first >>= fun _ => second) = .ok () ↔ first = .ok () ∧ second = .ok () := by
  cases first with
  | error e => exact iff_of_false (by rintro ⟨⟩) (by rintro ⟨⟨⟩, -⟩)
  | ok u => exact (and_iff_right rfl).symm

section Log

theorem sublistForall₂_of_cons {α β : Type} {R : α → β → Prop} {a : α} {as : List α} {bs : List β}
    (h : List.SublistForall₂ R (a :: as) bs) : List.SublistForall₂ R as bs := by
  obtain ⟨found, hfound, hsub⟩ := List.sublistForall₂_iff.1 h
  obtain ⟨b, rest, -, hrest, rfl⟩ := List.forall₂_cons_left_iff.1 hfound
  exact List.sublistForall₂_iff.2 ⟨rest, hrest, (List.sublist_cons_self b rest).trans hsub⟩

/-- To give each text the first message that contains it loses nothing. -/
theorem firstUnmatched_eq_none_iff (texts messages : List String) :
    firstUnmatched texts messages = none ↔ List.SublistForall₂ Mentions texts messages := by
  induction texts generalizing messages with
  | nil => exact iff_of_true rfl .nil
  | cons text texts ih =>
    induction messages with
    | nil => exact iff_of_false (by simp [firstUnmatched]) (by rintro ⟨⟩)
    | cons m messages ihm =>
      by_cases hm : Text.contains m text = true
      · -- An occurrence that leaves this message to a later text can do without it.
        have hfirst : firstUnmatched (text :: texts) (m :: messages) =
            firstUnmatched texts messages := by simp [firstUnmatched, hm]
        rw [hfirst, ih]
        constructor
        · exact .cons ((Text.contains_iff _ _).1 hm)
        · intro h
          cases h with
          | cons _ hrest => exact hrest
          | cons_right hrest => exact sublistForall₂_of_cons hrest
      · have hskip : firstUnmatched (text :: texts) (m :: messages) =
            firstUnmatched (text :: texts) messages := by simp [firstUnmatched, hm]
        rw [hskip, ihm]
        constructor
        · exact .cons_right
        · intro h
          cases h with
          | cons hmentions _ => exact absurd ((Text.contains_iff _ _).2 hmentions) hm
          | cons_right hrest => exact hrest

/-- Each text needs a message of its own. -/
example : firstUnmatched ["a", "b"] ["ab", "a"] = some "b" := by decide

theorem checkLog_eq_ok_iff (expected : List String) (log : Log) :
    checkLog expected log = .ok () ↔ List.SublistForall₂ Mentions expected log.messages := by
  rw [← firstUnmatched_eq_none_iff, checkLog]
  cases firstUnmatched expected log.messages <;> simp

end Log

/-- The sprite is as expected: no quantity that is given is off by more than the tolerance. -/
structure ExpectedSprite.Fits (e : ExpectedSprite) (found : Sprite) : Prop where
  x : ∀ x, e.x = some x → ¬ spriteTolerance < (x - found.x).abs
  y : ∀ y, e.y = some y → ¬ spriteTolerance < (y - found.y).abs
  rotation : ∀ r, e.rotation = some r → ¬ spriteTolerance < (r - found.rotation).abs
  size : ∀ s, e.size = some s → ¬ spriteTolerance < (s - found.size).abs
  visible : ∀ v, e.visible = some v → v = found.visible

theorem checkQuantity_eq_ok_iff (name : String) (expected : Option Float) (found : Float) :
    checkQuantity name expected found = .ok () ↔
      ∀ x, expected = some x → ¬ spriteTolerance < (x - found).abs := by
  cases expected <;> simp [checkQuantity]

theorem checkSprite_eq_ok_iff (e : ExpectedSprite) (found : Sprite) :
    checkSprite e found = .ok () ↔ e.Fits found := by
  obtain ⟨x, y, rotation, size, visible⟩ := e
  rw [checkSprite]
  simp only [bind_eq_ok_iff, checkQuantity_eq_ok_iff]
  constructor
  · rintro ⟨hx, hy, hrotation, hsize, hvisible⟩
    refine ⟨hx, hy, hrotation, hsize, fun v hv => ?_⟩
    obtain rfl : visible = some v := hv
    simpa using hvisible
  · rintro ⟨hx, hy, hrotation, hsize, hvisible⟩
    refine ⟨hx, hy, hrotation, hsize, ?_⟩
    cases visible with
    | none => rfl
    | some v => exact if_pos (hvisible v rfl)

structure Expectations.Fulfilled (e : Expectations) (found : Observed) : Prop where
  outcome : ∀ o, e.outcome = some o → o.outcome = found.outcome
  /-- The texts occur in messages that stand in this order, a message for each. -/
  log : List.SublistForall₂ Mentions e.log found.log.messages
  errors : ∀ n, e.errors = some n → found.log.count .error = n
  warnings : ∀ n, e.warnings = some n → found.log.count .warning = n
  sprite : ∀ s, e.sprite = some s → s.Fits found.sprite
  elapsed : ∀ ms, e.elapsedMs = some ms → found.elapsed = .ofMillis ms.toNat

theorem checkOutcome_eq_ok_iff (expected : Option ExpectedOutcome) (found : Outcome) :
    checkOutcome expected found = .ok () ↔ ∀ o, expected = some o → o.outcome = found := by
  cases expected <;> simp [checkOutcome]

theorem checkCount_eq_ok_iff (level : LogLevel) (expected : Option Nat) (log : Log) :
    checkCount level expected log = .ok () ↔ ∀ n, expected = some n → log.count level = n := by
  cases expected <;> simp [checkCount]

theorem checkElapsed_eq_ok_iff (expected : Option UInt64) (found : Duration) :
    checkElapsed expected found = .ok () ↔
      ∀ ms, expected = some ms → found = .ofMillis ms.toNat := by
  cases expected <;> simp [checkElapsed]

theorem checkObserved_eq_ok_iff (e : Expectations) (found : Observed) :
    checkObserved e found = .ok () ↔ e.Fulfilled found := by
  rw [checkObserved]
  simp only [bind_eq_ok_iff, checkOutcome_eq_ok_iff, checkLog_eq_ok_iff, checkCount_eq_ok_iff]
  constructor
  · rintro ⟨houtcome, hlog, herrors, hwarnings, hrest⟩
    have hlast : (∀ s, e.sprite = some s → s.Fits found.sprite) ∧
        checkElapsed e.elapsedMs found.elapsed = .ok () := by
      cases hsprite : e.sprite with
      | none =>
        rw [hsprite] at hrest
        exact ⟨by simp, hrest⟩
      | some s =>
        rw [hsprite] at hrest
        obtain ⟨hs, hrest⟩ := bind_eq_ok_iff.1 hrest
        exact ⟨fun _ h => Option.some.inj h ▸ (checkSprite_eq_ok_iff s _).1 hs, hrest⟩
    exact ⟨houtcome, hlog, herrors, hwarnings, hlast.1, (checkElapsed_eq_ok_iff _ _).1 hlast.2⟩
  · rintro ⟨houtcome, hlog, herrors, hwarnings, hsprite, helapsed⟩
    have hrest := (checkElapsed_eq_ok_iff _ _).2 helapsed
    refine ⟨houtcome, hlog, herrors, hwarnings, ?_⟩
    split
    · next s hs => exact bind_eq_ok_iff.2 ⟨(checkSprite_eq_ok_iff s _).2 (hsprite s hs), hrest⟩
    · exact hrest

structure ExpectedWarning.Fits (source : String) (e : ExpectedWarning) (d : Script.Diagnostic) :
    Prop where
  mention : Mentions e.mention d.message
  line : ∀ line, e.line = some line → d.line source = line

theorem checkEachWarning_eq_ok_iff (source : String) (number : Nat) {es : List ExpectedWarning}
    {ds : List Script.Diagnostic} (hlength : ds.length = es.length) :
    checkEachWarning source number es ds = .ok () ↔
      List.Forall₂ (ExpectedWarning.Fits source) es ds := by
  induction es generalizing number ds with
  | nil =>
    obtain rfl := List.eq_nil_of_length_eq_zero hlength
    exact iff_of_true rfl .nil
  | cons e es ih =>
    obtain ⟨d, ds, rfl⟩ := List.exists_cons_of_length_eq_add_one hlength
    have hline : e.line.getD (d.line source) = d.line source ↔
        ∀ line, e.line = some line → d.line source = line := by
      cases e.line with
      | none => simp
      | some line => simp [eq_comm]
    rw [List.forall₂_cons, ← ih (number + 1) (Nat.succ.inj hlength), checkEachWarning]
    by_cases hmention : Text.contains d.message e.mention = true
    · rw [if_pos hmention]
      by_cases hplace : e.line.getD (d.line source) = d.line source
      · rw [if_pos hplace]
        exact (and_iff_right ⟨(Text.contains_iff _ _).1 hmention, hline.1 hplace⟩).symm
      · rw [if_neg hplace]
        exact iff_of_false (by simp) fun h => hplace (hline.2 h.1.line)
    · rw [if_neg hmention]
      exact iff_of_false (by simp) fun h => hmention ((Text.contains_iff _ _).2 h.1.mention)

/-- The warnings are as many as are expected, and each is the one expected in its place. -/
theorem checkWarnings_eq_ok_iff (source : String) (expected : List ExpectedWarning)
    (found : List Script.Diagnostic) : checkWarnings source expected found = .ok () ↔
      List.Forall₂ (ExpectedWarning.Fits source) expected found := by
  rw [checkWarnings]
  split
  · next hlength => exact checkEachWarning_eq_ok_iff source 1 hlength
  · next hlength => exact iff_of_false (by simp) fun h => hlength h.length_eq.symm

/-- The messages of a script that does not load. One that is no document at all
has a single message, in the words of whoever reads documents. -/
def failureMessages (wording : String) : Script.Failure → List String
  | .malformed => [wording]
  | .findings errors => errors.map Script.Finding.message

theorem mentions_iff (wording expected : String) (found : Script.Failure) :
    mentions wording expected found = true ↔
      ∃ message ∈ failureMessages wording found, Mentions expected message := by
  cases found with
  | malformed => simp [mentions, failureMessages, Text.contains_iff, Mentions]
  | findings errors => simp [mentions, failureMessages, Text.contains_iff, Mentions]

/-- A script that loads does all that is expected of it: its warnings are the
expected ones, its settings are valid, and its run ends with what is expected. -/
structure Succeeds (s : Scenario) (script : Script) : Prop where
  warnings : ∀ expected, s.expectations.loadWarnings = some expected →
    List.Forall₂ (ExpectedWarning.Fits s.script) expected
      (script.warnings.map Script.Finding.diagnostic)
  runs : ∃ settings world outcome, Settings.ofEntries script.settings = .ok settings ∧
    (Session.interpreter settings).run script.workspace
      ((session s.expectations).world .idle {} (.ofSeed s.expectations.seed)) =
        (world, some outcome) ∧
    s.expectations.Fulfilled
      { outcome, sprite := world.sprite, log := script.events ++ world.events,
        elapsed := ⟨world.host.clock.elapsed⟩ }

/-- What a run shows fulfils the expectations if the run ends and all of them hold. -/
theorem observe_iff (e : Expectations) (script : Script) (settings : Settings) :
    (∃ found, (observe e script settings).1 = some found ∧ e.Fulfilled found) ↔
      ∃ world outcome, (Session.interpreter settings).run script.workspace
          ((session e).world .idle {} (.ofSeed e.seed)) = (world, some outcome) ∧
        e.Fulfilled
          { outcome, sprite := world.sprite, log := script.events ++ world.events,
            elapsed := ⟨world.host.clock.elapsed⟩ } := by
  simp only [observe]
  generalize (Session.interpreter settings).run script.workspace
    ((session e).world .idle {} (.ofSeed e.seed)) = ran
  obtain ⟨world, outcome⟩ := ran
  cases outcome <;> simp

theorem tryScript_eq_ok_iff (s : Scenario) (script : Script) :
    (s.tryScript script).1 = .ok () ↔ s.Succeeds script := by
  rw [tryScript]
  constructor
  · intro h
    split at h
    · cases h
    · next hverdict =>
      split at h
      · cases h
      · next settings hsettings =>
        obtain ⟨found, hfound⟩ : ∃ found, (observe s.expectations script settings).1 = some found ∧
            s.expectations.Fulfilled found := by
          dsimp only at h
          split at h
          · cases h
          · next found hfound =>
            refine ⟨found, hfound, (checkObserved_eq_ok_iff _ _).1 ?_⟩
            cases hcheck : checkObserved s.expectations found with
            | error e => rw [hcheck] at h; cases h
            | ok u => rfl
        obtain ⟨world, outcome, hrun⟩ := (observe_iff _ _ _).1 ⟨found, hfound⟩
        refine ⟨fun expected hexpected => ?_, settings, world, outcome, hsettings, hrun⟩
        rw [hexpected] at hverdict
        exact (checkWarnings_eq_ok_iff _ _ _).1 hverdict
  · rintro ⟨hwarnings, settings, world, outcome, hsettings, hrun⟩
    obtain ⟨found, hfound, hfulfilled⟩ := (observe_iff _ _ _).2 ⟨world, outcome, hrun⟩
    split
    · next e hverdict =>
      split at hverdict
      · next expected hexpected =>
        rw [(checkWarnings_eq_ok_iff _ _ _).2 (hwarnings expected hexpected)] at hverdict
        cases hverdict
      · cases hverdict
    · rw [hsettings]
      dsimp only
      rw [hfound]
      dsimp only
      rw [(checkObserved_eq_ok_iff _ _).2 hfulfilled]
      rfl

/-- What the verdict on a scenario has to be, given the words for each text that
is no document. Beside an expected error of the loader nothing else counts. -/
def Holds (wording : String → String) (s : Scenario) : Prop :=
  match s.expectations.loadError with
  | some expected => ∃ found, (Script.load s.script).result = .error found ∧
      ∃ message ∈ failureMessages (wording s.script) found, Mentions expected message
  | none => ∃ script, (Script.load s.script).result = .ok script ∧ s.Succeeds script

/-- A trial passes exactly if all that the scenario expects holds. -/
theorem trial_passes_iff (wording : String → String) (s : Scenario) :
    (s.trialWith wording).1 = .ok () ↔ s.Holds wording := by
  rw [trialWith, Holds]
  cases s.expectations.loadError with
  | some expected =>
    cases hload : (Script.load s.script).result with
    | error found => simp [mentions_iff]
    | ok script => simp
  | none =>
    cases hload : (Script.load s.script).result with
    | error found => simp
    | ok script => simp [tryScript_eq_ok_iff]

end SpriteBlocks.Scenario
