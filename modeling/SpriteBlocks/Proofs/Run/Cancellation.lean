import SpriteBlocks.Proofs.Run.Stop
import SpriteBlocks.Proofs.Run.Termination

/-!
# Exact cancellation

A run that is stopped in its sleep did exactly what any run of the same program
does that goes on for longer, and adds only a warning. The two are compared with
the run that nobody stops.
-/
namespace SpriteBlocks

namespace World
variable {σ τ : Type}

def start (s : σ) (sprite : Sprite) (source : Random.Source) : World σ :=
  { sprite, source, flag := .idle, host := s }

/-- Stop was pressed first during the `n`-th sleep. -/
def StoppedInSleep (n : Nat) (w : World σ) : Prop :=
  ∃ es d, w.untilStop? = some es ∧ es.getLast? = some (.sleep d) ∧ (Effect.sleeps es).length = n

/-- Stop was pressed before the `n`-th sleep. -/
def StoppedBefore (n : Nat) (w : World σ) : Prop :=
  ∃ es, w.untilStop? = some es ∧ (Effect.sleeps es).length < n

theorem Tracks.apart_of_untilStop? {H : σ → τ → Prop} {w : World σ} {v : World τ}
    (hb : Tracks H w v) {es : List Effect} (hes : w.untilStop? = some es) :
    Apart es w v ∧ ∀ d, es.getLast? = some (.sleep d) → w.effects = es := by
  rcases hb with ht | hs | ⟨fs, ha, hfs⟩
  · rw [ht.same] at hes
    exact absurd (hes.symm.trans ht.unstopped) (by simp)
  · rw [hs.same] at hes
    exact absurd (hes.symm.trans hs.unstopped) (by simp)
  · obtain rfl := Option.some.inj (ha.cut.symm.trans hes)
    exact ⟨ha, hfs⟩

/-- What two runs do that are not stopped before the `n`-th sleep is the same through it. -/
theorem Tracks.throughSleep_eq {H : σ → τ → Prop} {w : World σ} {v : World τ}
    (hb : Tracks H w v) {n : Nat} (hlater : ¬ w.StoppedBefore n)
    (hn : n ≤ (Effect.sleeps v.effects).length) :
    n ≤ (Effect.sleeps w.effects).length ∧
      Effect.throughSleep n w.effects = Effect.throughSleep n v.effects := by
  cases hes : w.untilStop? with
  | none =>
    have hsame : w.effects = v.effects := by
      rcases hb with ht | hs | ⟨es, ha, -⟩
      · rw [ht.same]
        rfl
      · rw [hs.same]
        rfl
      · exact absurd (hes.symm.trans ha.cut) (by simp)
    rw [hsame]
    exact ⟨hn, rfl⟩
  | some es =>
    have hle : n ≤ (Effect.sleeps es).length := Nat.not_lt.1 fun hlt => hlater ⟨es, hes, hlt⟩
    obtain ⟨rest, hrest⟩ := (hb.apart_of_untilStop? hes).1.along
    obtain ⟨rest', hrest'⟩ := prefix_of_untilStop? hes
    rw [← hrest, ← hrest', Effect.throughSleep_append hle, Effect.throughSleep_append hle,
      Effect.sleeps_append, List.length_append]
    exact ⟨Nat.le_add_right_of_le hle, rfl⟩

end World

namespace Interpreter
variable {σ : Type} {m : Interpreter σ}

theorem untilStop?_finish (w : World σ) : (m.finish w).1.untilStop? = w.untilStop? := by
  rw [finish_eq]
  simp only [World.untilStop?_note (n := .runFinished _) (by simp)]
  exact World.untilStop?_of_quiet (.inr (by simp))

theorem run_effects (m : Interpreter σ) (ws : Workspace) {w : World σ} (hflag : w.flag = .idle) :
    (m.run ws w).1.untilStop? = (m.runProgram ws w).untilStop? ∧
      ∃ last, Effect.sleeps last = [] ∧
        (m.run ws w).1.effects = (m.runProgram ws w).effects ++ last := by
  rw [run_of_idle hflag]
  split
  · exact ⟨rfl, [], rfl, (List.append_nil _).symm⟩
  · exact ⟨untilStop?_finish _, [.log _], rfl, effects_finish⟩

end Interpreter

def Host.quiet : Host Unit := ⟨fun _ _ _ => ((), false)⟩

namespace Interpreter
variable {σ : Type} {m : Interpreter σ} {ws : Workspace} {s : σ} {sprite : Sprite}
  {source : Random.Source} {n : Nat}

/-- The world that the program leaves if nobody ever presses stop. -/
def undisturbed (m : Interpreter σ) (ws : Workspace) (sprite : Sprite) (source : Random.Source) :
    World Unit :=
  runProgram ⟨m.settings, .quiet, m.roundLimit⟩ ws (.start () sprite source)

theorem tracks_undisturbed :
    World.Tracks (fun _ _ => True) (m.runProgram ws (.start s sprite source))
      (m.undisturbed ws sprite source) := by
  have hfollows : m.host.Follows .quiet fun _ _ => True := fun _ _ _ _ => ⟨rfl, fun _ => trivial⟩
  exact (World.lockstep_tracks hfollows m.settings m.roundLimit).execProgram ws
    ⟨rfl, rfl, .inl ⟨rfl, trivial, rfl, rfl, rfl⟩⟩

/-- A run that is stopped in its sleep did nothing behind it and adds only the warning. -/
theorem run_of_stoppedInSleep
    (hstopped : (m.run ws (.start s sprite source)).1.StoppedInSleep n) :
    n ≤ (Effect.sleeps (m.undisturbed ws sprite source).effects).length ∧
      (m.run ws (.start s sprite source)).2 = some .stopped ∧
      (m.run ws (.start s sprite source)).1.effects =
        Effect.throughSleep n (m.undisturbed ws sprite source).effects ++
          [.log ⟨.warning, "run interrupted"⟩] := by
  obtain ⟨es, d, hes, hlast, rfl⟩ := hstopped
  rw [(run_effects m ws rfl).1] at hes
  obtain ⟨ha, hasleep⟩ := tracks_undisturbed.apart_of_untilStop? hes
  have hfinish : m.run ws (.start s sprite source) = _ := run_of_idle rfl
  rw [if_neg (by simp [ha.fresh])] at hfinish
  refine ⟨?_, ?_, ?_⟩
  · obtain ⟨rest, hrest⟩ := ha.along
    rw [← hrest, Effect.sleeps_append, List.length_append]
    exact Nat.le_add_right _ _
  · rw [hfinish, finish_eq, ha.stopped]
    rfl
  · rw [hfinish, effects_finish, ha.stopped, hasleep d hlast,
      Effect.throughSleep_of_prefix ha.along hlast]
    rfl

/-- A run that is not stopped before its `n`-th sleep goes on undisturbed through it. -/
theorem run_of_not_stoppedBefore
    (hlater : ¬ (m.run ws (.start s sprite source)).1.StoppedBefore n)
    (hn : n ≤ (Effect.sleeps (m.undisturbed ws sprite source).effects).length) :
    n ≤ (Effect.sleeps (m.run ws (.start s sprite source)).1.effects).length ∧
      Effect.throughSleep n (m.run ws (.start s sprite source)).1.effects =
        Effect.throughSleep n (m.undisturbed ws sprite source).effects := by
  have hflag : (World.start s sprite source).flag = .idle := rfl
  obtain ⟨huntil, last, hlast, heffects⟩ := run_effects m ws hflag
  rw [World.StoppedBefore, huntil] at hlater
  obtain ⟨hle, hsame⟩ := tracks_undisturbed.throughSleep_eq hlater hn
  rw [heffects, Effect.sleeps_append, hlast, List.append_nil, Effect.throughSleep_append hle]
  exact ⟨hle, hsame⟩

end Interpreter
end SpriteBlocks
