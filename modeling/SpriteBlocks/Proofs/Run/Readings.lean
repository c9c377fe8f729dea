import SpriteBlocks.Proofs.Run.Deadline

/-!
# Readings of a manual clock

A manual clock counts what is slept and is held at its largest reading, so
behind any sleeps it reads their sum or that. In a run the clock moves with the
sleeps in the journal and with nothing else, whoever else presses stop.
-/
namespace SpriteBlocks

namespace Duration

/-- The sum of durations in nanoseconds, held nowhere. -/
def total : List Duration → Nat
  | [] => 0
  | d :: ds => d.nanos + total ds

theorem total_singleton (d : Duration) : total [d] = d.nanos := rfl

theorem total_append (ds es : List Duration) : total (ds ++ es) = total ds + total es := by
  induction ds with
  | nil => exact (Nat.zero_add _).symm
  | cons d ds ih => rw [List.cons_append, total, ih, total, Nat.add_assoc]

end Duration

namespace ManualClock

def read (stopAt : Option Duration) (ds : List Duration) : ManualClock :=
  ⟨min (Duration.total ds) maxReading, stopAt⟩

/-- Whether a reading was held before makes no difference. -/
theorem advance_read (stopAt : Option Duration) (ds : List Duration) (d : Duration) :
    ((read stopAt ds).advance d).1 = read stopAt (ds ++ [d]) := by
  simp only [read, advance, Duration.total_append, Duration.total_singleton, mk.injEq, and_true]
  omega

theorem due_read_some (deadline : Duration) (ds : List Duration) :
    (read (some deadline) ds).due = true ↔
      deadline.nanos ≤ Duration.total ds ∧ deadline.nanos ≤ maxReading := by
  rw [due_iff rfl]
  exact Nat.le_min

end ManualClock

theorem World.sleeps_perform {σ : Type} (h : Host σ) (e : Effect) (w : World σ) :
    Effect.sleeps (w.perform h e).effects = Effect.sleeps w.effects ++ e.sleep?.toList := by
  rw [World.effects_perform, Effect.sleeps_append]
  cases e <;> rfl

namespace Session

/-- The clock is a fresh one behind the sleeps of the journal. -/
def Reads (stopAt : Option Duration) (w : World Session) : Prop :=
  w.host.clock = .manual (.read stopAt (Effect.sleeps w.effects))

variable {stopAt : Option Duration} {w : World Session}

theorem Reads.perform (hw : Reads stopAt w) (e : Effect) : Reads stopAt (w.perform host e) := by
  rw [Reads, World.sleeps_perform, World.host_perform]
  cases he : e.sleep? with
  | none =>
    rw [Option.toList_none, List.append_nil]
    exact (clock_respond he).trans hw
  | some d =>
    cases e with
    | sleep d =>
      have hslept : host.respond w.host w.flag (.sleep d) = _ := onSleep_manual w.flag d hw
      rw [hslept, ManualClock.advance_read]
      cases he
      rfl
    | _ => cases he

theorem keeps_reads (settings : Settings) (stopAt : Option Duration) :
    (interpreter settings).Keeps (Reads stopAt) where
  note _ hw := by rwa [Reads, World.host_note, World.effects_note]
  perform e _ hw := hw.perform e
  sprite _ hw := hw
  source hw := hw

/-- At the end of a run its clock reads what was slept. -/
theorem reads_run (settings : Settings) (ws : Workspace) (hw : Reads stopAt w) :
    Reads stopAt ((interpreter settings).run ws w).1 := by
  have hkeeps := keeps_reads settings stopAt
  by_cases hflag : w.flag = .idle
  · have hprogram : Reads stopAt ((interpreter settings).runProgram ws w) :=
      hkeeps.steps (fun _ hv => hv) ((interpreter settings).steps_execProgram _ ws) hw
    rw [Interpreter.run_of_idle hflag]
    split
    · exact hprogram
    · have hidle : Reads stopAt
          { (interpreter settings).runProgram ws w with flag := .idle } := hprogram
      rw [Interpreter.finish_eq]
      exact hkeeps.note (by simp) (hidle.perform _)
  · rw [Interpreter.run_of_not_idle hflag]
    exact hkeeps.note (by simp) hw

end Session
end SpriteBlocks
