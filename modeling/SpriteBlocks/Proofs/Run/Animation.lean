import SpriteBlocks.Console.Panel
import SpriteBlocks.Proofs.Run.Readings
import SpriteBlocks.Proofs.Run.Timeline

/-!
# Animation time and clock time

The stage adds up the transitions of the frames that it shows, and the clock the
sleeps. A block that shows a transition sleeps for as long; only `wait`, a bubble
of one's own and the pause behind a round of `forever` take time on the clock
alone. Without these both come to the same, up to where each of them is held.
-/
namespace SpriteBlocks

namespace World
variable {σ : Type}

theorem sleeps_effects (w : World σ) :
    Effect.sleeps w.effects = w.timings.filterMap Timing.slept? := by
  simp only [Effect.sleeps, effects, timings, trace, List.filterMap_filterMap]
  congr 1
  funext entry
  cases entry with
  | effect e => cases e <;> rfl
  | note n => cases n <;> rfl

theorem map_snd_frames (w : World σ) :
    w.frames.map Prod.snd = w.timings.filterMap Timing.shown? := by
  simp only [frames, effects, timings, trace, List.filterMap_filterMap, List.map_filterMap]
  congr 1
  funext entry
  cases entry with
  | effect e => cases e <;> rfl
  | note n => cases n <;> rfl

theorem map_duration_speeches (w : World σ) :
    w.speeches.map Speech.duration = w.timings.filterMap Timing.said? := by
  simp only [speeches, effects, timings, trace, List.filterMap_filterMap, List.map_filterMap]
  congr 1
  funext entry
  cases entry with
  | effect e => cases e <;> rfl
  | note n => cases n <;> rfl

end World

namespace Moment
variable (s : Settings)

theorem filterMap_timings (moment : Moment) :
    (moment.timings s).filterMap Timing.slept? = (moment.sleep? s).toList ∧
      (moment.timings s).filterMap Timing.shown? = (moment.transition? s).toList ∧
      (moment.timings s).filterMap Timing.said? = (moment.bubble? s).toList := by
  unfold timings
  cases moment.dispatch? <;> cases moment.transition? s <;> cases moment.bubble? s <;>
    cases moment.sleep? s <;> exact ⟨rfl, rfl, rfl⟩

/-- What is read off the journal is what the moments say one by one. -/
theorem filterMap_flatMap_timings {f : Timing → Option Duration} {g : Moment → Option Duration}
    (h : ∀ moment : Moment, (moment.timings s).filterMap f = (g moment).toList)
    (moments : List Moment) : (moments.flatMap (timings s)).filterMap f = moments.filterMap g := by
  rw [List.filterMap_flatMap, List.filterMap_eq_flatMap_toList]
  exact congrArg (List.flatMap · moments) (funext h)

end Moment

namespace Duration

theorem total_filterMap_cons {α : Type} (f : α → Option Duration) (a : α) (as : List α) :
    total ((a :: as).filterMap f) = total (f a).toList + total (as.filterMap f) := by
  cases h : f a with
  | none => rw [List.filterMap_cons_none h, Option.toList_none, total, Nat.zero_add]
  | some d => rw [List.filterMap_cons_some h, Option.toList_some, total, total_singleton]

end Duration

def Opcode.takesTime : Opcode → Bool
  | .move | .moveTo | .glide | .sayCustom | .wait => true
  | _ => false

/-- A block of any other kind does not sleep, and shows its frame at once. -/
theorem Block.instant (s : Settings) {b : Block} (hb : b.opcode.takesTime = false) :
    b.sleep? s = none ∧ ∀ t, b.transition? s = some t → t = .zero := by
  obtain ⟨id, opcode, params, children⟩ := b
  cases opcode <;> simp_all [Opcode.takesTime, sleep?, transition?, eq_comm]

/-- Where the clock stands still but for the stage, a block sleeps for as long as it shows. -/
theorem Block.total_sleep? (s : Settings) {b : Block} (hwait : b.opcode ≠ .wait)
    (hsay : b.opcode ≠ .sayCustom) :
    Duration.total (b.sleep? s).toList = Duration.total (b.transition? s).toList := by
  obtain ⟨id, opcode, params, children⟩ := b
  cases opcode with
  | wait => exact absurd rfl hwait
  | sayCustom => exact absurd rfl hsay
  | _ => rfl

namespace Console

theorem foldl_animated (frames : List (Sprite × Duration)) {t : Duration}
    (ht : t.nanos ≤ Duration.longest.nanos) :
    frames.foldl (fun total frame => total.add frame.2) t =
      ⟨min (t.nanos + Duration.total (frames.map Prod.snd)) Duration.longest.nanos⟩ := by
  induction frames generalizing t with
  | nil => exact congrArg Duration.mk (Nat.min_eq_left ht).symm
  | cons frame frames ih =>
    have hadd : (t.add frame.2).nanos =
        min (t.nanos + frame.2.nanos) Duration.longest.nanos := rfl
    have htotal : Duration.total ((frame :: frames).map Prod.snd) =
        frame.2.nanos + Duration.total (frames.map Prod.snd) := rfl
    rw [List.foldl_cons, ih (hadd ▸ Nat.min_le_right _ _), hadd, htotal]
    congr 1
    omega

/-- The stage adds the transitions up to the longest duration. -/
theorem animated_eq (frames : List (Sprite × Duration)) : animated frames =
    ⟨min (Duration.total (frames.map Prod.snd)) Duration.longest.nanos⟩ := by
  have hzero : Duration.zero.nanos ≤ Duration.longest.nanos := Nat.zero_le _
  rw [animated, foldl_animated frames hzero]
  exact congrArg (fun n => Duration.mk (min n _)) (Nat.zero_add _)

end Console

/-- Without blocks that take time on the clock alone the clock reads what the stage shows. -/
theorem Moment.total_sleep?_eq (s : Settings) {ws : Workspace}
    (hplain : ∀ b ∈ Block.nodesIn ws.blocks,
      b.opcode ≠ .wait ∧ b.opcode ≠ .sayCustom ∧ b.opcode ≠ .forever) {moments : List Moment}
    (hmoments : ∀ moment ∈ moments, moment.Of ws) :
    Duration.total (moments.filterMap (sleep? s)) =
      Duration.total (moments.filterMap (transition? s)) := by
  induction moments with
  | nil => rfl
  | cons moment moments ih =>
    obtain ⟨hmoment, hmoments⟩ := List.forall_mem_cons.1 hmoments
    rw [Duration.total_filterMap_cons, Duration.total_filterMap_cons, ih hmoments]
    cases moment with
    | begun b =>
      obtain ⟨hwait, hsay, -⟩ := hplain b hmoment
      exact congrArg (· + _) (b.total_sleep? s hwait hsay)
    | finished body round =>
      obtain ⟨b, hb, hforever, -⟩ := hmoment
      exact absurd hforever (hplain b hb).2.2

namespace Interpreter
variable {σ : Type}

theorem timings_run (m : Interpreter σ) (ws : Workspace) {w : World σ} (hflag : w.flag = .idle) :
    (m.run ws w).1.timings = (m.runProgram ws w).timings := by
  rw [run_of_idle hflag]
  split
  · rfl
  · exact (m.quiet_finish _).timings_eq

/-- A run is a sequence of moments of its program, and its journal has their
times in order. -/
theorem exists_timeline (m : Interpreter σ) (ws : Workspace) (s : σ) (sprite : Sprite)
    (source : Random.Source) :
    let first := World.start s sprite source
    let last := (m.run ws first).1
    ∃ moments begun, m.Timeline ws ⟨[.chains 1 ws.blocks], [], m.opened ws first⟩ moments
        ⟨[], begun, m.runProgram ws first⟩ ∧
      (∀ moment ∈ moments, moment.Of ws) ∧
      last.timings = moments.flatMap (Moment.timings m.settings) ∧
      Effect.sleeps last.effects = moments.filterMap (Moment.sleep? m.settings) ∧
      last.frames.map Prod.snd = moments.filterMap (Moment.transition? m.settings) ∧
      last.speeches.map Speech.duration = moments.filterMap (Moment.bubble? m.settings) := by
  intro first last
  have hidle : first.flag = .idle := rfl
  obtain ⟨begun, -, hreaches⟩ := exists_passes m ws hidle
  obtain ⟨moments, h⟩ := Timeline.of_reaches hreaches
  have hof := (h.within (within_singleton _ fun _ hx => hx) (List.forall_mem_singleton.2 trivial)).1
  have htimings : last.timings = moments.flatMap (Moment.timings m.settings) := by
    rw [m.timings_run ws hidle, h.timings_eq, (m.quiet_opened ws first).timings_eq]
    rfl
  refine ⟨moments, begun, h, hof, htimings, ?_, ?_, ?_⟩
  · rw [World.sleeps_effects, htimings]
    exact Moment.filterMap_flatMap_timings _ (fun moment => (moment.filterMap_timings _).1) _
  · rw [World.map_snd_frames, htimings]
    exact Moment.filterMap_flatMap_timings _ (fun moment => (moment.filterMap_timings _).2.1) _
  · rw [World.map_duration_speeches, htimings]
    exact Moment.filterMap_flatMap_timings _ (fun moment => (moment.filterMap_timings _).2.2) _

end Interpreter

namespace Session

/-- A program without blocks that take time on the clock alone ends when the
clock reads what the stage showed, or the largest reading. -/
theorem exists_run_now_eq (settings : Settings) (ws : Workspace) {s : Session} (sprite : Sprite)
    (source : Random.Source) {stopAt : Option Duration} (hclock : s.clock = .manual ⟨0, stopAt⟩)
    (hplain : ∀ b ∈ Block.nodesIn ws.blocks,
      b.opcode ≠ .wait ∧ b.opcode ≠ .sayCustom ∧ b.opcode ≠ .forever) :
    ∃ last outcome clock,
      (interpreter settings).run ws (.start s sprite source) = (last, some outcome) ∧
      last.host.clock = .manual clock ∧
      clock.now = ⟨min (Console.animated last.frames).nanos maxReading⟩ := by
  obtain ⟨last, outcome, hends⟩ := Interpreter.terminates_of_no_forever
    (m := interpreter settings) (w := .start s sprite source) rfl
    fun b hb hforever => absurd hforever (hplain b hb).2.2
  have hrun : (interpreter settings).run ws (.start s sprite source) = (last, some outcome) :=
    hends _ (Nat.le_refl _)
  have hlast : ((interpreter settings).run ws (.start s sprite source)).1 = last :=
    congrArg Prod.fst hrun
  obtain ⟨moments, -, -, hof, -, hsleeps, hframes, -⟩ :=
    (interpreter settings).exists_timeline ws s sprite source
  have hreads : Reads stopAt ((interpreter settings).run ws (.start s sprite source)).1 :=
    reads_run settings ws hclock
  rw [hlast] at hsleeps hframes hreads
  have hmax : maxReading ≤ Duration.longest.nanos := by decide
  have hheld (n : Nat) : min n maxReading = min (min n Duration.longest.nanos) maxReading := by
    omega
  refine ⟨last, outcome, _, hrun, hreads, ?_⟩
  rw [ManualClock.now, ManualClock.read, hsleeps, Moment.total_sleep?_eq _ hplain hof, ← hframes,
    Console.animated_eq]
  exact congrArg Duration.mk (hheld _)

/-- A run is a sequence of moments, and its transitions, bubbles and sleeps are
those of the moments in order: a block that moves the sprite sleeps for its
transition, a bubble of one's own and `wait` sleep for their time, behind every
round of `forever` that is finished there is the pause, and nothing else takes
time. So the clock and the stage agree on a program of blocks that do not take
time on the clock alone. -/
theorem run_animated :
    (∀ {σ : Type} (m : Interpreter σ) (ws : Workspace) (s : σ) (sprite : Sprite)
      (source : Random.Source),
      let first := World.start s sprite source
      let last := (m.run ws first).1
      ∃ moments begun, m.Timeline ws ⟨[.chains 1 ws.blocks], [], m.opened ws first⟩ moments
          ⟨[], begun, m.runProgram ws first⟩ ∧
        (∀ moment ∈ moments, moment.Of ws) ∧
        last.timings = moments.flatMap (Moment.timings m.settings) ∧
        Effect.sleeps last.effects = moments.filterMap (Moment.sleep? m.settings) ∧
        last.frames.map Prod.snd = moments.filterMap (Moment.transition? m.settings) ∧
        last.speeches.map Speech.duration = moments.filterMap (Moment.bubble? m.settings)) ∧
    (∀ (settings : Settings) (b : Block), b.opcode.takesTime = false →
      b.sleep? settings = none ∧ ∀ t, b.transition? settings = some t → t = .zero) ∧
    ∀ (settings : Settings) (ws : Workspace) (s : Session) (sprite : Sprite)
      (source : Random.Source) (stopAt : Option Duration), s.clock = .manual ⟨0, stopAt⟩ →
      (∀ b ∈ Block.nodesIn ws.blocks,
        b.opcode ≠ .wait ∧ b.opcode ≠ .sayCustom ∧ b.opcode ≠ .forever) →
      ∃ last outcome clock,
        (interpreter settings).run ws (.start s sprite source) = (last, some outcome) ∧
        last.host.clock = .manual clock ∧
        clock.now = ⟨min (Console.animated last.frames).nanos maxReading⟩ :=
  ⟨fun m ws s sprite source => m.exists_timeline ws s sprite source,
    fun settings _ hb => Block.instant settings hb,
    fun settings ws _ sprite source _ hclock hplain =>
      exists_run_now_eq settings ws sprite source hclock hplain⟩

/-- Two of three moves stand inside a block, and the run is stopped in the second. -/
theorem run_animated_stopped :
    let ws := Edit.applyAll (Workspace.empty 20.0) [.add .whenGreenFlag ∅, .add .ifThen ∅,
      .addChild ⟨2⟩ .move ∅, .addChild ⟨2⟩ .move ∅, .connect ⟨1⟩ ⟨2⟩ (.adjacent true),
      .add .move ∅]
    let s : Session := { clock := .manual ⟨0, some (.ofMillis 500)⟩ }
    ∃ last clock, (interpreter {}).run ws (.start s {} (.cycle #[])) = (last, some .stopped) ∧
      last.host.clock = .manual clock ∧ Console.animated last.frames = .ofMillis 600 ∧
      clock.now = .ofMillis 600 ∧ Block.sleep? {} ⟨⟨1⟩, .whenGreenFlag, ∅, []⟩ = none := by
  intro ws s
  obtain ⟨-, hinstant, hagree⟩ := run_animated
  obtain ⟨last, outcome, clock, hrun, hclock, hnow⟩ :=
    hagree {} ws s {} (.cycle #[]) (some (.ofMillis 500)) rfl (by decide)
  have houtcome : ((interpreter {}).run ws (.start s {} (.cycle #[]))).2 = some .stopped := by
    decide +kernel
  have hshown : Console.animated ((interpreter {}).run ws (.start s {} (.cycle #[]))).1.frames =
      .ofMillis 600 := by decide +kernel
  rw [hrun] at houtcome hshown
  obtain rfl := Option.some.inj houtcome
  refine ⟨last, clock, hrun, hclock, hshown, ?_, (hinstant {} _ rfl).1⟩
  rw [hnow, hshown]
  decide

end Session
end SpriteBlocks
