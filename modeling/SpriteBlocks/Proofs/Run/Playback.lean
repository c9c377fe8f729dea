import SpriteBlocks.Proofs.Run.Lines
import SpriteBlocks.Proofs.Workspace.Outline
import SpriteBlocks.Run.Session

/-!
# Runs and outlines

An accepted run plays the outline of its workspace: it writes the line of a part,
executes the block of the part if there is one, and goes on with the next part
until it is stopped. So its log is made of lines of the outline, each followed by
the lines of its block, and of one line at the end that tells the outcome.
-/
namespace SpriteBlocks

def LogEvent.isLast (e : LogEvent) : Bool :=
  e = ⟨.success, "run complete"⟩ || e = ⟨.warning, "run interrupted"⟩

theorem LogEvent.isLast_of_isOfBlock {e : LogEvent} (h : e.isOfBlock = true) :
    e.isLast = false := by
  rw [isLast, Bool.or_eq_false_iff, decide_eq_false_iff_not, decide_eq_false_iff_not]
  constructor <;> rintro rfl <;> exact absurd h (by decide)

theorem Workspace.isLast_outline {ws : Workspace} {p : Part} (hp : p ∈ ws.outline) :
    p.line.isLast = false := by
  rcases List.mem_append.1 hp with hp | hp
  · rcases List.mem_pair.1 hp with rfl | rfl
    · decide
    · split
      · decide
      · rfl
  · obtain ⟨e, -, hp⟩ := List.mem_flatMap.1 hp
    rw [chainParts] at hp
    split at hp
    · rcases List.mem_cons.1 hp with rfl | hp
      · rfl
      · obtain ⟨x, -, rfl⟩ := List.mem_map.1 hp
        rfl
    · rw [List.mem_singleton.1 hp]
      rfl

namespace Interpreter
variable {σ : Type} (m : Interpreter σ)

def announce (p : Part) (w : World σ) : World σ := w.perform m.host (.log p.line)

def playPart (w : World σ) (p : Part) : World σ :=
  match p.block? with
  | none => m.announce p w
  | some b => m.exec b (m.announce p w)

def play (parts : List Part) (w : World σ) : World σ := parts.foldl m.playPart w

/-- The lines that the block of a part writes when the part is played. -/
def said (p : Part) (w : World σ) : Log :=
  match p.block? with
  | none => []
  | some b => (m.exec b (m.announce p w)).events.drop (m.announce p w).events.length

/-- The lines of parts, each with those of its block, when the parts are played. -/
def transcript : List Part → World σ → List (LogEvent × Log)
  | [], _ => []
  | p :: parts, w => (p.line, m.said p w) :: transcript parts (m.playPart w p)

/-- The parts are played in order, all of them or up to one behind which the run does not go on. -/
inductive Plays (m : Interpreter σ) : List Part → World σ → World σ → Prop
  | done (w : World σ) : Plays m [] w w
  | stopped (parts : List Part) {w : World σ} (hw : w.isRunning = false) : Plays m parts w w
  | next {p : Part} {parts : List Part} {w v : World σ} :
    Plays m parts (m.playPart w p) v → Plays m (p :: parts) w v

namespace Plays
variable {m} {w u v : World σ} {parts rest : List Part}

theorem append (hparts : m.Plays parts w u) (hrest : m.Plays rest u v)
    (hstop : u.isRunning = false → v = u) : m.Plays (parts ++ rest) w v := by
  induction hparts with
  | done w => exact hrest
  | stopped parts hw =>
    rw [hstop hw]
    exact .stopped _ hw
  | next _ ih => exact .next (ih hrest hstop)

/-- What was played are the first parts, and all of them if the run goes on. -/
theorem exists_played (h : m.Plays parts w v) :
    ∃ played, played <+: parts ∧ v = m.play played w ∧ (v.isRunning = true → played = parts) := by
  induction h with
  | done w => exact ⟨[], List.prefix_rfl, rfl, fun _ => rfl⟩
  | stopped parts hw =>
    exact ⟨[], List.nil_prefix, rfl, fun hv => absurd (hv.symm.trans hw) (by simp)⟩
  | @next p _ _ _ _ ih =>
    obtain ⟨played, hfirst, hplayed, hall⟩ := ih
    exact ⟨p :: played, (List.prefix_cons_inj p).2 hfirst, hplayed,
      fun hv => congrArg (p :: ·) (hall hv)⟩

end Plays

section Program
variable (ws : Workspace) (w : World σ)

theorem plays_execSteps (total first : Nat) (bs : List Block) :
    m.Plays (Workspace.steps total first bs) w (m.execSteps total first bs w) := by
  induction bs generalizing first w with
  | nil => exact .done w
  | cons b bs ih =>
    simp only [execSteps]
    split
    · exact .next (ih _ (first + 1))
    · next hw => exact .stopped _ (Bool.not_eq_true _ ▸ hw)

theorem plays_execChain (i : Nat) (b : Block) :
    m.Plays (ws.chainParts b i) w (m.execChain ws i b w) := by
  simp only [execChain, Workspace.chainParts]
  split
  · exact .next (m.plays_execSteps _ _ _ _)
  · exact .next (.done _)

theorem execChains_of_not_running {w : World σ} (hw : w.isRunning = false) (i : Nat)
    (bs : List Block) : m.execChains ws i bs w = w := by
  cases bs with
  | nil => rfl
  | cons b bs => rw [execChains, hw, if_neg Bool.false_ne_true]

theorem plays_execChains (i : Nat) (bs : List Block) :
    m.Plays ((ws.entriesAmong (bs.zipIdx i)).flatMap fun e => ws.chainParts e.1 e.2) w
      (m.execChains ws i bs w) := by
  induction bs generalizing i w with
  | nil => exact .done w
  | cons b bs ih =>
    rw [execChains, List.zipIdx_cons, Workspace.entriesAmong_cons]
    by_cases hw : w.isRunning = true
    · rw [if_pos hw]
      split
      · exact ih w (i + 1)
      · exact (m.plays_execChain ws w i b).append (ih _ (i + 1))
          fun hstop => m.execChains_of_not_running ws hstop (i + 1) bs
    · rw [if_neg hw]
      exact .stopped _ (Bool.not_eq_true _ ▸ hw)

def started : World σ := World.note (.runStarted ws.length) { w with flag := .running }

theorem plays_runProgram : m.Plays ws.outline (started ws w) (m.runProgram ws w) := by
  have hsecond (v : World σ) :
      (if ws.isEmpty then v.log m.host .warning "workspace has no blocks"
        else v.log m.host .info ("found " ++ toString ws.length ++ " blocks")) =
      m.playPart v ⟨if ws.isEmpty then ⟨.warning, "workspace has no blocks"⟩
        else ⟨.info, "found " ++ toString ws.length ++ " blocks"⟩, none⟩ := by
    split <;> rfl
  simp only [runProgram, execProgram, hsecond]
  exact .next (.next (m.plays_execChains ws _ 1 ws.blocks))

end Program

section Transcript
variable (w : World σ)

theorem events_announce (p : Part) : (m.announce p w).events = w.events ++ [p.line] :=
  World.events_perform m.host _ w

theorem events_playPart (p : Part) :
    (m.playPart w p).events = w.events ++ p.line :: m.said p w ∧
      ∀ e ∈ m.said p w, e.isOfBlock = true := by
  have hannounced := m.events_announce w p
  unfold playPart said
  split
  · exact ⟨hannounced, by simp⟩
  · next b hb =>
    obtain ⟨es, hes, hlines⟩ := m.speaks_exec b (m.announce p w)
    rw [hes, List.drop_left]
    exact ⟨by rw [hannounced, List.append_assoc, List.singleton_append], hlines⟩

theorem events_play (parts : List Part) : (m.play parts w).events =
    w.events ++ (m.transcript parts w).flatMap fun e => e.1 :: e.2 := by
  induction parts generalizing w with
  | nil => exact (List.append_nil _).symm
  | cons p parts ih =>
    rw [transcript, List.flatMap_cons, ← List.append_assoc, ← (m.events_playPart w p).1]
    exact ih (m.playPart w p)

theorem map_fst_transcript (parts : List Part) :
    (m.transcript parts w).map Prod.fst = parts.map Part.line := by
  induction parts generalizing w with
  | nil => rfl
  | cons p parts ih => exact congrArg (p.line :: ·) (ih _)

theorem isOfBlock_transcript (parts : List Part) :
    ∀ e ∈ m.transcript parts w, ∀ x ∈ e.2, x.isOfBlock = true := by
  induction parts generalizing w with
  | nil => simp [transcript]
  | cons p parts ih => exact List.forall_mem_cons.2 ⟨(m.events_playPart w p).2, ih _⟩

/-- Playing the outline writes no line that tells how a run ended. -/
theorem isLast_transcript {ws : Workspace} {parts : List Part} (hfirst : parts <+: ws.outline) :
    ∀ x ∈ (m.transcript parts w).flatMap fun e => e.1 :: e.2, x.isLast = false := by
  intro x hx
  obtain ⟨e, he, hx⟩ := List.mem_flatMap.1 hx
  rcases List.mem_cons.1 hx with rfl | hx
  · have hline : e.1 ∈ parts.map Part.line :=
      m.map_fst_transcript w parts ▸ List.mem_map_of_mem he
    obtain ⟨p, hp, hpe⟩ := List.mem_map.1 hline
    exact hpe ▸ Workspace.isLast_outline (hfirst.subset hp)
  · exact LogEvent.isLast_of_isOfBlock (m.isOfBlock_transcript w parts e he x hx)

end Transcript

/-- How the log of an accepted run that ended comes about. -/
structure Told (m : Interpreter σ) (ws : Workspace) (w v : World σ) (o : Outcome)
    (parts : List Part) (last : LogEvent) : Prop where
  inOrder : parts <+: ws.outline
  played : (v, o) = m.finish (m.play parts (started ws w))
  ended : o = .completed ∧ parts = ws.outline ∧ last = ⟨.success, "run complete"⟩ ∨
    o = .stopped ∧ last = ⟨.warning, "run interrupted"⟩
  lines : (m.transcript parts (started ws w)).map Prod.fst = parts.map Part.line
  ofBlocks : ∀ e ∈ m.transcript parts (started ws w), ∀ x ∈ e.2, x.isOfBlock = true
  events : v.events =
    w.events ++ ((m.transcript parts (started ws w)).flatMap fun e => e.1 :: e.2) ++ [last]
  once : ∀ x ∈ (m.transcript parts (started ws w)).flatMap fun e => e.1 :: e.2, x.isLast = false

variable {m} {ws : Workspace} {w v : World σ} {o : Outcome}

theorem exists_told (hflag : w.flag = .idle) (hrun : m.run ws w = (v, some o)) :
    ∃ parts last, m.Told ws w v o parts last := by
  obtain ⟨parts, hfirst, hplayed, hall⟩ := (m.plays_runProgram ws w).exists_played
  rw [run_of_idle hflag] at hrun
  split at hrun
  · cases hrun
  · next hex =>
    obtain ⟨hv, ho⟩ := Prod.mk.inj hrun
    refine ⟨parts, (ending (m.runProgram ws w).flag).1,
      { inOrder := hfirst
        played := by rw [← hplayed, ← hv, ← Option.some.inj ho]
        ended := ?_
        lines := m.map_fst_transcript _ parts
        ofBlocks := m.isOfBlock_transcript _ parts
        events := ?_
        once := m.isLast_transcript _ hfirst }⟩
    · rw [← Option.some.inj ho, finish_eq]
      cases hend : (m.runProgram ws w).flag with
      | running =>
        have hgo := (World.isRunning_eq_true_iff _).2 ⟨hend, Bool.not_eq_true _ ▸ hex⟩
        exact .inl ⟨rfl, hall hgo, rfl⟩
      | idle => exact .inr ⟨rfl, rfl⟩
      | stopped => exact .inr ⟨rfl, rfl⟩
    · have hevents := m.events_play (started ws w) parts
      rw [← hplayed, started, World.events_note] at hevents
      rw [← hv, World.events, effects_finish, List.filterMap_append, ← World.events, hevents]
      rfl

/-- After every history that hands out fewer than `2 ^ 32` identities, the outline
has every top-level block once and in the order of the chains, and an accepted
run that ends plays it, as a whole if the run completes. -/
theorem run_told_of_history (m : Interpreter σ) (tolerance : Float) (es : List Edit)
    (hroom : Edit.allocatedAll (Workspace.empty tolerance) es < UInt32.size) {w v : World σ}
    {o : Outcome} (hflag : w.flag = .idle)
    (hrun : m.run (Edit.applyAll (Workspace.empty tolerance) es) w = (v, some o)) :
    (Edit.applyAll (Workspace.empty tolerance) es).Outlined ∧
      ∃ parts last, m.Told (Edit.applyAll (Workspace.empty tolerance) es) w v o parts last :=
  ⟨(Workspace.sound_of_history tolerance es hroom).outlined, exists_told hflag hrun⟩

/-- A chain around a block that stands alone, run to its end and stopped at the
line that announces the chain. -/
theorem run_told_of_history_three :
    let es : List Edit := [.add .whenGreenFlag ∅, .add .showSprite ∅, .add .hideSprite ∅,
      .connect ⟨1⟩ ⟨3⟩ (.adjacent true)]
    let ws := Edit.applyAll (Workspace.empty 20.0) es
    let m := Session.interpreter {}
    let calm := Session.world { clock := .manual {} } .idle {} (.cycle #[])
    let hasty := Session.world { clock := .manual {}, stopOnLog := some 3 } .idle {} (.cycle #[])
    Edit.allocatedAll (Workspace.empty 20.0) es < UInt32.size ∧
      (ws.outline.map fun p => p.line.message) =
        ["running program", "found 3 blocks", "executing chain of 2 blocks",
          "chain step 1/2: when green flag block", "chain step 2/2: hide block",
          "block 2: show block"] ∧
      (∃ parts last, m.Told ws calm (m.run ws calm).1 .completed parts last) ∧
      ∃ parts last, m.Told ws hasty (m.run ws hasty).1 .stopped parts last := by
  intro es ws m calm hasty
  have hroom : Edit.allocatedAll (Workspace.empty 20.0) es < UInt32.size := by decide
  have htold (w : World Session) (o : Outcome) (hw : w.flag = .idle)
      (ho : (m.run ws w).2 = some o) : ∃ parts last, m.Told ws w (m.run ws w).1 o parts last :=
    (run_told_of_history m 20.0 es hroom hw (Prod.ext rfl ho)).2
  have hcalm : (m.run ws calm).2 = some .completed := by decide +kernel
  have hhasty : (m.run ws hasty).2 = some .stopped := by decide +kernel
  exact ⟨hroom, by decide +kernel, htold calm _ rfl hcalm, htold hasty _ rfl hhasty⟩

end Interpreter
end SpriteBlocks
