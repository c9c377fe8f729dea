import Mathlib.Logic.Function.Iterate
import SpriteBlocks.Proofs.Decimal.Truncation
import SpriteBlocks.Proofs.Run.Lockstep
import SpriteBlocks.Run.Session

/-!
# Loops unrolled

A `repeat` block does what as many copies of its blocks in a row do, apart from
its own log lines, in every host to which these lines make no difference. What
else happens, the lines of the blocks inside among it, may have the host press
stop. Both ways begin a copy in worlds that are alike, so they do the same in it
and leave worlds that are alike.
-/
namespace SpriteBlocks

/-- The lines that a `repeat` block of so many rounds writes itself, and the line
of an `if` block that is always met. -/
inductive OwnLine (times : Nat) : LogEvent → Prop
  | empty : OwnLine times ⟨.warning, "repeat block is empty"⟩
  | first : OwnLine times ⟨.execution, "repeating " ++ toString times ++ " times"⟩
  | round {k : Nat} (hk : k < times) :
    OwnLine times ⟨.execution, "repeat round " ++ toString (k + 1) ++ "/" ++ toString times⟩
  | last : OwnLine times ⟨.success, "repeat finished"⟩
  | met : OwnLine times ⟨.execution, "if always: met"⟩

namespace Host
variable {σ : Type} {lines : LogEvent → Prop}

/-- The host goes on alike from related states, and these lines make no difference to it. -/
structure Deaf (h : Host σ) (lines : LogEvent → Prop) (R : σ → σ → Prop) : Prop where
  symm : ∀ {s t}, R s t → R t s
  alike : ∀ {s t} (flag e), R s t → (h.respond s flag e).2 = (h.respond t flag e).2 ∧
    R (h.respond s flag e).1 (h.respond t flag e).1
  log : ∀ {s t} (flag) {event}, lines event → R s t →
    (h.respond s flag (.log event)).2 = false ∧ R (h.respond s flag (.log event)).1 t

/-- A host that counts the lines it listens for and presses stop at one of them. -/
def listening (heard : LogEvent → Bool) (stopAt : Nat) : Host Nat where
  respond count _
    | .log event => if heard event then (count + 1, count + 1 = stopAt) else (count, false)
    | _ => (count, false)

theorem deaf_listening {heard : LogEvent → Bool} (stopAt : Nat)
    (hlines : ∀ event, lines event → heard event = false) :
    (listening heard stopAt).Deaf lines Eq where
  symm := Eq.symm
  alike _ _ h := by rw [h]; exact ⟨rfl, rfl⟩
  log {s t} flag event hline h := by
    have hignored : (listening heard stopAt).respond s flag (.log event) = (s, false) :=
      if_neg (Bool.not_eq_true _ ▸ hlines event hline)
    rw [hignored]
    exact ⟨rfl, h⟩

end Host

/-- Two sessions that do not wait for a log line and differ only in the lines received. -/
def Session.Unheard (s t : Session) : Prop :=
  s.stopOnLog = none ∧ t = { s with logs := t.logs, flags := t.flags }

namespace Session
variable {s t : Session}

/-- A sleep of a session whose timer sleeps in any given way. The facts below are
about this form: a timer rounds to milliseconds, which no proof should unfold. -/
def onSleepBy (sleep : Timer → Duration → Timer × Bool × Bool) (s : Session) (flag : RunState)
    (d : Duration) : Session × Bool :=
  match s.clock with
  | .manual c =>
    let (c, due) := c.advance d
    let after := if due then flag.stop.1 else flag
    ({ s with clock := .manual c }.yielding after, due)
  | .timer t =>
    let (t, due, gaveWay) := sleep t d
    let s := { s with clock := .timer t }
    (if gaveWay then s.yielding flag else s, due)

theorem onSleep_eq : onSleep = onSleepBy Timer.sleep := rfl

section Sleep
variable (sleep : Timer → Duration → Timer × Bool × Bool) (s : Session) (flag : RunState)
  (d : Duration)

/-- A sleep does not look at the lines received. -/
theorem onSleepBy_counted (logs : Nat) (flags : Array RunState) :
    onSleepBy sleep { s with logs, flags } flag d =
      ({ (onSleepBy sleep s flag d).1 with logs, flags }, (onSleepBy sleep s flag d).2) := by
  obtain ⟨clock⟩ := s
  cases clock with
  | manual c => rfl
  | timer c =>
    simp only [onSleepBy]
    generalize sleep c d = after
    obtain ⟨c', due, gaveWay⟩ := after
    cases gaveWay <;> rfl

theorem stopOnLog_onSleepBy : (onSleepBy sleep s flag d).1.stopOnLog = s.stopOnLog := by
  obtain ⟨clock⟩ := s
  cases clock with
  | manual c => rfl
  | timer c =>
    simp only [onSleepBy]
    generalize sleep c d = after
    obtain ⟨c', due, gaveWay⟩ := after
    cases gaveWay <;> rfl

end Sleep

theorem onLog_of_deaf (hs : s.stopOnLog = none) (flag : RunState) :
    s.onLog flag = ({ s with logs := s.logs + 1, flags := s.flags.push flag }, false) := by
  simp [onLog, hs]

/-- A session that does not wait for a log line is stopped by time and frames alone. -/
theorem deaf (lines : LogEvent → Prop) : Session.host.Deaf lines Unheard where
  symm := by
    rintro s t ⟨hs, ht⟩
    rw [ht]
    exact ⟨hs, rfl⟩
  alike := by
    rintro s t flag e ⟨hs, ht⟩
    rw [ht]
    cases e with
    | log event =>
      have hcounted : { s with logs := t.logs, flags := t.flags }.stopOnLog = none := hs
      simp only [Session.host, onLog_of_deaf hs, onLog_of_deaf hcounted]
      exact ⟨trivial, hs, rfl⟩
    | frame sprite transition => exact ⟨rfl, hs, rfl⟩
    | speech speech => exact ⟨rfl, hs, rfl⟩
    | draw word => exact ⟨rfl, hs, rfl⟩
    | sleep d =>
      simp only [Session.host, onSleep_eq, onSleepBy_counted]
      exact ⟨trivial, (stopOnLog_onSleepBy _ s flag d).trans hs, rfl⟩
  log := by
    rintro s t flag event - ⟨hs, ht⟩
    simp only [Session.host, onLog_of_deaf hs]
    refine ⟨trivial, hs, ?_⟩
    rw [ht]

end Session

@[simp] theorem World.effects_log {σ : Type} (h : Host σ) (level : LogLevel) (message : String)
    (w : World σ) : (w.log h level message).effects = w.effects ++ [.log ⟨level, message⟩] :=
  World.effects_perform h _ w

namespace Interpreter
variable {σ : Type} {R : σ → σ → Prop}

/-- Two worlds from which runs go on alike. Only what happened so far may differ. -/
structure Alike (R : σ → σ → Prop) (w v : World σ) : Prop where
  sprite : w.sprite = v.sprite
  source : w.source = v.source
  flag : w.flag = v.flag
  exhausted : w.exhausted = v.exhausted
  host : R w.host v.host

/-- The worlds are alike, and the same has happened in both since two others. -/
def Abreast (R : σ → σ → Prop) (w₀ v₀ w v : World σ) : Prop :=
  Alike R w v ∧ ∃ es, w.effects = w₀.effects ++ es ∧ v.effects = v₀.effects ++ es

section Alike
variable {h : Host σ} {lines : LogEvent → Prop} (hR : h.Deaf lines R) {w v w₀ v₀ : World σ}

theorem Alike.isRunning_eq (hwv : Alike R w v) : w.isRunning = v.isRunning := by
  rw [World.isRunning, World.isRunning, hwv.flag, hwv.exhausted]

theorem Alike.abreast (hwv : Alike R w v) : Abreast R w v w v :=
  ⟨hwv, [], (List.append_nil _).symm, (List.append_nil _).symm⟩

theorem Alike.noteLeft (hwv : Alike R w v) (n : Note) : Alike R (w.note n) v where
  sprite := by simpa using hwv.sprite
  source := by simpa using hwv.source
  flag := by simpa using hwv.flag
  exhausted := by simpa using hwv.exhausted
  host := by simpa using hwv.host

theorem Alike.noteRight (hwv : Alike R w v) (n : Note) : Alike R w (v.note n) where
  sprite := by simpa using hwv.sprite
  source := by simpa using hwv.source
  flag := by simpa using hwv.flag
  exhausted := by simpa using hwv.exhausted
  host := by simpa using hwv.host

theorem Abreast.note (hwv : Abreast R w₀ v₀ w v) (n : Note) :
    Abreast R w₀ v₀ (w.note n) (v.note n) := by
  obtain ⟨halike, es, hw, hv⟩ := hwv
  exact ⟨(halike.noteLeft n).noteRight n, es, by simpa using hw, by simpa using hv⟩

include hR

theorem Alike.symm (hwv : Alike R w v) : Alike R v w :=
  ⟨hwv.sprite.symm, hwv.source.symm, hwv.flag.symm, hwv.exhausted.symm, hR.symm hwv.host⟩

theorem Alike.perform (hwv : Alike R w v) (e : Effect) :
    Alike R (w.perform h e) (v.perform h e) := by
  obtain ⟨hpress, hhost⟩ := hR.alike w.flag e hwv.host
  refine ⟨by simpa using hwv.sprite, by simpa using hwv.source, ?_,
    by simpa using hwv.exhausted, ?_⟩
  · rw [World.flag_perform, World.flag_perform, hpress, hwv.flag]
  · rw [World.host_perform, World.host_perform, ← hwv.flag]
    exact hhost

theorem Alike.log (hwv : Alike R w v) {level : LogLevel} {message : String}
    (hline : lines ⟨level, message⟩) : Alike R (w.log h level message) v := by
  obtain ⟨hpress, hhost⟩ := hR.log w.flag hline hwv.host
  refine ⟨by simpa [World.log] using hwv.sprite, by simpa [World.log] using hwv.source, ?_,
    by simpa [World.log] using hwv.exhausted, ?_⟩
  · rw [World.log, World.flag_perform, hpress]
    exact hwv.flag
  · rw [World.log, World.host_perform]
    exact hhost

theorem Abreast.perform (hwv : Abreast R w₀ v₀ w v) (e : Effect) :
    Abreast R w₀ v₀ (w.perform h e) (v.perform h e) := by
  obtain ⟨halike, es, hw, hv⟩ := hwv
  refine ⟨halike.perform hR e, es ++ [e], ?_, ?_⟩
  · rw [World.effects_perform, hw, List.append_assoc]
  · rw [World.effects_perform, hv, List.append_assoc]

end Alike

variable {m : Interpreter σ} {lines : LogEvent → Prop} (hR : m.host.Deaf lines R)
  {w v u : World σ}
include hR

/-- Runs of one interpreter from worlds that are alike stay abreast. -/
theorem lockstep_of_deaf (w₀ v₀ : World σ) :
    m.Lockstep m (Abreast R w₀ v₀) (Abreast R w₀ v₀) where
  settings := rfl
  sprite_eq hd := hd.1.sprite.symm
  source_eq hd := hd.1.source.symm
  note _ hd := hd.note _
  perform _ hd := hd.perform hR _
  sprite _ hd := ⟨{ hd.1 with sprite := rfl }, hd.2⟩
  source _ hd := ⟨{ hd.1 with source := rfl }, hd.2⟩
  sleep _ hd := hd.perform hR _
  between hd := hd
  during hd hrun := ⟨hd.1.isRunning_eq ▸ hrun, hd⟩
  noteBetween _ hd := hd.note _
  ahead hd hw hv := absurd (hd.1.isRunning_eq.symm.trans hw) (by simp [hv])
  limit := Nat.le_refl _
  exhaust := by
    intro w v v' hd _ _ hsame
    rw [hsame rfl]
    exact ⟨{ hd.1 with exhausted := rfl }, hd.2⟩

theorem execAll_alike (bs : List Block) (hwv : Alike R w v) :
    Abreast R w v (m.execAll bs w) (m.execAll bs v) :=
  (lockstep_of_deaf hR w v).execAll bs hwv.abreast

end Interpreter

namespace Interpreter
variable {σ : Type} (m : Interpreter σ) (body : List Block)

theorem execAll_of_not_running {w : World σ} (hw : w.isRunning = false) (bs : List Block) :
    m.execAll bs w = w := by
  cases bs <;> simp [execAll, hw]

theorem execAll_append (as bs : List Block) (w : World σ) :
    m.execAll (as ++ bs) w = m.execAll bs (m.execAll as w) := by
  induction as generalizing w with
  | nil => rfl
  | cons a as ih =>
    cases hw : w.isRunning with
    | true => simp only [List.cons_append, execAll, hw, if_true, ih]
    | false => rw [m.execAll_of_not_running hw, m.execAll_of_not_running hw,
        m.execAll_of_not_running hw]

def copies (k : Nat) (u : World σ) : World σ := (m.execAll body)^[k] u

def copyEffects (u : World σ) (k : Nat) : List Effect :=
  (m.copies body (k + 1) u).effects.drop (m.copies body k u).effects.length

theorem copies_succ (k : Nat) (u : World σ) :
    m.copies body (k + 1) u = m.execAll body (m.copies body k u) :=
  Function.iterate_succ_apply' _ _ _

theorem execAll_replicate (n : Nat) (u : World σ) :
    m.execAll (List.replicate n body).flatten u = m.copies body n u := by
  induction n generalizing u with
  | zero => rfl
  | succ n ih =>
    rw [List.replicate_succ, List.flatten_cons, execAll_append, ih, copies, copies,
      Function.iterate_succ_apply]

theorem copies_of_not_running {k : Nat} {u : World σ} (hk : (m.copies body k u).isRunning = false)
    (more : Nat) : m.copies body (k + more) u = m.copies body k u := by
  induction more with
  | zero => rfl
  | succ more ih => rw [← Nat.add_assoc, copies_succ, ih, m.execAll_of_not_running hk]

theorem isRunning_copies_of_le {k n : Nat} {u : World σ} (hkn : k ≤ n)
    (hn : (m.copies body n u).isRunning = true) : (m.copies body k u).isRunning = true := by
  by_contra hk
  rw [← Nat.add_sub_cancel' hkn, m.copies_of_not_running body (Bool.not_eq_true _ ▸ hk)] at hn
  exact hk hn

theorem copyEffects_eq_nil {k : Nat} {u : World σ} (hk : (m.copies body k u).isRunning = false) :
    m.copyEffects body u k = [] := by
  rw [copyEffects, m.copies_of_not_running body hk 1, List.drop_length]

theorem effects_copies_succ (k : Nat) (u : World σ) : (m.copies body (k + 1) u).effects =
    (m.copies body k u).effects ++ m.copyEffects body u k := by
  obtain ⟨es, hes⟩ := Steps.effects_prefix (m.steps_execAll (m.copies body k u) body)
  rw [← copies_succ] at hes
  rw [copyEffects, ← hes, List.drop_left]

theorem effects_copies (n : Nat) (u : World σ) :
    (m.copies body n u).effects = u.effects ++ (List.range n).flatMap (m.copyEffects body u) := by
  induction n with
  | zero => exact (List.append_nil _).symm
  | succ n ih => rw [effects_copies_succ, ih, List.range_succ]; simp

/-- What the loop does in a round, if the round begins: its line and then the copy. -/
def roundEffects (times : Nat) (u : World σ) (k : Nat) : List Effect :=
  if (m.copies body k u).isRunning then
    .log ⟨.execution, "repeat round " ++ toString (k + 1) ++ "/" ++ toString times⟩ ::
      m.copyEffects body u k
  else []

def lastEffects (times : Nat) (u : World σ) : List Effect :=
  if (m.copies body times u).isRunning then [.log ⟨.success, "repeat finished"⟩] else []

theorem roundEffects_behind {m : Interpreter σ} {body : List Block} {k : Nat} {u : World σ}
    (hk : (m.copies body k u).isRunning = false) (times left : Nat) :
    (List.range' k left).flatMap (m.roundEffects body times u) = [] := by
  refine List.flatMap_eq_nil_iff.2 fun j hj => ?_
  obtain ⟨more, rfl⟩ := Nat.exists_eq_add_of_le (List.mem_range'_1.1 hj).1
  rw [roundEffects, m.copies_of_not_running body hk, hk]
  rfl

section Rounds
variable {m body} {R : σ → σ → Prop} {times : Nat} (hR : m.host.Deaf (OwnLine times) R)
  {w u : World σ}
include hR

/-- The rounds of a loop that are left do what the copies do that are left. -/
theorem repeatRounds_alike {k left : Nat} (hsum : k + left = times)
    (hwv : Alike R w (m.copies body k u)) (hrun : w.isRunning = true) :
    let loop := m.repeatRounds (fun w => m.execAll body w) times left w
    Alike R loop (m.copies body times u) ∧
      loop.effects = w.effects ++ (List.range' k left).flatMap (m.roundEffects body times u) ++
        m.lastEffects body times u := by
  induction left generalizing k w with
  | zero =>
    obtain rfl : k = times := hsum
    have hend : (m.copies body k u).isRunning = true := hwv.isRunning_eq ▸ hrun
    refine ⟨hwv.log hR .last, ?_⟩
    simp [repeatRounds, lastEffects, hend]
  | succ left ih =>
    have hbegun : (m.copies body k u).isRunning = true := hwv.isRunning_eq ▸ hrun
    have hround : times - left = k + 1 := by omega
    have hline := hwv.log hR (.round (k := k) (by omega))
    obtain ⟨hafter, es, hes, hcopy⟩ := execAll_alike hR body hline
    rw [← copies_succ] at hafter hcopy
    obtain rfl : es = m.copyEffects body u k :=
      List.append_cancel_left (hcopy.symm.trans (m.effects_copies_succ body k u))
    rw [World.effects_log] at hes
    simp only [repeatRounds, hrun, if_true, hround]
    rw [List.range'_succ, List.flatMap_cons, roundEffects, if_pos hbegun]
    split
    · next hgo =>
      obtain ⟨halike, heffects⟩ := ih (by omega) hafter hgo
      refine ⟨halike, ?_⟩
      rw [heffects, hes]
      simp
    · next hstop =>
      have hstop : (m.copies body (k + 1) u).isRunning = false :=
        hafter.isRunning_eq ▸ Bool.not_eq_true _ ▸ hstop
      have hstay := m.copies_of_not_running body hstop left
      rw [Nat.add_right_comm, Nat.add_assoc, hsum] at hstay
      rw [hstay, m.roundEffects_behind hstop, lastEffects, hstay, hstop, hes]
      exact ⟨hafter, by simp⟩

end Rounds

/-- What comes before the blocks inside an `if` block that is always met. -/
def behindIf (id : BlockId) (w : World σ) : World σ :=
  ((w.note (.dispatch id .ifThen)).note (.evaluated .always true)).log m.host .execution
    "if always: met"

theorem effects_behindIf (id : BlockId) (w : World σ) : (m.behindIf id w).effects =
    w.effects ++ [.log ⟨.execution, "if always: met"⟩] := by
  simp [behindIf]

theorem exec_if_always {p : Parameters}
    (hp : Condition.ofChoice (p.textOr "condition" "always") = .always) (id : BlockId)
    (bs : List Block) (w : World σ) :
    m.exec ⟨id, .ifThen, p, bs⟩ w = m.execAll bs (m.behindIf id w) := by
  simp only [exec, hp, evaluate, behindIf]
  rfl

/-- How a `repeat` block relates to the copies of its blocks that follow each
other from the world `u`, and these to the run `flat` that has nothing else. -/
structure Unrolled (R : σ → σ → Prop) (times : Nat) (w u loop flat : World σ) : Prop where
  copies : flat = m.copies body times u
  flatEffects : flat.effects = w.effects ++ .log ⟨.execution, "if always: met"⟩ ::
    (List.range times).flatMap (m.copyEffects body u)
  /-- The sprite, the random source, the flag and the host agree in the end. -/
  alike : Alike R loop flat
  /-- Everything seen of the run but its log is the same. -/
  seen : ∀ {α : Type} (f : Effect → Option α), (∀ event, f (.log event) = none) →
    loop.effects.filterMap f = flat.effects.filterMap f
  empty : body = [] → loop.effects = w.effects ++ [.log ⟨.warning, "repeat block is empty"⟩]
  rounds : body ≠ [] → loop.effects = w.effects ++
    .log ⟨.execution, "repeating " ++ toString times ++ " times"⟩ ::
      ((List.range times).flatMap (m.roundEffects body times u) ++ m.lastEffects body times u)
  finished : (m.copies body times u).isRunning = true ↔
    ∀ k ≤ times, (m.copies body k u).isRunning = true

section Unrolled
variable {m body} {R : σ → σ → Prop} {lines : LogEvent → Prop} {w : World σ}

/-- The lines of the loop aside, a round is a copy. -/
theorem filterMap_roundEffects {α : Type} {f : Effect → Option α}
    (hf : ∀ event, f (.log event) = none) (times : Nat) (u : World σ) (k : Nat) :
    (m.roundEffects body times u k).filterMap f = (m.copyEffects body u k).filterMap f := by
  unfold roundEffects
  split
  · exact List.filterMap_cons_none (hf _)
  · next hk => rw [m.copyEffects_eq_nil body (Bool.not_eq_true _ ▸ hk)]

theorem copies_nil (k : Nat) (u : World σ) : m.copies [] k u = u := by
  induction k with
  | zero => rfl
  | succ k ih => rw [copies_succ, ih, execAll]

theorem copyEffects_nil (u : World σ) (k : Nat) : m.copyEffects [] u k = [] := by
  rw [copyEffects, copies_nil, copies_nil, List.drop_length]

theorem exec_repeat_of_ne_nil (hbody : body ≠ []) (id : BlockId) (p : Parameters) (w : World σ) :
    let times := repeatCount m.settings p
    m.exec ⟨id, .repeatTimes, p, body⟩ w =
      m.repeatRounds (fun w => m.execAll body w) times times
        ((w.note (.dispatch id .repeatTimes)).log m.host .execution
          ("repeating " ++ toString times ++ " times")) := by
  have hchildren : body.isEmpty = false := by simpa using hbody
  simp only [exec, hchildren]
  rfl

theorem alike_behindDispatch (hR : m.host.Deaf lines R) (hhost : R w.host w.host) (id : BlockId)
    {level : LogLevel} {message : String} (hline : lines ⟨level, message⟩) :
    Alike R ((w.note (.dispatch id .repeatTimes)).log m.host level message) w := by
  have hself : Alike R w w := ⟨rfl, rfl, rfl, rfl, hhost⟩
  exact (hself.noteLeft _).log hR hline

/-- Behind the first line of a loop and that of an `if` block a run goes on alike. -/
theorem alike_behindIf (hR : m.host.Deaf lines R) (hhost : R w.host w.host) (id id' : BlockId)
    {level : LogLevel} {message : String} (hline : lines ⟨level, message⟩)
    (hmet : lines ⟨.execution, "if always: met"⟩) :
    Alike R ((w.note (.dispatch id .repeatTimes)).log m.host level message) (m.behindIf id' w) := by
  have hback := (alike_behindDispatch hR hhost id hline).symm hR
  exact (((hback.noteLeft _).noteLeft _).log hR hmet).symm hR

/-- From a running world a `repeat` block does what an `if` block does with as
many copies inside, and says which round it is in. -/
theorem unrolled_exec {times : Nat} {p p' : Parameters} (htimes : repeatCount m.settings p = times)
    (hR : m.host.Deaf (OwnLine times) R) (hw : w.isRunning = true) (hhost : R w.host w.host)
    (id id' : BlockId) (hp : Condition.ofChoice (p'.textOr "condition" "always") = .always) :
    m.Unrolled body R times w (m.behindIf id' w) (m.exec ⟨id, .repeatTimes, p, body⟩ w)
      (m.exec ⟨id', .ifThen, p', (List.replicate times body).flatten⟩ w) := by
  have hflat := m.exec_if_always hp id' (List.replicate times body).flatten w
  rw [execAll_replicate] at hflat
  have hflatEffects := m.effects_copies body times (m.behindIf id' w)
  rw [← hflat, effects_behindIf, List.append_assoc, List.singleton_append] at hflatEffects
  have hfinished : (m.copies body times (m.behindIf id' w)).isRunning = true ↔
      ∀ k ≤ times, (m.copies body k (m.behindIf id' w)).isRunning = true :=
    ⟨fun hend k hk => m.isRunning_copies_of_le body hk hend, fun hall => hall times (Nat.le_refl _)⟩
  by_cases hbody : body = []
  · subst hbody
    have hloop : m.exec ⟨id, .repeatTimes, p, []⟩ w =
        (w.note (.dispatch id .repeatTimes)).log m.host .warning "repeat block is empty" := rfl
    rw [hloop]
    have hnothing : (List.range times).flatMap (m.copyEffects [] (m.behindIf id' w)) = [] :=
      List.flatMap_eq_nil_iff.2 fun k _ => m.copyEffects_nil _ k
    refine ⟨hflat, hflatEffects, ?_, fun f hf => ?_, fun _ => by simp, absurd rfl, hfinished⟩
    · rw [hflat, copies_nil]
      exact alike_behindIf hR hhost id id' .empty .met
    · rw [hflatEffects, hnothing]
      simp [hf]
  · have hloop := exec_repeat_of_ne_nil (m := m) hbody id p w
    rw [htimes] at hloop
    -- No copy has been begun yet.
    have hfirst : Alike R _ (m.copies body 0 (m.behindIf id' w)) :=
      alike_behindIf hR hhost id id' .first .met
    have hrun := (alike_behindDispatch hR hhost id .first).isRunning_eq.trans hw
    have hrounds := repeatRounds_alike hR (Nat.zero_add times) hfirst hrun
    rw [← hloop, ← List.range_eq_range', World.effects_log, World.effects_note] at hrounds
    obtain ⟨halike, heffects⟩ := hrounds
    rw [← hflat] at halike
    refine ⟨hflat, hflatEffects, halike, fun f hf => ?_, fun hnil => absurd hnil hbody,
      fun _ => by rw [heffects]; simp, hfinished⟩
    rw [heffects, hflatEffects]
    have hlast : (m.lastEffects body times (m.behindIf id' w)).filterMap f = [] := by
      unfold lastEffects
      split <;> simp [hf]
    simp [hf, List.filterMap_flatMap, filterMap_roundEffects hf, hlast]

end Unrolled

/-- The rounds that a `repeat` block asks for: the whole part of the number in
its slot, held between the bounds of 32 bits, or the default if the slot has no
finite number. -/
def roundsAsked (s : Settings) (p : Parameters) : Nat :=
  match (p.get? "times").bind ParamValue.number? with
  | some x => min (Decimal.read x).whole 4294967295
  | none => s.defaultRepeat.toNat

theorem repeatCount_eq (s : Settings) (p : Parameters) : repeatCount s p = roundsAsked s p := by
  rw [repeatCount, Parameters.numberOr, roundsAsked]
  cases hx : (p.get? "times").bind ParamValue.number? with
  | some x =>
    obtain ⟨v, -, hv⟩ := Option.bind_eq_some_iff.1 hx
    exact Decimal.toNat_toUInt32_clamp (ParamValue.isFinite_of_number? hv)
  | none =>
    have hbound : s.defaultRepeat.toNat < 2 ^ 32 := s.defaultRepeat.toNat_lt_size
    obtain ⟨hfinite, hwhole⟩ := Decimal.read_ofNat (k := s.defaultRepeat.toNat) (by omega)
    refine (Decimal.toNat_toUInt32_clamp hfinite).trans ?_
    rw [hwhole]
    exact Nat.min_eq_left (by omega)

/-- A loop unrolled: in every host to which its own lines make no difference, as in
a session that is stopped by time, a `repeat` block does what an `if` block that
is always met does with as many copies inside as rounds are asked for. Its own
lines come first, in front of every copy and, if no copy was stopped, last. -/
theorem exec_repeat_unrolled {R : σ → σ → Prop} {m : Interpreter σ} {w : World σ}
    {p : Parameters} (hR : m.host.Deaf (OwnLine (roundsAsked m.settings p)) R)
    (hw : w.isRunning = true) (hhost : R w.host w.host) (id id' : BlockId) (body : List Block)
    (p' : Parameters)
    (hp : Condition.ofChoice (p'.textOr "condition" "always") = .always) :
    let times := roundsAsked m.settings p
    m.Unrolled body R times w (m.behindIf id' w) (m.exec ⟨id, .repeatTimes, p, body⟩ w)
      (m.exec ⟨id', .ifThen, p', (List.replicate times body).flatten⟩ w) :=
  unrolled_exec (repeatCount_eq m.settings p) hR hw hhost id id' hp

/-- Three rounds are asked for and the run ends in the second: in a session it is
stopped by time, in another host at the second error, a line of a block inside. -/
theorem exec_repeat_unrolled_stopped :
    let p : Parameters := (∅ : Parameters).insert "times" (.number 3.75)
    let body : List Block :=
      [⟨⟨2⟩, .changeSize, ∅, []⟩, ⟨⟨3⟩, .unknown "spin", ∅, []⟩, ⟨⟨4⟩, .wait, ∅, []⟩]
    let repeated : Block := ⟨⟨1⟩, .repeatTimes, p, body⟩
    let copied : Block := ⟨⟨5⟩, .ifThen, ∅, (List.replicate 3 body).flatten⟩
    let timed := Session.interpreter {}
    let w := Session.world { clock := .manual { stopAt := some (.ofMillis 1500) } } .running {}
      (.cycle #[])
    let strict : Interpreter Nat := { settings := {}, host := .listening (·.level = .error) 2 }
    let u : World Nat := { sprite := {}, source := .cycle #[], flag := .running, host := 0 }
    roundsAsked {} p = 3 ∧
      Alike Session.Unheard (timed.exec repeated w) (timed.exec copied w) ∧
      (timed.exec repeated w).frames = (timed.exec copied w).frames ∧
      (timed.exec copied w).frames.length = 2 ∧ (timed.exec repeated w).isRunning = false ∧
      Alike Eq (strict.exec repeated u) (strict.exec copied u) ∧
      (strict.exec repeated u).frames = (strict.exec copied u).frames ∧
      (strict.exec copied u).frames.length = 2 ∧ (strict.exec repeated u).isRunning = false := by
  intro p body repeated copied timed w strict u
  have hasked : roundsAsked {} p = 3 := by decide +kernel
  have htimed := exec_repeat_unrolled (m := timed) (w := w) (p := p) (Session.deaf _)
    (by decide +kernel) ⟨rfl, rfl⟩ ⟨1⟩ ⟨5⟩ body ∅ (by decide)
  have hdeaf : strict.host.Deaf (OwnLine (roundsAsked strict.settings p)) Eq :=
    Host.deaf_listening 2 fun event hline => by cases hline <;> rfl
  have hstrict := exec_repeat_unrolled (w := u) hdeaf (by decide +kernel) rfl ⟨1⟩ ⟨5⟩ body ∅
    (by decide)
  have hframe : ∀ event, Effect.frame? (.log event) = none := fun _ => rfl
  rw [show roundsAsked timed.settings p = 3 from hasked] at htimed
  rw [show roundsAsked strict.settings p = 3 from hasked] at hstrict
  exact ⟨hasked, htimed.alike, htimed.seen _ hframe, by decide +kernel, by decide +kernel,
    hstrict.alike, hstrict.seen _ hframe, by decide +kernel, by decide +kernel⟩

end Interpreter
end SpriteBlocks
