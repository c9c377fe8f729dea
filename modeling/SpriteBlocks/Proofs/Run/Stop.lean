import SpriteBlocks.Proofs.Run.Lockstep

/-!
# Stopped runs

A stop request stands in the journal right behind the effect during which stop
was pressed. A run whose host may press stop goes along with a run whose host
never does, up to that effect. Blocks sleep last of all, so a run that is
stopped in its sleep does nothing more.
-/
namespace SpriteBlocks

namespace Effect

def sleeps (effects : List Effect) : List Duration := effects.filterMap sleep?

/-- The effects up to and including the `n`-th sleep. -/
def throughSleep : Nat → List Effect → List Effect
  | 0, _ => []
  | _ + 1, [] => []
  | n + 1, e :: es => e :: throughSleep (if e.sleep?.isSome then n else n + 1) es

theorem sleeps_append (es fs : List Effect) : sleeps (es ++ fs) = sleeps es ++ sleeps fs :=
  List.filterMap_append

/-- Effects behind the `n`-th sleep do not matter. -/
theorem throughSleep_append {n : Nat} {es : List Effect} (hn : n ≤ (sleeps es).length)
    (fs : List Effect) : throughSleep n (es ++ fs) = throughSleep n es := by
  induction es generalizing n with
  | nil =>
    obtain rfl := Nat.le_zero.1 hn
    simp only [throughSleep]
  | cons e es ih =>
    cases n with
    | zero => simp only [throughSleep]
    | succ n =>
      simp only [List.cons_append, throughSleep]
      rw [ih]
      cases he : e.sleep? with
      | none => simpa [sleeps, he] using hn
      | some d => simpa [sleeps, he] using hn

theorem throughSleep_concat (es : List Effect) (d : Duration) :
    throughSleep ((sleeps es).length + 1) (es ++ [.sleep d]) = es ++ [.sleep d] := by
  induction es with
  | nil => rfl
  | cons e es ih =>
    rw [List.cons_append, throughSleep, List.cons.injEq]
    refine ⟨rfl, ?_⟩
    cases he : e.sleep? with
    | none => simpa [sleeps, he] using ih
    | some d' => simpa [sleeps, he] using ih

/-- A trace that ends with its `n`-th sleep is what any longer trace does through its `n`-th. -/
theorem throughSleep_of_prefix {es fs : List Effect} {d : Duration} (hpre : es <+: fs)
    (hlast : es.getLast? = some (.sleep d)) : throughSleep (sleeps es).length fs = es := by
  obtain ⟨rest, rfl⟩ := hpre
  obtain ⟨init, rfl⟩ := List.getLast?_eq_some_iff.1 hlast
  have hlen : (sleeps (init ++ [.sleep d])).length = (sleeps init).length + 1 := by
    simp [sleeps, sleep?]
  rw [throughSleep_append (Nat.le_refl _), hlen, throughSleep_concat]

end Effect

/-- The effects before the first stop request. The last of them is the one
during which stop was pressed. -/
def Entry.untilStop? : List Entry → Option (List Effect)
  | [] => none
  | .effect e :: es => (untilStop? es).map (e :: ·)
  | .note n :: es => if n = .stopRequested then some [] else untilStop? es

theorem Entry.untilStop?_append (es fs : List Entry) : untilStop? (es ++ fs) =
    (untilStop? es).or ((untilStop? fs).map (es.filterMap effect? ++ ·)) := by
  induction es with
  | nil => simp [untilStop?]
  | cons entry es ih =>
    cases entry with
    | effect e =>
      simp only [List.cons_append, untilStop?, ih]
      cases untilStop? es <;> simp [effect?, Function.comp_def]
    | note n =>
      by_cases hn : n = .stopRequested
      · simp [untilStop?, hn]
      · simp only [List.cons_append, untilStop?, if_neg hn, ih]
        rfl

namespace World
variable {σ τ : Type}

/-- The effects up to and including the one during which stop was pressed first. -/
def untilStop? (w : World σ) : Option (List Effect) := Entry.untilStop? w.journal.toList

theorem prefix_of_untilStop? {w : World σ} {es : List Effect} (h : w.untilStop? = some es) :
    es <+: w.effects := by
  rw [untilStop?] at h
  rw [effects]
  generalize w.journal.toList = entries at h ⊢
  induction entries generalizing es with
  | nil => cases h
  | cons entry entries ih =>
    cases entry with
    | effect e =>
      rw [Entry.untilStop?, Option.map_eq_some_iff] at h
      obtain ⟨rest, hrest, rfl⟩ := h
      exact List.prefix_cons_inj e |>.2 (ih hrest)
    | note n =>
      rw [Entry.untilStop?] at h
      split at h
      · obtain rfl := Option.some.inj h
        exact List.nil_prefix
      · exact ih h

theorem untilStop?_note {n : Note} (hn : n ≠ .stopRequested) (w : World σ) :
    (w.note n).untilStop? = w.untilStop? := by
  unfold note
  split
  · rfl
  · simp [untilStop?, Entry.untilStop?_append, Entry.untilStop?, hn]

theorem perform_of_quiet {h : Host σ} {e : Effect} {w : World σ}
    (hquiet : (h.respond w.host w.flag e).2 = false ∨ w.flag ≠ .running) :
    w.perform h e = { w with
      host := (h.respond w.host w.flag e).1, journal := w.journal.push (.effect e) } := by
  simp only [perform]
  split
  · next hpressed =>
    rw [hpressed] at hquiet
    have hflag := hquiet.resolve_left (by simp)
    cases hw : w.flag with
    | running => exact absurd hw hflag
    | idle => simp [pressStop, RunState.stop]
    | stopped => simp [pressStop, RunState.stop]
  · rfl

theorem perform_of_pressed {h : Host σ} {e : Effect} {w : World σ}
    (hpressed : (h.respond w.host w.flag e).2 = true) (hflag : w.flag = .running)
    (hex : w.exhausted = false) :
    w.perform h e = { w with
      flag := .stopped
      host := (h.respond w.host w.flag e).1
      journal := (w.journal.push (.effect e)).push (.note .stopRequested) } := by
  rw [hflag] at hpressed
  simp [perform, hflag, hpressed, pressStop, RunState.stop, note, hex]

theorem untilStop?_of_quiet {h : Host σ} {e : Effect} {w : World σ}
    (hquiet : (h.respond w.host w.flag e).2 = false ∨ w.flag ≠ .running) :
    (w.perform h e).untilStop? = w.untilStop? := by
  rw [perform_of_quiet hquiet]
  simp [untilStop?, Entry.untilStop?_append, Entry.untilStop?]

theorem untilStop?_of_pressed {h : Host σ} {e : Effect} {w : World σ}
    (hpressed : (h.respond w.host w.flag e).2 = true) (hflag : w.flag = .running)
    (hex : w.exhausted = false) :
    (w.perform h e).untilStop? = w.untilStop?.or (some (w.effects ++ [e])) := by
  rw [perform_of_pressed hpressed hflag hex]
  simp [untilStop?, Entry.untilStop?_append, Entry.untilStop?, effects, Entry.effect?]

/-- An effect either leaves the first stop alone or is the one during which it happens. -/
theorem untilStop?_perform (h : Host σ) (e : Effect) (w : World σ) :
    (w.perform h e).untilStop? = w.untilStop? ∨
      (h.respond w.host w.flag e).2 = true ∧ w.flag = .running ∧
        (w.perform h e).untilStop? = w.untilStop?.or (some (w.effects ++ [e])) := by
  by_cases hquiet : (h.respond w.host w.flag e).2 = false ∨ w.flag ≠ .running
  · exact .inl (untilStop?_of_quiet hquiet)
  · rw [not_or, Bool.not_eq_false, not_not] at hquiet
    obtain ⟨hpressed, hflag⟩ := hquiet
    cases hex : w.exhausted with
    | false => exact .inr ⟨hpressed, hflag, untilStop?_of_pressed hpressed hflag hex⟩
    | true =>
      left
      rw [hflag] at hpressed
      simp [perform, hflag, hpressed, pressStop, RunState.stop, World.note, hex, untilStop?,
        Entry.untilStop?_append, Entry.untilStop?]

def withHost (s : σ) (v : World τ) : World σ := { v with host := s }

theorem note_withHost (n : Note) (s : σ) (v : World τ) :
    (v.withHost s).note n = (v.note n).withHost s := by
  cases hex : v.exhausted <;> simp [note, withHost, hex]

/-- So far the first run was not stopped, and both runs did the same. -/
structure Together (H : σ → τ → Prop) (w : World σ) (v : World τ) : Prop where
  same : w = v.withHost w.host
  hosts : H w.host v.host
  running : v.flag = .running
  fresh : v.exhausted = false
  unstopped : v.untilStop? = none

/-- Both runs did the same until they were out of rounds. -/
structure Spent (w : World σ) (v : World τ) : Prop where
  same : w = v.withHost w.host
  exhausted : v.exhausted = true
  unstopped : v.untilStop? = none

/-- The first run was stopped during the last of some effects that both runs have in common. -/
structure Apart (es : List Effect) (w : World σ) (v : World τ) : Prop where
  stopped : w.flag = .stopped
  fresh : w.exhausted = false
  cut : w.untilStop? = some es
  along : es <+: v.effects

def Ready (H : σ → τ → Prop) (w : World σ) (v : World τ) : Prop :=
  v.sprite = w.sprite ∧ v.source = w.source ∧
    (Together H w v ∨ ∃ es, Apart es w v ∧ ∀ d, es.getLast? ≠ some (.sleep d))

/-- Two runs between blocks. After a stop in a sleep the first did nothing more. -/
def Tracks (H : σ → τ → Prop) (w : World σ) (v : World τ) : Prop :=
  Together H w v ∨ Spent w v ∨
    ∃ es, Apart es w v ∧ ∀ d, es.getLast? = some (.sleep d) → w.effects = es

variable {H : σ → τ → Prop} {w : World σ} {v : World τ}

theorem Together.isRunning (ht : Together H w v) : w.isRunning = true ∧ v.isRunning = true := by
  have hv : v.isRunning = true := (v.isRunning_eq_true_iff).2 ⟨ht.running, ht.fresh⟩
  refine ⟨?_, hv⟩
  rw [ht.same]
  exact hv

theorem Spent.isRunning (hs : Spent w v) : v.isRunning = false := by
  rw [World.isRunning, hs.exhausted, Bool.not_true, Bool.and_false]

theorem Apart.isRunning {es : List Effect} (ha : Apart es w v) : w.isRunning = false := by
  rw [World.isRunning, ha.stopped]
  rfl

theorem Together.note {n : Note} (hn : n ≠ .stopRequested) (ht : Together H w v) :
    Together H (w.note n) (v.note n) := by
  obtain ⟨s, rfl⟩ : ∃ s, w = v.withHost s := ⟨_, ht.same⟩
  refine ⟨?_, ?_, ?_, ?_, (untilStop?_note hn v).trans ht.unstopped⟩
  · rw [note_withHost]
    rfl
  · rw [host_note, host_note]
    exact ht.hosts
  · rw [flag_note]
    exact ht.running
  · rw [exhausted_note]
    exact ht.fresh

theorem Spent.note (n : Note) (hs : Spent w v) : Spent (w.note n) (v.note n) := by
  obtain ⟨s, rfl⟩ : ∃ s, w = v.withHost s := ⟨_, hs.same⟩
  have hw : (v.withHost s).note n = v.withHost s := if_pos hs.exhausted
  have hv : v.note n = v := if_pos hs.exhausted
  rw [hw, hv]
  exact hs

theorem Apart.note {es : List Effect} {n : Note} (hn : n ≠ .stopRequested) (ha : Apart es w v) :
    Apart es (w.note n) v :=
  ⟨(flag_note n w).trans ha.stopped, (exhausted_note n w).trans ha.fresh,
    (untilStop?_note hn w).trans ha.cut, ha.along⟩

theorem Apart.mono {es : List Effect} {v' : World τ} (ha : Apart es w v)
    (hle : v.effects <+: v'.effects) : Apart es w v' :=
  ⟨ha.stopped, ha.fresh, ha.cut, ha.along.trans hle⟩

theorem Apart.note_both {es : List Effect} {n : Note} (hn : n ≠ .stopRequested)
    (ha : Apart es w v) : Apart es (w.note n) (v.note n) :=
  (ha.note hn).mono ((effects_note n v).symm ▸ List.prefix_rfl)

theorem Apart.perform {es : List Effect} (h : Host σ) (h' : Host τ) (e : Effect)
    (ha : Apart es w v) : Apart es (w.perform h e) (v.perform h' e) := by
  have hflag : w.flag ≠ .running := by simp [ha.stopped]
  refine ⟨?_, ?_, ?_, ?_⟩
  · rw [perform_of_quiet (.inr hflag)]
    exact ha.stopped
  · rw [exhausted_perform]
    exact ha.fresh
  · rw [untilStop?_of_quiet (.inr hflag)]
    exact ha.cut
  · rw [effects_perform]
    exact ha.along.trans (List.prefix_append _ _)

end World

/-- The second host does not press stop, and goes on like the first for as long as that does not. -/
def Host.Follows {σ τ : Type} (h : Host σ) (h' : Host τ) (H : σ → τ → Prop) : Prop :=
  ∀ s t e, H s t → (h'.respond t .running e).2 = false ∧
    ((h.respond s .running e).2 = false →
      H (h.respond s .running e).1 (h'.respond t .running e).1)

namespace World
variable {σ τ : Type} {h : Host σ} {h' : Host τ} {H : σ → τ → Prop} {w : World σ} {v : World τ}

/-- One effect either keeps the runs together or is the one during which the first is stopped. -/
theorem Together.perform (hfollows : h.Follows h' H) (e : Effect) (ht : Together H w v) :
    Together H (w.perform h e) (v.perform h' e) ∨
      Apart (w.effects ++ [e]) (w.perform h e) (v.perform h' e) := by
  obtain ⟨s, rfl⟩ : ∃ s, w = v.withHost s := ⟨_, ht.same⟩
  obtain ⟨hquiet, hnext⟩ := hfollows s v.host e ht.hosts
  rw [← ht.running] at hquiet hnext
  cases hpressed : (h.respond s v.flag e).2 with
  | false =>
    left
    refine ⟨?_, ?_, ?_, ?_, ?_⟩
    · rw [perform_of_quiet (.inl hpressed), perform_of_quiet (.inl hquiet)]
      rfl
    · rw [host_perform, host_perform]
      exact hnext hpressed
    · rw [perform_of_quiet (.inl hquiet)]
      exact ht.running
    · rw [exhausted_perform]
      exact ht.fresh
    · rw [untilStop?_of_quiet (.inl hquiet)]
      exact ht.unstopped
  | true =>
    right
    refine ⟨?_, ?_, ?_, ?_⟩
    · rw [perform_of_pressed (w := v.withHost s) hpressed ht.running ht.fresh]
    · rw [exhausted_perform]
      exact ht.fresh
    · rw [untilStop?_of_pressed (w := v.withHost s) hpressed ht.running ht.fresh]
      exact congrArg (Option.or · _) ht.unstopped
    · rw [effects_perform]
      exact List.prefix_rfl

/-- A run that may be stopped is in lockstep with one that goes on. -/
theorem lockstep_tracks (hfollows : h.Follows h' H) (settings : Settings) (limit : Nat) :
    Interpreter.Lockstep ⟨settings, h, limit⟩ ⟨settings, h', limit⟩ (Ready H) (Tracks H) where
  settings := rfl
  sprite_eq hr := hr.1
  source_eq hr := hr.2.1
  note {w v n} hn hr := by
    obtain ⟨hsprite, hsource, hr⟩ := hr
    refine ⟨by simpa, by simpa, ?_⟩
    rcases hr with ht | ⟨es, ha, hes⟩
    · exact .inl (ht.note hn)
    · exact .inr ⟨es, ha.note_both hn, hes⟩
  perform {w v e} he hr := by
    obtain ⟨hsprite, hsource, hr⟩ := hr
    refine ⟨by simpa, by simpa, ?_⟩
    rcases hr with ht | ⟨es, ha, hes⟩
    · refine (ht.perform hfollows e).imp_right fun ha => ⟨_, ha, fun d hd => ?_⟩
      rw [List.getLast?_concat, Option.some_inj] at hd
      rw [hd] at he
      cases he
    · exact .inr ⟨es, ha.perform h h' e, hes⟩
  sprite sprite hr := by
    obtain ⟨-, hsource, ht | ⟨es, ha, hes⟩⟩ := hr
    · exact ⟨rfl, hsource,
        .inl ⟨by rw [ht.same]; rfl, ht.hosts, ht.running, ht.fresh, ht.unstopped⟩⟩
    · exact ⟨rfl, hsource, .inr ⟨es, ⟨ha.stopped, ha.fresh, ha.cut, ha.along⟩, hes⟩⟩
  source source hr := by
    obtain ⟨hsprite, -, ht | ⟨es, ha, hes⟩⟩ := hr
    · exact ⟨hsprite, rfl,
        .inl ⟨by rw [ht.same]; rfl, ht.hosts, ht.running, ht.fresh, ht.unstopped⟩⟩
    · exact ⟨hsprite, rfl, .inr ⟨es, ⟨ha.stopped, ha.fresh, ha.cut, ha.along⟩, hes⟩⟩
  sleep {w v} d hr := by
    obtain ⟨-, -, ht | ⟨es, ha, hes⟩⟩ := hr
    · rcases ht.perform hfollows (.sleep d) with ht | ha
      · exact .inl ht
      · exact .inr (.inr ⟨_, ha, fun _ _ => effects_perform h _ w⟩)
    · exact .inr (.inr ⟨es, ha.perform h h' (.sleep d), fun d hd => absurd hd (hes d)⟩)
  between hr := by
    obtain ⟨-, -, ht | ⟨es, ha, hes⟩⟩ := hr
    · exact .inl ht
    · exact .inr (.inr ⟨es, ha, fun d hd => absurd hd (hes d)⟩)
  during hb hw := by
    rcases hb with ht | hs | ⟨es, ha, -⟩
    · exact ⟨ht.isRunning.2, by rw [ht.same]; rfl, by rw [ht.same]; rfl, .inl ht⟩
    · rw [hs.same] at hw
      exact absurd (hw.symm.trans hs.isRunning) (by simp)
    · exact absurd (hw.symm.trans ha.isRunning) (by simp)
  noteBetween {w v n} hn hb := by
    rcases hb with ht | hs | ⟨es, ha, hes⟩
    · exact .inl (ht.note hn)
    · exact .inr (.inl (hs.note n))
    · refine .inr (.inr ⟨es, ha.note_both hn, fun d hd => ?_⟩)
      rw [effects_note]
      exact hes d hd
  ahead {w v v'} hb hw hv hsteps := by
    rcases hb with ht | hs | ⟨es, ha, hes⟩
    · exact absurd (hw.symm.trans ht.isRunning.1) (by simp)
    · exact absurd (hv.symm.trans hs.isRunning) (by simp)
    · have ha' := ha.mono hsteps.effects_prefix
      refine ⟨.inr (.inr ⟨es, ha', hes⟩), fun n hn => .inr (.inr ⟨es, ha'.note hn, fun d hd => ?_⟩)⟩
      rw [effects_note]
      exact hes d hd
  limit := Nat.le_refl _
  exhaust {w v v'} hr hw _ hsame := by
    obtain ⟨-, -, ht | ⟨es, ha, -⟩⟩ := hr
    · rw [hsame rfl]
      exact .inr (.inl ⟨by rw [ht.same]; rfl, rfl, ht.unstopped⟩)
    · exact absurd (hw.symm.trans ha.isRunning) (by simp)

end World
end SpriteBlocks
