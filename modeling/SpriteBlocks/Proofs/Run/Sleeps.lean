import Mathlib.Data.List.Induction
import SpriteBlocks.Proofs.Run.Acts

/-!
# Sleeps of a run

A step of the machine sleeps at most once, and when it does this is the last
that it does. So every sleep in the journal of a run is one to which the machine
comes, in a world whose journal is what stands before the sleep.
-/
namespace SpriteBlocks

def Entry.sleep? (entry : Entry) : Option Duration := entry.effect?.bind Effect.sleep?

/-- Entries that are no sleeps do not matter for how far the journal goes through a sleep. -/
theorem Entry.prefix_through_sleep {es fs rest : List Entry} {d : Duration}
    (hrest : ∀ x ∈ rest, x.sleep? = none) (hpre : es ++ [.effect (.sleep d)] <+: fs ++ rest) :
    es ++ [.effect (.sleep d)] <+: fs := by
  induction rest using List.reverseRecOn with
  | nil => rwa [List.append_nil] at hpre
  | append_singleton rest x ih =>
    obtain ⟨hrest, hx⟩ := List.forall_mem_append.1 hrest
    rw [← List.append_assoc, List.prefix_concat_iff] at hpre
    rcases hpre with heq | hpre
    · have hlast := congrArg List.getLast? heq
      rw [List.getLast?_concat, List.getLast?_concat, Option.some_inj] at hlast
      rw [← hlast, List.forall_mem_singleton] at hx
      cases hx
    · exact ih hrest hpre

namespace World
variable {σ : Type} {w v : World σ}

def Awake (w v : World σ) : Prop :=
  ∃ es, v.journal.toList = w.journal.toList ++ es ∧ ∀ x ∈ es, x.sleep? = none

namespace Awake

theorem refl (w : World σ) : w.Awake w := ⟨[], by simp, by simp⟩

theorem of_journal_eq (h : w.Awake v) {v' : World σ} (hjournal : v'.journal = v.journal) :
    w.Awake v' := by
  rwa [Awake, hjournal]

theorem trans {u : World σ} (h : w.Awake u) (h' : u.Awake v) : w.Awake v := by
  obtain ⟨es, hes, hquiet⟩ := h
  obtain ⟨fs, hfs, hquiet'⟩ := h'
  exact ⟨es ++ fs, by rw [hfs, hes, List.append_assoc], List.forall_mem_append.2 ⟨hquiet, hquiet'⟩⟩

theorem note (h : w.Awake v) (n : Note) : w.Awake (v.note n) := by
  unfold World.note
  split
  · exact h
  · exact h.trans ⟨[.note n], by simp, List.forall_mem_singleton.2 rfl⟩

theorem pressStop (h : w.Awake v) : w.Awake v.pressStop := by
  unfold World.pressStop
  split
  · next flag _ =>
    have hflag : w.Awake { v with flag } := h.of_journal_eq rfl
    exact hflag.note _
  · exact h

end Awake

/-- Behind an effect the journal has at most a stop request. -/
theorem exists_journal_perform (host : Host σ) (e : Effect) (w : World σ) :
    ∃ rest, (w.perform host e).journal.toList = (w.journal.toList ++ [.effect e]) ++ rest ∧
      ∀ x ∈ rest, x.sleep? = none := by
  unfold perform
  dsimp only
  split
  · obtain ⟨rest, hrest, hquiet⟩ := (Awake.refl { w with
      host := (host.respond w.host w.flag e).1, journal := w.journal.push (.effect e) }).pressStop
    exact ⟨rest, by rw [hrest, Array.toList_push], hquiet⟩
  · exact ⟨[], by simp, by simp⟩

namespace Awake

theorem perform (h : w.Awake v) (host : Host σ) {e : Effect} (he : e.sleep? = none) :
    w.Awake (v.perform host e) := by
  obtain ⟨rest, hrest, hquiet⟩ := exists_journal_perform host e v
  exact h.trans ⟨.effect e :: rest, by rw [hrest, List.append_assoc]; rfl,
    List.forall_mem_cons.2 ⟨he, hquiet⟩⟩

theorem drawn (h : w.Awake v) (host : Host σ) (n : Nat) : w.Awake (v.drawn host n) :=
  drawn_keeps host
    (fun u hu => perform (v := { u with source := u.source.advance }) hu host rfl) n h

theorem sleep_before (h : w.Awake v) {es : List Entry} {d : Duration}
    (hpre : es ++ [.effect (.sleep d)] <+: v.journal.toList) :
    es ++ [.effect (.sleep d)] <+: w.journal.toList := by
  obtain ⟨fs, hfs, hquiet⟩ := h
  rw [hfs] at hpre
  exact Entry.prefix_through_sleep hquiet hpre

theorem not_size_le (h : w.Awake v) {es : List Entry} {d : Duration}
    (hpre : es ++ [.effect (.sleep d)] <+: v.journal.toList) : ¬ w.journal.size ≤ es.length := by
  have hlength := (h.sleep_before hpre).length_le
  rw [List.length_append, List.length_singleton] at hlength
  exact Nat.not_le.2 hlength

end Awake

/-- The sleeps of a world behind a sleep are this one and those of the world before. -/
theorem sleep_cases (host : Host σ) {es : List Entry} {d d' : Duration}
    (hpre : es ++ [.effect (.sleep d)] <+: (w.sleep host d').journal.toList) :
    es = w.journal.toList ∧ d = d' ∨ es ++ [.effect (.sleep d)] <+: w.journal.toList := by
  obtain ⟨rest, hrest, hquiet⟩ := exists_journal_perform host (.sleep d') w
  rw [sleep, hrest] at hpre
  rcases List.prefix_concat_iff.1 (Entry.prefix_through_sleep hquiet hpre) with heq | hpre
  · obtain ⟨hes, hlast⟩ := List.append_inj' heq rfl
    cases hlast
    exact .inl ⟨hes, rfl⟩
  · exact .inr hpre

end World

namespace Interpreter
variable {σ : Type} {m : Interpreter σ} {ws : Workspace} {w u v : World σ} {d : Duration}

/-- No sleep happened, or one at the very end. -/
def Naps (m : Interpreter σ) (w v : World σ) : Prop :=
  w.Awake v ∨ ∃ u d, w.Awake u ∧ v = u.sleep m.host d

theorem Does.awake {b : Block} (h : m.Does b w v) : w.Awake v := by
  cases h with
  | frame sprite transition event hkind =>
    have hsprite : w.Awake { w.drawn m.host b.draws with sprite } := .drawn (.refl w) _ _
    exact (hsprite.perform m.host rfl).perform m.host rfl
  | speech speech event => exact ((World.Awake.refl w).perform m.host rfl).perform m.host rfl
  | line event => exact (World.Awake.refl w).perform m.host rfl
  | ask met event hif => exact (((World.Awake.refl w).drawn m.host _).note _).perform m.host rfl

theorem naps_enter (m : Interpreter σ) (b : Block) (w : World σ) : m.Naps w (m.enter b w).2 := by
  obtain ⟨v, hdoes, hv⟩ := m.enter_cases b w
  have hawake : w.Awake v := .trans (.note (.refl w) _) hdoes.awake
  rcases hv with hv | ⟨d, hv⟩
  · exact .inl (hv ▸ hawake)
  · exact .inr ⟨v, d, hawake, hv⟩

theorem Quiet.awake (h : m.Quiet w v) : w.Awake v :=
  h.keeps (P := w.Awake) (.refl w) (fun _ _ hv => hv.perform m.host rfl) (fun _ n _ hv => hv.note n)
    (fun _ _ hv => hv.of_journal_eq rfl) fun _ hv => hv.of_journal_eq rfl

theorem Naps.of_awake (h : w.Awake u) (hnaps : m.Naps u v) : m.Naps w v := by
  rcases hnaps with hv | ⟨u', d, hu', rfl⟩
  · exact .inl (h.trans hv)
  · exact .inr ⟨u', d, h.trans hu', rfl⟩

theorem naps_step (m : Interpreter σ) (ws : Workspace) (begun : List Block) (w : World σ)
    (task : Task) : m.Naps w (m.step ws begun w task).world := by
  rcases m.step_inversion ws begun w task with ⟨-, hworld⟩ | ⟨b, -, v, rest, hv, -, hconfig⟩
  · cases hworld.idles with
    | quiet hquiet => exact .inl hquiet.awake
    | pause d hpause => exact .inr ⟨w, d, .refl w, hpause⟩
  · rw [hconfig]
    exact .of_awake hv.quiet.awake (m.naps_enter b v)

/-- A run comes to a sleep of this length in this world. -/
def SleepsIn (m : Interpreter σ) (ws : Workspace) (w u : World σ) (d : Duration) : Prop :=
  ∃ c, m.Passes ws w c ∧ c.world = u.sleep m.host d

theorem Passes.exists_sleepsIn {c : Config σ} (h : m.Passes ws w c) : ∀ es d,
    es ++ [.effect (.sleep d)] <+: c.world.journal.toList → w.journal.size ≤ es.length →
      ∃ u, m.SleepsIn ws w u d ∧ u.journal.toList = es := by
  refine h.induction (P := fun c => ∀ es d,
    es ++ [.effect (.sleep d)] <+: c.world.journal.toList → w.journal.size ≤ es.length →
      ∃ u, m.SleepsIn ws w u d ∧ u.journal.toList = es) ?_ ?_
  · intro es d hpre hlength
    exact absurd hlength (((m.quiet_opened ws w).awake.not_size_le hpre))
  · intro task rest begun v hpasses ih es d hpre hlength
    rcases m.naps_step ws begun v task with hawake | ⟨u, d', hu, hworld⟩
    · exact ih es d (hawake.sleep_before hpre) hlength
    · -- The step slept last of all, so no sleep but its own is new.
      have hstep := hpasses.step
      rw [hworld] at hpre
      rcases World.sleep_cases m.host hpre with ⟨rfl, rfl⟩ | hpre
      · exact ⟨u, ⟨_, hstep, hworld⟩, rfl⟩
      · exact ih es d (hu.sleep_before hpre) hlength

/-- Every sleep of a run is one to which it came, in a world that has what stands before it. -/
theorem exists_sleepsIn_run (m : Interpreter σ) (ws : Workspace) (w : World σ) (i : Nat)
    (d : Duration) (hi : w.journal.size ≤ i)
    (hsleep : (m.run ws w).1.journal.toList[i]? = some (.effect (.sleep d))) :
    ∃ u, m.SleepsIn ws w u d ∧ u.journal.toList = (m.run ws w).1.journal.toList.take i := by
  obtain ⟨hlength, hsleep⟩ := List.getElem?_eq_some_iff.1 hsleep
  have hpre : (m.run ws w).1.journal.toList.take i ++ [.effect (.sleep d)] <+:
      (m.run ws w).1.journal.toList := by
    rw [← hsleep, List.take_append_getElem hlength]
    exact List.take_prefix _ _
  have hbehind : w.journal.size ≤ ((m.run ws w).1.journal.toList.take i).length := by
    rw [List.length_take]
    omega
  by_cases hflag : w.flag = .idle
  · obtain ⟨begun, hpasses⟩ := exists_passes m ws hflag
    refine hpasses.exists_sleepsIn _ d ?_ hbehind
    have hrun : (m.runProgram ws w).Awake (m.run ws w).1 := by
      rw [run_of_idle hflag]
      split
      · exact .refl _
      · exact (m.quiet_finish _).awake
    exact hrun.sleep_before hpre
  · have hrefused : w.Awake (m.run ws w).1 := by
      rw [run_of_not_idle hflag]
      exact .note (.refl w) _
    exact absurd hbehind (hrefused.not_size_le hpre)

end Interpreter
end SpriteBlocks
