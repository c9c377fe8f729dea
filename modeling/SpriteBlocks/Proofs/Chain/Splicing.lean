import SpriteBlocks.Proofs.Chain.History

/-!
# Chains of an edited registry

A chain is the one walk along successors from its start that ends at a block
without successor. So an edit of the edges acts on chains: a connection lets the
chains through its source go on with the chain of its target and cuts the other
chains into the target in front of it, dropping an edge cuts the chains behind
its source, and detaching a block cuts them in front of the block.
-/
namespace SpriteBlocks.Registry
open Relation

/-- A walk has nothing behind a place where there is no way on. -/
theorem eq_nil_of_ended {α : Type} {next : α → Option α} {l rest : List α}
    (hhead : l.head? = (l ++ rest).head?) (hl : (l ++ rest).IsChain fun a b => next a = some b)
    (hend : ∀ x ∈ l.getLast?, next x = none) : rest = [] := by
  cases rest with
  | nil => rfl
  | cons y rest =>
    cases hlast : l.getLast? with
    | none =>
      rw [List.getLast?_eq_none_iff.1 hlast] at hhead
      cases hhead
    | some x =>
      have hnext := (List.isChain_append.1 hl).2.2 x hlast y rfl
      rw [hend x hlast] at hnext
      cases hnext

/-- Two walks from one place that both end where there is no way on are the same. -/
theorem eq_of_isChain {α : Type} {next : α → Option α} {l l' : List α}
    (hhead : l.head? = l'.head?) (hl : l.IsChain fun a b => next a = some b)
    (hl' : l'.IsChain fun a b => next a = some b) (hend : ∀ x ∈ l.getLast?, next x = none)
    (hend' : ∀ x ∈ l'.getLast?, next x = none) : l = l' := by
  rcases prefix_or_prefix hhead hl hl' with ⟨rest, rfl⟩ | ⟨rest, rfl⟩
  · rw [eq_nil_of_ended hhead hl' hend, List.append_nil]
  · rw [eq_nil_of_ended hhead.symm hl hend', List.append_nil]

theorem reaches_of_split {r : Registry} {start x : BlockId} {before rest : List BlockId}
    (hchain : r.chainFrom start = before ++ x :: rest) {a : BlockId} (ha : a ∈ before) :
    TransGen r.Leads a x := by
  have hpair := ((r.chainFrom_isChain start).imp fun _ _ hab =>
    TransGen.single (r := r.Leads) hab).pairwise
  rw [hchain, List.pairwise_append] at hpair
  exact hpair.2.2 a ha x List.mem_cons_self

theorem walk_of_split {r : Registry} {start : BlockId} {before rest : List BlockId}
    (hchain : r.chainFrom start = before ++ rest) (hne : before ≠ []) :
    before.head? = some start ∧ before.IsChain fun a b => r.successor a = some b := by
  have hhead := r.head_chainFrom start
  have hlinked := r.chainFrom_isChain start
  rw [hchain] at hhead hlinked
  rw [List.head?_append_of_ne_nil before hne] at hhead
  exact ⟨hhead, hlinked.left_of_append⟩

theorem leads_of_split {r : Registry} {start x : BlockId} {before rest : List BlockId}
    (hchain : r.chainFrom start = before ++ x :: rest) : ∀ a ∈ before.getLast?, r.Leads a x := by
  have hlinked := r.chainFrom_isChain start
  rw [hchain, List.isChain_append] at hlinked
  exact fun a ha => hlinked.2.2 a ha x rfl

namespace Sound
variable {r r' : Registry} {start : BlockId} {l : List BlockId}

theorem chainFrom_eq (h : r.Sound) (hhead : l.head? = some start)
    (hlinked : l.IsChain fun a b => r.successor a = some b)
    (hended : ∀ x ∈ l.getLast?, r.successor x = none) : r.chainFrom start = l :=
  eq_of_isChain ((r.head_chainFrom start).trans hhead.symm) (r.chainFrom_isChain start) hlinked
    (h.successor_getLast start) hended

/-- A walk whose edges are kept is a chain of the edited registry as soon as it ends there. -/
theorem chainFrom_of_kept (h' : r'.Sound) (hhead : l.head? = some start)
    (hlinked : l.IsChain fun a b => r.successor a = some b)
    (hkept : ∀ a ∈ l, ∀ b ∈ l, r.Leads a b → r'.Leads a b)
    (hended : ∀ x ∈ l.getLast?, r'.successor x = none) : r'.chainFrom start = l :=
  h'.chainFrom_eq hhead (hlinked.imp_of_mem_imp fun a b ha hb hab => hkept a ha b hb hab) hended

/-- A chain stays the same if its edges are kept and its last block gets no successor. -/
theorem chainFrom_same (h' : r'.Sound)
    (hkept : ∀ a ∈ r.chainFrom start, ∀ b ∈ r.chainFrom start, r.Leads a b → r'.Leads a b)
    (hended : ∀ x ∈ (r.chainFrom start).getLast?, r'.successor x = none) :
    r'.chainFrom start = r.chainFrom start :=
  h'.chainFrom_of_kept (r.head_chainFrom start) (r.chainFrom_isChain start) hkept hended

theorem chainFrom_cons (h : r.Sound) {a b : BlockId} (hab : r.Leads a b) :
    r.chainFrom a = a :: r.chainFrom b := by
  refine h.chainFrom_eq rfl (List.isChain_cons.2 ⟨fun y hy => ?_, r.chainFrom_isChain b⟩) ?_
  · rw [r.head_chainFrom b, Option.mem_some_iff] at hy
    exact hy ▸ hab
  · intro x hx
    rw [List.getLast?_cons_of_ne_nil (r.chainFrom_ne_nil b)] at hx
    exact h.successor_getLast b x hx

end Sound

/-- What a connection of two blocks makes of the chain from a third. -/
structure Spliced (r r' : Registry) (source target start : BlockId) : Prop where
  /-- Behind the source stands the chain that the target had. -/
  joined : ∀ before rest, r.chainFrom start = before ++ source :: rest →
    r'.chainFrom start = before ++ source :: r.chainFrom target
  /-- A chain that comes to the target on another way ends in front of it. -/
  cut : source ∉ r.chainFrom start → ∀ before rest, before ≠ [] →
    r.chainFrom start = before ++ target :: rest → r'.chainFrom start = before
  untouched : source ∉ r.chainFrom start → target ∉ (r.chainFrom start).tail →
    r'.chainFrom start = r.chainFrom start

/-- What dropping the edge out of a block makes of the chain from another. -/
structure Severed (r r' : Registry) (block start : BlockId) : Prop where
  cut : ∀ before rest, r.chainFrom start = before ++ block :: rest →
    r'.chainFrom start = before ++ [block]
  untouched : block ∉ r.chainFrom start → r'.chainFrom start = r.chainFrom start

/-- What detaching a block makes of the chains. -/
structure Isolated (r r' : Registry) (block : BlockId) : Prop where
  alone : r'.chainFrom block = [block]
  cut : ∀ start ≠ block, ∀ before rest, r.chainFrom start = before ++ block :: rest →
    r'.chainFrom start = before
  untouched : ∀ start, block ∉ r.chainFrom start → r'.chainFrom start = r.chainFrom start
  /-- The block that followed starts a chain of its own, with everything behind it. -/
  follower : ∀ next, r.successor block = some next →
    r'.predecessor next = none ∧ r'.chainFrom next = r.chainFrom next ∧
      r.chainFrom block = block :: r'.chainFrom next

namespace Sound
variable {r : Registry} (h : r.Sound)
include h

theorem ne_of_split {start x : BlockId} {before rest : List BlockId}
    (hchain : r.chainFrom start = before ++ x :: rest) : ∀ a ∈ before, a ≠ x := by
  rintro a ha rfl
  exact h.acyclic a (reaches_of_split hchain ha)

theorem not_leads_of_split {start x : BlockId} {before rest : List BlockId}
    (hchain : r.chainFrom start = before ++ x :: rest) : ∀ b ∈ before ++ [x], ¬ r.Leads x b := by
  intro b hb hxb
  rcases List.mem_append.1 hb with hb | hb
  · exact h.acyclic x (.head hxb (reaches_of_split hchain hb))
  · exact h.irrefl x (List.mem_singleton.1 hb ▸ hxb)

section Connect
variable {source target : BlockId} {previous : Option BlockId}
  (hok : (r.connect source target).2 = .ok previous)
include hok

theorem leads_connect_of_ne {a b : BlockId} (hab : r.Leads a b) (hsource : a ≠ source)
    (htarget : b ≠ target) : (r.connect source target).1.Leads a b := by
  have hother : ¬ r.successor a = some target := fun heq =>
    htarget (Option.some.inj (hab.symm.trans heq))
  rw [Leads, h.successor_connect hok, if_neg hsource, if_neg hother]
  exact hab

/-- The chain of the target has neither end of the new edge behind its start. -/
theorem chainFrom_connect_target :
    (r.connect source target).1.chainFrom target = r.chainFrom target := by
  have hout : source ∉ r.chainFrom target := fun hmem =>
    r.not_reaches_of_connect hok (mem_chainFrom_iff.1 hmem)
  refine (h.connect source target).chainFrom_same (fun a ha b _ hab => ?_) fun x hx => ?_
  · refine h.leads_connect_of_ne hok hab (fun heq => hout (heq ▸ ha)) ?_
    rintro rfl
    exact h.acyclic b (.tail' (mem_chainFrom_iff.1 ha) hab)
  · have hx' : x ≠ source := fun heq => hout (heq ▸ List.mem_of_getLast? hx)
    rw [h.successor_connect hok, if_neg hx', h.successor_getLast target x hx]
    rfl

theorem spliced (start : BlockId) : r.Spliced (r.connect source target).1 source target start := by
  have h' := h.connect source target
  refine ⟨fun before rest hchain => ?_, fun hout before rest hne hchain => ?_, fun hout htail => ?_⟩
  · -- No way leads from the target to the source, so the target does not stand in front.
    have htarget : ∀ b ∈ before ++ [source], b ≠ target := by
      rintro b hb rfl
      refine r.not_reaches_of_connect hok ?_
      rcases List.mem_append.1 hb with hb | hb
      · exact (reaches_of_split hchain hb).to_reflTransGen
      · exact List.mem_singleton.1 hb ▸ .refl
    have hlinked := r.chainFrom_isChain start
    rw [hchain, List.isChain_split] at hlinked
    have hfirst : (before ++ [source]).IsChain
        fun a b => (r.connect source target).1.successor a = some b := by
      refine hlinked.1.imp_of_mem_imp fun a b ha hb hab => ?_
      refine h.leads_connect_of_ne hok hab (fun heq => ?_) (htarget b hb)
      exact h.not_leads_of_split hchain b hb (heq ▸ hab)
    have hedge : (r.connect source target).1.Leads source target := by
      rw [Leads, h.successor_connect hok, if_pos rfl]
    have hsecond := (r.connect source target).1.chainFrom_isChain source
    have hlast := h'.successor_getLast source
    rw [h'.chainFrom_cons hedge, h.chainFrom_connect_target hok] at hsecond hlast
    refine h'.chainFrom_eq ?_ (List.isChain_split.2 ⟨hfirst, hsecond⟩) ?_
    · have hhead := r.head_chainFrom start
      rw [hchain] at hhead
      cases before with
      | nil => exact hhead
      | cons b before => exact hhead
    · rw [List.getLast?_append_of_ne_nil before (List.cons_ne_nil _ _)]
      exact hlast
  · have hin : ∀ a ∈ before, a ≠ source := by
      rintro a ha rfl
      exact hout (hchain ▸ List.mem_append_left _ ha)
    obtain ⟨hhead, hlinked⟩ := walk_of_split hchain hne
    refine h'.chainFrom_of_kept hhead hlinked (fun a ha b hb hab => ?_) fun x hx => ?_
    · exact h.leads_connect_of_ne hok hab (hin a ha) (h.ne_of_split hchain b hb)
    · have hedge : r.successor x = some target := leads_of_split hchain x hx
      rw [h.successor_connect hok, if_neg (hin x (List.mem_of_getLast? hx)), if_pos hedge]
  · refine h'.chainFrom_same (fun a ha b hb hab => ?_) fun x hx => ?_
    · refine h.leads_connect_of_ne hok hab (fun heq => hout (heq ▸ ha)) ?_
      rintro rfl
      rcases List.mem_cons.1 hb with rfl | hb
      · exact h.acyclic b (.tail' (mem_chainFrom_iff.1 ha) hab)
      · exact htail hb
    · have hx' : x ≠ source := fun heq => hout (heq ▸ List.mem_of_getLast? hx)
      rw [h.successor_connect hok, if_neg hx', h.successor_getLast start x hx]
      rfl

end Connect

theorem severed (block start : BlockId) : r.Severed (r.disconnect block).1 block start := by
  have h' := h.disconnect block
  have hkept {a b : BlockId} (hab : r.Leads a b) (hne : a ≠ block) :
      (r.disconnect block).1.Leads a b := by
    rw [Leads, successor_disconnect, if_neg hne]
    exact hab
  refine ⟨fun before rest hchain => ?_, fun hout => ?_⟩
  · rw [List.append_cons] at hchain
    obtain ⟨hhead, hlinked⟩ := walk_of_split hchain (by simp)
    rw [← List.append_cons] at hchain
    refine h'.chainFrom_of_kept hhead hlinked (fun a ha b hb hab => hkept hab ?_) fun x hx => ?_
    · rintro rfl
      exact h.not_leads_of_split hchain b hb hab
    · rw [List.getLast?_concat, Option.mem_some_iff] at hx
      rw [successor_disconnect, if_pos hx.symm]
  · refine h'.chainFrom_same (fun a ha b _ hab => hkept hab fun heq => hout (heq ▸ ha))
      fun x hx => ?_
    rw [successor_disconnect, h.successor_getLast start x hx, ite_self]

theorem isolated (block : BlockId) : r.Isolated (r.detach block) block := by
  have h' := h.detach block
  have hkept {a b : BlockId} (hab : r.Leads a b) (ha : a ≠ block) (hb : b ≠ block) :
      (r.detach block).Leads a b := by
    have hother : ¬ (a = block ∨ r.successor a = some block) := by
      rintro (heq | heq)
      · exact ha heq
      · exact hb (Option.some.inj (hab.symm.trans heq))
    rw [Leads, h.successor_detach, if_neg hother]
    exact hab
  have huntouched (start : BlockId) (hout : block ∉ r.chainFrom start) :
      (r.detach block).chainFrom start = r.chainFrom start := by
    refine h'.chainFrom_same (fun a ha b hb hab => ?_) fun x hx => ?_
    · exact hkept hab (fun heq => hout (heq ▸ ha)) fun heq => hout (heq ▸ hb)
    · rw [h.successor_detach, h.successor_getLast start x hx, ite_self]
  refine ⟨?_, fun start hstart before rest hchain => ?_, huntouched, fun next hnext => ?_⟩
  · refine h'.chainFrom_eq rfl (List.isChain_singleton block) fun x hx => ?_
    obtain rfl := List.mem_singleton.1 (List.mem_of_getLast? hx)
    rw [h.successor_detach, if_pos (.inl rfl)]
  · have hne : before ≠ [] := by
      rintro rfl
      have hhead := r.head_chainFrom start
      rw [hchain] at hhead
      exact hstart (Option.some.inj hhead).symm
    obtain ⟨hhead, hlinked⟩ := walk_of_split hchain hne
    refine h'.chainFrom_of_kept hhead hlinked (fun a ha b hb hab => ?_) fun x hx => ?_
    · exact hkept hab (h.ne_of_split hchain a ha) (h.ne_of_split hchain b hb)
    · have hedge : r.successor x = some block := leads_of_split hchain x hx
      rw [h.successor_detach, if_pos (.inr hedge)]
  · have hout : block ∉ r.chainFrom next := fun hmem =>
      h.acyclic block (.head' hnext (mem_chainFrom_iff.1 hmem))
    have hpred : r.predecessor next = some block := (h.paired block next).1 hnext
    refine ⟨?_, huntouched next hout, ?_⟩
    · rw [h.predecessor_detach, if_pos (.inr hpred)]
    · rw [huntouched next hout]
      exact h.chainFrom_cons hnext

end Sound

/-- After every history of calls, an accepted connection, dropping an edge and
detaching a block change the chain from every block by exact surgery. -/
theorem chainFrom_of_history (tolerance : Float) (cs : List Change) :
    let r := Change.applyAll (empty tolerance) cs
    (∀ source target previous, (r.connect source target).2 = .ok previous →
      ∀ start, r.Spliced (r.connect source target).1 source target start) ∧
    (∀ block start, r.Severed (r.disconnect block).1 block start) ∧
    ∀ block, r.Isolated (r.detach block) block := by
  intro r
  have h : r.Sound := (sound_empty tolerance).changes cs
  exact ⟨fun _ _ _ hok start => h.spliced hok start, h.severed, h.isolated⟩

/-- Two chains whose middles are connected: one goes on with the end of the
other, which keeps its beginning, and the end that was cut off stands alone. -/
theorem chainFrom_of_history_crossed :
    let r := Change.applyAll (empty 20.0) [.connect ⟨1⟩ ⟨2⟩, .connect ⟨2⟩ ⟨3⟩, .connect ⟨4⟩ ⟨5⟩,
      .connect ⟨5⟩ ⟨6⟩]
    (r.connect ⟨2⟩ ⟨5⟩).2 = .ok (some ⟨3⟩) ∧
      (r.connect ⟨2⟩ ⟨5⟩).1.chainFrom ⟨1⟩ = [⟨1⟩, ⟨2⟩, ⟨5⟩, ⟨6⟩] ∧
      (r.connect ⟨2⟩ ⟨5⟩).1.chainFrom ⟨4⟩ = [⟨4⟩] ∧
      (r.connect ⟨2⟩ ⟨5⟩).1.chainFrom ⟨3⟩ = [⟨3⟩] ∧
      (r.disconnect ⟨2⟩).1.chainFrom ⟨1⟩ = [⟨1⟩, ⟨2⟩] ∧
      (r.detach ⟨2⟩).chainFrom ⟨1⟩ = [⟨1⟩] ∧ (r.detach ⟨2⟩).predecessor ⟨3⟩ = none := by
  intro r
  obtain ⟨hconnect, hdisconnect, hdetach⟩ := chainFrom_of_history 20.0
    [.connect ⟨1⟩ ⟨2⟩, .connect ⟨2⟩ ⟨3⟩, .connect ⟨4⟩ ⟨5⟩, .connect ⟨5⟩ ⟨6⟩]
  have hok : (r.connect ⟨2⟩ ⟨5⟩).2 = .ok (some ⟨3⟩) := by decide
  have hchain : r.chainFrom ⟨1⟩ = [⟨1⟩] ++ ⟨2⟩ :: [⟨3⟩] := by decide
  have hspliced := hconnect _ _ _ hok
  exact ⟨hok, (hspliced ⟨1⟩).joined [⟨1⟩] [⟨3⟩] hchain,
    (hspliced ⟨4⟩).cut (by decide) [⟨4⟩] [⟨6⟩] (by decide) (by decide),
    (hspliced ⟨3⟩).untouched (by decide) (by decide),
    (hdisconnect ⟨2⟩ ⟨1⟩).cut [⟨1⟩] [⟨3⟩] hchain,
    (hdetach ⟨2⟩).cut ⟨1⟩ (by decide) [⟨1⟩] [⟨3⟩] hchain,
    ((hdetach ⟨2⟩).follower ⟨3⟩ (by decide)).1⟩

end SpriteBlocks.Registry
