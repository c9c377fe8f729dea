import SpriteBlocks.Proofs.Script.Faithful

/-!
# The order of connections

The loader makes the connections of a file one after the other and refuses one
that would close a cycle. If no label is twice the source or twice the target of
a connection, no connection takes the place of another. Then the order does not
matter: something is refused exactly if all connections together have a cycle,
for the last one of a cycle is refused in any order.
-/
namespace SpriteBlocks
open Relation

namespace Registry
variable {r : Registry} {source target : BlockId}

/-- A connection is refused because its target comes before its source or is its source. -/
theorem reaches_of_connect {e : ConnectError} (h : (r.connect source target).2 = .error e) :
    (e = .selfConnection source ∨ e = .wouldCycle source target) ∧
      ReflTransGen r.Leads target source := by
  unfold connect at h
  split at h
  · next heq =>
    cases h
    exact ⟨.inl rfl, heq ▸ .refl⟩
  · split at h
    · next hmem =>
      cases h
      exact ⟨.inr rfl, mem_chainFrom_iff.1 hmem⟩
    · cases h

/-- A connection between ends that are free adds its edge and drops none. -/
theorem Sound.leads_connect (h : r.Sound) {previous : Option BlockId}
    (hok : (r.connect source target).2 = .ok previous) (hsource : ∀ b, ¬ r.Leads source b)
    (htarget : ∀ a, ¬ r.Leads a target) (a b : BlockId) :
    (r.connect source target).1.Leads a b ↔ r.Leads a b ∨ a = source ∧ b = target := by
  rw [Leads, h.successor_connect hok]
  by_cases ha : a = source
  · subst ha
    simp [hsource b, eq_comm]
  · have hnone : r.successor a ≠ some target := htarget a
    simp [ha, hnone, Leads]

end Registry

theorem Workspace.exists_topLevel {ws : Workspace} {id : BlockId} (h : id ∈ ws.topIds) :
    ∃ b, ws.topLevel id = .ok b := by
  obtain ⟨b, hb, hid⟩ := List.mem_map.1 h
  have hsome : (ws.blocks.find? fun x => x.id = id).isSome = true :=
    List.find?_isSome.2 ⟨b, hb, decide_eq_true hid⟩
  obtain ⟨x, hx⟩ := Option.isSome_iff_exists.1 hsome
  exact ⟨x, by rw [topLevel, hx]⟩

namespace Script
open Toml BlockEntry

/-- The problem is that a connection would lead back to its source. -/
def Problem.isLoop : Problem → Bool
  | cycle .. => true
  | selfConnection _ => true
  | _ => false

def blockOf (labels : SortedMap String (Located BlockId)) (name : String) : Option BlockId :=
  (labels.get? name).map Located.value

def describe (ws : Workspace) (labels : SortedMap String (Located BlockId)) (name : String) :
    String :=
  ((blockOf labels name).map ws.describe).getD ""

theorem describe_congr {ws ws' : Workspace} (h : ws'.blocks = ws.blocks) :
    ws'.describe = ws.describe := by
  funext id
  rw [Workspace.describe, Workspace.get?, h]
  rfl

namespace ConnectionEntry

def ends (labels : SortedMap String (Located BlockId)) (c : ConnectionEntry) :
    Option (BlockId × BlockId) :=
  (blockOf labels c.source.value).bind fun i => (blockOf labels c.target.value).map fun j => (i, j)

def announcement (ws : Workspace) (labels : SortedMap String (Located BlockId))
    (c : ConnectionEntry) : LogEvent :=
  ⟨.connection, "connected: " ++ describe ws labels c.source.value ++ " -> " ++
    describe ws labels c.target.value⟩

theorem announcement_congr {ws ws' : Workspace}
    {labels labels' : SortedMap String (Located BlockId)} (hblocks : ws'.blocks = ws.blocks)
    (hlabels : labels' = labels) :
    announcement ws' labels' = announcement ws labels := by
  funext c
  simp only [announcement, describe, describe_congr hblocks, hlabels]

theorem ends_eq_some_iff {labels : SortedMap String (Located BlockId)} {c : ConnectionEntry}
    {i j : BlockId} : c.ends labels = some (i, j) ↔
      blockOf labels c.source.value = some i ∧ blockOf labels c.target.value = some j := by
  simp [ends, Option.bind_eq_some_iff]

theorem announcement_of_ends {ws : Workspace} {labels : SortedMap String (Located BlockId)}
    {c : ConnectionEntry} {i j : BlockId} (h : c.ends labels = some (i, j)) :
    c.announcement ws labels =
      ⟨.connection, "connected: " ++ ws.describe i ++ " -> " ++ ws.describe j⟩ := by
  obtain ⟨hsource, htarget⟩ := ends_eq_some_iff.1 h
  rw [announcement, describe, describe, hsource, htarget]
  rfl

end ConnectionEntry

/-- Some connection leads from the one label to the other. -/
def Joins (cs : List ConnectionEntry) (x y : String) : Prop :=
  ∃ c ∈ cs, c.source.value = x ∧ c.target.value = y

def Cyclic (cs : List ConnectionEntry) : Prop := ∃ x, TransGen (Joins cs) x x

namespace Assembly
variable {a : Assembly} {c : ConnectionEntry} {i j : BlockId}

theorem addConnection_of_ends (h : c.ends a.labels = some (i, j)) :
    a.addConnection c = a.joinBlocks c i j := by
  obtain ⟨hi, hj⟩ := ConnectionEntry.ends_eq_some_iff.1 h
  obtain ⟨x, hx, rfl⟩ := Option.map_eq_some_iff.1 hi
  obtain ⟨y, hy, rfl⟩ := Option.map_eq_some_iff.1 hj
  simp only [addConnection, resolve, hx, hy]

section Join
variable (hi : i ∈ a.workspace.topIds) (hj : j ∈ a.workspace.topIds)
  (hgap : a.workspace.registry.canConnect c.gap = true)
include hi hj hgap

theorem joinBlocks_of_ok {previous : Option BlockId}
    (hok : (a.workspace.registry.connect i j).2 = .ok previous) :
    (a.joinBlocks c i j).workspace.registry = (a.workspace.registry.connect i j).1 ∧
      (a.joinBlocks c i j).workspace.events = a.workspace.events ++
        [⟨.connection, "connected: " ++ a.workspace.describe i ++ " -> " ++
          a.workspace.describe j⟩] ∧
      (a.joinBlocks c i j).errors = a.errors := by
  obtain ⟨x, hx⟩ := Workspace.exists_topLevel hi
  obtain ⟨y, hy⟩ := Workspace.exists_topLevel hj
  cases hconnect : a.workspace.registry.connect i j with | mk registry result =>
  obtain rfl : result = .ok previous := by rw [← hok, hconnect]
  simp only [joinBlocks, Workspace.connect, hx, hy, hgap, if_true, hconnect]
  split <;> exact ⟨rfl, rfl, rfl⟩

theorem joinBlocks_of_error {e : ConnectError}
    (herror : (a.workspace.registry.connect i j).2 = .error e) :
    (a.joinBlocks c i j).workspace = a.workspace ∧
      ∃ f : Finding, (a.joinBlocks c i j).errors = a.errors ++ [f] ∧ f.problem.isLoop = true := by
  obtain ⟨x, hx⟩ := Workspace.exists_topLevel hi
  obtain ⟨y, hy⟩ := Workspace.exists_topLevel hj
  have hsame := a.workspace.registry.connect_of_error herror
  cases hconnect : a.workspace.registry.connect i j with | mk registry result =>
  rw [hconnect] at hsame herror
  obtain rfl : result = .error e := herror
  obtain rfl : registry = a.workspace.registry := hsame
  have hkind := (Registry.reaches_of_connect (congrArg Prod.snd hconnect)).1
  simp only [joinBlocks, Workspace.connect, hx, hy, hgap, if_true, hconnect]
  refine ⟨rfl, _, rfl, ?_⟩
  rcases hkind with rfl | rfl <;> rfl

end Join
end Assembly

section Graph
variable {cs ds : List ConnectionEntry} {labels : SortedMap String (Located BlockId)}

theorem joins_mono (h : cs ⊆ ds) : Joins cs ≤ Joins ds := by
  rintro x y ⟨c, hc, hx, hy⟩
  exact ⟨c, h hc, hx, hy⟩

theorem Cyclic.mono (h : cs ⊆ ds) (hcyclic : Cyclic cs) : Cyclic ds := by
  obtain ⟨x, hx⟩ := hcyclic
  exact ⟨x, TransGen.mono (joins_mono h) x x hx⟩

/-- Where edges between blocks lead, the connections lead between the labels. -/
theorem joins_of_reaches {R : BlockId → BlockId → Prop}
    (hinjective : ∀ m n i, blockOf labels m = some i → blockOf labels n = some i → m = n)
    (hR : ∀ i j, R i j → ∃ c ∈ cs, c.ends labels = some (i, j)) {i j : BlockId}
    (h : ReflTransGen R i j) {m n : String} (hm : blockOf labels m = some i)
    (hn : blockOf labels n = some j) : ReflTransGen (Joins cs) m n := by
  induction h generalizing n with
  | refl => exact hinjective m n i hm hn ▸ .refl
  | tail _ hedge ih =>
    obtain ⟨c, hc, hends⟩ := hR _ _ hedge
    obtain ⟨hsource, htarget⟩ := ConnectionEntry.ends_eq_some_iff.1 hends
    exact (ih hsource).tail ⟨c, hc, rfl, hinjective _ _ _ htarget hn⟩

end Graph

/-- The blocks are assembled, and no two of the connections compete for an end. -/
structure Joinable (a : Assembly) (cs : List ConnectionEntry) : Prop where
  clean : a.errors = []
  quiet : a.workspace.events = []
  sound : a.workspace.registry.Sound
  free : ∀ i j, ¬ a.workspace.registry.Leads i j
  injective : ∀ m n i, blockOf a.labels m = some i → blockOf a.labels n = some i → m = n
  ends : ∀ c ∈ cs, ∃ i j, c.ends a.labels = some (i, j) ∧
    i ∈ a.workspace.topIds ∧ j ∈ a.workspace.topIds
  near : ∀ c ∈ cs, c.gap.within a.workspace.registry.tolerance = true
  sources : (cs.map fun c => c.source.value).Nodup
  targets : (cs.map fun c => c.target.value).Nodup

theorem Joinable.init {a : Assembly} {cs : List ConnectionEntry} {c : ConnectionEntry}
    (h : Joinable a (cs ++ [c])) : Joinable a cs where
  clean := h.clean
  quiet := h.quiet
  sound := h.sound
  free := h.free
  injective := h.injective
  ends d hd := h.ends d (List.mem_append_left _ hd)
  near d hd := h.near d (List.mem_append_left _ hd)
  sources := h.sources.sublist ((List.sublist_append_left cs [c]).map _)
  targets := h.targets.sublist ((List.sublist_append_left cs [c]).map _)

theorem Joinable.ends_nodup {a : Assembly} {cs : List ConnectionEntry} (h : Joinable a cs) :
    (cs.map (ConnectionEntry.ends a.labels)).Nodup := by
  refine List.Nodup.map_on (fun c hc d hd hsame => ?_) (.of_map _ h.sources)
  obtain ⟨i, j, hends, -⟩ := h.ends c hc
  have hsource := h.injective _ _ _ (ConnectionEntry.ends_eq_some_iff.1 hends).1
    (ConnectionEntry.ends_eq_some_iff.1 (hsame ▸ hends)).1
  exact List.inj_on_of_nodup_map h.sources hc hd hsource

/-- How far the second assembly has come from the first: of the connections it
was asked for it has made some, and found a cycle for each of the others. -/
structure Progress (a : Assembly) (cs made : List ConnectionEntry) (b : Assembly) : Prop where
  keeps : a.Keeps b
  tolerance : b.workspace.registry.tolerance = a.workspace.registry.tolerance
  sound : b.workspace.registry.Sound
  sublist : made.Sublist cs
  leads : ∀ i j, b.workspace.registry.Leads i j ↔ ∃ c ∈ made, c.ends a.labels = some (i, j)
  events : b.workspace.events = made.map (ConnectionEntry.announcement a.workspace a.labels)
  counted : b.errors.length + made.length = cs.length
  loops : ∀ f ∈ b.errors, f.problem.isLoop = true
  cyclic : b.errors ≠ [] → Cyclic cs

namespace Progress
variable {a b : Assembly} {cs made : List ConnectionEntry} {c : ConnectionEntry} {i j : BlockId}

theorem start (h : Joinable a []) : Progress a [] [] a where
  keeps := .refl a
  tolerance := rfl
  sound := h.sound
  sublist := .slnil
  leads i j := by simp [h.free i j]
  events := h.quiet
  counted := by simp [h.clean]
  loops f hf := by simp [h.clean] at hf
  cyclic hne := absurd h.clean hne

section Step
variable (h : Progress a cs made b) (hends : c.ends a.labels = some (i, j))
include h hends

theorem describe_ends : (⟨.connection, "connected: " ++ b.workspace.describe i ++ " -> " ++
    b.workspace.describe j⟩ : LogEvent) = c.announcement a.workspace a.labels := by
  rw [ConnectionEntry.announcement_of_ends hends, describe_congr h.keeps.blocks]

variable (hjoinable : Joinable a (cs ++ [c]))
include hjoinable

theorem free : (∀ k, ¬ b.workspace.registry.Leads i k) ∧ ∀ k, ¬ b.workspace.registry.Leads k j := by
  obtain ⟨hsource, htarget⟩ := ConnectionEntry.ends_eq_some_iff.1 hends
  have hsources := hjoinable.sources
  have htargets := hjoinable.targets
  rw [List.map_append, List.map_singleton, ← List.concat_eq_append, List.nodup_concat]
    at hsources htargets
  refine ⟨fun k hk => ?_, fun k hk => ?_⟩
  · obtain ⟨d, hd, hdends⟩ := (h.leads i k).1 hk
    have hsame := hjoinable.injective _ _ _ (ConnectionEntry.ends_eq_some_iff.1 hdends).1 hsource
    exact hsources.1 (List.mem_map.2 ⟨d, h.sublist.subset hd, hsame⟩)
  · obtain ⟨d, hd, hdends⟩ := (h.leads k j).1 hk
    have hsame := hjoinable.injective _ _ _ (ConnectionEntry.ends_eq_some_iff.1 hdends).2 htarget
    exact htargets.1 (List.mem_map.2 ⟨d, h.sublist.subset hd, hsame⟩)

/-- A connection from which the target reaches the source completes a cycle. -/
theorem cyclic_of_reaches (hreach : ReflTransGen b.workspace.registry.Leads j i) :
    Cyclic (cs ++ [c]) := by
  obtain ⟨hsource, htarget⟩ := ConnectionEntry.ends_eq_some_iff.1 hends
  have hback : ReflTransGen (Joins cs) c.target.value c.source.value := by
    refine joins_of_reaches hjoinable.injective (fun k l hkl => ?_) hreach htarget hsource
    obtain ⟨d, hd, hdends⟩ := (h.leads k l).1 hkl
    exact ⟨d, h.sublist.subset hd, hdends⟩
  refine ⟨c.source.value, .head' ⟨c, by simp, rfl, rfl⟩ ?_⟩
  exact ReflTransGen.mono (joins_mono (List.subset_append_left cs [c])) _ _ hback

section Result
variable (hi : i ∈ b.workspace.topIds) (hj : j ∈ b.workspace.topIds)
  (hgap : b.workspace.registry.canConnect c.gap = true)
include hi hj hgap

theorem accept {previous : Option BlockId}
    (hok : (b.workspace.registry.connect i j).2 = .ok previous) :
    Progress a (cs ++ [c]) (made ++ [c]) (b.joinBlocks c i j) := by
  obtain ⟨hregistry, hevents, herrors⟩ := Assembly.joinBlocks_of_ok hi hj hgap hok
  obtain ⟨hsource, htarget⟩ := h.free hends hjoinable
  have hcounted := h.counted
  exact {
    keeps := h.keeps.trans (.joinBlocks b c i j)
    tolerance := by rw [hregistry, Registry.tolerance_connect, h.tolerance]
    sound := hregistry ▸ h.sound.connect i j
    sublist := h.sublist.append (.refl [c])
    leads := by
      intro k l
      rw [hregistry, h.sound.leads_connect hok hsource htarget, h.leads]
      simp [or_and_right, exists_or, hends, eq_comm]
    events := by simp [hevents, h.events, h.describe_ends hends]
    counted := by
      simp only [herrors, List.length_append]
      omega
    loops := herrors ▸ h.loops
    cyclic := by
      intro hne
      exact (h.cyclic (herrors ▸ hne)).mono (List.subset_append_left cs [c]) }

theorem refuse {e : ConnectError} (herror : (b.workspace.registry.connect i j).2 = .error e) :
    Progress a (cs ++ [c]) made (b.joinBlocks c i j) := by
  obtain ⟨hworkspace, f, herrors, hloop⟩ := Assembly.joinBlocks_of_error hi hj hgap herror
  have hreach := (Registry.reaches_of_connect herror).2
  have hcounted := h.counted
  exact {
    keeps := h.keeps.trans (.joinBlocks b c i j)
    tolerance := by rw [hworkspace, h.tolerance]
    sound := hworkspace ▸ h.sound
    sublist := h.sublist.trans (List.sublist_append_left cs [c])
    leads := by simpa only [hworkspace] using h.leads
    events := by rw [hworkspace, h.events]
    counted := by
      simp only [herrors, List.length_append, List.length_singleton]
      omega
    loops := by
      rw [herrors, List.forall_mem_append]
      exact ⟨h.loops, by simpa using hloop⟩
    cyclic := fun _ => h.cyclic_of_reaches hends hjoinable hreach }

end Result
end Step

/-- The next connection is made, or it completes a cycle. -/
theorem step (h : Progress a cs made b) (hjoinable : Joinable a (cs ++ [c])) :
    ∃ made', Progress a (cs ++ [c]) made' (b.addConnection c) := by
  obtain ⟨i, j, hends, hi, hj⟩ := hjoinable.ends c (by simp)
  rw [Workspace.topIds, ← h.keeps.blocks] at hi hj
  have hgap : b.workspace.registry.canConnect c.gap = true := by
    rw [Registry.canConnect, h.tolerance]
    exact hjoinable.near c (by simp)
  rw [Assembly.addConnection_of_ends (h.keeps.labels ▸ hends)]
  cases hresult : (b.workspace.registry.connect i j).2 with
  | ok previous => exact ⟨_, h.accept hends hjoinable hi hj hgap hresult⟩
  | error e => exact ⟨_, h.refuse hends hjoinable hi hj hgap hresult⟩

/-- After any number of connections some are made, and the others have completed cycles. -/
theorem run (h : Joinable a cs) :
    ∃ made, Progress a cs made (cs.foldl Assembly.addConnection a) := by
  induction cs using List.reverseRecOn with
  | nil => exact ⟨[], .start h⟩
  | append_singleton cs c ih =>
    obtain ⟨made, hprogress⟩ := ih h.init
    rw [List.foldl_append]
    exact hprogress.step h

/-- Connections that are all made have no cycle. -/
theorem acyclic (h : Progress a cs cs b) (hjoinable : Joinable a cs) : ¬ Cyclic cs := by
  rintro ⟨x, hx⟩
  have hlift : ∀ m n, Joins cs m n → b.workspace.registry.Leads
      ((blockOf a.labels m).getD ⟨0⟩) ((blockOf a.labels n).getD ⟨0⟩) := by
    rintro m n ⟨c, hc, rfl, rfl⟩
    obtain ⟨i, j, hends, -⟩ := hjoinable.ends c hc
    obtain ⟨hsource, htarget⟩ := ConnectionEntry.ends_eq_some_iff.1 hends
    rw [hsource, htarget]
    exact (h.leads i j).2 ⟨c, hc, hends⟩
  exact h.sound.acyclic _ (TransGen.lift _ hlift x x hx)

/-- Connections that are all made are the edges. -/
theorem edges_perm (h : Progress a cs cs b) (hjoinable : Joinable a cs) :
    (b.workspace.registry.edges.map some).Perm (cs.map (ConnectionEntry.ends a.labels)) := by
  refine (List.perm_ext_iff_of_nodup
    (b.workspace.registry.edges_nodup.map fun _ _ => Option.some.inj) hjoinable.ends_nodup).2 ?_
  intro p
  simp only [List.mem_map]
  constructor
  · rintro ⟨⟨i, j⟩, hedge, rfl⟩
    exact (h.leads i j).1 (Registry.mem_edges_iff.1 hedge)
  · rintro ⟨c, hc, rfl⟩
    obtain ⟨i, j, hends, -⟩ := hjoinable.ends c hc
    exact ⟨(i, j), Registry.mem_edges_iff.2 ((h.leads i j).2 ⟨c, hc, hends⟩), hends.symm⟩

theorem errors_iff (h : Progress a cs made b) (hjoinable : Joinable a cs) :
    b.errors = [] ↔ ¬ Cyclic cs := by
  constructor
  · intro hnone
    have hlength := h.counted
    rw [hnone, List.length_nil, Nat.zero_add] at hlength
    obtain rfl := h.sublist.eq_of_length hlength
    exact h.acyclic hjoinable
  · exact fun hacyclic => not_not.1 fun hne => hacyclic (h.cyclic hne)

end Progress

theorem Faithful.blockOf_injective {es : List BlockEntry} {bs : List Block}
    {labels : SortedMap String (Located BlockId)} (h : Faithful es bs labels) {m n : String}
    {i : BlockId} (hm : blockOf labels m = some i) (hn : blockOf labels n = some i) : m = n := by
  obtain ⟨x, hx, rfl⟩ := Option.map_eq_some_iff.1 hm
  obtain ⟨y, hy, hxy⟩ := Option.map_eq_some_iff.1 hn
  exact h.injective m n x y hx hy hxy.symm

def TopLabel (es : List BlockEntry) (name : String) : Prop :=
  ∃ e ∈ es, e.label.map Located.value = some name

/-- The blocks of the file load, identities included, and its connections join
top-level blocks that are close enough. No label is twice a source or twice a target. -/
structure Simple (f : File) (t : Option Float) : Prop where
  tolerance : Script.tolerance f.settings = .ok t
  room : (nodesIn f.blocks).length < UInt32.size
  clean : (Assembly.addBlocks none f.blocks (Assembly.start t)).errors = []
  declared : ∀ c ∈ f.connections,
    TopLabel f.blocks c.source.value ∧ TopLabel f.blocks c.target.value
  near : ∀ c ∈ f.connections, c.gap.within (t.getD Registry.defaultTolerance) = true
  sources : (f.connections.map fun c => c.source.value).Nodup
  targets : (f.connections.map fun c => c.target.value).Nodup

namespace Simple
variable {f : File} {t : Option Float} {cs : List ConnectionEntry}

/-- The order of the connections does not matter. -/
theorem perm (h : Simple f t) (hperm : cs.Perm f.connections) :
    Simple { f with connections := cs } t where
  tolerance := h.tolerance
  room := h.room
  clean := h.clean
  declared c hc := h.declared c (hperm.mem_iff.1 hc)
  near c hc := h.near c (hperm.mem_iff.1 hc)
  sources := (hperm.map _).nodup_iff.2 h.sources
  targets := (hperm.map _).nodup_iff.2 h.targets

theorem blockOf_top (h : Simple f t) {name : String} (hname : TopLabel f.blocks name) :
    ∃ i, blockOf (Assembly.addBlocks none f.blocks (Assembly.start t)).labels name = some i ∧
      i ∈ (Assembly.addBlocks none f.blocks (Assembly.start t)).workspace.topIds := by
  obtain ⟨e, he, hlabelled⟩ := hname
  obtain ⟨label, hlabel, rfl⟩ := Option.map_eq_some_iff.1 hlabelled
  have hcontained := (Assembly.addBlocks_clean f.blocks (Assembly.ready_start t h.room) h.clean).1
  have hblocks := Assembly.blocks_addBlocks t h.room
  obtain ⟨b, hb, hzip⟩ := Assembly.exists_zip_of_mem hcontained ⟨0⟩ he
  rw [← hblocks] at hb hzip
  have hget := ((faithful_addBlocks h.room h.clean).labelled label.value ⟨b.id, label.span⟩).2
    ⟨(e, b), hzip, hlabel, rfl⟩
  exact ⟨b.id, by rw [blockOf, hget]; rfl, List.mem_map_of_mem hb⟩

theorem joinable (h : Simple f t) :
    Joinable (Assembly.addBlocks none f.blocks (Assembly.start t)) f.connections := by
  have hfaithful := faithful_addBlocks h.room h.clean
  have hgraft := (Assembly.addBlocks_grafts f.blocks (Assembly.ready_start t h.room)).1
  exact {
    clean := h.clean
    quiet := by rw [hgraft]; rfl
    sound := hgraft ▸ Registry.sound_empty _
    free := by
      intro i j hleads
      rw [hgraft] at hleads
      cases hleads
    injective := fun _ _ _ => hfaithful.blockOf_injective
    ends := by
      intro c hc
      obtain ⟨hsource, htarget⟩ := h.declared c hc
      obtain ⟨i, hi, htop⟩ := h.blockOf_top hsource
      obtain ⟨j, hj, htop'⟩ := h.blockOf_top htarget
      exact ⟨i, j, ConnectionEntry.ends_eq_some_iff.2 ⟨hi, hj⟩, htop, htop'⟩
    near := hgraft ▸ h.near
    sources := h.sources
    targets := h.targets }

theorem progress (h : Simple f t) : ∃ made, Progress
    (Assembly.addBlocks none f.blocks (Assembly.start t)) f.connections made
    (Assembly.ofFile t f) :=
  Progress.run h.joinable

theorem result_eq (h : Simple f t) (source : String) :
    (assemble source f).result =
      ofAssembly (f.settings.erase "tolerance") (Assembly.ofFile t f) := by
  rw [assemble, h.tolerance]

/-- A file whose connections have a cycle fails for one. -/
theorem fails (h : Simple f t) (source : String) (hcyclic : Cyclic f.connections) :
    ∃ errors, (assemble source f).result = .error (.findings errors) ∧
      ∃ g ∈ errors, g.problem.isLoop = true := by
  obtain ⟨made, hprogress⟩ := h.progress
  have hne : (Assembly.ofFile t f).errors ≠ [] := fun hnone =>
    (hprogress.errors_iff h.joinable).1 hnone hcyclic
  obtain ⟨g, hg⟩ := List.exists_mem_of_ne_nil _ hne
  refine ⟨_, ?_, g, hg, hprogress.loops g hg⟩
  rw [h.result_eq, ofAssembly, if_neg (by simpa using hne)]

/-- A file whose connections have no cycle loads, with an edge and an event for
each of them. -/
theorem loads (h : Simple f t) (source : String) (hacyclic : ¬ Cyclic f.connections) :
    ∃ s, (assemble source f).result = .ok s ∧
      (s.workspace.registry.edges.map some).Perm
        (f.connections.map (ConnectionEntry.ends s.labels)) ∧
      s.events = f.connections.map (ConnectionEntry.announcement s.workspace s.labels) := by
  obtain ⟨made, hprogress⟩ := h.progress
  have herrors := (hprogress.errors_iff h.joinable).2 hacyclic
  have hcounted := hprogress.counted
  rw [herrors, List.length_nil, Nat.zero_add] at hcounted
  obtain rfl := hprogress.sublist.eq_of_length hcounted
  refine ⟨_, by rw [h.result_eq, ofAssembly, if_pos (by simp [herrors])], ?_, ?_⟩
  · rw [hprogress.keeps.labels]
    exact hprogress.edges_perm h.joinable
  · refine hprogress.events.trans (congrArg (List.map · f.connections) ?_)
    exact ConnectionEntry.announcement_congr hprogress.keeps.blocks.symm hprogress.keeps.labels.symm

end Simple

/-- In whatever order the connections of a simple file are listed, it fails to
load for a cycle exactly if all of them together have one, and otherwise loads
with an edge and an event for each. -/
theorem assemble_perm (source : String) {f : File} {t : Option Float} (h : Simple f t)
    {cs : List ConnectionEntry} (hperm : cs.Perm f.connections) :
    ((∃ errors, (assemble source { f with connections := cs }).result =
        .error (.findings errors) ∧ ∃ g ∈ errors, g.problem.isLoop = true) ↔
      Cyclic f.connections) ∧
    (¬ Cyclic f.connections → ∃ s, (assemble source { f with connections := cs }).result = .ok s ∧
      (s.workspace.registry.edges.map some).Perm
        (f.connections.map (ConnectionEntry.ends s.labels)) ∧
      s.events = cs.map (ConnectionEntry.announcement s.workspace s.labels)) := by
  have hsame : Cyclic f.connections ↔ Cyclic cs :=
    ⟨Cyclic.mono hperm.symm.subset, Cyclic.mono hperm.subset⟩
  rw [hsame]
  refine ⟨⟨?_, (h.perm hperm).fails source⟩, fun hacyclic => ?_⟩
  · rintro ⟨errors, hresult, -⟩
    by_contra hacyclic
    obtain ⟨s, hloads, -⟩ := (h.perm hperm).loads source hacyclic
    cases hresult.symm.trans hloads
  · obtain ⟨s, hloads, hedges, hevents⟩ := (h.perm hperm).loads source hacyclic
    exact ⟨s, hloads, hedges.trans (hperm.map _), hevents⟩

/-- A chain of three blocks loads when its later connection is listed first. With
a third connection back to the start nothing loads, wherever it is listed. -/
theorem assemble_perm_three :
    let word (text : String) : Located String := ⟨text, ⟨0, 1⟩⟩
    let block (name : String) : BlockEntry := { label := word name, opcode := word "show" }
    let link (x y : String) : ConnectionEntry := { source := word x, target := word y }
    let blocks := [block "a", block "b", block "c"]
    let chain : File := { blocks, connections := [link "a" "b", link "b" "c"] }
    let ring : File := { blocks, connections := [link "a" "b", link "b" "c", link "c" "a"] }
    Simple chain none ∧ Simple ring none ∧
    (∃ s, (assemble "" { chain with connections := [link "b" "c", link "a" "b"] }).result = .ok s ∧
      (s.workspace.registry.edges.map some).Perm
        [(link "a" "b").ends s.labels, (link "b" "c").ends s.labels] ∧
      s.events.length = 2) ∧
    ∃ errors, (assemble "" { ring with
        connections := [link "c" "a", link "a" "b", link "b" "c"] }).result =
      .error (.findings errors) ∧ ∃ g ∈ errors, g.problem.isLoop = true := by
  intro word block link blocks chain ring
  have hdeclared : ∀ name ∈ ["a", "b", "c"], TopLabel blocks name := fun name hname =>
    ⟨block name, List.mem_map_of_mem (f := block) hname, rfl⟩
  have hnear : ∀ x y, (link x y).gap.within Registry.defaultTolerance = true := fun _ _ => rfl
  have hchain : Simple chain none :=
    ⟨rfl, by decide, by decide +kernel, by simp [chain, link, word, hdeclared],
      by simp [chain, hnear], by decide, by decide⟩
  have hring : Simple ring none :=
    ⟨rfl, by decide, by decide +kernel, by simp [ring, link, word, hdeclared],
      by simp [ring, hnear], by decide, by decide⟩
  have hloads : (assemble "" chain).result.isOk = true := by decide +kernel
  have hacyclic : ¬ Cyclic chain.connections := by
    intro hcyclic
    obtain ⟨errors, hfails, -⟩ := (assemble_perm "" hchain (.refl _)).1.2 hcyclic
    have hsame : (assemble "" chain).result = .error (.findings errors) := hfails
    rw [hsame] at hloads
    cases hloads
  have hjoins : ∀ x y, link x y ∈ ring.connections → Joins ring.connections x y :=
    fun x y hlink => ⟨link x y, hlink, rfl, rfl⟩
  have hcyclic : Cyclic ring.connections :=
    ⟨"a", .head (hjoins "a" "b" (by simp [ring])) (.head (hjoins "b" "c" (by simp [ring]))
      (.single (hjoins "c" "a" (by simp [ring]))))⟩
  refine ⟨hchain, hring, ?_, ?_⟩
  · obtain ⟨s, hresult, hedges, hevents⟩ := (assemble_perm "" hchain (.swap _ _ _)).2 hacyclic
    exact ⟨s, hresult, hedges, by rw [hevents]; rfl⟩
  · have hperm := (List.perm_append_singleton (link "c" "a") [link "a" "b", link "b" "c"]).symm
    exact (assemble_perm "" hring hperm).1.2 hcyclic

end Script
end SpriteBlocks
