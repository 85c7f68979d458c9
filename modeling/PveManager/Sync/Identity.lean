import PveManager.Core.Run
import PveManager.Servers.Delete
import PveManager.Sync.Evidence

/-!
# The identity of a cluster guest over ticks

A guest of a cluster is cached under the id of one of the cluster's registered
servers, and its owner and addresses hang on that key. The tick picks the id
anew each time. Runs mix ticks with availability changes and removals of
servers; the invariant is that every guest keeps the one key it has, and a step
is steady when it does not move the key.
-/

namespace PveManager.Sync

open PveManager.Core

/-- A cluster as it was before a run: its registered servers, its guests, and for every guest
the owner and the addresses it has. -/
structure Cluster where
  members : List ServerId
  guests : List Vmid
  owner : Vmid → Option UserId
  ips : Vmid → List String

/-- The guest is cached under this id and under no other of the cluster, with its owner, and
all its addresses are recorded for that key. -/
structure GuestKept (C : Cluster) (db : Db) (sid : ServerId) (vmid : Vmid) : Prop where
  row : ∃ r, db.vms.find? (sid, vmid) = some r ∧ r.live = true ∧ r.ownerId = C.owner vmid
  alone : ∀ s ∈ C.members, s ≠ sid → ∀ r, db.vms.find? (s, vmid) = some r → r.live = false
  addresses : ∀ ip ∈ C.ips vmid, ∃ a, db.ipam.allocations.find? ip = some a ∧
    a.keyedTo sid vmid = true ∧ a.active = true

/-- Every guest has exactly one live row, with its owner and its addresses. -/
def Kept (C : Cluster) (db : Db) : Prop :=
  ∀ vmid ∈ C.guests, ∃ sid ∈ C.members, GuestKept C db sid vmid

/-- Every guest has its row under one given id. -/
def KeptAt (C : Cluster) (k : ServerId) (db : Db) : Prop :=
  ∀ vmid ∈ C.guests, GuestKept C db k vmid

/-! ## Runs -/

/-- The database and the worker's throttle marks. -/
structure State where
  db : Db
  last : LastIpDetect

/-- What happens between and in ticks. -/
inductive Step
  /-- The availability check writes `is_online`. -/
  | setOnline (sid : ServerId) (online : Option Bool)
  | tick (env : TickEnv)
  /-- An operator removes a server from the panel. -/
  | remove (sid : ServerId) (username : String)

/-- Write the availability column of one server. -/
def setOnline (db : Db) (sid : ServerId) (online : Option Bool) : Db :=
  { db with
    servers := db.servers.mapRows
      (fun s => if s.id = sid then { s with isOnline := online } else s)
      (fun s => by split <;> rfl) }

/-- One step of a run. -/
def step (st : State) : Step → State
  | .setOnline sid online => { st with db := setOnline st.db sid online }
  | .tick env =>
    let out := syncVmCache env st.last st.db
    ⟨out.db, out.lastIpDetect⟩
  | .remove sid username => { st with db := Servers.deleteServerRecords st.db sid username }

/-- A step that leaves the guests of the cluster under their id: a tick that shows every guest
under it while its server is online and shows none under another member, and a removal of some
other server. -/
def Steady (C : Cluster) (k : ServerId) (st : State) : Step → Prop
  | .setOnline _ _ => True
  | .tick env => env.commitOk = true → ∀ vmid ∈ C.guests,
      (Online st.db k → Shown env st.db (k, vmid)) ∧
      ∀ s ∈ C.members, s ≠ k → ¬Shown env st.db (s, vmid)
  | .remove sid _ => sid ≠ k

/-! ## One step -/

theorem KeptAt.setOnline {C : Cluster} {k : ServerId} {db : Db} (h : KeptAt C k db)
    (sid : ServerId) (online : Option Bool) : KeptAt C k (setOnline db sid online) := by
  intro vmid hv
  exact ⟨(h vmid hv).row, (h vmid hv).alone, (h vmid hv).addresses⟩

/-- An allocation recorded for a key that the tick does not soft-delete is found as before. -/
private theorem find?_allocation_of_not_softDeleted {env : TickEnv} {last : LastIpDetect}
    {db : Db} {k : ServerId × Vmid} {ip : String} {a : IPAMAllocation}
    (hn : ¬SoftDeleted env last db k) (ha : db.ipam.allocations.find? ip = some a)
    (hk : a.keyedTo k.1 k.2 = true) :
    (syncVmCache env last db).db.ipam.allocations.find? ip = some a := by
  rw [KeyedTable.find?_eq_some_iff]
  exact ⟨mem_of_not_softDeleted (db.ipam.allocations.mem_of_find? ha) hk hn,
    db.ipam.allocations.key_of_find? ha⟩

/-- A steady tick keeps every guest under its id. -/
theorem KeptAt.tick {C : Cluster} {k : ServerId} {st : State} {env : TickEnv}
    (h : KeptAt C k st.db) (hs : Steady C k st (.tick env)) :
    KeptAt C k (step st (.tick env)).db := by
  change KeptAt C k (syncVmCache env st.last st.db).db
  by_cases hc : env.commitOk = true
  · intro vmid hv
    obtain ⟨⟨r, hr, hl, ho⟩, halone, haddr⟩ := h vmid hv
    obtain ⟨hshown, hother⟩ := hs hc vmid hv
    have hn : ¬SoftDeleted env st.last st.db (k, vmid) := by
      rw [softDeleted_iff hc]
      exact fun hd => hd.2.2 (hshown hd.2.1)
    refine ⟨?_, ?_, ?_⟩
    · by_cases hk : Shown env st.db (k, vmid)
      · obtain ⟨f, _, _, hres⟩ := syncVmCache_find?_of_shown st.last hc hk
        refine ⟨_, hres, live_upsertRow _ _ _ _, ?_⟩
        rw [ownerId_upsertRow, hr]
        exact ho
      · refine ⟨r, ?_, hl, ho⟩
        have hkey : r.serverId = k := congrArg Prod.fst (st.db.vms.key_of_find? hr)
        have hns : ¬isStale env st.db r = true := by
          rw [isStale_iff, hkey]
          exact fun hst => hk (hshown hst.2.1)
        rw [syncVmCache_find?_of_not_shown hc hk, hr, Option.map_some, if_neg hns]
    · intro s hsm hne r' hr'
      rw [syncVmCache_find?_of_not_shown hc (hother s hsm hne), Option.map_eq_some_iff] at hr'
      obtain ⟨r₀, hr₀, rfl⟩ := hr'
      split
      · rfl
      · exact halone s hsm hne r₀ hr₀
    · intro ip hip
      obtain ⟨a, ha, hak, hact⟩ := haddr ip hip
      exact ⟨a, find?_allocation_of_not_softDeleted hn ha hak, hak, hact⟩
  · rw [syncVmCache_db_of_not_commit (by simpa using hc)]
    exact h

/-- Removing another server keeps every guest under its id. -/
theorem KeptAt.remove {C : Cluster} {k : ServerId} {db : Db} (h : KeptAt C k db)
    {sid : ServerId} (username : String) (hne : sid ≠ k) :
    KeptAt C k (Servers.deleteServerRecords db sid username) := by
  intro vmid hv
  obtain ⟨⟨r, hr, hl, ho⟩, halone, haddr⟩ := h vmid hv
  refine ⟨⟨r, ?_, hl, ho⟩, ?_, ?_⟩
  · rw [Servers.find?_deleteServerRecords_of_ne db username hne.symm]
    exact hr
  · intro s hsm hs r' hr'
    by_cases hss : s = sid
    · subst hss
      rw [Servers.find?_deleteServerRecords_self] at hr'
      exact absurd hr' (by simp)
    · rw [Servers.find?_deleteServerRecords_of_ne db username hss] at hr'
      exact halone s hsm hs r' hr'
  · intro ip hip
    obtain ⟨a, ha, hak, hact⟩ := haddr ip hip
    refine ⟨a, ?_, hak, hact⟩
    rw [KeyedTable.find?_eq_some_iff]
    exact ⟨(Servers.mem_deleteServerRecords_of_keyedTo hne.symm hak).mpr
      (db.ipam.allocations.mem_of_find? ha), db.ipam.allocations.key_of_find? ha⟩

/-- Every steady step keeps every guest under its id. -/
theorem KeptAt.step {C : Cluster} {k : ServerId} (st : State) (e : Step)
    (h : KeptAt C k st.db) (hs : Steady C k st e) : KeptAt C k (step st e).db := by
  cases e with
  | setOnline sid online => exact h.setOnline sid online
  | tick env => exact h.tick hs
  | remove sid username => exact h.remove username hs

/-- For addressed guests the condition on a tick is exact: a tick that is not steady moves,
doubles or frees a guest. -/
theorem kept_tick_iff {C : Cluster} {k : ServerId} (hk : k ∈ C.members) {st : State}
    {env : TickEnv} (h : KeptAt C k st.db) (hips : ∀ vmid ∈ C.guests, C.ips vmid ≠ []) :
    Kept C (step st (.tick env)).db ↔ Steady C k st (.tick env) := by
  constructor
  · intro hkept hc vmid hv
    obtain ⟨sid, _, hrow, halone, haddr⟩ := hkept vmid hv
    have hsid : sid = k := by
      obtain ⟨ip, hip⟩ := List.exists_mem_of_ne_nil _ (hips vmid hv)
      obtain ⟨a, ha, hak, _⟩ := haddr ip hip
      obtain ⟨b, hb, hbk, _⟩ := (h vmid hv).addresses ip hip
      have hm := mem_of_mem_syncVmCache_allocations
        (KeyedTable.mem_of_find? _ ha)
      have hab : a = b := st.db.ipam.allocations.eq_of_key_eq hm
        (st.db.ipam.allocations.mem_of_find? hb)
        ((KeyedTable.key_of_find? _ ha).trans (st.db.ipam.allocations.key_of_find? hb).symm)
      subst hab
      simp only [IPAMAllocation.keyedTo, decide_eq_true_eq] at hak hbk
      exact Option.some.inj (hak.1.symm.trans hbk.1)
    subst hsid
    refine ⟨fun ho => ?_, fun s hsm hne hsh => ?_⟩
    · by_contra hsh
      obtain ⟨r₀, hr₀, hl₀, _⟩ := (h vmid hv).row
      have hsd : SoftDeleted env st.last st.db (sid, vmid) :=
        (softDeleted_iff hc).mpr ⟨⟨r₀, hr₀, hl₀⟩, ho, hsh⟩
      obtain ⟨_, r₁, hr₁, hl₁⟩ := hsd
      obtain ⟨r, hr, hl, _⟩ := hrow
      rw [show (Sync.step st (.tick env)).db = (syncVmCache env st.last st.db).db from rfl,
        hr₁, Option.some.injEq] at hr
      rw [← hr, hl₁] at hl
      exact absurd hl (by simp)
    · obtain ⟨f, _, _, hres⟩ := syncVmCache_find?_of_shown st.last hc hsh
      have hd := halone s hsm hne _ hres
      rw [live_upsertRow] at hd
      exact absurd hd (by simp)
  · intro hs vmid hv
    exact ⟨k, hk, (h.tick hs) vmid hv⟩

/-! ## Whole runs -/

/-- In a run of steady steps every state reached has exactly one live row for every guest,
with the owner and the addresses the guest had before. -/
theorem kept_of_steady (C : Cluster) (k : ServerId) (hk : k ∈ C.members) (st : State)
    (h : KeptAt C k st.db) (steps : List Step) (hs : Guarded step (Steady C k) st steps) :
    ∀ st' ∈ visited step st steps, Kept C st'.db := by
  have hrun : ∀ st' ∈ visited step st steps, KeptAt C k st'.db :=
    invariant_of_guarded (P := fun st => KeptAt C k st.db) KeptAt.step h hs
  exact fun st' hst' vmid hv => ⟨k, hk, hrun st' hst' vmid hv⟩

/-- An unchanged cluster answers a tick: a member reports the cluster's nodes or nothing, and a
fetched listing of a member shows exactly the cluster's guests. -/
structure Answers (C : Cluster) (nodes : List String) (env : TickEnv) : Prop where
  probe : ∀ s ∈ C.members, ∀ names, env.probe s = .nodes names → names = [] ∨ names = nodes
  listing : ∀ s ∈ C.members, ∀ rs, env.fetch s = .answered (some rs) →
    (rs.filter Resource.isGuest).map Resource.vmid = C.guests

/-- A step the statement of stability allows. -/
def Allowed (C : Cluster) (nodes : List String) : Step → Prop
  | .setOnline _ _ => True
  | .tick env => Answers C nodes env
  | .remove sid _ => ∃ s ∈ C.members, s ≠ sid

/-- The tick could list the cluster. -/
def ListsCluster (C : Cluster) (env : TickEnv) (db : Db) : Prop :=
  ∃ s ∈ onlineServers db, s.id ∈ C.members ∧ ∃ rs, fetchedReply env.fetch s = some (some rs)

/-- Stability of the identity: after every tick that lists the cluster, at the end of any
allowed run from a state with one row per guest, there is still one row per guest, with its
owner and its addresses. -/
def IdentityStable (C : Cluster) (nodes : List String) : Prop :=
  ∀ (st : State) (steps : List Step) (env : TickEnv), Kept C st.db →
    (∀ e ∈ steps ++ [.tick env], Allowed C nodes e) →
    ListsCluster C env (steps.foldl step st).db →
    Kept C (step (steps.foldl step st) (.tick env)).db

/-- Two registered members, one owned and addressed guest. -/
def sampleCluster : Cluster where
  members := [1, 2]
  guests := [100]
  owner := fun _ => some 7
  ips := fun _ => ["10.0.0.5"]

def sampleState : State where
  db :=
    { servers := samplePair
      vms := sampleVms
      ipam := sampleIpam }
  last := .empty

/-- A tick in which every asked server reports both nodes and lists the guest. -/
def sampleTick : TickEnv where
  probe := fun _ => .nodes ["a", "b"]
  fetch := fun _ => .answered (some [sampleGuest 100 "web"])
  view := fun _ => silentView
  syncTime := 2
  clock := 1000
  commitOk := true

instance (env : TickEnv) (db : Db) (k : ServerId × Vmid) : Decidable (Shown env db k) :=
  decidable_of_iff ((allSeen env db).any fun seen => decide (seen = k)) (by simp [mem_allSeen])

theorem sampleState_keptAt : KeptAt sampleCluster 1 sampleState.db := by
  intro vmid hv
  rw [List.mem_singleton.mp hv]
  refine ⟨⟨_, rfl, rfl, rfl⟩, ?_, ?_⟩
  · intro s hs hne r hr
    have he : sampleState.db.vms.find? (s, 100) = none := by
      simp only [sampleCluster, List.mem_cons, List.not_mem_nil, or_false] at hs
      rcases hs with rfl | rfl
      · exact absurd rfl hne
      · decide
    rw [he] at hr
    exact absurd hr (by simp)
  · intro ip hip
    rw [List.mem_singleton.mp hip]
    exact ⟨_, rfl, by decide, by decide⟩

/-- The steady run on concrete data: a tick, the other member goes offline, another tick. -/
theorem kept_of_steady_sample :
    Kept sampleCluster
      ([Step.tick sampleTick, .setOnline 2 (some false), .tick sampleTick].foldl step
        sampleState).db :=
  kept_of_steady sampleCluster 1 (by decide) sampleState sampleState_keptAt
    [.tick sampleTick, .setOnline 2 (some false), .tick sampleTick]
    ⟨fun _ => by decide, trivial, fun _ => by decide, trivial⟩ _ (foldl_mem_visited step _ _)

/-- When the member that names the cluster goes offline, the next tick stores the guest under
the other one: a second live row without an owner, beside the addressed first. -/
theorem not_identityStable : ¬IdentityStable sampleCluster ["a", "b"] := by
  intro h
  have hkept := h sampleState [.setOnline 1 (some false)] sampleTick
    (fun vmid hv => ⟨1, by decide, sampleState_keptAt vmid hv⟩) ?_ ?_
  · obtain ⟨sid, hsid, hrow, halone, _⟩ := hkept 100 (by decide)
    simp only [sampleCluster, List.mem_cons, List.not_mem_nil, or_false] at hsid
    rcases hsid with rfl | rfl
    · exact absurd (halone 2 (by decide) (by decide) _ rfl) (by decide)
    · exact absurd (halone 1 (by decide) (by decide) _ rfl) (by decide)
  · intro e he
    simp only [List.singleton_append, List.mem_cons, List.not_mem_nil, or_false] at he
    rcases he with rfl | rfl
    · trivial
    · exact ⟨fun _ _ names hn => Or.inr (by injection hn with hn; exact hn.symm),
        fun _ _ rs hr => by injection hr with hr; injection hr with hr; subst hr; rfl⟩
  · exact ⟨sampleServer 2, by decide, by decide, _, rfl⟩

end PveManager.Sync
