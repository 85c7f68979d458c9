import PveManager.Sync.Upsert

/-!
# One tick of the cache sync

`sync_vm_cache` from the database to the database: detect clusters, collect,
upsert, commit, then soft-delete the live rows of online servers that were not
collected and release their addresses. The two main lemmas read the result by
key: `syncVmCache_find?` for the guest rows, `syncVmCache_allocation` for the
addresses.
-/

namespace PveManager.Sync

open PveManager.Core

/-- The servers of a tick: `is_online == True`. -/
def onlineServers (db : Db) : List ProxmoxServer :=
  db.servers.rows.filter fun s => s.isOnline = some true

/-- `server_nodes` of the tick. -/
def detected (env : TickEnv) (db : Db) : List (ServerId × Finset String) :=
  serverNodes env.probe (onlineServers db)

/-- The id under which the tick stores the guests of a server. -/
def tickKey (env : TickEnv) (db : Db) (sid : ServerId) : ServerId :=
  storageKey (detected env db) sid

/-- The collection of the tick. -/
def collected (env : TickEnv) (db : Db) : Collected :=
  collect (detected env db) env.fetch (onlineServers db)

/-- `all_seen`: the keys of the collected guests. -/
def allSeen (env : TickEnv) (db : Db) : List (ServerId × Vmid) :=
  (collected env db).allVmsData.map Found.key

/-- `synced_server_ids`: the online servers and the cluster ids read for them. -/
def syncedServerIds (env : TickEnv) (db : Db) : List ServerId :=
  (onlineServers db).map ProxmoxServer.id ++
    (onlineServers db).filterMap fun s => clusterMap (detected env db) s.id

/-- A row the tick soft-deletes. -/
def isStale (env : TickEnv) (db : Db) (r : VMInstance) : Bool :=
  r.live && decide (r.serverId ∈ syncedServerIds env db) && decide (r.key ∉ allSeen env db)

/-- The soft delete of a row. -/
def markDeleted (t : Time) (r : VMInstance) : VMInstance := { r with deletedAt := some t }

/-- The addresses of a soft-deleted row are released. -/
def releaseDeleted (ipam : Ipam) (r : VMInstance) : Ipam :=
  (ipam.releaseIpByVmid r.serverId r.vmid (some "system")
    (some s!"VM {r.name} ({r.vmid}) no longer exists on Proxmox")).1

/-- What one tick leaves behind and tells the connected clients. -/
structure TickResult where
  db : Db
  lastIpDetect : LastIpDetect
  statusChanges : List StatusChange
  deletedVms : List GuestNotice
  createdVms : List GuestNotice

def deletedNotice (r : VMInstance) : GuestNotice := ⟨r.serverId, r.vmid, r.node, r.name, r.vmType⟩

/-- `sync_vm_cache`. -/
def syncVmCache (env : TickEnv) (last : LastIpDetect) (db : Db) : TickResult :=
  if onlineServers db = [] then ⟨db, last, [], [], []⟩
  else
    let found := (collected env db).allVmsData
    let up := upsertAll env db.ipam (collected env db).serverClients db.vms last found
    if env.commitOk then
      let stale := up.vms.rows.filter (isStale env db)
      { db := { db with
          vms := up.vms.mapRows
            (fun r => if isStale env db r then markDeleted env.syncTime r else r)
            (fun r => by split <;> rfl)
          ipam := stale.foldl releaseDeleted db.ipam }
        lastIpDetect := up.lastIpDetect.filter fun e => e.1 ∈ allSeen env db
        statusChanges := up.statusChanges
        deletedVms := stale.map deletedNotice
        createdVms := up.createdVms }
    else ⟨db, up.lastIpDetect, [], [], []⟩

/-! ## Online servers -/

theorem mem_onlineServers {db : Db} {s : ProxmoxServer} :
    s ∈ onlineServers db ↔ s ∈ db.servers.rows ∧ s.isOnline = some true := by
  simp [onlineServers]

theorem onlineServers_nodup (db : Db) :
    ((onlineServers db).map ProxmoxServer.id).Nodup :=
  db.servers.keys_nodup.sublist (List.filter_sublist.map _)

theorem detected_nodup (env : TickEnv) (db : Db) : ((detected env db).map Prod.fst).Nodup :=
  serverNodes_nodup (onlineServers_nodup db)

/-- The server of this id takes part in the tick. -/
def Online (db : Db) (sid : ServerId) : Prop := sid ∈ (onlineServers db).map ProxmoxServer.id

instance (db : Db) (sid : ServerId) : Decidable (Online db sid) :=
  inferInstanceAs (Decidable (_ ∈ _))

theorem online_of_mem {db : Db} {s : ProxmoxServer} (h : s ∈ onlineServers db) :
    Online db s.id :=
  List.mem_map_of_mem h

/-- The storage key of an online server is online. -/
theorem online_tickKey (env : TickEnv) {db : Db} {sid : ServerId} (h : Online db sid) :
    Online db (tickKey env db sid) := by
  unfold tickKey
  rcases storageKey_mem (detected env db) sid with he | ⟨nodes, hm⟩
  · rwa [he]
  · obtain ⟨s, hs, hid, _⟩ := mem_serverNodes.mp hm
    exact hid ▸ online_of_mem hs

/-- Adding the cluster ids adds no server: they are online servers already. -/
theorem mem_syncedServerIds {env : TickEnv} {db : Db} {sid : ServerId} :
    sid ∈ syncedServerIds env db ↔ Online db sid := by
  unfold syncedServerIds
  rw [List.mem_append, List.mem_filterMap]
  constructor
  · rintro (h | ⟨s, hs, hc⟩)
    · exact h
    · have hk := online_tickKey env (online_of_mem hs)
      rw [tickKey, storageKey, hc, Option.getD_some] at hk
      exact hk
  · exact Or.inl

/-! ## Collected keys -/

/-- Some online server stored under this key lists the guest. -/
def Shown (env : TickEnv) (db : Db) (k : ServerId × Vmid) : Prop :=
  ∃ s ∈ onlineServers db, tickKey env db s.id = k.1 ∧
    ∃ r ty, Lists env.fetch s r ty ∧ r.vmid = k.2

/-- `all_seen` holds exactly the keys under which an online server shows a guest. -/
theorem mem_allSeen {env : TickEnv} {db : Db} {k : ServerId × Vmid} :
    k ∈ allSeen env db ↔ Shown env db k := by
  unfold allSeen collected
  constructor
  · intro h
    obtain ⟨f, hf, rfl⟩ := List.mem_map.mp h
    obtain ⟨s, hs, hl, hk⟩ := mem_collect hf
    exact ⟨s, hs, hk.symm, f.data, f.vmType, hl, rfl⟩
  · rintro ⟨s, hs, hk, r, ty, hl, hv⟩
    obtain ⟨f, hf, he⟩ := collect_covers (detected_nodup env db) hs hl
    have hfk : f.key = k := he.trans (Prod.ext hk hv)
    exact hfk ▸ List.mem_map_of_mem hf

theorem isStale_iff {env : TickEnv} {db : Db} {r : VMInstance} :
    isStale env db r = true ↔ r.live = true ∧ Online db r.serverId ∧ ¬Shown env db r.key := by
  simp only [isStale, Bool.and_eq_true, decide_eq_true_eq, mem_syncedServerIds, mem_allSeen]
  tauto

/-- The tick writes no key twice. -/
theorem collected_keys_nodup (env : TickEnv) (db : Db) :
    ((collected env db).allVmsData.map Found.key).Nodup :=
  collect_keys_nodup (detected_nodup env db) _ _

/-! ## The result by key -/

section Result

variable {env : TickEnv} {last : LastIpDetect} {db : Db}

/-- A tick without an online server changes nothing. -/
theorem syncVmCache_of_no_online (h : onlineServers db = []) :
    syncVmCache env last db = ⟨db, last, [], [], []⟩ := by
  rw [syncVmCache, if_pos h]

/-- A tick whose commit fails leaves the database alone. -/
theorem syncVmCache_db_of_not_commit (h : env.commitOk = false) :
    (syncVmCache env last db).db = db := by
  unfold syncVmCache
  split
  · rfl
  · simp [h]

/-- The registered servers are not touched by a tick. -/
@[simp] theorem syncVmCache_servers : (syncVmCache env last db).db.servers = db.servers := by
  unfold syncVmCache
  split
  · rfl
  · dsimp only
    split <;> rfl

/-- The row of a key that no online server shows: unchanged, or soft-deleted when it is live
and its server is online. -/
theorem syncVmCache_find?_of_not_shown (hc : env.commitOk = true) {k : ServerId × Vmid}
    (hk : ¬Shown env db k) :
    (syncVmCache env last db).db.vms.find? k =
      (db.vms.find? k).map fun r => if isStale env db r then markDeleted env.syncTime r else r := by
  unfold syncVmCache
  split
  · rename_i hn
    have hs : ∀ r, isStale env db r = false := by
      intro r
      rw [← Bool.not_eq_true, isStale_iff]
      rintro ⟨_, ho, _⟩
      simp [Online, hn] at ho
    simp [hs]
  · have hn : k ∉ (collected env db).allVmsData.map Found.key := fun h => hk (mem_allSeen.mp h)
    simp only [KeyedTable.find?_mapRows]
    rw [(find?_upsertAll _ _ _ _ _ (collected_keys_nodup env db) k).1 hn]

/-- The row of a key that an online server shows: live, from the collected guest of that key,
with the owner it had. -/
theorem syncVmCache_find?_of_shown (last : LastIpDetect) (hc : env.commitOk = true) {k : ServerId × Vmid}
    (hk : Shown env db k) :
    ∃ f ∈ (collected env db).allVmsData, f.key = k ∧
      (syncVmCache env last db).db.vms.find? k =
        some (upsertRow env.syncTime f
          (ipAddressFor env db.ipam (collected env db).serverClients last f)
          (db.vms.find? k)) := by
  obtain ⟨f, hf, hfk⟩ := List.mem_map.mp (mem_allSeen.mpr hk)
  refine ⟨f, hf, hfk, ?_⟩
  have hup := (find?_upsertAll env db.ipam (collected env db).serverClients db.vms last
    (collected_keys_nodup env db) k).2 f hf hfk
  have hne : onlineServers db ≠ [] := by
    obtain ⟨s, hs, _⟩ := hk
    exact List.ne_nil_of_mem hs
  unfold syncVmCache
  simp only [hne, ite_false, hc, ite_true, KeyedTable.find?_mapRows]
  rw [hup, Option.map_some]
  have hkey : (upsertRow env.syncTime f
      (ipAddressFor env db.ipam (collected env db).serverClients last f)
      (db.vms.find? k)).key = k := by
    rw [← hfk]
    exact key_upsertRow _ _ _ _ fun r hr => db.vms.key_of_find? hr
  have hfresh : isStale env db (upsertRow env.syncTime f
      (ipAddressFor env db.ipam (collected env db).serverClients last f)
      (db.vms.find? k)) = false := by
    rw [← Bool.not_eq_true, isStale_iff, hkey]
    exact fun h => h.2.2 hk
  rw [hfresh]
  rfl

/-- The row of a key was soft-deleted by the tick. -/
def SoftDeleted (env : TickEnv) (last : LastIpDetect) (db : Db) (k : ServerId × Vmid) : Prop :=
  (∃ r, db.vms.find? k = some r ∧ r.live = true) ∧
    ∃ r, (syncVmCache env last db).db.vms.find? k = some r ∧ r.live = false

/-- The tick soft-deletes exactly the live rows of online servers that nobody shows. -/
theorem softDeleted_iff (hc : env.commitOk = true) {k : ServerId × Vmid} :
    SoftDeleted env last db k ↔
      (∃ r, db.vms.find? k = some r ∧ r.live = true) ∧ Online db k.1 ∧ ¬Shown env db k := by
  unfold SoftDeleted
  constructor
  · rintro ⟨⟨r, hr, hl⟩, r', hr', hl'⟩
    refine ⟨⟨r, hr, hl⟩, ?_⟩
    by_cases hk : Shown env db k
    · obtain ⟨f, _, _, hres⟩ := syncVmCache_find?_of_shown last hc hk
      rw [hr', Option.some.injEq] at hres
      rw [hres, live_upsertRow] at hl'
      exact absurd hl' (by simp)
    · rw [syncVmCache_find?_of_not_shown hc hk, hr, Option.map_some, Option.some.injEq] at hr'
      by_cases hs : isStale env db r = true
      · have hkey := db.vms.key_of_find? hr
        have ho := (isStale_iff.mp hs).2.1
        rw [← hkey]
        exact ⟨ho, by rwa [hkey]⟩
      · rw [if_neg hs] at hr'
        rw [← hr', hl] at hl'
        exact absurd hl' (by simp)
  · rintro ⟨⟨r, hr, hl⟩, ho, hk⟩
    refine ⟨⟨r, hr, hl⟩, markDeleted env.syncTime r, ?_, rfl⟩
    have hkey := db.vms.key_of_find? hr
    have hs : isStale env db r = true := by
      rw [isStale_iff, hkey]
      refine ⟨hl, ?_, hk⟩
      rw [← hkey] at ho
      exact ho
    rw [syncVmCache_find?_of_not_shown hc hk, hr, Option.map_some, if_pos hs]

end Result

/-! ## The addresses -/

/-- Releasing for a list of rows removes only allocations recorded for one of them, or
legacy allocations of one of their numbers. -/
theorem mem_foldl_releaseDeleted_of_not {rows : List VMInstance} {ipam : Ipam}
    {a : IPAMAllocation} (ha : a ∈ ipam.allocations.rows)
    (hn : ∀ r ∈ rows, a.keyedTo r.serverId r.vmid = false ∧ Ipam.legacyFor a r.vmid = false) :
    a ∈ (rows.foldl releaseDeleted ipam).allocations.rows := by
  induction rows generalizing ipam with
  | nil => exact ha
  | cons r rest ih =>
    apply ih _ fun r' hr' => hn r' (List.mem_cons_of_mem _ hr')
    unfold releaseDeleted
    rw [Ipam.mem_releaseIpByVmid]
    refine ⟨ha, fun ht => ?_⟩
    obtain ⟨h1, h2⟩ := hn r List.mem_cons_self
    rcases (Ipam.mem_releaseTargets ht).2 with ⟨hk, _⟩ | hl
    · rw [h1] at hk
      exact absurd hk (by simp)
    · rw [h2] at hl
      exact absurd hl (by simp)

theorem mem_of_mem_foldl_releaseDeleted {rows : List VMInstance} {ipam : Ipam}
    {a : IPAMAllocation} (ha : a ∈ (rows.foldl releaseDeleted ipam).allocations.rows) :
    a ∈ ipam.allocations.rows := by
  induction rows generalizing ipam with
  | nil => exact ha
  | cons r rest ih =>
    have h := ih ha
    unfold releaseDeleted at h
    rw [Ipam.mem_releaseIpByVmid] at h
    exact h.1

/-- Releasing for a row removes every active allocation recorded for it. -/
theorem not_mem_foldl_releaseDeleted {rows : List VMInstance} {ipam : Ipam}
    {a : IPAMAllocation} {r : VMInstance} (hr : r ∈ rows)
    (hk : a.keyedTo r.serverId r.vmid = true) (hact : a.active = true) :
    a ∉ (rows.foldl releaseDeleted ipam).allocations.rows := by
  induction rows generalizing ipam with
  | nil => exact absurd hr List.not_mem_nil
  | cons x rest ih =>
    rw [List.foldl_cons]
    rcases List.mem_cons.mp hr with rfl | hr
    · intro hm
      have h := mem_of_mem_foldl_releaseDeleted hm
      unfold releaseDeleted at h
      rw [Ipam.mem_releaseIpByVmid] at h
      apply h.2
      have hf := (Ipam.mem_findAllocationsByResource ipam r.serverId r.vmid a).mpr
        ⟨h.1, hk, hact⟩
      unfold Ipam.releaseTargets
      split
      · rename_i he
        rw [he] at hf
        exact absurd hf List.not_mem_nil
      · exact hf
    · exact ih hr

section Allocations

variable {env : TickEnv} {last : LastIpDetect} {db : Db}

/-- The rows whose addresses the tick releases are the soft-deleted ones. -/
private theorem stale_rows_iff (hc : env.commitOk = true) {r : VMInstance} :
    (r ∈ (upsertAll env db.ipam (collected env db).serverClients db.vms last
        (collected env db).allVmsData).vms.rows ∧ isStale env db r = true) ↔
      r ∈ db.vms.rows ∧ SoftDeleted env last db r.key := by
  rw [softDeleted_iff hc, isStale_iff]
  have hrows : ¬Shown env db r.key →
      (r ∈ (upsertAll env db.ipam (collected env db).serverClients db.vms last
        (collected env db).allVmsData).vms.rows ↔ r ∈ db.vms.rows) := by
    intro hk
    have hn : r.key ∉ (collected env db).allVmsData.map Found.key :=
      fun h => hk (mem_allSeen.mp h)
    have hf := (find?_upsertAll env db.ipam (collected env db).serverClients db.vms last
      (collected_keys_nodup env db) r.key).1 hn
    constructor
    · intro h
      exact db.vms.mem_of_find? (hf.symm.trans (KeyedTable.find?_key _ h))
    · intro h
      exact KeyedTable.mem_of_find? _ (hf.trans (db.vms.find?_key h))
  constructor
  · rintro ⟨hm, hl, ho, hk⟩
    have hm' := (hrows hk).mp hm
    exact ⟨hm', ⟨r, db.vms.find?_key hm', hl⟩, ho, hk⟩
  · rintro ⟨hm, ⟨r', hr', hl⟩, ho, hk⟩
    rw [db.vms.find?_key hm, Option.some.injEq] at hr'
    subst hr'
    exact ⟨(hrows hk).mpr hm, hl, ho, hk⟩

private theorem syncVmCache_ipam (hc : env.commitOk = true) (hne : onlineServers db ≠ []) :
    (syncVmCache env last db).db.ipam =
      ((upsertAll env db.ipam (collected env db).serverClients db.vms last
        (collected env db).allVmsData).vms.rows.filter (isStale env db)).foldl
        releaseDeleted db.ipam := by
  unfold syncVmCache
  simp only [hne, ite_false, hc, ite_true]

/-- No allocation appears in a tick. -/
theorem mem_of_mem_syncVmCache_allocations {a : IPAMAllocation}
    (ha : a ∈ (syncVmCache env last db).db.ipam.allocations.rows) :
    a ∈ db.ipam.allocations.rows := by
  by_cases hc : env.commitOk = true
  · by_cases hne : onlineServers db = []
    · rwa [syncVmCache_of_no_online hne] at ha
    · rw [syncVmCache_ipam hc hne] at ha
      exact mem_of_mem_foldl_releaseDeleted ha
  · rwa [syncVmCache_db_of_not_commit (by simpa using hc)] at ha

/-- An allocation that goes in a tick was recorded for a soft-deleted row, or is a legacy
allocation of its number. -/
theorem softDeleted_of_released {a : IPAMAllocation} (ha : a ∈ db.ipam.allocations.rows)
    (hn : a ∉ (syncVmCache env last db).db.ipam.allocations.rows) :
    ∃ k, SoftDeleted env last db k ∧
      (a.keyedTo k.1 k.2 = true ∨ Ipam.legacyFor a k.2 = true) := by
  by_cases hc : env.commitOk = true
  · by_cases hne : onlineServers db = []
    · rw [syncVmCache_of_no_online hne] at hn
      exact absurd ha hn
    · rw [syncVmCache_ipam hc hne] at hn
      by_contra hno
      push Not at hno
      apply hn
      apply mem_foldl_releaseDeleted_of_not ha
      intro r hr
      have hsd := ((stale_rows_iff hc).mp (List.mem_filter.mp hr)).2
      obtain ⟨h1, h2⟩ := hno r.key hsd
      exact ⟨Bool.eq_false_iff.mpr h1, Bool.eq_false_iff.mpr h2⟩
  · rw [syncVmCache_db_of_not_commit (by simpa using hc)] at hn
    exact absurd ha hn

/-- The active allocations recorded for a soft-deleted row go with it. -/
theorem not_mem_of_softDeleted {a : IPAMAllocation} {k : ServerId × Vmid}
    (hsd : SoftDeleted env last db k) (hk : a.keyedTo k.1 k.2 = true)
    (hact : a.active = true) :
    a ∉ (syncVmCache env last db).db.ipam.allocations.rows := by
  have hc : env.commitOk = true := by
    by_contra hc
    obtain ⟨⟨r, hr, hl⟩, r', hr', hl'⟩ := hsd
    rw [syncVmCache_db_of_not_commit (by simpa using hc), hr, Option.some.injEq] at hr'
    rw [← hr', hl] at hl'
    exact absurd hl' (by simp)
  obtain ⟨⟨r, hr, hl⟩, ho, _⟩ := (softDeleted_iff hc).mp hsd
  have hne : onlineServers db ≠ [] := by
    intro he
    simp [Online, he] at ho
  have hkey := db.vms.key_of_find? hr
  subst hkey
  rw [syncVmCache_ipam hc hne]
  have hm := (stale_rows_iff hc).mpr ⟨db.vms.mem_of_find? hr, hsd⟩
  exact not_mem_foldl_releaseDeleted (List.mem_filter.mpr hm) hk hact

/-- The allocations recorded for a key that is not soft-deleted stay. -/
theorem mem_of_not_softDeleted {a : IPAMAllocation} {k : ServerId × Vmid}
    (ha : a ∈ db.ipam.allocations.rows) (hk : a.keyedTo k.1 k.2 = true)
    (hn : ¬SoftDeleted env last db k) :
    a ∈ (syncVmCache env last db).db.ipam.allocations.rows := by
  by_contra hgone
  obtain ⟨k', hsd, hk' | hl⟩ := softDeleted_of_released ha hgone
  · simp only [IPAMAllocation.keyedTo, decide_eq_true_eq] at hk hk'
    have he : k = k' := Prod.ext (Option.some.inj (hk.1.symm.trans hk'.1))
      (Option.some.inj (hk.2.symm.trans hk'.2))
    exact hn (he ▸ hsd)
  · simp only [IPAMAllocation.keyedTo, decide_eq_true_eq] at hk
    simp only [Ipam.legacyFor, Bool.and_eq_true, decide_eq_true_eq] at hl
    rw [hk.1] at hl
    exact absurd hl.1.2 (by simp)

end Allocations

/-! ## Servers the tick cannot read -/

section Unread

variable {env : TickEnv} {db : Db} {sid : ServerId}

/-- Nothing is shown under a server without usable credentials. -/
theorem not_shown_of_unread (h : ∀ s ∈ onlineServers db, s.id = sid → hasAuth s = false)
    (vmid : Vmid) : ¬Shown env db (sid, vmid) := by
  rintro ⟨s, hs, hkey, r, ty, hl, _⟩
  change tickKey env db s.id = sid at hkey
  by_cases hid : s.id = sid
  · obtain ⟨rs, hf, _⟩ := hl
    simp [fetchedReply, h s hs hid] at hf
  · unfold tickKey storageKey at hkey
    cases hc : clusterMap (detected env db) s.id with
    | none =>
      rw [hc] at hkey
      exact hid hkey
    | some c =>
      rw [hc, Option.getD_some] at hkey
      subst hkey
      obtain ⟨nodes, _, hcard, hm, _⟩ := clusterMap_eq_some hc
      obtain ⟨t, ht, htid, hrep⟩ := mem_serverNodes.mp hm
      rw [reportedNodes, h t ht htid] at hrep
      simp only [Bool.false_eq_true, ite_false, Option.some.injEq] at hrep
      rw [← hrep, Finset.card_empty] at hcard
      omega

/-- No row of such a server has been live, or the server is offline, or nothing is committed. -/
def NothingToDelete (env : TickEnv) (db : Db) (sid : ServerId) : Prop :=
  Online db sid → env.commitOk = true → ∀ r ∈ db.vms.rows, r.serverId = sid → r.live = false

/-- The rows of a server that is not read stay exactly when there is nothing to delete. -/
theorem syncVmCache_find?_of_unread_iff (last : LastIpDetect)
    (h : ∀ s ∈ onlineServers db, s.id = sid → hasAuth s = false) :
    (∀ vmid, (syncVmCache env last db).db.vms.find? (sid, vmid) = db.vms.find? (sid, vmid)) ↔
      NothingToDelete env db sid := by
  constructor
  · intro hsame ho hc r hr hrs
    subst hrs
    by_contra hl
    have hf := db.vms.find?_key hr
    have hsd : SoftDeleted env last db r.key :=
      (softDeleted_iff hc).mpr ⟨⟨r, hf, by simpa using hl⟩, ho, not_shown_of_unread h r.vmid⟩
    obtain ⟨r', hr', hl'⟩ := hsd.2
    rw [show r.key = (r.serverId, r.vmid) from rfl, hsame r.vmid] at hr'
    rw [show r.key = (r.serverId, r.vmid) from rfl, hr', Option.some.injEq] at hf
    exact hl (hf ▸ hl')
  · intro hnd vmid
    by_cases hc : env.commitOk = true
    · rw [syncVmCache_find?_of_not_shown hc (not_shown_of_unread h vmid)]
      cases hf : db.vms.find? (sid, vmid) with
      | none => rfl
      | some r =>
        have hrs : r.serverId = sid := congrArg Prod.fst (db.vms.key_of_find? hf)
        have hs : isStale env db r = false := by
          rw [← Bool.not_eq_true, isStale_iff]
          rintro ⟨hl, ho, _⟩
          rw [hrs] at ho
          rw [hnd ho hc r (db.vms.mem_of_find? hf) hrs] at hl
          exact absurd hl (by simp)
        rw [Option.map_some, hs]
        rfl
    · rw [syncVmCache_db_of_not_commit (by simpa using hc)]

/-- With nothing to delete the addresses of the server stay as well. -/
theorem mem_syncVmCache_allocations_of_unread {last : LastIpDetect}
    (hnd : NothingToDelete env db sid) {a : IPAMAllocation} (ha : a.proxmoxServerId = some sid) :
    a ∈ (syncVmCache env last db).db.ipam.allocations.rows ↔ a ∈ db.ipam.allocations.rows := by
  refine ⟨mem_of_mem_syncVmCache_allocations, fun hm => ?_⟩
  by_contra hgone
  obtain ⟨k, hsd, hk | hl⟩ := softDeleted_of_released hm hgone
  · simp only [IPAMAllocation.keyedTo, decide_eq_true_eq] at hk
    have hks : k.1 = sid := Option.some.inj (hk.1.symm.trans ha)
    have hc : env.commitOk = true := by
      by_contra hc
      rw [syncVmCache_db_of_not_commit (by simpa using hc)] at hgone
      exact hgone hm
    obtain ⟨⟨r, hr, hl⟩, ho, _⟩ := (softDeleted_iff hc).mp hsd
    have hrs : r.serverId = sid := (congrArg Prod.fst (db.vms.key_of_find? hr)).trans hks
    rw [hnd (hks ▸ ho) hc r (db.vms.mem_of_find? hr) hrs] at hl
    exact absurd hl (by simp)
  · simp only [Ipam.legacyFor, Bool.and_eq_true, decide_eq_true_eq] at hl
    rw [ha] at hl
    exact absurd hl.1.2 (by simp)

end Unread

end PveManager.Sync
