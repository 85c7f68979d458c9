import PveManager.Sync.Evidence

/-!
# Installations kept apart

Cluster membership is read off the node names, so two installations that use the
same names look like one cluster. For a tick that reaches and lists every
registered server the main result says when the installations stay apart: no
guest belongs to a server whose node set is led by a server of another
installation.
-/

namespace PveManager.Sync

open PveManager.Core

/-- A tick that listed every registered server, together with the Proxmox installations behind
them: members of one installation report its nodes and list its guests. -/
structure FullTick where
  env : TickEnv
  db : Db
  inst : Installation
  nodes : Nat → List String
  guests : Nat → List Resource
  /-- Proxmox gives every guest of a cluster its own number. -/
  vmid_unique : ∀ i, ∀ r ∈ guests i, ∀ r' ∈ guests i, r.vmid = r'.vmid → r = r'
  commitOk : env.commitOk = true
  online : ∀ s ∈ db.servers.rows, s.isOnline = some true
  auth : ∀ s ∈ db.servers.rows, hasAuth s = true
  probed : ∀ s ∈ db.servers.rows, ∃ names, env.probe s.id = .nodes names ∧
    nodeNames names = nodeNames (nodes (inst s.id))
  listed : ∀ s ∈ db.servers.rows, ∃ rs, env.fetch s.id = .answered (some rs) ∧
    ∀ r, r ∈ rs ↔ r ∈ guests (inst s.id)

/-- The columns of a row that describe a guest are those of this entry. -/
def Describes (row : VMInstance) (g : Resource) : Prop :=
  ∃ ty, g.kind.vmType? = some ty ∧
    row.name = Found.vmName ⟨row.serverId, g, ty⟩ ∧
    row.status = g.status.getD "unknown" ∧ row.node = g.node.getD "" ∧ row.vmType = ty ∧
    row.cores = g.cpus.or g.maxcpu ∧ row.memory = bytesToMb g.maxmem ∧
    row.diskSize = bytesToGb g.maxdisk

namespace FullTick

variable (T : FullTick)

/-- The rows after the tick. -/
def after (last : LastIpDetect) : KeyedTable VMInstance.key :=
  (syncVmCache T.env last T.db).db.vms

/-- The address of a row is the one it had, the one IPAM records for its key, or one a server
reported that does not take it from a guest of another installation. -/
def AddressOwn (t : ProxmoxServer) (g : Resource) (row : VMInstance) : Prop :=
  row.ipAddress = (T.db.vms.find? (t.id, g.vmid)).bind VMInstance.ipAddress ∨
  row.ipAddress = (ipamByServerVmid T.db.ipam (t.id, g.vmid)).map IPAMAllocation.ipAddress ∨
  ∃ u ∈ T.db.servers.rows, ∃ ty, g.kind.vmType? = some ty ∧
    row.ipAddress = detectIp (T.env.view u.id) (g.node.getD "") ⟨t.id, g, ty⟩ ∧
    (T.inst u.id ≠ T.inst t.id →
      ∀ g' ∈ T.guests (T.inst u.id), g'.isGuest = true → g'.vmid ≠ g.vmid)

/-- Every guest has its own row under a server of its installation, and the live rows of a
server describe guests of that server's installation. -/
structure Separated (last : LastIpDetect) : Prop where
  own : ∀ s ∈ T.db.servers.rows, ∀ g ∈ T.guests (T.inst s.id), g.isGuest = true →
    ∃ t ∈ T.db.servers.rows, T.inst t.id = T.inst s.id ∧
      ∃ row, (T.after last).find? (t.id, g.vmid) = some row ∧ row.live = true ∧ Describes row g
  pure : ∀ t ∈ T.db.servers.rows, ∀ vmid row,
    (T.after last).find? (t.id, vmid) = some row → row.live = true →
      ∃ g ∈ T.guests (T.inst t.id), g.isGuest = true ∧ g.vmid = vmid ∧ Describes row g ∧
        T.AddressOwn t g row

/-- Node names a server of the tick reports. -/
def names (s : ProxmoxServer) : Finset String := nodeNames (T.nodes (T.inst s.id))

/-- The server with the smallest id among those that report the same two or more node names is
one of another installation. -/
def Merged (s : ProxmoxServer) : Prop :=
  1 < (T.names s).card ∧ ∃ t ∈ T.db.servers.rows, T.names t = T.names s ∧
    T.inst t.id ≠ T.inst s.id ∧ ∀ u ∈ T.db.servers.rows, T.names u = T.names s → t.id ≤ u.id

/-! ## Detection in a full tick -/

theorem mem_online {s : ProxmoxServer} : s ∈ onlineServers T.db ↔ s ∈ T.db.servers.rows := by
  rw [mem_onlineServers]
  exact ⟨fun h => h.1, fun h => ⟨h, T.online s h⟩⟩

/-- Every server has its entry, with the node names of its installation. -/
theorem mem_detected {sid : ServerId} {ns : Finset String} :
    (sid, ns) ∈ detected T.env T.db ↔ ∃ s ∈ T.db.servers.rows, s.id = sid ∧ T.names s = ns := by
  have hrep : ∀ s ∈ T.db.servers.rows, reportedNodes T.env.probe s = some (T.names s) := by
    intro s hs
    obtain ⟨ns, hp, hn⟩ := T.probed s hs
    simp [reportedNodes, T.auth s hs, hp, names, hn]
  unfold detected
  rw [mem_serverNodes]
  constructor
  · rintro ⟨s, hs, hid, hr⟩
    have hs' := T.mem_online.mp hs
    rw [hrep s hs', Option.some.injEq] at hr
    exact ⟨s, hs', hid, hr⟩
  · rintro ⟨s, hs, hid, rfl⟩
    exact ⟨s, T.mem_online.mpr hs, hid, hrep s hs⟩

/-- The id guests of a server are stored under: the smallest of its node set, or its own. -/
theorem tickKey_spec {s : ProxmoxServer} (hs : s ∈ T.db.servers.rows) :
    (1 < (T.names s).card → ∃ t ∈ T.db.servers.rows, t.id = tickKey T.env T.db s.id ∧
      T.names t = T.names s ∧ ∀ u ∈ T.db.servers.rows, T.names u = T.names s → t.id ≤ u.id) ∧
    (¬1 < (T.names s).card → tickKey T.env T.db s.id = s.id) := by
  have hm : (s.id, T.names s) ∈ detected T.env T.db := T.mem_detected.mpr ⟨s, hs, rfl, rfl⟩
  have hc := clusterMap_of_mem (detected_nodup T.env T.db) hm
  unfold tickKey storageKey
  rw [hc]
  constructor
  · intro hcard
    have hself := mem_nodeSetToServers.mpr ⟨hm, hcard⟩
    cases hmin : (nodeSetToServers (detected T.env T.db) (T.names s)).min? with
    | none =>
      rw [List.min?_eq_none_iff] at hmin
      rw [hmin] at hself
      exact absurd hself List.not_mem_nil
    | some c =>
      obtain ⟨hcm, hle⟩ := List.min?_eq_some_iff.mp hmin
      obtain ⟨t, ht, rfl, hn⟩ := T.mem_detected.mp (mem_nodeSetToServers.mp hcm).1
      refine ⟨t, ht, rfl, hn, fun u hu hun => hle u.id ?_⟩
      exact mem_nodeSetToServers.mpr ⟨T.mem_detected.mpr ⟨u, hu, rfl, hun⟩, hcard⟩
  · intro hcard
    have hnil : nodeSetToServers (detected T.env T.db) (T.names s) = [] := by
      rw [List.eq_nil_iff_forall_not_mem]
      exact fun a ha => hcard (mem_nodeSetToServers.mp ha).2
    rw [hnil]
    rfl

/-- The storage id of a server is a registered server. -/
theorem exists_tickKey {s : ProxmoxServer} (hs : s ∈ T.db.servers.rows) :
    ∃ t ∈ T.db.servers.rows, t.id = tickKey T.env T.db s.id := by
  have ho := online_tickKey T.env (online_of_mem (T.mem_online.mpr hs))
  obtain ⟨t, ht, hid⟩ := List.mem_map.mp ho
  exact ⟨t, T.mem_online.mp ht, hid⟩

/-- A server is merged exactly when its guests are stored under another installation. -/
theorem merged_iff {s : ProxmoxServer} (hs : s ∈ T.db.servers.rows) :
    T.Merged s ↔ T.inst (tickKey T.env T.db s.id) ≠ T.inst s.id := by
  obtain ⟨hmulti, hsingle⟩ := T.tickKey_spec hs
  constructor
  · rintro ⟨hcard, t, ht, htn, hinst, hle⟩
    obtain ⟨t', ht', hid, htn', hle'⟩ := hmulti hcard
    have he : t.id = t'.id := le_antisymm (hle t' ht' htn') (hle' t ht htn)
    rw [← hid, ← he]
    exact hinst
  · intro hinst
    by_cases hcard : 1 < (T.names s).card
    · obtain ⟨t, ht, hid, htn, hle⟩ := hmulti hcard
      exact ⟨hcard, t, ht, htn, hid ▸ hinst, hle⟩
    · rw [hsingle hcard] at hinst
      exact absurd rfl hinst

/-- Members of one installation with two or more nodes store under one id. -/
theorem tickKey_eq_of_inst_eq {s t : ProxmoxServer} (hs : s ∈ T.db.servers.rows)
    (ht : t ∈ T.db.servers.rows) (h : T.inst t.id = T.inst s.id)
    (hcard : 1 < (T.names s).card) : tickKey T.env T.db t.id = tickKey T.env T.db s.id := by
  have hn : T.names t = T.names s := by
    unfold names
    rw [h]
  obtain ⟨a, ha, hai, han, hale⟩ := (T.tickKey_spec hs).1 hcard
  obtain ⟨b, hb, hbi, hbn, hble⟩ := (T.tickKey_spec ht).1 (hn ▸ hcard)
  rw [← hai, ← hbi]
  exact le_antisymm (hble a ha (han.trans hn.symm)) (hale b hb (hbn.trans hn))

/-! ## Rows after a full tick -/

theorem lists_iff {s : ProxmoxServer} (hs : s ∈ T.db.servers.rows) {r : Resource}
    {ty : VmType} :
    Lists T.env.fetch s r ty ↔
      r ∈ T.guests (T.inst s.id) ∧ r.kind.vmType? = some ty ∧ r.template = false := by
  obtain ⟨rs, hf, hmem⟩ := T.listed s hs
  have hreply : fetchedReply T.env.fetch s = some (some rs) := by
    simp [fetchedReply, T.auth s hs, hf]
  unfold Lists
  constructor
  · rintro ⟨rs', hr', hm, hk, ht⟩
    rw [hreply, Option.some.injEq, Option.some.injEq] at hr'
    subst hr'
    exact ⟨(hmem r).mp hm, hk, ht⟩
  · rintro ⟨hm, hk, ht⟩
    exact ⟨rs, hreply, (hmem r).mpr hm, hk, ht⟩

private theorem isGuest_iff {r : Resource} :
    r.isGuest = true ↔ (∃ ty, r.kind.vmType? = some ty) ∧ r.template = false := by
  simp [Resource.isGuest, Option.isSome_iff_exists]

/-- A live row of a registered server is one the tick wrote. -/
theorem shown_of_live {last : LastIpDetect} {t : ProxmoxServer} (ht : t ∈ T.db.servers.rows)
    {vmid : Vmid} {row : VMInstance} (hr : (T.after last).find? (t.id, vmid) = some row)
    (hl : row.live = true) : Shown T.env T.db (t.id, vmid) := by
  by_contra hk
  unfold after at hr
  rw [syncVmCache_find?_of_not_shown T.commitOk hk, Option.map_eq_some_iff] at hr
  obtain ⟨r, hr, rfl⟩ := hr
  have hkey := T.db.vms.key_of_find? hr
  by_cases hs : isStale T.env T.db r = true
  · rw [if_pos hs] at hl
    exact absurd hl (by simp [markDeleted, VMInstance.live])
  · rw [if_neg hs] at hl
    apply hs
    rw [isStale_iff, hkey]
    have hsid : r.serverId = t.id := congrArg Prod.fst hkey
    exact ⟨hl, hsid ▸ online_of_mem (T.mem_online.mpr ht), hk⟩

theorem describes_upsertRow {f : Found} (hk : f.data.kind.vmType? = some f.vmType)
    (ip : Option String) (o : Option VMInstance) (ho : ∀ r ∈ o, r.key = f.key) (time : Time) :
    Describes (upsertRow time f ip o) f.data := by
  have hsid : (upsertRow time f ip o).serverId = f.serverId :=
    congrArg Prod.fst (key_upsertRow time f ip o ho)
  refine ⟨f.vmType, hk, ?_⟩
  rw [hsid]
  cases o <;> exact ⟨rfl, rfl, rfl, rfl, rfl, rfl, rfl⟩

/-- The address an upsert leaves is the one found for this tick or the one the row had. -/
theorem ipAddress_upsertRow (f : Found) (ip : Option String) (o : Option VMInstance)
    (time : Time) :
    (upsertRow time f ip o).ipAddress = ip ∨
      (upsertRow time f ip o).ipAddress = o.bind VMInstance.ipAddress := by
  cases o with
  | none => exact Or.inl rfl
  | some r =>
    by_cases h : truthy ip = true
    · exact Or.inl (if_pos h)
    · exact Or.inr (if_neg h)

variable {T}

/-- Where no guest is merged, a collected guest is stored under its own installation. -/
theorem inst_of_collected (hsep : ∀ s ∈ T.db.servers.rows,
      (∃ g ∈ T.guests (T.inst s.id), g.isGuest = true) → ¬T.Merged s)
    {f : Found} (hf : f ∈ (collected T.env T.db).allVmsData) :
    f.data ∈ T.guests (T.inst f.serverId) ∧ f.data.kind.vmType? = some f.vmType ∧
      f.data.template = false := by
  obtain ⟨s, hs, hl, hk⟩ := mem_collect hf
  have hs' := T.mem_online.mp hs
  obtain ⟨hm, hty, htpl⟩ := (T.lists_iff hs').mp hl
  have hg : f.data.isGuest = true := isGuest_iff.mpr ⟨⟨_, hty⟩, htpl⟩
  have hnm := hsep s hs' ⟨f.data, hm, hg⟩
  rw [T.merged_iff hs', not_not] at hnm
  refine ⟨?_, hty, htpl⟩
  rw [hk]
  exact hnm.symm ▸ hm

/-- Where no guest is merged, the address of a collected guest is its own. -/
theorem addressOwn_of_collected (hsep : ∀ s ∈ T.db.servers.rows,
      (∃ g ∈ T.guests (T.inst s.id), g.isGuest = true) → ¬T.Merged s)
    {last : LastIpDetect} {t : ProxmoxServer} {f : Found} (hid : f.serverId = t.id)
    (hty : f.data.kind.vmType? = some f.vmType) :
    T.AddressOwn t f.data (upsertRow T.env.syncTime f
      (ipAddressFor T.env T.db.ipam (collected T.env T.db).serverClients last f)
      (T.db.vms.find? f.key)) := by
  have hkey : (t.id, f.data.vmid) = f.key := Prod.ext hid.symm rfl
  have hf : (⟨t.id, f.data, f.vmType⟩ : Found) = f := by rw [← hid]
  unfold AddressOwn
  rw [hkey]
  rcases ipAddress_upsertRow f
      (ipAddressFor T.env T.db.ipam (collected T.env T.db).serverClients last f)
      (T.db.vms.find? f.key) T.env.syncTime with he | he
  · rw [he]
    rcases ipAddressFor_cases T.env T.db.ipam (collected T.env T.db).serverClients last f with
      hip | ⟨c, hc, hck, hip⟩
    · exact Or.inr (Or.inl hip)
    · obtain ⟨u, hu, rfl⟩ := mem_serverClients hc
      have hu' := T.mem_online.mp hu
      have huk : tickKey T.env T.db u.id = t.id := hck.trans hid
      refine Or.inr (Or.inr ⟨u, hu', f.vmType, hty, hf ▸ hip, ?_⟩)
      intro hne g' hg' hguest
      have hnm := hsep u hu' ⟨g', hg', hguest⟩
      rw [T.merged_iff hu', not_not, huk] at hnm
      exact absurd hnm.symm hne
  · exact Or.inl he

/-- Without a merged guest the installations stay apart. -/
theorem separated_of_not_merged (last : LastIpDetect) (hsep : ∀ s ∈ T.db.servers.rows,
      (∃ g ∈ T.guests (T.inst s.id), g.isGuest = true) → ¬T.Merged s) :
    T.Separated last := by
  constructor
  · intro s hs g hg hguest
    have hinst := hsep s hs ⟨g, hg, hguest⟩
    rw [T.merged_iff hs, not_not] at hinst
    obtain ⟨t, ht, hid⟩ := T.exists_tickKey hs
    obtain ⟨⟨ty, hty⟩, htpl⟩ := isGuest_iff.mp hguest
    have hshown : Shown T.env T.db (t.id, g.vmid) :=
      ⟨s, T.mem_online.mpr hs, hid.symm, g, ty, (T.lists_iff hs).mpr ⟨hg, hty, htpl⟩, rfl⟩
    obtain ⟨f, hf, hfk, hres⟩ := syncVmCache_find?_of_shown last T.commitOk hshown
    obtain ⟨hfm, hfty, _⟩ := inst_of_collected hsep hf
    have hfs : f.serverId = t.id := congrArg Prod.fst hfk
    have hfv : f.data.vmid = g.vmid := congrArg Prod.snd hfk
    have hti : T.inst t.id = T.inst s.id := by rw [hid]; exact hinst
    have hfg : f.data = g := by
      rw [hfs, hti] at hfm
      exact T.vmid_unique _ _ hfm _ hg hfv
    have hdesc : Describes (upsertRow T.env.syncTime f
        (ipAddressFor T.env T.db.ipam (collected T.env T.db).serverClients last f)
        (T.db.vms.find? (t.id, g.vmid))) f.data := by
      refine describes_upsertRow hfty _ _ ?_ _
      intro r hr
      rw [hfk]
      exact T.db.vms.key_of_find? hr
    exact ⟨t, ht, hti, _, hres, live_upsertRow _ _ _ _, hfg ▸ hdesc⟩
  · intro t ht vmid row hr hl
    obtain ⟨f, hf, hfk, hres⟩ :=
      syncVmCache_find?_of_shown last T.commitOk (T.shown_of_live ht hr hl)
    unfold after at hr
    rw [hr, Option.some.injEq] at hres
    subst hres
    obtain ⟨hfm, hfty, htpl⟩ := inst_of_collected hsep hf
    have hfs : f.serverId = t.id := congrArg Prod.fst hfk
    have hfv : f.data.vmid = vmid := congrArg Prod.snd hfk
    rw [hfs] at hfm
    refine ⟨f.data, hfm, isGuest_iff.mpr ⟨⟨_, hfty⟩, htpl⟩, hfv, ?_, ?_⟩
    · refine describes_upsertRow hfty _ _ ?_ _
      intro r hr'
      rw [hfk]
      exact T.db.vms.key_of_find? hr'
    · rw [← hfk]
      exact addressOwn_of_collected hsep hfs hfty

/-- A merged guest has no row under its own installation. -/
theorem not_separated_of_merged (last : LastIpDetect) {s : ProxmoxServer}
    (hs : s ∈ T.db.servers.rows) {g : Resource} (hg : g ∈ T.guests (T.inst s.id))
    (hguest : g.isGuest = true) (hm : T.Merged s) : ¬T.Separated last := by
  intro h
  obtain ⟨t, ht, hti, row, hr, hl, _⟩ := h.own s hs g hg hguest
  obtain ⟨u, _, huk, _⟩ := T.shown_of_live ht hr hl
  have htk : tickKey T.env T.db t.id = t.id := by
    have hself := storageKey_storageKey (detected_nodup T.env T.db) u.id
    unfold tickKey at huk ⊢
    rwa [huk] at hself
  have hst := T.tickKey_eq_of_inst_eq hs ht hti hm.1
  have hne := (T.merged_iff hs).mp hm
  rw [← hst, htk] at hne
  exact hne hti

/-- A tick that listed every server keeps the installations apart exactly when no guest belongs
to a server whose node set is led by a server of another installation. -/
theorem separated_iff (T : FullTick) (last : LastIpDetect) :
    T.Separated last ↔ ∀ s ∈ T.db.servers.rows,
      (∃ g ∈ T.guests (T.inst s.id), g.isGuest = true) → ¬T.Merged s := by
  constructor
  · rintro h s hs ⟨g, hg, hguest⟩ hm
    exact not_separated_of_merged last hs hg hguest hm h
  · exact separated_of_not_merged last

end FullTick

/-! ## Two installations with the same node names -/

/-- Two clusters of two nodes each, both with nodes `a` and `b` and a container 100. -/
def twoClusters : FullTick where
  env :=
    { probe := fun _ => .nodes ["a", "b"]
      fetch := fun sid => .answered (some [sampleGuest 100 (if sid = 1 then "web" else "mail")])
      view := fun _ => silentView
      syncTime := 2
      clock := 1000
      commitOk := true }
  db :=
    { servers := samplePair
      vms := .empty
      ipam := ⟨.empty, []⟩ }
  inst := id
  nodes := fun _ => ["a", "b"]
  guests := fun i => [sampleGuest 100 (if i = 1 then "web" else "mail")]
  vmid_unique := by
    intro i r hr r' hr' _
    rw [List.mem_singleton.mp hr, List.mem_singleton.mp hr']
  commitOk := rfl
  online := by decide
  auth := by decide
  probed := fun _ _ => ⟨_, rfl, rfl⟩
  listed := fun _ _ => ⟨_, rfl, fun _ => Iff.rfl⟩

/-- The second installation's container is dropped as a duplicate of the first one's. -/
theorem twoClusters_not_separated : ¬twoClusters.Separated .empty := by
  have hm : twoClusters.Merged (sampleServer 2) :=
    ⟨by decide, sampleServer 1, by decide, rfl, by decide, by decide⟩
  exact FullTick.not_separated_of_merged .empty (by decide) (List.mem_singleton_self _) rfl hm

end PveManager.Sync
