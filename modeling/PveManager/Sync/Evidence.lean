import PveManager.Sync.Tick

/-!
# Deletion needs evidence

Soft-deleting a row frees the guest's addresses, so it should rest on a listing
that was really fetched and does not contain the guest. The tick instead takes
every live row of an online server that it did not collect. The main result says
for which inputs the two agree: where no row is blind and no row is misplaced.
-/

namespace PveManager.Sync

open PveManager.Core

/-- Which Proxmox cluster, or single node, a registered server really belongs to. -/
abbrev Installation := ServerId → Nat

/-- A listing of some member of the server's installation was fetched in this tick. -/
def Covered (inst : Installation) (env : TickEnv) (db : Db) (sid : ServerId) : Prop :=
  ∃ s ∈ onlineServers db, inst s.id = inst sid ∧
    ∃ rs, fetchedReply env.fetch s = some (some rs)

/-- A listing contains the guest, as machine or container, template or not. -/
def Contains (rs : List Resource) (vmid : Vmid) : Prop :=
  ∃ r ∈ rs, r.kind.vmType?.isSome = true ∧ r.vmid = vmid

/-- A fetched listing of the installation does not contain the guest. -/
def Evidence (inst : Installation) (env : TickEnv) (db : Db) (k : ServerId × Vmid) : Prop :=
  ∃ s ∈ onlineServers db, inst s.id = inst k.1 ∧
    ∃ rs, fetchedReply env.fetch s = some (some rs) ∧ ¬Contains rs k.2

/-- What the tick may do to the database: a row is soft-deleted, and an address released, only
on evidence. -/
structure DeletesOnEvidence (inst : Installation) (env : TickEnv) (last : LastIpDetect)
    (db : Db) : Prop where
  rows : ∀ k, SoftDeleted env last db k → Evidence inst env db k
  addresses : ∀ a ∈ db.ipam.allocations.rows,
    a ∉ (syncVmCache env last db).db.ipam.allocations.rows →
      ∃ k, (a.keyedTo k.1 k.2 = true ∨ Ipam.legacyFor a k.2 = true) ∧ Evidence inst env db k

/-- A live row the tick works on without having anything to go by: its server is online, no
collected guest has its key, and no member of its installation was listed. -/
def Blind (inst : Installation) (env : TickEnv) (db : Db) (r : VMInstance) : Prop :=
  r.live = true ∧ Online db r.serverId ∧ ¬Shown env db r.key ∧
    ¬Covered inst env db r.serverId

/-- A live row of a guest that is still there: every fetched listing of its installation
contains it, but no server stored under the row's id lists it as a guest of its own, because
the cluster is stored under another id or the guest became a template. -/
def Misplaced (inst : Installation) (env : TickEnv) (db : Db) (r : VMInstance) : Prop :=
  r.live = true ∧ Online db r.serverId ∧ ¬Shown env db r.key ∧
    Covered inst env db r.serverId ∧
    ∀ s ∈ onlineServers db, inst s.id = inst r.serverId →
      ∀ rs, fetchedReply env.fetch s = some (some rs) → Contains rs r.vmid

/-- A live uncollected row of an online server has evidence unless it is blind or misplaced. -/
theorem evidence_iff {inst : Installation} {env : TickEnv} {db : Db} {r : VMInstance}
    (hl : r.live = true) (ho : Online db r.serverId) (hk : ¬Shown env db r.key) :
    Evidence inst env db r.key ↔ ¬Blind inst env db r ∧ ¬Misplaced inst env db r := by
  constructor
  · rintro ⟨s, hs, hi, rs, hf, hc⟩
    refine ⟨fun hb => hb.2.2.2 ⟨s, hs, hi, rs, hf⟩, fun hm => ?_⟩
    exact hc (hm.2.2.2.2 s hs hi rs hf)
  · rintro ⟨hb, hm⟩
    have hcov : Covered inst env db r.serverId := by
      by_contra hcov
      exact hb ⟨hl, ho, hk, hcov⟩
    by_contra he
    refine hm ⟨hl, ho, hk, hcov, fun s hs hi rs hf => ?_⟩
    by_contra hc
    exact he ⟨s, hs, hi, rs, hf, hc⟩

/-- The tick deletes on evidence exactly when its commit fails, or no row is blind and none is
misplaced. -/
theorem deletesOnEvidence_iff (inst : Installation) (env : TickEnv) (last : LastIpDetect)
    (db : Db) :
    DeletesOnEvidence inst env last db ↔
      (env.commitOk = true →
        ∀ r ∈ db.vms.rows, ¬Blind inst env db r ∧ ¬Misplaced inst env db r) := by
  constructor
  · intro h hc r hr
    by_cases hg : r.live = true ∧ Online db r.serverId ∧ ¬Shown env db r.key
    · obtain ⟨hl, ho, hk⟩ := hg
      have hsd : SoftDeleted env last db r.key :=
        (softDeleted_iff hc).mpr ⟨⟨r, db.vms.find?_key hr, hl⟩, ho, hk⟩
      exact (evidence_iff hl ho hk).mp (h.rows _ hsd)
    · exact ⟨fun hb => hg ⟨hb.1, hb.2.1, hb.2.2.1⟩, fun hm => hg ⟨hm.1, hm.2.1, hm.2.2.1⟩⟩
  · intro h
    have hrows : ∀ k, SoftDeleted env last db k → Evidence inst env db k := by
      intro k hsd
      by_cases hc : env.commitOk = true
      · obtain ⟨⟨r, hr, hl⟩, ho, hk⟩ := (softDeleted_iff hc).mp hsd
        have hkey := db.vms.key_of_find? hr
        subst hkey
        exact (evidence_iff hl ho hk).mpr (h hc r (db.vms.mem_of_find? hr))
      · obtain ⟨⟨r, hr, hl⟩, r', hr', hl'⟩ := hsd
        rw [syncVmCache_db_of_not_commit (by simpa using hc), hr, Option.some.injEq] at hr'
        rw [← hr', hl] at hl'
        exact absurd hl' (by simp)
    refine ⟨hrows, fun a ha hn => ?_⟩
    obtain ⟨k, hsd, hk⟩ := softDeleted_of_released ha hn
    exact ⟨k, hk, hrows k hsd⟩

/-! ## A skipped server -/

/-- A registered server with a stored password, online at its last check. -/
def sampleServer (id : ServerId) : ProxmoxServer where
  id := id
  name := "pve"
  hostname := "pve"
  ipAddress := "10.0.0.1"
  port := 8006
  apiUser := "root@pam"
  apiTokenName := none
  apiTokenValue := none
  usePassword := true
  password := some "secret"
  verifySsl := false
  clusterName := none
  description := none
  isOnline := some true
  lastCheck := none
  lastError := none
  lastErrorKind := none

/-- A running container as `/cluster/resources` lists it. -/
def sampleGuest (vmid : Vmid) (name : String) : Resource where
  kind := .lxc
  vmid := vmid
  name := some name
  node := some "a"
  status := some "running"
  template := false
  cpus := none
  maxcpu := some 2
  maxmem := some 1073741824
  maxdisk := some 8589934592
  ostype := none

/-- The cached row of such a container. -/
def sampleRow (sid : ServerId) (vmid : Vmid) (name : String) (owner : Option UserId) :
    VMInstance :=
  { newRow 1 ⟨sid, sampleGuest vmid name, .lxc⟩ none with ownerId := owner }

/-- An address recorded for a guest. -/
def sampleAllocation (sid : ServerId) (vmid : Vmid) (ip : String) : IPAMAllocation where
  id := 1
  networkId := 1
  ipAddress := ip
  resourceType := some "lxc"
  resourceId := some vmid
  resourceName := none
  proxmoxServerId := some sid
  proxmoxVmid := some vmid
  proxmoxNode := some "a"
  status := "allocated"
  isPrimary := true

/-- Two registered servers. -/
def samplePair : KeyedTable ProxmoxServer.id := ⟨[sampleServer 1, sampleServer 2], by decide⟩

/-- The guest of user 7 and its address. -/
def sampleVms : KeyedTable VMInstance.key := ⟨[sampleRow 1 100 "web" (some 7)], by decide⟩

def sampleIpam : Ipam := ⟨⟨[sampleAllocation 1 100 "10.0.0.5"], by decide⟩, []⟩

/-- A server whose addresses cannot be asked for. -/
def silentView : AddressView := ⟨fun _ _ _ => none, fun _ _ => none⟩

/-- One online server with one cached, addressed container. -/
def skippedDb : Db where
  servers := ⟨[sampleServer 1], by decide⟩
  vms := sampleVms
  ipam := sampleIpam

/-- A tick in which the server answers the probe and is not connected when it is listed. -/
def skippedEnv : TickEnv where
  probe := fun _ => .nodes ["a"]
  fetch := fun _ => .disconnected
  view := fun _ => silentView
  syncTime := 2
  clock := 1000
  commitOk := true

/-- A server that is skipped because it is not connected loses its guest and the address. -/
theorem skipped_server_not_deletesOnEvidence :
    ¬DeletesOnEvidence id skippedEnv .empty skippedDb := by
  intro h
  have hsd : SoftDeleted skippedEnv .empty skippedDb (1, 100) :=
    ⟨⟨sampleRow 1 100 "web" (some 7), by decide, rfl⟩,
      markDeleted 2 (sampleRow 1 100 "web" (some 7)), by decide, rfl⟩
  obtain ⟨s, hs, _, rs, hf, _⟩ := h.rows _ hsd
  have hnone : fetchedReply skippedEnv.fetch s = none := by
    unfold fetchedReply
    split <;> rfl
  rw [hnone] at hf
  exact absurd hf (by simp)

end PveManager.Sync
