import PveManager.Sync.Cluster

/-!
# Collecting the guests

The second pass of `sync_vm_cache` lists the guests of every online server and
keeps each number once per namespace: the detected cluster of the server, or the
server itself when it has none. The lemmas name the collected entries by the
answers they come from, so that later modules never unfold the loop.
-/

namespace PveManager.Sync

/-- The `type` of an entry of `/cluster/resources`. -/
inductive ResourceKind
  | qemu
  | lxc
  | other (name : String)
  deriving DecidableEq, Repr

/-- One entry of `/cluster/resources`; an absent key is `none`. -/
structure Resource where
  kind : ResourceKind
  vmid : Vmid
  name : Option String
  node : Option String
  status : Option String
  /-- Truth value of the `template` flag. -/
  template : Bool
  cpus : Option Nat
  maxcpu : Option Nat
  maxmem : Option Nat
  maxdisk : Option Nat
  ostype : Option String
  deriving DecidableEq, Repr

/-- What listing one server in the second pass comes to. -/
inductive Fetch
  /-- Building the client or the listing raised. -/
  | raised
  /-- `is_connected` answered false and the server is skipped. -/
  | disconnected
  /-- The client is connected; the request answers a listing, or fails. -/
  | answered (reply : Option (List Resource))
  deriving DecidableEq, Repr

/-- `get_cluster_resources`: a failed request reads as the empty list. -/
def getClusterResources (reply : Option (List Resource)) : List Resource := reply.getD []

/-- The reply of a server the second pass gets to. -/
def fetchedReply (fetch : ServerId → Fetch) (s : ProxmoxServer) : Option (Option (List Resource)) :=
  if hasAuth s then
    match fetch s.id with
    | .raised => none
    | .disconnected => none
    | .answered reply => some reply
  else none

/-- The two dictionaries of seen numbers: one per cluster id, one per server id. -/
inductive Namespace
  | cluster (id : ServerId)
  | standalone (id : ServerId)
  deriving DecidableEq, Repr

/-- `use_server_id` of a namespace. -/
def Namespace.useServerId : Namespace → ServerId
  | .cluster c => c
  | .standalone s => s

/-- The dedup set a server uses. -/
def namespaceOf (entries : List (ServerId × Finset String)) (sid : ServerId) : Namespace :=
  match clusterMap entries sid with
  | some c => .cluster c
  | none => .standalone sid

/-- A collected guest: the id it is stored under, the entry and its kind. -/
structure Found where
  serverId : ServerId
  data : Resource
  vmType : VmType
  deriving DecidableEq, Repr

/-- The key of the row a collected guest is written to. -/
def Found.key (f : Found) : ServerId × Vmid := (f.serverId, f.data.vmid)

/-- State of the collection loop. -/
structure Collected where
  seen : List (Namespace × Vmid)
  allVmsData : List Found
  /-- `server_clients`: storage id to the server whose client answers for it. -/
  serverClients : List (ServerId × ServerId)

/-- One guest of a listing: templates and seen numbers are skipped. -/
def takeGuest (ns : Namespace) (ty : VmType) (acc : Collected) (r : Resource) : Collected :=
  if r.template then acc
  else if (ns, r.vmid) ∈ acc.seen then acc
  else { acc with
    seen := (ns, r.vmid) :: acc.seen
    allVmsData := acc.allVmsData ++ [⟨ns.useServerId, r, ty⟩] }

/-- Remember whose client answers for a storage id: the first for a cluster, the server's
own otherwise. -/
def registerClient (ns : Namespace) (sid : ServerId) (acc : Collected) : Collected :=
  match ns with
  | .cluster c =>
    if c ∈ acc.serverClients.map Prod.fst then acc
    else { acc with serverClients := acc.serverClients ++ [(c, sid)] }
  | .standalone s => { acc with serverClients := acc.serverClients ++ [(s, sid)] }

/-- One round of the collection loop. -/
def collectServer (entries : List (ServerId × Finset String)) (fetch : ServerId → Fetch)
    (acc : Collected) (s : ProxmoxServer) : Collected :=
  match fetchedReply fetch s with
  | none => acc
  | some reply =>
    let resources := getClusterResources reply
    let vms := resources.filter fun r => r.kind = .qemu
    let containers := resources.filter fun r => r.kind = .lxc
    let ns := namespaceOf entries s.id
    let acc := registerClient ns s.id acc
    let acc := vms.foldl (takeGuest ns .qemu) acc
    containers.foldl (takeGuest ns .lxc) acc

/-- The whole second pass. -/
def collect (entries : List (ServerId × Finset String)) (fetch : ServerId → Fetch)
    (servers : List ProxmoxServer) : Collected :=
  servers.foldl (collectServer entries fetch) ⟨[], [], []⟩

/-! ## Namespaces and storage keys -/

section Namespaces

variable {entries : List (ServerId × Finset String)}

/-- The storage id of a namespace is the storage key of its server. -/
theorem useServerId_namespaceOf (sid : ServerId) :
    (namespaceOf entries sid).useServerId = storageKey entries sid := by
  unfold namespaceOf storageKey
  cases clusterMap entries sid <;> rfl

/-- Servers that store under one id share one dedup set. -/
theorem namespaceOf_eq_of_storageKey_eq (hnd : (entries.map Prod.fst).Nodup) {s t : ServerId}
    (h : storageKey entries s = storageKey entries t) :
    namespaceOf entries s = namespaceOf entries t := by
  have hself : ∀ {u c : ServerId}, clusterMap entries u = some c →
      clusterMap entries c = some c := by
    intro u c hu
    obtain ⟨nodes, hun, _, hcn, _⟩ := clusterMap_eq_some hu
    rw [clusterMap_of_mem hnd hcn, ← clusterMap_of_mem hnd hun, hu]
  unfold storageKey at h
  unfold namespaceOf
  cases hs : clusterMap entries s with
  | none =>
    cases ht : clusterMap entries t with
    | none =>
      simp only [hs, ht, Option.getD_none] at h
      rw [h]
    | some c =>
      simp only [hs, ht, Option.getD_none, Option.getD_some] at h
      have hc := hself ht
      rw [← h, hs] at hc
      exact absurd hc (by simp)
  | some d =>
    cases ht : clusterMap entries t with
    | none =>
      simp only [hs, ht, Option.getD_none, Option.getD_some] at h
      have hd := hself hs
      rw [h, ht] at hd
      exact absurd hd (by simp)
    | some c =>
      simp only [hs, ht, Option.getD_some] at h
      rw [h]

end Namespaces

/-! ## What the loop collects -/

/-- The guest kind of an entry, if it is a guest at all. -/
def ResourceKind.vmType? : ResourceKind → Option VmType
  | .qemu => some .qemu
  | .lxc => some .lxc
  | .other _ => none

/-- An entry the sync caches: a guest that is not a template. -/
def Resource.isGuest (r : Resource) : Bool := r.kind.vmType?.isSome && !r.template

section TakeGuest

variable {ns : Namespace} {ty : VmType}

/-- The inner loop only appends: collected guests stay. -/
theorem mem_allVmsData_foldl_takeGuest_of_mem {f : Found} {rs : List Resource} {acc : Collected}
    (h : f ∈ acc.allVmsData) : f ∈ (rs.foldl (takeGuest ns ty) acc).allVmsData := by
  induction rs generalizing acc with
  | nil => exact h
  | cons r rs ih =>
    apply ih
    unfold takeGuest
    split
    · exact h
    · split
      · exact h
      · exact List.mem_append_left _ h

/-- A guest the inner loop adds comes from its listing and its namespace. -/
theorem mem_allVmsData_foldl_takeGuest {f : Found} {rs : List Resource} {acc : Collected}
    (h : f ∈ (rs.foldl (takeGuest ns ty) acc).allVmsData) :
    f ∈ acc.allVmsData ∨
      ∃ r ∈ rs, r.template = false ∧ f = ⟨ns.useServerId, r, ty⟩ := by
  induction rs generalizing acc with
  | nil => exact Or.inl h
  | cons r rs ih =>
    rcases ih h with hm | ⟨r', hr', ht, he⟩
    · unfold takeGuest at hm
      split at hm
      · exact Or.inl hm
      · split at hm
        · exact Or.inl hm
        · rename_i ht _
          rcases List.mem_append.mp hm with hm | hm
          · exact Or.inl hm
          · rw [List.mem_singleton] at hm
            exact Or.inr ⟨r, List.mem_cons_self, by simpa using ht, hm⟩
    · exact Or.inr ⟨r', List.mem_cons_of_mem _ hr', ht, he⟩

@[simp] theorem serverClients_foldl_takeGuest (rs : List Resource) (acc : Collected) :
    (rs.foldl (takeGuest ns ty) acc).serverClients = acc.serverClients := by
  induction rs generalizing acc with
  | nil => rfl
  | cons r rs ih =>
    rw [List.foldl_cons, ih]
    unfold takeGuest
    split
    · rfl
    · split <;> rfl

end TakeGuest

/-- The loop's own bookkeeping: the seen numbers are exactly those of the collected guests,
no guest is collected twice, and the guests of a namespace carry its storage id. -/
structure SeenInvariant (entries : List (ServerId × Finset String)) (acc : Collected) : Prop where
  /-- Every collected guest was marked in the dedup set of a server of its storage id. -/
  marked : ∀ f ∈ acc.allVmsData, ∃ t, storageKey entries t = f.serverId ∧
    (namespaceOf entries t, f.data.vmid) ∈ acc.seen
  /-- Every marked number belongs to a collected guest. -/
  stored : ∀ ns vmid, (ns, vmid) ∈ acc.seen →
    ∃ f ∈ acc.allVmsData, f.serverId = ns.useServerId ∧ f.data.vmid = vmid
  /-- One collected guest per key. -/
  nodup : (acc.allVmsData.map Found.key).Nodup

theorem seenInvariant_empty (entries : List (ServerId × Finset String)) :
    SeenInvariant entries ⟨[], [], []⟩ :=
  ⟨by simp, by simp, List.nodup_nil⟩

/-- One guest keeps the bookkeeping. -/
theorem SeenInvariant.takeGuest {entries : List (ServerId × Finset String)}
    (hnd : (entries.map Prod.fst).Nodup) {acc : Collected} (h : SeenInvariant entries acc)
    (sid : ServerId) (ty : VmType) (r : Resource) :
    SeenInvariant entries (takeGuest (namespaceOf entries sid) ty acc r) := by
  unfold Sync.takeGuest
  split
  · exact h
  · split
    · exact h
    · rename_i hnew
      refine ⟨?_, ?_, ?_⟩
      · intro f hf
        rcases List.mem_append.mp hf with hf | hf
        · obtain ⟨t, hk, hm⟩ := h.marked f hf
          exact ⟨t, hk, List.mem_cons_of_mem _ hm⟩
        · rw [List.mem_singleton] at hf
          subst hf
          exact ⟨sid, (useServerId_namespaceOf sid).symm, List.mem_cons_self⟩
      · intro ns vmid hm
        rcases List.mem_cons.mp hm with he | hm
        · rw [Prod.mk.injEq] at he
          obtain ⟨rfl, rfl⟩ := he
          exact ⟨_, List.mem_append_right _ (List.mem_singleton_self _), rfl, rfl⟩
        · obtain ⟨f, hf, hk⟩ := h.stored ns vmid hm
          exact ⟨f, List.mem_append_left _ hf, hk⟩
      · rw [List.map_append, List.map_cons, List.map_nil]
        refine List.nodup_append.mpr ⟨h.nodup, List.nodup_singleton _, ?_⟩
        intro a ha b hb hab
        rw [List.mem_singleton] at hb
        subst hb
        obtain ⟨f, hf, rfl⟩ := List.mem_map.mp ha
        obtain ⟨t, hk, hm⟩ := h.marked f hf
        simp only [Found.key, Prod.mk.injEq, useServerId_namespaceOf] at hab
        have hns := namespaceOf_eq_of_storageKey_eq hnd (hk.trans hab.1)
        rw [hns, hab.2] at hm
        exact hnew hm

theorem SeenInvariant.foldl_takeGuest {entries : List (ServerId × Finset String)}
    (hnd : (entries.map Prod.fst).Nodup) (sid : ServerId) (ty : VmType) (rs : List Resource)
    {acc : Collected} (h : SeenInvariant entries acc) :
    SeenInvariant entries (rs.foldl (Sync.takeGuest (namespaceOf entries sid) ty) acc) := by
  induction rs generalizing acc with
  | nil => exact h
  | cons r rs ih => exact ih (h.takeGuest hnd sid ty r)

/-- Every guest of a listing is collected under its namespace's storage id, possibly through
another entry of the same number. -/
theorem SeenInvariant.foldl_takeGuest_covers {entries : List (ServerId × Finset String)}
    (hnd : (entries.map Prod.fst).Nodup) (sid : ServerId) (ty : VmType) {rs : List Resource}
    {acc : Collected} (h : SeenInvariant entries acc) {r : Resource} (hr : r ∈ rs)
    (ht : r.template = false) :
    ∃ f ∈ (rs.foldl (Sync.takeGuest (namespaceOf entries sid) ty) acc).allVmsData,
      f.key = (storageKey entries sid, r.vmid) := by
  induction rs generalizing acc with
  | nil => exact absurd hr List.not_mem_nil
  | cons x rs ih =>
    rcases List.mem_cons.mp hr with rfl | hr
    · have hf : ∃ f ∈ (Sync.takeGuest (namespaceOf entries sid) ty acc r).allVmsData,
          f.key = (storageKey entries sid, r.vmid) := by
        unfold Sync.takeGuest
        rw [if_neg (by simp [ht])]
        split
        · rename_i hm
          obtain ⟨f, hf, hk, hv⟩ := h.stored _ _ hm
          rw [useServerId_namespaceOf] at hk
          exact ⟨f, hf, Prod.ext hk hv⟩
        · exact ⟨_, List.mem_append_right _ (List.mem_singleton_self _),
            Prod.ext (useServerId_namespaceOf sid) rfl⟩
      obtain ⟨f, hf, hk⟩ := hf
      rw [List.foldl_cons]
      exact ⟨f, mem_allVmsData_foldl_takeGuest_of_mem hf, hk⟩
    · exact ih (h.takeGuest hnd sid ty x) hr

theorem SeenInvariant.registerClient {entries : List (ServerId × Finset String)}
    {acc : Collected} (h : SeenInvariant entries acc) (ns : Namespace) (sid : ServerId) :
    SeenInvariant entries (registerClient ns sid acc) := by
  unfold Sync.registerClient
  split
  · split
    · exact h
    · exact ⟨h.marked, h.stored, h.nodup⟩
  · exact ⟨h.marked, h.stored, h.nodup⟩

@[simp] theorem allVmsData_registerClient (ns : Namespace) (sid : ServerId) (acc : Collected) :
    (registerClient ns sid acc).allVmsData = acc.allVmsData := by
  unfold registerClient
  split
  · split <;> rfl
  · rfl

theorem SeenInvariant.collectServer {entries : List (ServerId × Finset String)}
    (hnd : (entries.map Prod.fst).Nodup) (fetch : ServerId → Fetch) {acc : Collected}
    (h : SeenInvariant entries acc) (s : ProxmoxServer) :
    SeenInvariant entries (collectServer entries fetch acc s) := by
  unfold Sync.collectServer
  split
  · exact h
  · exact ((h.registerClient _ _).foldl_takeGuest hnd _ _ _).foldl_takeGuest hnd _ _ _

theorem SeenInvariant.foldl_collectServer {entries : List (ServerId × Finset String)}
    (hnd : (entries.map Prod.fst).Nodup) (fetch : ServerId → Fetch)
    (servers : List ProxmoxServer) {acc : Collected} (h : SeenInvariant entries acc) :
    SeenInvariant entries (servers.foldl (Sync.collectServer entries fetch) acc) := by
  induction servers generalizing acc with
  | nil => exact h
  | cons s rest ih => exact ih (h.collectServer hnd fetch s)

/-- The collection writes no key twice. -/
theorem collect_keys_nodup {entries : List (ServerId × Finset String)}
    (hnd : (entries.map Prod.fst).Nodup) (fetch : ServerId → Fetch)
    (servers : List ProxmoxServer) :
    ((collect entries fetch servers).allVmsData.map Found.key).Nodup :=
  ((seenInvariant_empty entries).foldl_collectServer hnd fetch servers).nodup

/-- A guest of this listing, as an entry of its kind that is not a template. -/
def Lists (fetch : ServerId → Fetch) (s : ProxmoxServer) (r : Resource) (ty : VmType) : Prop :=
  ∃ rs, fetchedReply fetch s = some (some rs) ∧ r ∈ rs ∧ r.kind.vmType? = some ty ∧
    r.template = false

private theorem kind_eq_iff (r : Resource) :
    (r.kind = .qemu ↔ r.kind.vmType? = some .qemu) ∧
      (r.kind = .lxc ↔ r.kind.vmType? = some .lxc) := by
  cases r.kind <;> simp [ResourceKind.vmType?]

/-- A guest collected in one round was there before or is listed by that server. -/
theorem mem_collectServer {entries : List (ServerId × Finset String)} {fetch : ServerId → Fetch}
    {acc : Collected} {s : ProxmoxServer} {f : Found}
    (h : f ∈ (collectServer entries fetch acc s).allVmsData) :
    f ∈ acc.allVmsData ∨
      (Lists fetch s f.data f.vmType ∧ f.serverId = storageKey entries s.id) := by
  unfold collectServer at h
  split at h
  · exact Or.inl h
  · rename_i reply hr
    have hlist : ∀ {ty kind}, (∀ r : Resource, r.kind = kind ↔ r.kind.vmType? = some ty) →
        ∀ r ∈ (getClusterResources reply).filter (fun r => r.kind = kind),
        r.template = false → Lists fetch s r ty := by
      intro ty kind hk r hm ht
      obtain ⟨hm, hkind⟩ := List.mem_filter.mp hm
      cases reply with
      | none => exact absurd hm List.not_mem_nil
      | some rs => exact ⟨rs, hr, hm, (hk r).mp (by simpa using hkind), ht⟩
    rcases mem_allVmsData_foldl_takeGuest h with h | ⟨r, hm, ht, rfl⟩
    · rcases mem_allVmsData_foldl_takeGuest h with h | ⟨r, hm, ht, rfl⟩
      · rw [allVmsData_registerClient] at h
        exact Or.inl h
      · exact Or.inr ⟨hlist (fun r => (kind_eq_iff r).1) r hm ht, useServerId_namespaceOf _⟩
    · exact Or.inr ⟨hlist (fun r => (kind_eq_iff r).2) r hm ht, useServerId_namespaceOf _⟩

/-- Every collected guest is listed by an online server that stores under that id. -/
theorem mem_collect {entries : List (ServerId × Finset String)} {fetch : ServerId → Fetch}
    {servers : List ProxmoxServer} {f : Found}
    (h : f ∈ (collect entries fetch servers).allVmsData) :
    ∃ s ∈ servers, Lists fetch s f.data f.vmType ∧ f.serverId = storageKey entries s.id := by
  have hgen : ∀ acc : Collected,
      f ∈ (servers.foldl (collectServer entries fetch) acc).allVmsData →
      f ∈ acc.allVmsData ∨
        ∃ s ∈ servers, Lists fetch s f.data f.vmType ∧ f.serverId = storageKey entries s.id := by
    clear h
    induction servers with
    | nil => exact fun acc h => Or.inl h
    | cons s rest ih =>
      intro acc h
      rcases ih _ h with h | ⟨t, ht, hl⟩
      · rcases mem_collectServer h with h | hl
        · exact Or.inl h
        · exact Or.inr ⟨s, List.mem_cons_self, hl⟩
      · exact Or.inr ⟨t, List.mem_cons_of_mem _ ht, hl⟩
  rcases hgen _ h with h | h
  · exact absurd h List.not_mem_nil
  · exact h

/-- Collected guests outlive the later rounds. -/
theorem mem_foldl_collectServer_of_mem {entries : List (ServerId × Finset String)}
    {fetch : ServerId → Fetch} {servers : List ProxmoxServer} {acc : Collected} {f : Found}
    (h : f ∈ acc.allVmsData) :
    f ∈ (servers.foldl (collectServer entries fetch) acc).allVmsData := by
  induction servers generalizing acc with
  | nil => exact h
  | cons s rest ih =>
    apply ih
    unfold collectServer
    split
    · exact h
    · apply mem_allVmsData_foldl_takeGuest_of_mem
      apply mem_allVmsData_foldl_takeGuest_of_mem
      rwa [allVmsData_registerClient]

/-- Every listed guest is collected under its server's storage id: the dedup drops a number
only where the same key is collected already. -/
theorem collect_covers {entries : List (ServerId × Finset String)}
    (hnd : (entries.map Prod.fst).Nodup) {fetch : ServerId → Fetch}
    {servers : List ProxmoxServer} {s : ProxmoxServer} (hs : s ∈ servers) {r : Resource}
    {ty : VmType} (hl : Lists fetch s r ty) :
    ∃ f ∈ (collect entries fetch servers).allVmsData,
      f.key = (storageKey entries s.id, r.vmid) := by
  have hgen : ∀ acc : Collected, SeenInvariant entries acc →
      ∃ f ∈ (servers.foldl (collectServer entries fetch) acc).allVmsData,
        f.key = (storageKey entries s.id, r.vmid) := by
    induction servers with
    | nil => exact absurd hs List.not_mem_nil
    | cons x rest ih =>
      intro acc hacc
      rcases List.mem_cons.mp hs with rfl | hs
      · obtain ⟨rs, hr, hm, hk, ht⟩ := hl
        have hround : ∃ f ∈ (collectServer entries fetch acc s).allVmsData,
            f.key = (storageKey entries s.id, r.vmid) := by
          unfold collectServer
          rw [hr]
          have h1 := hacc.registerClient (namespaceOf entries s.id) s.id
          cases ty with
          | qemu =>
            have hq : r ∈ (getClusterResources (some rs)).filter fun r => r.kind = .qemu :=
              List.mem_filter.mpr ⟨hm, by simpa using (kind_eq_iff r).1.mpr hk⟩
            obtain ⟨f, hf, he⟩ := h1.foldl_takeGuest_covers hnd s.id .qemu hq ht
            exact ⟨f, mem_allVmsData_foldl_takeGuest_of_mem hf, he⟩
          | lxc =>
            exact (h1.foldl_takeGuest hnd s.id .qemu _).foldl_takeGuest_covers hnd s.id .lxc
              (List.mem_filter.mpr ⟨hm, by simpa using (kind_eq_iff r).2.mpr hk⟩) ht
        obtain ⟨f, hf, he⟩ := hround
        rw [List.foldl_cons]
        exact ⟨f, mem_foldl_collectServer_of_mem hf, he⟩
      · exact ih hs _ (hacc.collectServer hnd fetch x)
  exact hgen _ (seenInvariant_empty entries)

/-- A client answers for the storage id of its own server. -/
theorem mem_serverClients {entries : List (ServerId × Finset String)} {fetch : ServerId → Fetch}
    {servers : List ProxmoxServer} {c : ServerId × ServerId}
    (h : c ∈ (collect entries fetch servers).serverClients) :
    ∃ s ∈ servers, c = (storageKey entries s.id, s.id) := by
  have hround : ∀ (acc : Collected) (s : ProxmoxServer),
      c ∈ (collectServer entries fetch acc s).serverClients →
      c ∈ acc.serverClients ∨ c = (storageKey entries s.id, s.id) := by
    intro acc s h
    unfold collectServer at h
    split at h
    · exact Or.inl h
    · simp only [serverClients_foldl_takeGuest, registerClient] at h
      rw [← useServerId_namespaceOf]
      split at h
      · rename_i hns
        split at h
        · exact Or.inl h
        · rw [hns]
          simpa [Namespace.useServerId] using h
      · rename_i hns
        rw [hns]
        simpa [Namespace.useServerId] using h
  have hgen : ∀ acc : Collected,
      c ∈ (servers.foldl (collectServer entries fetch) acc).serverClients →
      c ∈ acc.serverClients ∨ ∃ s ∈ servers, c = (storageKey entries s.id, s.id) := by
    clear h
    induction servers with
    | nil => exact fun acc h => Or.inl h
    | cons s rest ih =>
      intro acc h
      rcases ih _ h with h | ⟨t, ht, hc⟩
      · rcases hround acc s h with h | hc
        · exact Or.inl h
        · exact Or.inr ⟨s, List.mem_cons_self, hc⟩
      · exact Or.inr ⟨t, List.mem_cons_of_mem _ ht, hc⟩
  rcases hgen _ h with h | h
  · exact absurd h List.not_mem_nil
  · exact h

end PveManager.Sync
