import Mathlib.Data.Finset.Card
import Mathlib.Data.String.Basic
import PveManager.Models.Records

/-!
# Cluster detection of the cache sync

The first pass of `sync_vm_cache` asks every online server for its nodes and
puts the servers that report the same set of two or more nodes into one
cluster, named by the smallest of their ids. The outcome of asking a server is
an input: the pass itself only sees node names, an empty answer or an exception.
-/

namespace PveManager.Sync

/-- What asking one server for its nodes comes to. -/
inductive Probe
  /-- Building the client or talking to it raised. -/
  | raised
  /-- `is_connected` answered false. -/
  | disconnected
  /-- `get_nodes` answered; it answers the empty list when the request failed. -/
  | nodes (names : List String)
  deriving DecidableEq, Repr

/-- `_create_proxmox_client` refuses a server without a usable password or token. -/
def hasAuth (s : ProxmoxServer) : Bool :=
  (s.usePassword && truthy s.password) || (truthy s.apiTokenName && truthy s.apiTokenValue)

/-- Node names of an answer, blanks dropped. -/
def nodeNames (names : List String) : Finset String := (names.filter fun n => n ≠ "").toFinset

/-- What one round of the first pass records for a server, if anything. -/
def reportedNodes (probe : ServerId → Probe) (s : ProxmoxServer) : Option (Finset String) :=
  if hasAuth s then
    match probe s.id with
    | .raised => some ∅
    | .disconnected => none
    | .nodes names => some (nodeNames names)
  else some ∅

/-- The dictionary `server_nodes` after the first pass. -/
def serverNodes (probe : ServerId → Probe) (servers : List ProxmoxServer) :
    List (ServerId × Finset String) :=
  servers.filterMap fun s => (reportedNodes probe s).map fun nodes => (s.id, nodes)

/-- `node_set_to_servers[nodes]`: the servers that report this set, multi-node sets only. -/
def nodeSetToServers (entries : List (ServerId × Finset String)) (nodes : Finset String) :
    List ServerId :=
  (entries.filter fun e => decide (1 < e.2.card ∧ e.2 = nodes)).map Prod.fst

/-- `cluster_map.get(server_id)`: the smallest id among the servers of the same node set. -/
def clusterMap (entries : List (ServerId × Finset String)) (sid : ServerId) : Option ServerId :=
  (entries.find? fun e => e.1 = sid).bind fun e => (nodeSetToServers entries e.2).min?

/-- The id a server's guests are stored under: its cluster's, or its own. -/
def storageKey (entries : List (ServerId × Finset String)) (sid : ServerId) : ServerId :=
  (clusterMap entries sid).getD sid

theorem mem_nodeSetToServers {entries : List (ServerId × Finset String)} {nodes : Finset String}
    {sid : ServerId} :
    sid ∈ nodeSetToServers entries nodes ↔ (sid, nodes) ∈ entries ∧ 1 < nodes.card := by
  simp only [nodeSetToServers, List.mem_map, List.mem_filter, decide_eq_true_eq]
  constructor
  · rintro ⟨⟨i, ns⟩, ⟨hm, hc, rfl⟩, rfl⟩
    exact ⟨hm, hc⟩
  · rintro ⟨hm, hc⟩
    exact ⟨(sid, nodes), ⟨hm, hc, rfl⟩, rfl⟩

/-- An entry of the first pass is what one of the servers it went through reported. -/
theorem mem_serverNodes {probe : ServerId → Probe} {servers : List ProxmoxServer}
    {sid : ServerId} {nodes : Finset String} :
    (sid, nodes) ∈ serverNodes probe servers ↔
      ∃ s ∈ servers, s.id = sid ∧ reportedNodes probe s = some nodes := by
  simp only [serverNodes, List.mem_filterMap, Option.map_eq_some_iff, Prod.mk.injEq]
  constructor
  · rintro ⟨s, hs, ns, hr, rfl, rfl⟩
    exact ⟨s, hs, rfl, hr⟩
  · rintro ⟨s, hs, rfl, hr⟩
    exact ⟨s, hs, nodes, hr, rfl, rfl⟩

section Detected

variable {entries : List (ServerId × Finset String)}

/-- A cluster id is the least id reporting the node set of the server it is read for. -/
theorem clusterMap_eq_some {sid c : ServerId} (h : clusterMap entries sid = some c) :
    ∃ nodes, (sid, nodes) ∈ entries ∧ 1 < nodes.card ∧ (c, nodes) ∈ entries ∧
      ∀ t, (t, nodes) ∈ entries → c ≤ t := by
  obtain ⟨⟨i, nodes⟩, hf, hmin⟩ := Option.bind_eq_some_iff.mp h
  have hi : i = sid := by simpa using List.find?_some hf
  subst hi
  obtain ⟨hc, hle⟩ := List.min?_eq_some_iff.mp hmin
  obtain ⟨hcm, hcard⟩ := mem_nodeSetToServers.mp hc
  exact ⟨nodes, List.mem_of_find?_eq_some hf, hcard, hcm,
    fun t ht => hle t (mem_nodeSetToServers.mpr ⟨ht, hcard⟩)⟩

/-- The storage key of a listed server is a server with an entry, or the server itself. -/
theorem storageKey_mem (entries : List (ServerId × Finset String)) (sid : ServerId) :
    storageKey entries sid = sid ∨ ∃ nodes, (storageKey entries sid, nodes) ∈ entries := by
  unfold storageKey
  cases h : clusterMap entries sid with
  | none => exact Or.inl rfl
  | some c =>
    obtain ⟨nodes, _, _, hc, _⟩ := clusterMap_eq_some h
    exact Or.inr ⟨nodes, hc⟩

/-- With one entry per server the node set that names a cluster is the server's own. -/
theorem clusterMap_of_mem (hnd : (entries.map Prod.fst).Nodup) {sid : ServerId}
    {nodes : Finset String} (hm : (sid, nodes) ∈ entries) :
    clusterMap entries sid = (nodeSetToServers entries nodes).min? := by
  have hf : entries.find? (fun e => e.1 = sid) = some (sid, nodes) := by
    cases hf : entries.find? (fun e => e.1 = sid) with
    | none =>
      have hn := List.find?_eq_none.mp hf _ hm
      simp at hn
    | some e =>
      have he : e.1 = sid := by simpa using List.find?_some hf
      rw [List.inj_on_of_nodup_map hnd (List.mem_of_find?_eq_some hf) hm he]
  simp [clusterMap, hf]

/-- Reading the key of a key changes nothing: a cluster id names its own cluster. -/
theorem storageKey_storageKey (hnd : (entries.map Prod.fst).Nodup) (sid : ServerId) :
    storageKey entries (storageKey entries sid) = storageKey entries sid := by
  unfold storageKey
  cases h : clusterMap entries sid with
  | none => simp [h]
  | some c =>
    obtain ⟨nodes, hs, _, hc, _⟩ := clusterMap_eq_some h
    have h1 := clusterMap_of_mem hnd hs
    have h2 := clusterMap_of_mem hnd hc
    rw [Option.getD_some, h2, ← h1, h, Option.getD_some]

end Detected

/-- The first pass makes one entry per server. -/
theorem serverNodes_nodup {probe : ServerId → Probe} {servers : List ProxmoxServer}
    (h : (servers.map ProxmoxServer.id).Nodup) :
    ((serverNodes probe servers).map Prod.fst).Nodup := by
  have hsub : ((serverNodes probe servers).map Prod.fst).Sublist
      (servers.map ProxmoxServer.id) := by
    clear h
    induction servers with
    | nil => exact List.Sublist.slnil
    | cons s rest ih =>
      simp only [serverNodes, List.filterMap_cons]
      cases reportedNodes probe s with
      | none => exact ih.cons _
      | some nodes =>
        simp only [Option.map_some, List.map_cons]
        exact ih.cons_cons _
  exact h.sublist hsub

end PveManager.Sync
