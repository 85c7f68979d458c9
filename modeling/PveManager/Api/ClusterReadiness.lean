import PveManager.Api.Cluster
import PveManager.Core.Contract

/-!
# Readiness of a node

Proxmox is a host: its state holds the guests and what became of the backup
tasks, and a scenario says which requests fail and which tasks do their work. A
request is sound when guests are destroyed only after their backup, the verdict
`ready_for_join` is true and a join starts on an empty node only. The loops of
the endpoints have one lemma each.
-/

namespace PveManager.Api.Cluster

open PveManager.Core PveManager.Rbac

/-- A guest of the server's node or of another node of its cluster. -/
structure Guest where
  node : String
  vmid : Vmid
  ty : VmType
  deriving DecidableEq

/-- A backup task. -/
structure Backup where
  server : ServerId
  node : String
  vmid : Vmid
  upid : String

/-- What Proxmox holds while a request runs. -/
structure NodeState where
  guests : KeyedTable Guest.vmid
  /-- The node lists answered so far. -/
  nodeLists : Nat
  /-- The waits so far. -/
  sleeps : Nat
  started : List Backup
  /-- The tasks reported to have finished `OK`, with server and node. -/
  succeeded : List (ServerId × String × String)

/-- Which requests fail, and what the tasks come to. -/
structure Pattern where
  /-- The node list of a server, by the number of node lists before it. -/
  nodes : ServerId → Nat → Except String (List String)
  /-- Why the guest list of a node cannot be read. -/
  unreadable : String → VmType → Option String
  vzdump : Vmid → Except String String
  /-- The status of a task after so many waits. -/
  task : String → Nat → Except String TaskStatus
  guestStatus : Vmid → Except String String
  stop : Vmid → Except String Unit
  delete : Vmid → Except String String
  /-- The task that destroys the guest does so before the endpoint answers. -/
  destroyed : Vmid → Bool
  joinInfo : Except String JoinData
  join : Except String String

/-- Everything outside of a request. -/
structure Scenario where
  db : Db
  user : User
  pattern : Pattern
  guests : KeyedTable Guest.vmid
  /-- The name of the registered server's own node. -/
  self : String
  self_ne : self ≠ ""

namespace Pattern

variable (f : Pattern)

/-- The task of a request that deletes this guest. -/
def destroys (node : String) (ty : VmType) (vmid : Vmid) (g : Guest) : Bool :=
  decide (g.node = node ∧ g.ty = ty ∧ g.vmid = vmid) && (f.delete vmid).isOk && f.destroyed vmid

/-- The guests a list shows. -/
def shown (guests : KeyedTable Guest.vmid) (node : String) (ty : VmType) : List Vmid :=
  (guests.rows.filter fun g => decide (g.node = node ∧ g.ty = ty)).map Guest.vmid

def answer (s : NodeState) : (c : RouterCall ClusterRouter) → c.Answer
  | .isConnected _ => true
  | .request server .getNodes => f.nodes server.id s.nodeLists
  | .request _ (.getGuests node ty) =>
    match f.unreadable node ty with
    | some e => .error e
    | none => .ok (shown s.guests node ty)
  | .request _ (.vzdump _ vmid _ _) => f.vzdump vmid
  | .request _ (.taskStatus _ upid) => f.task upid s.sleeps
  | .request _ (.guestStatus _ _ vmid) => f.guestStatus vmid
  | .request _ (.stopGuest _ _ vmid) => f.stop vmid
  | .request _ (.deleteGuest _ _ vmid) => f.delete vmid
  | .request _ .getClusterJoinInfo => f.joinInfo
  | .request _ (.joinCluster _ _ _ _) => f.join
  | .effect _ => ()

/-- A task that ended with `OK`. -/
def succeeded : Except String TaskStatus → Bool
  | .ok task => decide (task.status = "stopped" ∧ task.exitstatus = some "OK")
  | .error _ => false

/-- A task that ended. -/
def stopped : Except String TaskStatus → Bool
  | .ok task => decide (task.status = "stopped")
  | .error _ => false

def next (s : NodeState) : RouterCall ClusterRouter → NodeState
  | .request _ .getNodes => { s with nodeLists := s.nodeLists + 1 }
  | .request server (.vzdump node vmid _ _) =>
    match f.vzdump vmid with
    | .ok upid => { s with started := ⟨server.id, node, vmid, upid⟩ :: s.started }
    | .error _ => s
  | .request server (.taskStatus node upid) =>
    if succeeded (f.task upid s.sleeps) then
      { s with succeeded := (server.id, node, upid) :: s.succeeded }
    else s
  | .request _ (.deleteGuest node ty vmid) =>
    { s with guests := s.guests.filter fun g => !f.destroys node ty vmid g }
  | .effect (.sleep _) => { s with sleeps := s.sleeps + 1 }
  | _ => s

/-- Proxmox under the pattern. -/
def host : Host ClusterRouter.interface NodeState := ⟨f.answer, f.next⟩

end Pattern

/-! ### The property -/

/-- A request to one of the two endpoints. -/
inductive ClusterRequest
  | prepareJoin (body : PrepareBody)
  | joinCluster (body : JoinBody)

namespace Scenario

variable (sc : Scenario)

def start : NodeState := ⟨sc.guests, 0, 0, [], []⟩

def handle : ClusterRequest → ClusterHandler Reply
  | .prepareJoin body => Cluster.prepareJoin sc.db sc.user body
  | .joinCluster body => Cluster.joinCluster sc.db sc.user body

/-- No guest is on the node. -/
def Vacant (guests : KeyedTable Guest.vmid) : Prop := ∀ g ∈ guests.rows, g.node ≠ sc.self

/-- A node that counts as empty: it is, and both its lists can be read. -/
def CountsAsEmpty (s : NodeState) : Prop :=
  sc.Vacant s.guests ∧ ∀ ty, sc.pattern.unreadable sc.self ty = none

/-- A guest is destroyed after its backup, and a join is started on an empty node. -/
def Allowed (s : NodeState) : RouterCall ClusterRouter → Prop
  | .request server (.deleteGuest node _ vmid) => ∃ upid,
      (⟨server.id, node, vmid, upid⟩ : Backup) ∈ s.started ∧ (server.id, node, upid) ∈ s.succeeded
  | .request _ (.joinCluster _ _ _ _) => sc.CountsAsEmpty s
  | _ => True

/-- A node reported ready has no guests left. -/
def ReadyIsTrue (s : NodeState) : Except Exc Reply → Prop
  | .ok (.prepared _ _ _ true _) => sc.Vacant s.guests
  | _ => True

/-- Every call of the request is allowed and its verdict is true. -/
def Sound (r : ClusterRequest) : Prop :=
  sc.pattern.host.Meets sc.Allowed sc.ReadyIsTrue sc.start (sc.handle r)

end Scenario

/-! ### The condition -/

namespace Pattern

variable (f : Pattern)

/-- The first final status within the rounds left says `OK`. -/
def finishes (answers : Nat → Except String TaskStatus) : Nat → Nat → Bool
  | 0, _ => false
  | n + 1, sleeps =>
    if stopped (answers (sleeps + 1)) then succeeded (answers (sleeps + 1))
    else finishes answers n (sleeps + 1)

/-- The guest's backup is started and finishes in time. -/
def backsUp (vmid : Vmid) : Bool :=
  match f.vzdump vmid with
  | .ok upid => finishes (f.task upid) maxRounds 0
  | .error _ => false

/-- The requests that delete the guest are accepted. -/
def deletable (vmid : Vmid) : Bool :=
  match f.guestStatus vmid with
  | .ok status => (decide (status ≠ "running") || (f.stop vmid).isOk) && (f.delete vmid).isOk
  | .error _ => false

end Pattern

namespace Scenario

variable (sc : Scenario) (server : ProxmoxServer)

/-- The answer of `get_nodes` after so many others. -/
def nodesAt (n : Nat) : List String := ((sc.pattern.nodes server.id n).toOption).getD []

/-- The name the endpoints take for the node. -/
def nodeName : String := nodeNameOf server (sc.nodesAt server 0)

/-- What a guest list shows, with unreadable nodes left out. -/
def shownOn (ty : VmType) (nodes : List String) : List Vmid :=
  nodes.flatMap fun node =>
    match sc.pattern.unreadable node ty with
    | some _ => []
    | none => Pattern.shown sc.guests node ty

/-- The guests the endpoints see. -/
def listed (ty : VmType) (n : Nat) : List Vmid :=
  sc.shownOn ty (if sc.nodeName server ≠ "" then [sc.nodeName server] else sc.nodesAt server n)

/-- All of them, with their kinds. -/
def allListed : List (Vmid × VmType) :=
  (sc.listed server .qemu 1).map (fun v => (v, VmType.qemu)) ++
    (sc.listed server .lxc 2).map fun c => (c, VmType.lxc)

/-- Every guest the endpoint sees is backed up and its deletion accepted. -/
def AllWell : Prop :=
  ∀ p ∈ sc.allListed server, sc.pattern.backsUp p.1 = true ∧ sc.pattern.deletable p.1 = true

/-- Every guest of the node can be seen and is destroyed when that is asked for. -/
def Clears : Prop := ∀ g ∈ sc.guests.rows, g.node = sc.self →
  sc.nodeName server = sc.self ∧ sc.pattern.unreadable sc.self g.ty = none ∧
    sc.pattern.destroyed g.vmid = true

/-- The fingerprint the join uses, when the join information can be read. -/
def fingerprint (clusterServer : ProxmoxServer) (clusterHost : Option String) : Option String :=
  match sc.pattern.joinInfo with
  | .error _ => none
  | .ok joinData => (extractFingerprint joinData (clusterHost.getD clusterServer.ipAddress)).or
      (extractFingerprint joinData clusterServer.ipAddress)

/-- `prepare_join` gets to this server. -/
def Prepares (body : PrepareBody) : Prop :=
  hasPermission sc.user "cluster:manage" = true ∧ strip (body.backupStorage.getD "") ≠ "" ∧
    body.nodeServerId.getD 0 ≠ 0 ∧
    sc.db.servers.find? (body.nodeServerId.getD 0) = some server ∧ hasCredentials server = true

/-- `join_cluster` gets to these servers, and nothing but the guests can stop it. -/
def Joins (body : JoinBody) (clusterServer : ProxmoxServer) : Prop :=
  hasPermission sc.user "cluster:manage" = true ∧
    (body.nodeServerId.getD 0 ≠ 0 ∧ body.clusterServerId.getD 0 ≠ 0) ∧
    strip (body.rootpw.getD "") ≠ "" ∧
    body.nodeServerId.getD 0 ≠ body.clusterServerId.getD 0 ∧
    sc.db.servers.find? (body.nodeServerId.getD 0) = some server ∧
    sc.db.servers.find? (body.clusterServerId.getD 0) = some clusterServer ∧
    truthy clusterServer.clusterName = true ∧ hasCredentials server = true ∧
    hasCredentials clusterServer = true ∧
    (sc.fingerprint clusterServer (optionalText body.clusterHost)).isSome = true

/-- What the failures must spare. -/
def Spared : ClusterRequest → Prop
  | .prepareJoin body => ∀ server, sc.Prepares server body → sc.AllWell server → sc.Clears server
  | .joinCluster body => ∀ server clusterServer, sc.Joins server body clusterServer →
      sc.allListed server ≠ [] ∨ sc.CountsAsEmpty sc.start

end Scenario

/-! ### The loops -/

section Loops

variable {f : Pattern} {s : NodeState} {server : ProxmoxServer} {node : String}

/-- A call that neither destroys a guest nor starts a join. -/
def Harmless : RouterCall ClusterRouter → Prop
  | .request _ (.deleteGuest _ _ _) => False
  | .request _ (.joinCluster _ _ _ _) => False
  | _ => True

/-- The task was started for this guest. -/
def Started (server : ProxmoxServer) (node : String) (s : NodeState) (p : Vmid × String) : Prop :=
  (⟨server.id, node, p.1, p.2⟩ : Backup) ∈ s.started

theorem Started.congr {s' : NodeState} (hs : s'.started = s.started) {p : Vmid × String}
    (hp : Started server node s p) : Started server node s' p := by
  unfold Started
  rw [hs]
  exact hp

/-- The guest's own task finished `OK`. -/
def BackedUp (server : ProxmoxServer) (node : String) (s : NodeState) (vmid : Vmid) : Prop :=
  ∃ upid, Started server node s (vmid, upid) ∧ (server.id, node, upid) ∈ s.succeeded

/-- What is known of the tasks while they are polled. -/
structure Tracked (f : Pattern) (server : ProxmoxServer) (node : String) (s : NodeState)
    (st : Polling) : Prop where
  pending : ∀ p ∈ st.pending, f.vzdump p.1 = .ok p.2 ∧ Started server node s p
  backedUp : ∀ v ∈ st.backedUp, BackedUp server node s v

theorem mem_dictSet {m : List (Vmid × String)} {vmid : Vmid} {upid : String} {p : Vmid × String}
    (h : p ∈ dictSet m vmid upid) : p ∈ m ∨ p = (vmid, upid) := by
  unfold dictSet at h
  split at h
  · obtain ⟨q, hq, rfl⟩ := List.mem_map.mp h
    split
    · exact Or.inr rfl
    · exact Or.inl hq
  · simpa using h

theorem keys_dictSet (m : List (Vmid × String)) (vmid : Vmid) (upid : String) (v : Vmid) :
    v ∈ (dictSet m vmid upid).map Prod.fst ↔ v ∈ m.map Prod.fst ∨ v = vmid := by
  unfold dictSet
  split
  · rename_i h
    have hmap : (m.map fun p => if p.1 = vmid then (vmid, upid) else p).map Prod.fst =
        m.map Prod.fst := by
      rw [List.map_map]
      refine List.map_congr_left fun p _ => ?_
      by_cases hp : p.1 = vmid
      · simp [hp]
      · simp [hp]
    rw [hmap]
    exact ⟨Or.inl, fun hv => hv.elim id fun hv => hv ▸ h⟩
  · simp

/-- Step 1 keeps the tasks it started and reports the guests without one. -/
theorem meets_startBackups {storage compress : String} {guests : List (Vmid × VmType)}
    {upidMap : List (Vmid × String)} {errors : List GuestError}
    (hm : ∀ p ∈ upidMap, f.vzdump p.1 = .ok p.2 ∧ Started server node s p) :
    f.host.Meets (fun _ => Harmless)
      (fun s' r => ∃ a : List (Vmid × String) × List GuestError, r = .ok a ∧
        (s'.guests = s.guests ∧ s'.sleeps = s.sleeps) ∧
        (∀ p ∈ a.1, f.vzdump p.1 = .ok p.2 ∧ Started server node s' p) ∧
        (∀ v, v ∈ a.1.map Prod.fst ↔
          v ∈ upidMap.map Prod.fst ∨ v ∈ guests.map Prod.fst ∧ (f.vzdump v).isOk = true) ∧
        (a.2 = [] ↔ errors = [] ∧ ∀ p ∈ guests, (f.vzdump p.1).isOk = true))
      s (startBackups server node storage compress guests upidMap errors) := by
  induction guests generalizing s upidMap errors with
  | nil => exact ⟨_, rfl, ⟨rfl, rfl⟩, hm, by simp, by simp⟩
  | cons g rest ih =>
    unfold startBackups
    refine Host.meets_ask_bind.mpr ⟨trivial, ?_⟩
    cases hv : f.vzdump g.1 with
    | ok upid =>
      have hans : f.host.answer s (.request server (.vzdump node g.1 storage compress)) =
          .ok upid := hv
      have hnext : f.host.next s (.request server (.vzdump node g.1 storage compress)) =
          { s with started := ⟨server.id, node, g.1, upid⟩ :: s.started } := by
        simp only [Pattern.host, Pattern.next, hv]
      rw [hans, hnext]
      have hm' : ∀ p ∈ dictSet upidMap g.1 upid, f.vzdump p.1 = .ok p.2 ∧ Started server node
          { s with started := ⟨server.id, node, g.1, upid⟩ :: s.started } p := by
        intro p hp
        rcases mem_dictSet hp with hp | rfl
        · exact ⟨(hm p hp).1, List.mem_cons_of_mem _ (hm p hp).2⟩
        · exact ⟨hv, List.mem_cons_self⟩
      refine Host.meets_mono (fun s' r h => ?_) (ih hm')
      · obtain ⟨a, rfl, hs, ha, hkeys, herr⟩ := h
        refine ⟨a, rfl, hs, ha, fun v => ?_, ?_⟩
        · rw [hkeys, keys_dictSet]
          have hok : v = g.1 → (f.vzdump v).isOk = true := fun h => by rw [h, hv]; rfl
          simp only [List.map_cons, List.mem_cons]
          grind
        · rw [herr]
          simp [hv, Except.isOk, Except.toBool]
    | error e =>
      have hans : f.host.answer s (.request server (.vzdump node g.1 storage compress)) =
          .error e := hv
      have hnext : f.host.next s (.request server (.vzdump node g.1 storage compress)) = s := by
        simp only [Pattern.host, Pattern.next, hv]
      rw [hans, hnext]
      refine Host.meets_mono (fun s' r h => ?_) (ih hm)
      obtain ⟨a, rfl, hs, ha, hkeys, herr⟩ := h
      refine ⟨a, rfl, hs, ha, fun v => ?_, ?_⟩
      · rw [hkeys]
        have hok : v = g.1 → ¬(f.vzdump v).isOk = true := fun h => by
          rw [h, hv]
          simp [Except.isOk, Except.toBool]
        simp only [List.map_cons, List.mem_cons]
        grind
      · rw [herr]
        simp [hv, Except.isOk, Except.toBool]

/-! What one answer says of the tasks. -/

theorem pending_record (st : Polling) (vmid : Vmid) (a : Except String TaskStatus) :
    (st.record vmid a).pending =
      if Pattern.stopped a then st.pending.filter fun p => decide (p.1 ≠ vmid)
      else st.pending := by
  cases a with
  | error e => rfl
  | ok task =>
    unfold Polling.record Pattern.stopped
    by_cases hs : task.status = "stopped"
    · by_cases ho : task.exitstatus = some "OK"
      · simp [hs, ho]
      · simp [hs, ho]
    · simp [hs]

theorem mem_backedUp_record (st : Polling) (vmid v : Vmid) (a : Except String TaskStatus) :
    v ∈ (st.record vmid a).backedUp ↔
      v ∈ st.backedUp ∨ v = vmid ∧ Pattern.succeeded a = true := by
  cases a with
  | error e => simp [Polling.record, Pattern.succeeded]
  | ok task =>
    unfold Polling.record Pattern.succeeded
    by_cases hs : task.status = "stopped"
    · by_cases ho : task.exitstatus = some "OK"
      · simp [hs, ho]
      · simp [hs, ho]
    · simp [hs]

theorem errors_record (st : Polling) (vmid : Vmid) (a : Except String TaskStatus) :
    (st.record vmid a).errors = [] ↔
      st.errors = [] ∧ (Pattern.stopped a = true → Pattern.succeeded a = true) := by
  cases a with
  | error e => simp [Polling.record, Pattern.stopped]
  | ok task =>
    unfold Polling.record Pattern.succeeded Pattern.stopped
    by_cases hs : task.status = "stopped"
    · by_cases ho : task.exitstatus = some "OK"
      · simp [hs, ho]
      · simp [hs, ho]
    · simp [hs]

/-- The record of an answer is backed by what Proxmox reported. -/
theorem Tracked.record {st : Polling} (h : Tracked f server node s st) {p : Vmid × String}
    (hp : Started server node s p) :
    Tracked f server node (f.host.next s (.request server (.taskStatus node p.2)))
      (st.record p.1 (f.task p.2 s.sleeps)) := by
  have hstarted : (f.host.next s (.request server (.taskStatus node p.2))).started =
      s.started := by
    simp only [Pattern.host, Pattern.next]
    split <;> rfl
  have hsub : ∀ x ∈ s.succeeded,
      x ∈ (f.host.next s (.request server (.taskStatus node p.2))).succeeded := by
    intro x hx
    simp only [Pattern.host, Pattern.next]
    split
    · exact List.mem_cons_of_mem _ hx
    · exact hx
  refine ⟨fun q hq => ?_, fun v hv => ?_⟩
  · rw [pending_record] at hq
    have hq' : q ∈ st.pending := by
      split at hq
      · exact (List.mem_filter.mp hq).1
      · exact hq
    exact ⟨(h.pending q hq').1, (h.pending q hq').2.congr hstarted⟩
  · rcases (mem_backedUp_record st p.1 v _).mp hv with hv | ⟨rfl, hok⟩
    · obtain ⟨upid, hu, hs⟩ := h.backedUp v hv
      exact ⟨upid, hu.congr hstarted, hsub _ hs⟩
    · refine ⟨p.2, hp.congr hstarted, ?_⟩
      simp only [Pattern.host, Pattern.next, hok, if_true]
      exact List.mem_cons_self

/-- One round notes what every task of it says. -/
theorem meets_pollRound {tasks : List (Vmid × String)} {st : Polling}
    (ht : ∀ p ∈ tasks, Started server node s p) (hst : Tracked f server node s st) :
    f.host.Meets (fun _ => Harmless)
      (fun s' r => ∃ st', r = .ok st' ∧ (s'.guests = s.guests ∧ s'.sleeps = s.sleeps) ∧
        Tracked f server node s' st' ∧
        (∀ p, p ∈ st'.pending ↔ p ∈ st.pending ∧
          ∀ q ∈ tasks, q.1 = p.1 → Pattern.stopped (f.task q.2 s.sleeps) = false) ∧
        (∀ v, v ∈ st.backedUp ∨ (∃ q ∈ tasks, q.1 = v ∧
          Pattern.succeeded (f.task q.2 s.sleeps) = true) → v ∈ st'.backedUp) ∧
        (st'.errors = [] ↔ st.errors = [] ∧ ∀ q ∈ tasks,
          Pattern.stopped (f.task q.2 s.sleeps) = true →
            Pattern.succeeded (f.task q.2 s.sleeps) = true))
      s (pollRound server node tasks st) := by
  induction tasks generalizing s st with
  | nil => exact ⟨st, rfl, ⟨rfl, rfl⟩, hst, by simp, by simp, by simp⟩
  | cons q rest ih =>
    unfold pollRound
    refine Host.meets_ask_bind.mpr ⟨trivial, ?_⟩
    have hans : f.host.answer s (.request server (.taskStatus node q.2)) =
        f.task q.2 s.sleeps := rfl
    have hsame : (f.host.next s (.request server (.taskStatus node q.2))).guests = s.guests ∧
        (f.host.next s (.request server (.taskStatus node q.2))).sleeps = s.sleeps ∧
        (f.host.next s (.request server (.taskStatus node q.2))).started = s.started := by
      simp only [Pattern.host, Pattern.next]
      split <;> exact ⟨rfl, rfl, rfl⟩
    rw [hans]
    refine Host.meets_mono (fun s' r h => ?_)
      (ih (fun p hp => ?_) (hst.record (ht q List.mem_cons_self)))
    · obtain ⟨st', rfl, hs, htr, hpend, hback, herr⟩ := h
      rw [hsame.2.1] at hpend hback herr
      refine ⟨st', rfl, ⟨hs.1.trans hsame.1, hs.2.trans hsame.2.1⟩, htr, fun p => ?_,
        fun v hv => ?_, ?_⟩
      · rw [hpend, pending_record]
        by_cases hq : Pattern.stopped (f.task q.2 s.sleeps) = true
        · simp only [hq, if_true, List.mem_filter, decide_eq_true_eq, List.forall_mem_cons,
            Bool.true_eq_false, imp_false]
          rw [ne_comm]
          grind
        · simp only [hq, List.forall_mem_cons]
          grind
      · refine hback v ?_
        rw [mem_backedUp_record]
        rcases hv with hv | ⟨p, hp, rfl, hok⟩
        · exact Or.inl (Or.inl hv)
        · rcases List.mem_cons.mp hp with rfl | hp
          · exact Or.inl (Or.inr ⟨rfl, hok⟩)
          · exact Or.inr ⟨p, hp, rfl, hok⟩
      · rw [herr, errors_record, List.forall_mem_cons, and_assoc]
    · exact (ht p (List.mem_cons_of_mem _ hp)).congr hsame.2.2

/-- Step 2 ends without an error and without a pending task when every task finishes. -/
theorem meets_pollBackups {n : Nat} {st : Polling} (hst : Tracked f server node s st) :
    f.host.Meets (fun _ => Harmless)
      (fun s' r => ∃ st', r = .ok st' ∧ s'.guests = s.guests ∧ Tracked f server node s' st' ∧
        (∀ v, v ∈ st.backedUp ∨ (∃ p ∈ st.pending, p.1 = v ∧
          Pattern.finishes (f.task p.2) n s.sleeps = true) → v ∈ st'.backedUp) ∧
        ((st'.errors = [] ∧ st'.pending = []) ↔ st.errors = [] ∧
          ∀ p ∈ st.pending, Pattern.finishes (f.task p.2) n s.sleeps = true))
      s (pollBackups server node n st) := by
  induction n generalizing s st with
  | zero =>
    refine ⟨st, rfl, rfl, hst, by simp [Pattern.finishes], and_congr_right fun _ => ?_⟩
    simp [Pattern.finishes, List.eq_nil_iff_forall_not_mem]
  | succ n ih =>
    unfold pollBackups
    cases hp : st.pending with
    | nil =>
      simp only [List.isEmpty_nil, if_true]
      exact ⟨st, rfl, rfl, hst, by simp, by simp [hp]⟩
    | cons q rest =>
      simp only [List.isEmpty_cons, Bool.false_eq_true, if_false]
      rw [← hp]
      refine Host.meets_ask_bind.mpr ⟨trivial, ?_⟩
      have hsleep : f.host.next s (.effect (.sleep 5)) = { s with sleeps := s.sleeps + 1 } := rfl
      have hst' : Tracked f server node { s with sleeps := s.sleeps + 1 } st := ⟨hst.1, hst.2⟩
      rw [hsleep]
      refine Host.meets_bind_of (meets_pollRound (fun p hp => (hst.pending p hp).2) hst')
        fun s₁ st₁ h₁ => ?_
      obtain ⟨hs₁, htr₁, hpend₁, hback₁, herr₁⟩ := h₁
      dsimp only at hs₁ hpend₁ hback₁ herr₁
      have hpend : ∀ p, p ∈ st₁.pending ↔ p ∈ st.pending ∧
          Pattern.stopped (f.task p.2 (s.sleeps + 1)) = false := by
        intro p
        rw [hpend₁]
        refine and_congr_right fun hp => ⟨fun h => h p hp rfl, fun h q hq hqp => ?_⟩
        have hu : q.2 = p.2 := by
          have hqp' := (hst.pending q hq).1
          rw [hqp, (hst.pending p hp).1] at hqp'
          exact (Except.ok.inj hqp').symm
        rw [hu]
        exact h
      have hfin : ∀ p : Vmid × String, Pattern.finishes (f.task p.2) (n + 1) s.sleeps =
          if Pattern.stopped (f.task p.2 (s.sleeps + 1)) then
            Pattern.succeeded (f.task p.2 (s.sleeps + 1))
          else Pattern.finishes (f.task p.2) n (s.sleeps + 1) := fun p => rfl
      refine Host.meets_mono (fun s' r h => ?_) (ih htr₁)
      obtain ⟨st', rfl, hg, htr, hback, herr⟩ := h
      rw [hs₁.2] at hback herr
      refine ⟨st', rfl, hg.trans hs₁.1, htr, fun v hv => hback v ?_, ?_⟩
      · rcases hv with hv | ⟨p, hp, rfl, hf⟩
        · exact Or.inl (hback₁ v (Or.inl hv))
        · rw [hfin] at hf
          cases hst : Pattern.stopped (f.task p.2 (s.sleeps + 1)) with
          | true => exact Or.inl (hback₁ _ (Or.inr ⟨p, hp, rfl, by simpa [hst] using hf⟩))
          | false => exact Or.inr ⟨p, (hpend p).mpr ⟨hp, hst⟩, rfl, by simpa [hst] using hf⟩
      · rw [herr, herr₁, and_assoc]
        refine and_congr_right fun _ => ?_
        constructor
        · intro h p hp
          rw [hfin]
          cases hst : Pattern.stopped (f.task p.2 (s.sleeps + 1)) with
          | true => simpa using h.1 p hp hst
          | false => simpa using h.2 p ((hpend p).mpr ⟨hp, hst⟩)
        · intro h
          refine ⟨fun p hp hst => ?_, fun p hp => ?_⟩
          · simpa [hfin, hst] using h p hp
          · obtain ⟨hp, hst⟩ := (hpend p).mp hp
            simpa [hfin, hst] using h p hp

end Loops

/-! ### Deleting -/

section Deleting

variable {sc : Scenario} {s : NodeState} {server : ProxmoxServer} {node : String}

/-- A request that may raise ends the procedure or goes on with its answer. -/
theorem meets_orRaise_bind {R : Router} {σ α β : Type} {H : Host R.interface σ}
    {allowed : σ → RouterCall R → Prop} {post : σ → Except Exc β → Prop} {s : σ}
    {p : Handler R (Except String α)} {k : α → Handler R β} :
    H.Meets allowed post s (orRaise p >>= k) ↔
      H.Meets allowed (fun s' (r : Except Exc (Except String α)) => match r with
        | .ok (.ok a) => H.Meets allowed post s' (k a)
        | .ok (.error e) => post s' (.error (.other e))
        | .error e => post s' (.error e)) s p := by
  unfold orRaise
  rw [bind_assoc]
  refine Host.meets_bind.trans (Host.meets_congr fun s' r => ?_)
  cases r with
  | error e => exact Iff.rfl
  | ok a =>
    cases a with
    | ok a => exact Iff.rfl
    | error e => exact Iff.rfl

/-- The last request: the task it starts may destroy the guest. -/
private theorem meets_delete {ty : VmType} {vmid : Vmid} (hb : BackedUp server node s vmid) :
    sc.pattern.host.Meets sc.Allowed
      (fun s' r => (s'.started = s.started ∧ s'.succeeded = s.succeeded) ∧
        (r = .ok () ∧ (sc.pattern.delete vmid).isOk = true ∨
          ∃ e, r = .error e ∧ (sc.pattern.delete vmid).isOk = false) ∧
        ∀ g, g ∈ s'.guests.rows ↔ g ∈ s.guests.rows ∧ ¬sc.pattern.destroys node ty vmid g = true)
      s (do
        let _ ← orRaise (request (R := ClusterRouter) server (.deleteGuest node ty vmid))) := by
  refine meets_orRaise_bind.mpr ⟨hb, Host.meets_pure.mpr ?_⟩
  have hans : sc.pattern.host.answer s (.request server (.deleteGuest node ty vmid)) =
      sc.pattern.delete vmid := rfl
  have hguests : ∀ g,
      g ∈ (sc.pattern.host.next s (.request server (.deleteGuest node ty vmid))).guests.rows ↔
        g ∈ s.guests.rows ∧ ¬sc.pattern.destroys node ty vmid g = true := by
    intro g
    simp [Pattern.host, Pattern.next]
  rw [hans]
  cases hd : sc.pattern.delete vmid with
  | ok upid => exact ⟨⟨rfl, rfl⟩, Or.inl ⟨rfl, rfl⟩, hguests⟩
  | error e => exact ⟨⟨rfl, rfl⟩, Or.inr ⟨_, rfl, rfl⟩, hguests⟩

/-- A guest is destroyed when its deletion is accepted and the task does its work. -/
theorem meets_destroyGuest {ty : VmType} {vmid : Vmid} (hb : BackedUp server node s vmid) :
    sc.pattern.host.Meets sc.Allowed
      (fun s' r => (s'.started = s.started ∧ s'.succeeded = s.succeeded) ∧
        (r = .ok () ∧ sc.pattern.deletable vmid = true ∨
          ∃ e, r = .error e ∧ sc.pattern.deletable vmid = false) ∧
        ∀ g, g ∈ s'.guests.rows ↔ g ∈ s.guests.rows ∧
          ¬(sc.pattern.deletable vmid = true ∧ sc.pattern.destroys node ty vmid g = true))
      s (destroyGuest server node vmid ty) := by
  have hlast : ∀ s₁ : NodeState, s₁.guests = s.guests → s₁.started = s.started →
      s₁.succeeded = s.succeeded → sc.pattern.deletable vmid = (sc.pattern.delete vmid).isOk →
      sc.pattern.host.Meets sc.Allowed
        (fun s' r => (s'.started = s.started ∧ s'.succeeded = s.succeeded) ∧
          (r = .ok () ∧ sc.pattern.deletable vmid = true ∨
            ∃ e, r = .error e ∧ sc.pattern.deletable vmid = false) ∧
          ∀ g, g ∈ s'.guests.rows ↔ g ∈ s.guests.rows ∧
            ¬(sc.pattern.deletable vmid = true ∧ sc.pattern.destroys node ty vmid g = true))
        s₁ (do
          let _ ← orRaise (request (R := ClusterRouter) server (.deleteGuest node ty vmid))) := by
    intro s₁ hg hst hsu hdel
    obtain ⟨upid, hu, hs⟩ := hb
    refine Host.meets_mono (fun s' r h => ?_)
      (meets_delete ⟨upid, hu.congr hst, hsu ▸ hs⟩)
    obtain ⟨⟨h₁, h₂⟩, hr, hrows⟩ := h
    refine ⟨⟨h₁.trans hst, h₂.trans hsu⟩, hdel.symm ▸ hr, fun g => ?_⟩
    rw [hrows, hg]
    have hok : sc.pattern.destroys node ty vmid g = true →
        (sc.pattern.delete vmid).isOk = true := by
      intro h
      simp only [Pattern.destroys, Bool.and_eq_true] at h
      exact h.1.2
    rw [hdel]
    grind
  have hraise : ∀ e : Exc, ∀ s₁ : NodeState, s₁ = s → sc.pattern.deletable vmid = false →
      (s₁.started = s.started ∧ s₁.succeeded = s.succeeded) ∧
        ((Except.error e : Except Exc Unit) = .ok () ∧ sc.pattern.deletable vmid = true ∨
          ∃ e', (Except.error e : Except Exc Unit) = .error e' ∧
            sc.pattern.deletable vmid = false) ∧
        ∀ g, g ∈ s₁.guests.rows ↔ g ∈ s.guests.rows ∧
          ¬(sc.pattern.deletable vmid = true ∧ sc.pattern.destroys node ty vmid g = true) := by
    intro e s₁ hs hdel
    rw [hs]
    exact ⟨⟨rfl, rfl⟩, Or.inr ⟨e, rfl, hdel⟩, fun g => by simp [hdel]⟩
  unfold destroyGuest
  refine meets_orRaise_bind.mpr ⟨trivial, Host.meets_pure.mpr ?_⟩
  have hstatus : sc.pattern.host.answer s (.request server (.guestStatus node ty vmid)) =
      sc.pattern.guestStatus vmid := rfl
  dsimp only
  rw [hstatus]
  cases hgs : sc.pattern.guestStatus vmid with
  | error e => exact hraise _ _ rfl (by simp [Pattern.deletable, hgs])
  | ok status =>
    by_cases hrun : status = "running"
    · subst hrun
      refine meets_orRaise_bind.mpr ⟨trivial, Host.meets_pure.mpr ?_⟩
      have hstop : sc.pattern.host.answer
          (sc.pattern.host.next s (.request server (.guestStatus node ty vmid)))
          (.request server (.stopGuest node ty vmid)) = sc.pattern.stop vmid := rfl
      rw [hstop]
      cases hst : sc.pattern.stop vmid with
      | error e => exact hraise _ _ rfl (by simp [Pattern.deletable, hgs, hst, Except.isOk,
          Except.toBool])
      | ok u =>
        refine Host.meets_ask_bind.mpr ⟨trivial, ?_⟩
        exact hlast _ rfl rfl rfl (by simp [Pattern.deletable, hgs, hst, Except.isOk,
          Except.toBool])
    · simp only [hrun, if_false]
      exact hlast _ rfl rfl rfl (by simp [Pattern.deletable, hgs, hrun])

/-- Step 3 reports the guests whose deletion was refused. -/
theorem meets_deleteGuests {backedUp : List Vmid} {guests : List (Vmid × VmType)}
    {deleted : List Vmid} {errors : List GuestError}
    (hb : ∀ v ∈ backedUp, BackedUp server node s v) :
    sc.pattern.host.Meets sc.Allowed
      (fun s' r => ∃ a : List Vmid × List GuestError, r = .ok a ∧
        a.1.length = deleted.length + guests.countP
          (fun p => decide (p.1 ∈ backedUp) && sc.pattern.deletable p.1) ∧
        (a.2 = [] ↔ errors = [] ∧
          ∀ p ∈ guests, p.1 ∈ backedUp → sc.pattern.deletable p.1 = true) ∧
        ∀ g, g ∈ s'.guests.rows ↔ g ∈ s.guests.rows ∧ ∀ p ∈ guests,
          p.1 ∈ backedUp → sc.pattern.deletable p.1 = true →
            ¬sc.pattern.destroys node p.2 p.1 g = true)
      s (deleteGuests server node backedUp guests deleted errors) := by
  induction guests generalizing s deleted errors with
  | nil => exact ⟨_, rfl, rfl, by simp, by simp⟩
  | cons q rest ih =>
    unfold deleteGuests
    by_cases hq : q.1 ∈ backedUp
    · simp only [hq, if_true]
      refine Host.meets_bind.mpr (Host.meets_tryCatch.mpr (Host.meets_bind.mpr ?_))
      refine Host.meets_mono (fun s₁ r h => ?_) (meets_destroyGuest (hb q.1 hq))
      obtain ⟨hs₁, hr, hrows⟩ := h
      have hb₁ : ∀ v ∈ backedUp, BackedUp server node s₁ v := by
        intro v hv
        obtain ⟨upid, hu, hs⟩ := hb v hv
        exact ⟨upid, hu.congr hs₁.1, hs₁.2.symm ▸ hs⟩
      rcases hr with ⟨rfl, hdel⟩ | ⟨e, rfl, hdel⟩
      · change sc.pattern.host.Meets sc.Allowed _ s₁
          (deleteGuests server node backedUp rest (deleted ++ [q.1]) errors)
        refine Host.meets_mono (fun s' r h => ?_) (ih hb₁)
        obtain ⟨a, rfl, hlen, herr, hg⟩ := h
        refine ⟨a, rfl, ?_, ?_, fun g => ?_⟩
        · rw [hlen, List.countP_cons_of_pos (by simp [hq, hdel])]
          simp
          omega
        · rw [herr, List.forall_mem_cons]
          grind
        · rw [hg, hrows, List.forall_mem_cons]
          grind
      · change sc.pattern.host.Meets sc.Allowed _ s₁
          (deleteGuests server node backedUp rest deleted (errors ++ [⟨q.1, "delete", e.str⟩]))
        refine Host.meets_mono (fun s' r h => ?_) (ih hb₁)
        obtain ⟨a, rfl, hlen, herr, hg⟩ := h
        refine ⟨a, rfl, ?_, ?_, fun g => ?_⟩
        · rw [hlen, List.countP_cons_of_neg (by simp [hdel])]
        · rw [herr, List.forall_mem_cons]
          simp [hq, hdel]
        · rw [hg, hrows, List.forall_mem_cons]
          simp [hdel]
    · simp only [hq, if_false]
      refine Host.meets_mono (fun s' r h => ?_) (ih hb)
      obtain ⟨a, rfl, hlen, herr, hg⟩ := h
      refine ⟨a, rfl, ?_, ?_, fun g => ?_⟩
      · rw [hlen, List.countP_cons_of_neg (by simp [hq])]
      · rw [herr, List.forall_mem_cons]
        simp [hq]
      · rw [hg, List.forall_mem_cons]
        simp [hq]

end Deleting

/-! ### Clearing a node -/

section Clearing

variable {sc : Scenario} {server : ProxmoxServer} {s : NodeState}

/-- A call that does no harm is allowed. -/
theorem allowed_of_harmless (s : NodeState) (c : RouterCall ClusterRouter) (h : Harmless c) :
    sc.Allowed s c := by
  cases c with
  | isConnected server => trivial
  | effect e => trivial
  | request server op =>
    cases op with
    | deleteGuest node ty vmid => exact h.elim
    | joinCluster clusterHost rootpw fingerprint link0 => exact h.elim
    | _ => trivial

/-- The verdict is favourable exactly when all went well, and then the deletions were made. -/
theorem meets_clearNode {node storage compress : String} {guests : List (Vmid × VmType)}
    (h0 : s.sleeps = 0) :
    sc.pattern.host.Meets sc.Allowed
      (fun s' r => ∃ backedUp deleted errors ready message,
        r = .ok (.prepared backedUp deleted errors ready message) ∧
        (ready = true ↔
          ∀ p ∈ guests, sc.pattern.backsUp p.1 = true ∧ sc.pattern.deletable p.1 = true) ∧
        (ready = true → ∀ g, g ∈ s'.guests.rows ↔ g ∈ s.guests.rows ∧
          ∀ p ∈ guests, ¬sc.pattern.destroys node p.2 p.1 g = true))
      s (clearNode server node storage compress guests) := by
  unfold clearNode
  refine Host.meets_bind_of (Host.meets_mono_allowed allowed_of_harmless
    (meets_startBackups (by simp))) fun s₁ a h₁ => ?_
  obtain ⟨⟨hg₁, hsl₁⟩, hmap, hkeys, herr₁⟩ := h₁
  obtain ⟨upidMap, errors⟩ := a
  dsimp only at hmap hkeys herr₁ ⊢
  have htr : Tracked sc.pattern server node s₁ ⟨upidMap, [], errors⟩ := ⟨hmap, by simp⟩
  refine Host.meets_bind_of (Host.meets_mono_allowed allowed_of_harmless
    (meets_pollBackups htr)) fun s₂ polled h₂ => ?_
  obtain ⟨hg₂, htr₂, hback, herr₂⟩ := h₂
  rw [hsl₁, h0] at hback herr₂
  dsimp only at hback herr₂ ⊢
  refine Host.meets_bind_of (meets_deleteGuests htr₂.backedUp) fun s₃ a h₃ => ?_
  obtain ⟨hlen, herr₃, hrows⟩ := h₃
  obtain ⟨deleted, errors₃⟩ := a
  dsimp only at hlen herr₃ ⊢
  -- no error is left exactly when every task was started and finished and every deletion accepted
  have hsteps : (polled.errors ++ polled.pending.map
      fun p => (⟨p.1, "backup", "Таймаут ожидания бэкапа (30 мин)"⟩ : GuestError)) = [] ↔
      ∀ p ∈ guests, sc.pattern.backsUp p.1 = true := by
    rw [List.append_eq_nil_iff, List.map_eq_nil_iff, herr₂, herr₁]
    simp only [true_and]
    constructor
    · rintro ⟨hok, hfin⟩ p hp
      have hkey : p.1 ∈ upidMap.map Prod.fst :=
        (hkeys p.1).mpr (Or.inr ⟨List.mem_map_of_mem hp, hok p hp⟩)
      obtain ⟨q, hq, hqp⟩ := List.mem_map.mp hkey
      rw [← hqp, Pattern.backsUp, (hmap q hq).1]
      exact hfin q hq
    · intro h
      refine ⟨fun p hp => ?_, fun q hq => ?_⟩
      · have hp' := h p hp
        unfold Pattern.backsUp at hp'
        cases hv : sc.pattern.vzdump p.1 with
        | ok upid => rfl
        | error e => simp [hv] at hp'
      · have hkey := (hkeys q.1).mp (List.mem_map_of_mem hq)
        simp only [List.map_nil, List.not_mem_nil, false_or] at hkey
        obtain ⟨p, hp, hpq⟩ := List.mem_map.mp hkey.1
        have hp' := h p hp
        rw [hpq, Pattern.backsUp, (hmap q hq).1] at hp'
        exact hp'
  have hall : (∀ p ∈ guests, sc.pattern.backsUp p.1 = true) →
      ∀ p ∈ guests, p.1 ∈ polled.backedUp := by
    intro h p hp
    obtain ⟨hok, hfin⟩ : (∀ p ∈ guests, (sc.pattern.vzdump p.1).isOk = true) ∧
        ∀ p ∈ upidMap, Pattern.finishes (sc.pattern.task p.2) maxRounds 0 = true := by
      have hnil := hsteps.mpr h
      rw [List.append_eq_nil_iff, List.map_eq_nil_iff, herr₂, herr₁] at hnil
      exact ⟨hnil.1.2, hnil.2⟩
    obtain ⟨q, hq, hqp⟩ := List.mem_map.mp
      ((hkeys p.1).mpr (Or.inr ⟨List.mem_map_of_mem hp, hok p hp⟩))
    exact hback p.1 (Or.inr ⟨q, hq, hqp, hfin q hq⟩)
  refine ⟨polled.backedUp, deleted, errors₃, _, _, rfl, ?_, ?_⟩
  · rw [decide_eq_true_iff, List.length_eq_zero_iff, herr₃, hsteps, hlen]
    simp only [List.length_nil, Nat.zero_add]
    constructor
    · rintro ⟨⟨hb, hd⟩, -⟩ p hp
      exact ⟨hb p hp, hd p hp (hall hb p hp)⟩
    · intro h
      refine ⟨⟨fun p hp => (h p hp).1, fun p hp _ => (h p hp).2⟩, List.countP_eq_length.mpr ?_⟩
      intro p hp
      simp [hall (fun p hp => (h p hp).1) p hp, (h p hp).2]
  · intro hready g
    rw [decide_eq_true_iff, List.length_eq_zero_iff, herr₃, hsteps] at hready
    obtain ⟨⟨hb, hd⟩, -⟩ := hready
    rw [hrows, hg₂, hg₁]
    exact and_congr_right fun _ => ⟨fun h p hp => h p hp (hall hb p hp) (hd p hp (hall hb p hp)),
      fun h p hp _ _ => h p hp⟩

end Clearing

/-! ### Looking at the node -/

section Looking

variable {sc : Scenario} {server : ProxmoxServer} {s : NodeState}

private theorem meets_getNodes : sc.pattern.host.Meets sc.Allowed
    (fun s' r => r = .ok (sc.nodesAt server s.nodeLists) ∧
      s' = { s with nodeLists := s.nodeLists + 1 }) s (getNodes server) := by
  unfold getNodes
  refine Host.meets_ask_bind.mpr ⟨trivial, ?_⟩
  have hans : sc.pattern.host.answer s (.request server .getNodes) =
      sc.pattern.nodes server.id s.nodeLists := rfl
  rw [hans]
  unfold Scenario.nodesAt
  cases sc.pattern.nodes server.id s.nodeLists with
  | ok nodes => exact ⟨rfl, rfl⟩
  | error e => exact ⟨rfl, rfl⟩

/-- Nodes whose list cannot be read add nothing to it. -/
private theorem meets_getGuestsOf {ty : VmType} {nodes : List String} (hs : s.guests = sc.guests) :
    sc.pattern.host.Meets sc.Allowed (fun s' r => r = .ok (sc.shownOn ty nodes) ∧ s' = s) s
      (getGuestsOf server ty nodes) := by
  induction nodes with
  | nil => exact ⟨rfl, rfl⟩
  | cons node rest ih =>
    unfold getGuestsOf
    refine Host.meets_ask_bind.mpr ⟨trivial, ?_⟩
    have hans : sc.pattern.host.answer s (.request server (.getGuests node ty)) =
        match sc.pattern.unreadable node ty with
        | some e => .error e
        | none => .ok (Pattern.shown sc.guests node ty) := by
      rw [← hs]
      rfl
    have hnext : sc.pattern.host.next s (.request server (.getGuests node ty)) = s := rfl
    have hshown : sc.shownOn ty (node :: rest) =
        (match sc.pattern.unreadable node ty with
          | some _ => []
          | none => Pattern.shown sc.guests node ty) ++ sc.shownOn ty rest := rfl
    rw [hans, hnext, hshown]
    refine Host.meets_bind.mpr (Host.meets_mono (fun s' r h => ?_) ih)
    obtain ⟨rfl, rfl⟩ := h
    cases sc.pattern.unreadable node ty with
    | some e => exact ⟨rfl, rfl⟩
    | none => exact ⟨rfl, rfl⟩

private theorem meets_getGuests {ty : VmType} {node : String} (hs : s.guests = sc.guests) :
    sc.pattern.host.Meets sc.Allowed
      (fun s' r => r = .ok (sc.shownOn ty
          (if node ≠ "" then [node] else sc.nodesAt server s.nodeLists)) ∧
        s' = { s with nodeLists := if node ≠ "" then s.nodeLists else s.nodeLists + 1 })
      s (getGuests server ty node) := by
  unfold getGuests
  by_cases hnode : node = ""
  · simp only [hnode, ne_eq, not_true_eq_false, if_false]
    refine Host.meets_bind.mpr (Host.meets_mono (fun s' r h => ?_) meets_getNodes)
    obtain ⟨rfl, rfl⟩ := h
    exact meets_getGuestsOf hs
  · simp only [ne_eq, hnode, not_false_eq_true, if_true]
    exact meets_getGuestsOf hs

/-- Both endpoints first take a name for the node and read its two guest lists. -/
private theorem meets_look {β : Type} (post : NodeState → Except Exc β → Prop)
    (k : String → List Vmid → List Vmid → ClusterHandler β) {C : Prop}
    (hk : ∀ s', s'.guests = sc.guests → s'.sleeps = 0 →
      (sc.pattern.host.Meets sc.Allowed post s'
        (k (sc.nodeName server) (sc.listed server .qemu 1) (sc.listed server .lxc 2)) ↔ C)) :
    sc.pattern.host.Meets sc.Allowed post sc.start (do
      let nodes ← getNodes server
      let vms ← getGuests server .qemu (nodeNameOf server nodes)
      let containers ← getGuests server .lxc (nodeNameOf server nodes)
      k (nodeNameOf server nodes) vms containers) ↔ C := by
  refine Host.meets_bind.trans (Host.meets_iff_of_meets (fun s r h => ?_) meets_getNodes)
  obtain ⟨rfl, rfl⟩ := h
  refine Host.meets_bind.trans (Host.meets_iff_of_meets (fun s r h => ?_) (meets_getGuests rfl))
  obtain ⟨rfl, rfl⟩ := h
  refine Host.meets_bind.trans (Host.meets_iff_of_meets (fun s r h => ?_) (meets_getGuests rfl))
  obtain ⟨rfl, rfl⟩ := h
  have hname : nodeNameOf server (sc.nodesAt server sc.start.nodeLists) = sc.nodeName server := rfl
  have hlxc : (if sc.nodeName server ≠ "" then [sc.nodeName server]
      else sc.nodesAt server (if sc.nodeName server ≠ "" then 1 else 2)) =
      if sc.nodeName server ≠ "" then [sc.nodeName server] else sc.nodesAt server 2 := by
    split
    · rfl
    · rfl
  rw [hname]
  dsimp only [Scenario.start]
  rw [hlxc]
  exact hk _ rfl rfl

end Looking

/-! ### The verdicts -/

section Verdicts

variable {sc : Scenario} {server : ProxmoxServer}

theorem mem_shown {guests : KeyedTable Guest.vmid} {node : String} {ty : VmType} {vmid : Vmid} :
    vmid ∈ Pattern.shown guests node ty ↔
      ∃ g ∈ guests.rows, g.node = node ∧ g.ty = ty ∧ g.vmid = vmid := by
  unfold Pattern.shown
  rw [List.mem_map]
  constructor
  · rintro ⟨g, hg, rfl⟩
    obtain ⟨hm, hp⟩ := List.mem_filter.mp hg
    obtain ⟨hn, ht⟩ := of_decide_eq_true hp
    exact ⟨g, hm, hn, ht, rfl⟩
  · rintro ⟨g, hm, hn, ht, hv⟩
    exact ⟨g, List.mem_filter.mpr ⟨hm, decide_eq_true ⟨hn, ht⟩⟩, hv⟩

/-- Under its own name the node shows a guest exactly when the list can be read. -/
theorem Scenario.mem_listed_of_self {g : Guest} (hg : g ∈ sc.guests.rows)
    (hself : g.node = sc.self) (hname : sc.nodeName server = sc.self) (n : Nat) :
    g.vmid ∈ sc.listed server g.ty n ↔ sc.pattern.unreadable sc.self g.ty = none := by
  unfold Scenario.listed Scenario.shownOn
  rw [hname, if_pos sc.self_ne]
  simp only [List.flatMap_cons, List.flatMap_nil, List.append_nil]
  cases hu : sc.pattern.unreadable sc.self g.ty with
  | some e => simp
  | none => simpa using mem_shown.mpr ⟨g, hg, hself, rfl, rfl⟩

theorem Scenario.mem_allListed {v : Vmid} {ty : VmType} :
    (v, ty) ∈ sc.allListed server ↔
      v ∈ sc.listed server ty (match ty with | .qemu => 1 | .lxc => 2) := by
  unfold Scenario.allListed
  cases ty with
  | qemu => simp
  | lxc => simp

/-- After the deletions the node is vacant exactly when it could be cleared. -/
theorem Scenario.vacant_iff_clears (hwell : sc.AllWell server) {guests : KeyedTable Guest.vmid}
    (hrows : ∀ g, g ∈ guests.rows ↔ g ∈ sc.guests.rows ∧ ∀ p ∈ sc.allListed server,
      ¬sc.pattern.destroys (sc.nodeName server) p.2 p.1 g = true) :
    sc.Vacant guests ↔ sc.Clears server := by
  constructor
  · intro hv g hg hself
    have hgone : g ∉ guests.rows := fun h => hv g h hself
    rw [hrows] at hgone
    have hex : ∃ p ∈ sc.allListed server,
        sc.pattern.destroys (sc.nodeName server) p.2 p.1 g = true := by
      by_contra hno
      exact hgone ⟨hg, fun p hp hd => hno ⟨p, hp, hd⟩⟩
    obtain ⟨⟨v, ty⟩, hp, hd⟩ := hex
    simp only [Pattern.destroys, Bool.and_eq_true, decide_eq_true_eq] at hd
    obtain ⟨⟨⟨hn, rfl, rfl⟩, -⟩, hdone⟩ := hd
    have hname : sc.nodeName server = sc.self := hn.symm.trans hself
    exact ⟨hname, (sc.mem_listed_of_self hg hself hname _).mp (sc.mem_allListed.mp hp), hdone⟩
  · intro hc g hg hself
    obtain ⟨hg, hd⟩ := (hrows g).mp hg
    obtain ⟨hname, hread, hdone⟩ := hc g hg hself
    have hp : (g.vmid, g.ty) ∈ sc.allListed server :=
      sc.mem_allListed.mpr ((sc.mem_listed_of_self hg hself hname _).mpr hread)
    refine hd _ hp ?_
    have hdel := (hwell _ hp).2
    have hok : (sc.pattern.delete g.vmid).isOk = true := by
      unfold Pattern.deletable at hdel
      split at hdel
      · exact (Bool.and_eq_true_iff.mp hdel).2
      · cases hdel
    simp [Pattern.destroys, hname, hself, hok, hdone]

/-- The verdict on a named server's node. -/
private theorem meets_verdict {storage compress : String} {s : NodeState}
    (hg : s.guests = sc.guests) (h0 : s.sleeps = 0) :
    sc.pattern.host.Meets sc.Allowed sc.ReadyIsTrue s
      (if (sc.allListed server).isEmpty then
        pure (.prepared [] [] [] true "Нода не содержит VM/LXC — готова к join")
      else clearNode server (sc.nodeName server) storage compress (sc.allListed server)) ↔
      (sc.AllWell server → sc.Clears server) := by
  cases hl : sc.allListed server with
  | nil =>
    have hwell : sc.AllWell server := by simp [Scenario.AllWell, hl]
    simp only [List.isEmpty_nil, if_true]
    refine Host.meets_pure.trans ?_
    have hv : sc.ReadyIsTrue s (.ok (.prepared [] [] [] true
        "Нода не содержит VM/LXC — готова к join")) ↔ sc.Vacant s.guests := Iff.rfl
    have hrows : ∀ g, g ∈ s.guests.rows ↔ g ∈ sc.guests.rows ∧ ∀ p ∈ sc.allListed server,
        ¬sc.pattern.destroys (sc.nodeName server) p.2 p.1 g = true := by simp [hg, hl]
    rw [hv, sc.vacant_iff_clears hwell hrows]
    exact ⟨fun h _ => h, fun h => h hwell⟩
  | cons p rest =>
    simp only [List.isEmpty_cons, Bool.false_eq_true, if_false]
    rw [← hl]
    refine Host.meets_iff_of_meets (fun s' r h => ?_) (meets_clearNode h0)
    obtain ⟨backedUp, deleted, errors, ready, message, rfl, hready, hrows⟩ := h
    cases ready with
    | false =>
      refine ⟨fun _ hwell => ?_, fun _ => trivial⟩
      exact absurd (hready.mpr hwell) (by simp)
    | true =>
      have hwell : sc.AllWell server := hready.mp rfl
      have hv : sc.ReadyIsTrue s' (.ok (.prepared backedUp deleted errors true message)) ↔
          sc.Vacant s'.guests := Iff.rfl
      rw [hv, sc.vacant_iff_clears hwell (fun g => by rw [hrows rfl, hg])]
      exact ⟨fun h _ => h, fun h => h hwell⟩

end Verdicts

/-! ### The two endpoints -/

section Endpoints

variable {sc : Scenario} {server : ProxmoxServer}

private theorem meets_confirmJoin {s : NodeState} {node : String} {n : Nat} :
    sc.pattern.host.Meets sc.Allowed (fun _ r => ∃ b, r = .ok b) s
      (confirmJoin server node n) := by
  induction n generalizing s with
  | zero => exact ⟨false, rfl⟩
  | succ n ih =>
    unfold confirmJoin
    refine Host.meets_ask_bind.mpr ⟨trivial, Host.meets_bind.mpr ?_⟩
    refine Host.meets_mono (fun s' r h => ?_) meets_getNodes
    obtain ⟨rfl, rfl⟩ := h
    by_cases hn : node ∈ sc.nodesAt server
        (sc.pattern.host.next s (.effect (.sleep 2))).nodeLists
    · simp only [hn, if_true]
      exact ⟨true, rfl⟩
    · simp only [hn, if_false]
      exact ih

/-- The join request is the one call that has to be allowed. -/
private theorem meets_requestJoin {s : NodeState} {clusterServer : ProxmoxServer}
    {node connectHost rootpw fingerprint : String} {link0 clusterName : Option String} :
    sc.pattern.host.Meets sc.Allowed sc.ReadyIsTrue s
      (requestJoin server clusterServer node connectHost rootpw fingerprint link0 clusterName) ↔
      sc.CountsAsEmpty s := by
  unfold requestJoin
  refine Host.meets_ask_bind.trans (and_iff_left ?_)
  have hans : sc.pattern.host.answer s
      (.request server (.joinCluster connectHost rootpw fingerprint link0)) = sc.pattern.join := rfl
  rw [hans]
  cases sc.pattern.join with
  | error e => exact trivial
  | ok upid =>
    refine Host.meets_bind_of (Host.meets_mono (fun _ r h => ?_) meets_confirmJoin)
      (fun s' confirmed (_ : True) => ?_)
    · obtain ⟨b, rfl⟩ := h
      exact ⟨b, rfl, trivial⟩
    · cases confirmed with
      | true => exact ⟨trivial, trivial⟩
      | false => exact trivial

/-- The join is started once the fingerprint is known. -/
private theorem meets_startJoin {s : NodeState} {clusterServer : ProxmoxServer}
    {node rootpw : String} {link0 clusterHost : Option String} :
    sc.pattern.host.Meets sc.Allowed sc.ReadyIsTrue s
      (startJoin server clusterServer node rootpw link0 clusterHost) ↔
      (hasCredentials clusterServer = true →
        (sc.fingerprint clusterServer clusterHost).isSome = true → sc.CountsAsEmpty s) := by
  unfold startJoin getProxmoxClient
  refine Host.meets_ensure_bind_iff (fun hc => ?_) fun hc => by simp [hc, Scenario.ReadyIsTrue]
  refine Host.meets_ask_bind.trans ((and_iff_right trivial).trans ?_)
  have hans : sc.pattern.host.answer s (.request clusterServer .getClusterJoinInfo) =
      sc.pattern.joinInfo := rfl
  have hnext : sc.pattern.host.next s (.request clusterServer .getClusterJoinInfo) = s := rfl
  rw [hans, hnext]
  unfold Scenario.fingerprint
  cases sc.pattern.joinInfo with
  | error e => exact ⟨fun _ _ h => absurd h (by simp), fun _ => trivial⟩
  | ok joinData =>
    dsimp only
    cases (extractFingerprint joinData (clusterHost.getD clusterServer.ipAddress)).or
        (extractFingerprint joinData clusterServer.ipAddress) with
    | none => exact ⟨fun _ _ h => absurd h (by simp), fun _ => trivial⟩
    | some fingerprint =>
      exact ⟨fun h _ _ => meets_requestJoin.mp h, fun h => meets_requestJoin.mpr (h hc rfl)⟩

theorem sound_prepareJoin_iff (body : PrepareBody) :
    sc.Sound (.prepareJoin body) ↔ sc.Spared (.prepareJoin body) := by
  change sc.pattern.host.Meets sc.Allowed sc.ReadyIsTrue sc.start
    (prepareJoin sc.db sc.user body) ↔ ∀ server, sc.Prepares server body →
      sc.AllWell server → sc.Clears server
  unfold prepareJoin permissionChecker
  refine Host.meets_ensure_bind_iff (fun hperm => ?_) fun hperm => ?_
  rotate_left
  · exact ⟨fun _ server hp => by simp [Scenario.Prepares, hperm] at hp, fun _ => trivial⟩
  refine Host.meets_ensure_bind_iff (fun hargs => ?_) fun hargs => ?_
  rotate_left
  · refine ⟨fun _ server hp => ?_, fun _ => trivial⟩
    simp [hp.2.1, hp.2.2.1] at hargs
  unfold resolveServer
  cases hs : sc.db.servers.find? (body.nodeServerId.getD 0) with
  | none => exact ⟨fun _ server hp => by simp [Scenario.Prepares, hs] at hp, fun _ => trivial⟩
  | some server =>
    have hprep : ∀ server', sc.Prepares server' body ↔
        server' = server ∧ hasCredentials server = true := by
      intro server'
      obtain ⟨hid, hst⟩ := of_decide_eq_true hargs
      unfold Scenario.Prepares
      rw [hs]
      constructor
      · rintro ⟨-, -, -, heq, hc⟩
        cases heq
        exact ⟨rfl, hc⟩
      · rintro ⟨rfl, hc⟩
        exact ⟨hperm, hst, hid, rfl, hc⟩
    unfold getProxmoxClient
    refine Host.meets_ensure_bind_iff (fun hc => ?_) fun hc => ?_
    rotate_left
    · exact ⟨fun _ server hp => by simp [hprep, hc] at hp, fun _ => trivial⟩
    have hall : (∀ server', sc.Prepares server' body → sc.AllWell server' → sc.Clears server') ↔
        (sc.AllWell server → sc.Clears server) := by
      constructor
      · exact fun h => h server ((hprep server).mpr ⟨rfl, hc⟩)
      · intro h server' hp
        obtain ⟨rfl, -⟩ := (hprep server').mp hp
        exact h
    rw [hall]
    exact meets_look sc.ReadyIsTrue (fun node vms containers =>
      let allGuests := vms.map (fun v => (v, VmType.qemu)) ++
        containers.map fun c => (c, VmType.lxc)
      if allGuests.isEmpty then
        pure (.prepared [] [] [] true "Нода не содержит VM/LXC — готова к join")
      else clearNode server node (strip (body.backupStorage.getD "")) (body.compress.getD "zstd")
        allGuests) fun s' hg h0 => meets_verdict hg h0

theorem sound_joinCluster_iff (body : JoinBody) :
    sc.Sound (.joinCluster body) ↔ sc.Spared (.joinCluster body) := by
  change sc.pattern.host.Meets sc.Allowed sc.ReadyIsTrue sc.start
    (joinCluster sc.db sc.user body) ↔ ∀ server clusterServer,
      sc.Joins server body clusterServer → sc.allListed server ≠ [] ∨ sc.CountsAsEmpty sc.start
  unfold joinCluster permissionChecker
  refine Host.meets_ensure_bind_iff (fun hperm => ?_) fun hperm => ?_
  rotate_left
  · exact ⟨fun _ _ _ hj => by simp [Scenario.Joins, hperm] at hj, fun _ => trivial⟩
  refine Host.meets_ensure_bind_iff (fun hids => ?_) fun hids => ?_
  rotate_left
  · exact ⟨fun _ _ _ hj => absurd (decide_eq_true hj.2.1) (by simp [hids]), fun _ => trivial⟩
  refine Host.meets_ensure_bind_iff (fun hpw => ?_) fun hpw => ?_
  rotate_left
  · exact ⟨fun _ _ _ hj => absurd (decide_eq_true hj.2.2.1) (by simp [hpw]), fun _ => trivial⟩
  refine Host.meets_ensure_bind_iff (fun hne => ?_) fun hne => ?_
  rotate_left
  · exact ⟨fun _ _ _ hj => absurd (decide_eq_true hj.2.2.2.1) (by simp [hne]), fun _ => trivial⟩
  unfold resolveServer
  cases hs : sc.db.servers.find? (body.nodeServerId.getD 0) with
  | none => exact ⟨fun _ _ _ hj => by simp [Scenario.Joins, hs] at hj, fun _ => trivial⟩
  | some server =>
    cases hcs : sc.db.servers.find? (body.clusterServerId.getD 0) with
    | none => exact ⟨fun _ _ _ hj => by simp [Scenario.Joins, hcs] at hj, fun _ => trivial⟩
    | some clusterServer =>
      have hjoins : ∀ server' clusterServer', sc.Joins server' body clusterServer' ↔
          (server' = server ∧ clusterServer' = clusterServer) ∧
            truthy clusterServer.clusterName = true ∧ hasCredentials server = true ∧
            hasCredentials clusterServer = true ∧
            (sc.fingerprint clusterServer (optionalText body.clusterHost)).isSome = true := by
        intro server' clusterServer'
        unfold Scenario.Joins
        rw [hs, hcs]
        constructor
        · rintro ⟨-, -, -, -, h₁, h₂, h⟩
          cases h₁
          cases h₂
          exact ⟨⟨rfl, rfl⟩, h⟩
        · rintro ⟨⟨rfl, rfl⟩, h⟩
          exact ⟨hperm, of_decide_eq_true hids, of_decide_eq_true hpw, of_decide_eq_true hne,
            rfl, rfl, h⟩
      refine Host.meets_ensure_bind_iff (fun hname => ?_) fun hname => ?_
      rotate_left
      · exact ⟨fun _ _ _ hj => by simp [hjoins, hname] at hj, fun _ => trivial⟩
      unfold getProxmoxClient
      refine Host.meets_ensure_bind_iff (fun hc => ?_) fun hc => ?_
      rotate_left
      · exact ⟨fun _ _ _ hj => by simp [hjoins, hc] at hj, fun _ => trivial⟩
      have hall : (∀ server' clusterServer', sc.Joins server' body clusterServer' →
          sc.allListed server' ≠ [] ∨ sc.CountsAsEmpty sc.start) ↔
          (hasCredentials clusterServer = true →
            (sc.fingerprint clusterServer (optionalText body.clusterHost)).isSome = true →
              sc.allListed server ≠ [] ∨ sc.CountsAsEmpty sc.start) := by
        constructor
        · exact fun h hcc hfp => h server clusterServer
            ((hjoins _ _).mpr ⟨⟨rfl, rfl⟩, hname, hc, hcc, hfp⟩)
        · intro h server' clusterServer' hj
          obtain ⟨⟨rfl, rfl⟩, -, -, hcc, hfp⟩ := (hjoins _ _).mp hj
          exact h hcc hfp
      rw [hall]
      refine meets_look sc.ReadyIsTrue (fun node vms containers => do
        Proc.ensure (vms.isEmpty && containers.isEmpty)
          (.http 409 (s!"Нода '{server.name}' содержит {vms.length} VM и {containers.length} LXC. " ++
            "При присоединении к кластеру /etc/pve будет перезаписан и все конфиги потеряются. " ++
            "Используйте 'prepare-join' для создания бэкапов и очистки ноды."))
        startJoin server clusterServer node (strip (body.rootpw.getD "")) (optionalText body.link0)
          (optionalText body.clusterHost)) fun s' hg h0 => ?_
      have hempty : ((sc.listed server .qemu 1).isEmpty &&
          (sc.listed server .lxc 2).isEmpty) = true ↔ sc.allListed server = [] := by
        simp [Scenario.allListed]
      have hcount : sc.CountsAsEmpty s' ↔ sc.CountsAsEmpty sc.start := by
        unfold Scenario.CountsAsEmpty
        rw [hg]
        exact Iff.rfl
      refine Host.meets_ensure_bind_iff (fun hno => ?_) fun hno => ?_
      · rw [meets_startJoin, hcount, hempty.mp hno]
        simp
      · have hsome : sc.allListed server ≠ [] := fun h => by simp [hempty.mpr h] at hno
        exact ⟨fun _ _ _ => Or.inl hsome, fun _ => trivial⟩

end Endpoints

/-- A request is sound exactly when the failures spare what it relies on. -/
theorem sound_iff (sc : Scenario) (r : ClusterRequest) : sc.Sound r ↔ sc.Spared r := by
  cases r with
  | prepareJoin body => exact sound_prepareJoin_iff body
  | joinCluster body => exact sound_joinCluster_iff body

/-! ### An unreadable guest list -/

/-- The registered server of a standalone node. -/
def loneServer : ProxmoxServer :=
  ⟨1, "pve", "pve", "192.0.2.1", 8006, "root@pam", some "panel", some "secret", false, none, false,
    none, none, some true, none, none, none⟩

/-- A member of the cluster that the node is to join. -/
def memberServer : ProxmoxServer :=
  { loneServer with
    id := 2
    name := "hub"
    hostname := "hub"
    ipAddress := "192.0.2.2"
    clusterName := some "main" }

/-- One guest on the node, whose list of virtual machines times out; all else works. -/
def timedOut : Scenario where
  db := ⟨⟨[loneServer, memberServer], by decide⟩, .empty, ⟨.empty, []⟩⟩
  user := ⟨1, "admin", true, none, []⟩
  pattern :=
    { nodes := fun id _ => .ok [if id = 1 then "pve" else "hub"]
      unreadable := fun _ ty => if ty = .qemu then some "timeout" else none
      vzdump := fun _ => .ok "UPID:vzdump"
      task := fun _ _ => .ok ⟨"stopped", some "OK"⟩
      guestStatus := fun _ => .ok "stopped"
      stop := fun _ => .ok ()
      delete := fun _ => .ok "UPID:destroy"
      destroyed := fun _ => true
      joinInfo := .ok ⟨some "AA:BB", [], none, some "main"⟩
      join := .ok "UPID:join" }
  guests := ⟨[⟨"pve", 100, .qemu⟩], by decide⟩
  self := "pve"
  self_ne := by decide

/-- The node is declared ready with its guest, and joined with it. -/
theorem timedOut_not_sound :
    ¬timedOut.Sound (.prepareJoin ⟨some 1, some "local", none⟩) ∧
      ¬timedOut.Sound (.joinCluster ⟨some 1, some 2, some "secret", none, none⟩) := by
  have hlisted : timedOut.allListed loneServer = [] := by decide
  constructor
  · rw [sound_prepareJoin_iff]
    intro h
    have hwell : timedOut.AllWell loneServer := by
      intro p hp
      rw [hlisted] at hp
      cases hp
    have hc := h loneServer ⟨rfl, by decide, by decide, by decide, by decide⟩ hwell
    have hu := (hc ⟨"pve", 100, .qemu⟩ (by decide) rfl).2.1
    cases hu
  · rw [sound_joinCluster_iff]
    intro h
    rcases h loneServer memberServer ⟨rfl, by decide, by decide, by decide, by decide, by decide,
      by decide, by decide, by decide, by decide⟩ with hl | hc
    · exact hl hlisted
    · exact hc.1 ⟨"pve", 100, .qemu⟩ (by decide) rfl

end PveManager.Api.Cluster
