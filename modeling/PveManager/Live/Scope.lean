import PveManager.Api.GlobalView
import PveManager.Live.Jobs

/-!
# Live updates and tenants

Two runs with the same steps, in worlds that differ in the guests of others only. The
user receives the same in both as long as no step shows the user another guest: the two
channels of all guests are not the user's, a guest that the user asks for is the user's
own, and what happens to other guests is not told while the user is there.
-/

namespace PveManager.Live

open PveManager.Core PveManager.Api PveManager.Monitoring
open PveManager.Sync (SameGuests OthersStill syncVmCache)

variable {toInt : String → Option Int} {mine : ServerId × Vmid → Bool} {user : UserId}
  {w w' : World}

/-! ### Steps that spare the user -/

variable (toInt mine) in
/-- A channel that carries nothing about guests outside the set. -/
structure Safe (channel : String) : Prop where
  dashboard : channel ≠ "dashboard_metrics"
  list : channel ≠ "instances_list_metrics"
  server : "server_metrics:".toList <+: channel.toList →
    ∀ q, serverChannel toInt channel = some q → IsNodeName q.2
  inst : "instance_metrics:".toList <+: channel.toList →
    ∀ q, instanceChannel toInt channel = some q →
      ∀ server : Nat, q.serverId = server → numbered mine server q.vmid = true

variable (user) in
/-- A socket of the user subscribed to the channel. -/
def Subscribed (s : Feed) (channel : String) : Prop :=
  ∃ socket ∈ s.manager.subscribers channel, socket.user = user

variable (user) in
/-- The user has an open socket. -/
def Present (s : Feed) : Prop := ∃ socket ∈ s.manager.connections, socket.user = user

variable (mine) in
/-- An RRD request that asks for a node, or for a guest of the set. -/
structure SafeRequest (w : World) (action : String) (params : RrdParams) : Prop where
  node : action = "get_node_rrd" → IsNodeName params.node
  guest : action = "get_rrd" → ∀ n vmid server, params.serverId = .ok n → params.vmid = .ok vmid →
    w.findServer n = some server → w.answers.connection server.id = .connected →
      numbered mine server.id vmid = true

variable (toInt mine user) in
/-- A step that shows the user no guest outside the set. -/
def Spares (s : Feed) (e : LiveEvent) : Prop :=
  match e.act with
  | .message socket (.subscribe channel) =>
    socket.user = user → socket ∈ s.manager.connections →
      (s.metricsCache channel).isSome = true → Safe toInt mine channel
  | .message socket (.request action _ params) =>
    socket.user = user → socket ∈ s.manager.connections → SafeRequest mine e.world action params
  | .dashboardTick => ¬Subscribed user s "dashboard_metrics"
  | .listTick => ¬Subscribed user s "instances_list_metrics"
  | .serverTick => ∀ channel ∈ s.manager.getChannelsMatching "server_metrics:",
      Subscribed user s channel → Safe toInt mine channel
  | .instanceTick => ∀ channel ∈ s.manager.getChannelsMatching "instance_metrics:",
      Subscribed user s channel → Safe toInt mine channel
  | .statusTick => StatusQuiet mine user e.world s.statusDesk
  | .usageTick => UsageQuiet mine user e.world s.alertDesk
  | .syncTick => Present user s → OthersStill mine e.world.tick e.world.db
  | _ => True

/-! ### States alike for the user -/

variable (toInt mine user) in
/-- The same sockets, the same memory of what the user may see, and the same received. -/
structure Alike (s s' : Feed) : Prop where
  manager : s.manager = s'.manager
  cache : ∀ channel, Safe toInt mine channel → s.metricsCache channel = s'.metricsCache channel
  io : ∀ channel, Safe toInt mine channel → s.ioPrev channel = s'.ioPrev channel
  disks : ∀ channel, Safe toInt mine channel → s.diskCache channel = s'.diskCache channel
  status : StatusAlike mine user s.statusDesk s'.statusDesk
  alerts : AlertsAlike mine user s.alertDesk s'.alertDesk
  messages : s.sent.filter (fun m => decide (m.1.user = user)) =
    s'.sent.filter fun m => decide (m.1.user = user)

theorem filter_toSockets_eq_nil {sockets : List Socket} {message : LiveMessage}
    (h : ∀ socket ∈ sockets, socket.user ≠ user) :
    (sockets.map fun socket => (socket, message)).filter (fun m => decide (m.1.user = user)) =
      [] := by
  refine List.filter_eq_nil_iff.mpr fun m hm hu => ?_
  obtain ⟨socket, hsocket, rfl⟩ := List.mem_map.mp hm
  exact h socket hsocket (of_decide_eq_true hu)

/-- The same entry is written into both memories. -/
private theorem update_eq_update {β : Type} {f g : String → β} (a : String) (v : β) {k : String}
    (h : f k = g k) : Function.update f a v k = Function.update g a v k := by
  by_cases hk : k = a
  · rw [hk, Function.update_self, Function.update_self]
  · rw [Function.update_of_ne hk, Function.update_of_ne hk, h]

namespace Alike

variable {s s' : Feed} {socket : Socket} {channel : String}

theorem symm (h : Alike toInt mine user s s') : Alike toInt mine user s' s where
  manager := h.manager.symm
  cache channel hsafe := (h.cache channel hsafe).symm
  io channel hsafe := (h.io channel hsafe).symm
  disks channel hsafe := (h.disks channel hsafe).symm
  status := h.status.symm
  alerts := h.alerts.symm
  messages := h.messages.symm

theorem setManager (h : Alike toInt mine user s s') (m : ConnectionManager) :
    Alike toInt mine user { s with manager := m } { s' with manager := m } :=
  ⟨rfl, h.cache, h.io, h.disks, h.status, h.alerts, h.messages⟩

theorem send_hidden (h : Alike toInt mine user s s') (hu : socket.user ≠ user)
    (message : LiveMessage) : Alike toInt mine user (s.send socket message) s' := by
  refine ⟨h.manager, h.cache, h.io, h.disks, h.status, h.alerts, ?_⟩
  unfold Feed.send
  dsimp only
  rw [List.filter_append, List.filter_singleton, decide_eq_false hu]
  exact (List.append_nil _).trans h.messages

theorem send (h : Alike toInt mine user s s') {message message' : LiveMessage}
    (hm : socket.user = user → message = message') :
    Alike toInt mine user (s.send socket message) (s'.send socket message') := by
  by_cases hu : socket.user = user
  · refine ⟨h.manager, h.cache, h.io, h.disks, h.status, h.alerts, ?_⟩
    unfold Feed.send
    dsimp only
    rw [List.filter_append, List.filter_append, h.messages, hm hu]
  · exact ((h.send_hidden hu message).symm.send_hidden hu message').symm

/-- A payload on a channel that is not the user's. -/
theorem publish_hidden (h : Alike toInt mine user s s') (hsafe : ¬Safe toInt mine channel)
    (hsub : ¬Subscribed user s channel) (data : ChannelData) :
    Alike toInt mine user (s.publish channel data) s' := by
  have hnobody : ∀ socket ∈ s.manager.subscribers channel, socket.user ≠ user :=
    fun socket hsocket hu => hsub ⟨socket, hsocket, hu⟩
  refine ⟨h.manager, fun ch hch => ?_, h.io, h.disks, h.status, h.alerts, ?_⟩
  · have hne : ch ≠ channel := by
      rintro rfl
      exact hsafe hch
    exact (Function.update_of_ne hne _ _).trans (h.cache ch hch)
  · unfold Feed.publish Feed.broadcastToChannel
    dsimp only
    rw [List.filter_append, filter_toSockets_eq_nil hnobody, List.append_nil]
    exact h.messages

theorem publish (h : Alike toInt mine user s s') (channel : String) (data : ChannelData) :
    Alike toInt mine user (s.publish channel data) (s'.publish channel data) := by
  refine ⟨h.manager, fun ch hch => update_eq_update _ _ (h.cache ch hch), h.io, h.disks, h.status,
    h.alerts, ?_⟩
  · unfold Feed.publish Feed.broadcastToChannel
    dsimp only
    rw [List.filter_append, List.filter_append, h.messages, h.manager]

theorem subscribed_iff (h : Alike toInt mine user s s') :
    Subscribed user s channel ↔ Subscribed user s' channel := by
  unfold Subscribed
  rw [h.manager]

theorem replay_hidden (h : Alike toInt mine user s s') (hu : socket.user ≠ user)
    (cached : Option LiveMessage) : Alike toInt mine user (s.replay socket cached) s' := by
  cases cached with
  | some message => exact h.send_hidden hu message
  | none => exact h

theorem replay (h : Alike toInt mine user s s') (cached : Option LiveMessage) :
    Alike toInt mine user (s.replay socket cached) (s'.replay socket cached) := by
  cases cached with
  | some message => exact h.send fun _ => rfl
  | none => exact h

/-- A new subscriber is sent what is kept of the channel. -/
theorem dispatch_subscribe (h : Alike toInt mine user s s')
    (hs : socket.user = user → (s.metricsCache channel).isSome = true → Safe toInt mine channel)
    (hs' : socket.user = user → (s'.metricsCache channel).isSome = true →
      Safe toInt mine channel) :
    Alike toInt mine user (s.dispatch w socket (.subscribe channel))
      (s'.dispatch w' socket (.subscribe channel)) := by
  simp only [Feed.dispatch]
  split
  · exact h
  · have hnext := h.setManager (s'.manager.subscribe socket channel)
    rw [h.manager]
    by_cases hu : socket.user = user
    · have hsame : s.metricsCache channel = s'.metricsCache channel := by
        cases hc : s.metricsCache channel with
        | some cached => exact hc.symm.trans (h.cache channel (hs hu (hc ▸ rfl)))
        | none =>
          cases hc' : s'.metricsCache channel with
          | some cached => exact hc.symm.trans ((h.cache channel (hs' hu (hc' ▸ rfl))).trans hc')
          | none => rfl
      rw [hsame]
      exact hnext.replay _
    · exact ((hnext.replay_hidden hu _).symm.replay_hidden hu _).symm

end Alike

/-- A server that a number finds has that number. -/
theorem World.id_of_findServer {n : Int} {server : ProxmoxServer}
    (h : w.findServer n = some server) : n = (server.id : Int) := by
  cases n with
  | ofNat id => exact congrArg Int.ofNat (w.db.servers.key_of_find? h).symm
  | negSucc id => exact absurd h (Option.some_ne_none server).symm

theorem World.Same.findServer_eq (hw : World.Same mine user w w') (n : Int) :
    w.findServer n = w'.findServer n := by
  unfold World.findServer
  rw [hw.guests.servers]

/-- A request that asks for a node or for a guest of the set is answered alike. -/
theorem World.Same.handleRrdRequest_eq (hw : World.Same mine user w w') {action : String}
    {params : RrdParams} (hs : SafeRequest mine w action params) (requestId : String) :
    handleRrdRequest w requestId action params = handleRrdRequest w' requestId action params := by
  have hfetch : ∀ n, params.serverId = .ok n →
      fetchRrd w n action params = fetchRrd w' n action params := by
    intro n hn
    unfold fetchRrd
    rw [← hw.findServer_eq, ← hw.connection]
    cases hfind : w.findServer n with
    | none => rfl
    | some server =>
      dsimp only
      cases hconnection : w.answers.connection server.id with
      | raised text => rfl
      | disconnected => rfl
      | connected =>
        dsimp only
        by_cases hnode : action = "get_node_rrd"
        · rw [if_pos hnode, if_pos hnode, hw.nodeRrd _ _ _ (hs.node hnode)]
        · rw [if_neg hnode, if_neg hnode]
          by_cases hguest : action = "get_rrd"
          · rw [if_pos hguest, if_pos hguest]
            cases hvmid : params.vmid with
            | error text => rfl
            | ok vmid =>
              dsimp only
              rw [hw.guestRrd _ _ _ _ _ (hs.guest hguest n vmid server hn hvmid hfind hconnection)]
          · rw [if_neg hguest, if_neg hguest]
  have hbind : (params.serverId.bind fun serverId => fetchRrd w serverId action params) =
      params.serverId.bind fun serverId => fetchRrd w' serverId action params := by
    cases hn : params.serverId with
    | error text => rfl
    | ok n => exact hfetch n hn
  unfold handleRrdRequest
  rw [hbind]

namespace Alike

variable {s s' : Feed} {socket : Socket} {channel : String}

/-- One message of an open socket. -/
theorem dispatch (hw : World.Same mine user w w') (h : Alike toInt mine user s s')
    {message : ClientMessage} (hsocket : socket ∈ s.manager.connections)
    (hs : Spares toInt mine user s ⟨.message socket message, w⟩)
    (hs' : Spares toInt mine user s' ⟨.message socket message, w'⟩) :
    Alike toInt mine user (s.dispatch w socket message) (s'.dispatch w' socket message) := by
  have hsocket' : socket ∈ s'.manager.connections := h.manager ▸ hsocket
  cases message with
  | ping => exact h.send fun _ => rfl
  | subscribe channel =>
    exact h.dispatch_subscribe (fun hu => hs hu hsocket) fun hu => hs' hu hsocket'
  | unsubscribe channel =>
    simp only [Feed.dispatch]
    split
    · exact h
    · rw [h.manager]
      exact h.setManager _
  | request action requestId params =>
    simp only [Feed.dispatch]
    split
    · exact h.send fun hu => hw.handleRrdRequest_eq (hs hu hsocket) requestId
    · exact h
  | ignored => exact h
  | broken =>
    simp only [Feed.dispatch]
    rw [h.manager]
    exact h.setManager _

/-! ### The loops -/

/-- Channels are pushed to one by one; each push is alike, or hidden on both sides. -/
theorem push {push push' : Feed → String → Feed} {channels : List String}
    (hmanager : ∀ t ch, (push t ch).manager = t.manager)
    (hhidden : ∀ t ch, ¬Safe toInt mine ch → ¬Subscribed user t ch →
      ∀ t', Alike toInt mine user t t' → Alike toInt mine user (push t ch) t')
    (hhidden' : ∀ t ch, ¬Safe toInt mine ch → ¬Subscribed user t ch →
      ∀ t', Alike toInt mine user t t' → Alike toInt mine user (push' t ch) t')
    (hsafe : ∀ t t', ∀ ch ∈ channels, Safe toInt mine ch → Alike toInt mine user t t' →
      Alike toInt mine user (push t ch) (push' t' ch))
    (hs : ∀ ch ∈ channels, Subscribed user s ch → Safe toInt mine ch)
    (h : Alike toInt mine user s s') :
    Alike toInt mine user (channels.foldl push s) (channels.foldl push' s') := by
  have hfold := List.foldl_rel (f := push) (g := push')
    (r := fun t t' => Alike toInt mine user t t' ∧ t.manager = s.manager) (l := channels)
    ⟨h, rfl⟩ ?_
  · exact hfold.1
  · rintro ch hch t t' ⟨ht, hm⟩
    refine ⟨?_, (hmanager t ch).trans hm⟩
    by_cases hch' : Safe toInt mine ch
    · exact hsafe t t' ch hch hch' ht
    · have hsub : ¬Subscribed user t ch := by
        unfold Subscribed
        rw [hm]
        exact fun hsub => hch' (hs ch hch hsub)
      have hsub' : ¬Subscribed user t' ch := fun h' => hsub (ht.subscribed_iff.mpr h')
      exact (hhidden' t' ch hch' hsub' _ (hhidden t ch hch' hsub t' ht).symm).symm

theorem serverTick (hw : World.Same mine user w w') (h : Alike toInt mine user s s')
    (hs : Spares toInt mine user s ⟨.serverTick, w⟩) :
    Alike toInt mine user (s.serverTick toInt w) (s'.serverTick toInt w') := by
  have hmanager : ∀ (w : World) (t : Feed) ch, (t.pushNode toInt w ch).manager = t.manager := by
    intro w t ch
    unfold Feed.pushNode
    split
    · rfl
    · split <;> rfl
  have hhidden : ∀ (w : World) (t : Feed) ch, ¬Safe toInt mine ch → ¬Subscribed user t ch →
      ∀ t', Alike toInt mine user t t' → Alike toInt mine user (t.pushNode toInt w ch) t' := by
    intro w t ch hch hsub t' ht
    unfold Feed.pushNode
    split
    · exact ht
    · split
      · exact ht
      · exact ht.publish_hidden hch hsub _
  unfold Feed.serverTick
  rw [← h.manager]
  refine h.push (hmanager w) (hhidden w) (hhidden w') (fun t t' ch hch hsafe ht => ?_) hs
  have hstart : "server_metrics:".toList <+: ch.toList :=
    of_decide_eq_true (List.mem_filter.mp hch).2
  unfold Feed.pushNode
  cases hq : serverChannel toInt ch with
  | none => exact ht
  | some q =>
    have hstatus : Feed.fetchNodeStatus w q.1 q.2 = Feed.fetchNodeStatus w' q.1 q.2 := by
      unfold Feed.fetchNodeStatus
      rw [← hw.findServer_eq, ← hw.connection]
      refine congrArg (Option.bind _) (funext fun server => ?_)
      rw [hw.nodeStatus _ _ (hsafe.server hstart q hq)]
    dsimp only
    rw [← hstatus]
    cases Feed.fetchNodeStatus w q.1 q.2 with
    | none => exact ht
    | some status => exact ht.publish ch _

/-- A status is pushed from the same memory of the channel. -/
theorem pushStatus (hw : World.Same mine user w w') (h : Alike toInt mine user s s')
    (hsafe : Safe toInt mine channel) {server : ServerId} {q : InstanceQuery}
    (hq : numbered mine server q.vmid = true) (status : InstanceStatus) :
    Alike toInt mine user (s.pushStatus w channel server q status)
      (s'.pushStatus w' channel server q status) := by
  have hfresh : Feed.freshDisks w server q status = Feed.freshDisks w' server q status := by
    unfold Feed.freshDisks
    rw [hw.fsinfo _ _ _ hq]
  have hdisks : s.disksOf w channel server q status = s'.disksOf w' channel server q status := by
    unfold Feed.disksOf
    rw [h.disks channel hsafe, hfresh, hw.clock]
  have hkept : Alike toInt mine user
      { s with
        diskCache := Function.update s.diskCache channel (s'.disksOf w' channel server q status).2
        ioPrev := Function.update s.ioPrev channel (some (w'.clock, status.gauges.counters)) }
      { s' with
        diskCache := Function.update s'.diskCache channel (s'.disksOf w' channel server q status).2
        ioPrev :=
          Function.update s'.ioPrev channel (some (w'.clock, status.gauges.counters)) } := by
    exact ⟨h.manager, h.cache, fun ch hch => update_eq_update _ _ (h.io ch hch),
      fun ch hch => update_eq_update _ _ (h.disks ch hch), h.status, h.alerts, h.messages⟩
  unfold Feed.pushStatus
  rw [hdisks, h.io channel hsafe, hw.clock]
  exact hkept.publish channel _

theorem pushStatus_hidden (h : Alike toInt mine user s s') (hsafe : ¬Safe toInt mine channel)
    (hsub : ¬Subscribed user s channel) (w : World) (server : ServerId) (q : InstanceQuery)
    (status : InstanceStatus) :
    Alike toInt mine user (s.pushStatus w channel server q status) s' := by
  have hne : ∀ {ch}, Safe toInt mine ch → ch ≠ channel := by
    rintro ch hch rfl
    exact hsafe hch
  have hkept : Alike toInt mine user
      { s with
        diskCache := Function.update s.diskCache channel (s.disksOf w channel server q status).2
        ioPrev := Function.update s.ioPrev channel (some (w.clock, status.gauges.counters)) } s' :=
    ⟨h.manager, h.cache,
      fun ch hch => (Function.update_of_ne (hne hch) _ s.ioPrev).trans (h.io ch hch),
      fun ch hch => (Function.update_of_ne (hne hch) _ s.diskCache).trans (h.disks ch hch),
      h.status, h.alerts, h.messages⟩
  exact hkept.publish_hidden hsafe hsub _

theorem instanceTick (hw : World.Same mine user w w') (h : Alike toInt mine user s s')
    (hs : Spares toInt mine user s ⟨.instanceTick, w⟩) :
    Alike toInt mine user (s.instanceTick toInt w) (s'.instanceTick toInt w') := by
  have hmanager : ∀ (w : World) (t : Feed) ch, (t.pushInstance toInt w ch).manager = t.manager := by
    intro w t ch
    unfold Feed.pushInstance
    split
    · rfl
    · split <;> rfl
  have hhidden : ∀ (w : World) (t : Feed) ch, ¬Safe toInt mine ch → ¬Subscribed user t ch →
      ∀ t', Alike toInt mine user t t' → Alike toInt mine user (t.pushInstance toInt w ch) t' := by
    intro w t ch hch hsub t' ht
    unfold Feed.pushInstance
    split
    · exact ht
    · split
      · exact ht
      · exact ht.pushStatus_hidden hch hsub _ _ _ _
  unfold Feed.instanceTick
  rw [← h.manager]
  refine h.push (hmanager w) (hhidden w) (hhidden w') (fun t t' ch hch hsafe ht => ?_) hs
  have hstart : "instance_metrics:".toList <+: ch.toList :=
    of_decide_eq_true (List.mem_filter.mp hch).2
  unfold Feed.pushInstance
  cases hq : instanceChannel toInt ch with
  | none => exact ht
  | some q =>
    have hfetch : Feed.fetchInstanceStatus w q = Feed.fetchInstanceStatus w' q := by
      unfold Feed.fetchInstanceStatus
      rw [← hw.findServer_eq, ← hw.connection]
      refine Option.bind_congr fun server hserver => ?_
      rw [hw.status _ _ _ _
        (hsafe.inst hstart q hq server.id (World.id_of_findServer hserver))]
    dsimp only
    rw [← hfetch]
    cases hst : Feed.fetchInstanceStatus w q with
    | none => exact ht
    | some st =>
      have hserver : q.serverId = (st.1 : Int) := by
        obtain ⟨server, hserver, hst⟩ := Option.bind_eq_some_iff.mp hst
        split at hst
        · obtain ⟨answer, -, rfl⟩ := Option.map_eq_some_iff.mp hst
          exact World.id_of_findServer hserver
        · exact absurd hst (Option.some_ne_none st).symm
      exact ht.pushStatus hw hsafe (hsafe.inst hstart q hq st.1 hserver) st.2

/-- The channels of all guests are pushed to past the user. -/
theorem dashboardTick_hidden (h : Alike toInt mine user s s')
    (hsub : ¬Subscribed user s "dashboard_metrics") (w : World) :
    Alike toInt mine user (s.dashboardTick w) s' := by
  unfold Feed.dashboardTick
  split
  · have hkept : Alike toInt mine user
        { s with serverLastGood := w.dashboardRound.remember s.serverLastGood } s' :=
      ⟨h.manager, h.cache, h.io, h.disks, h.status, h.alerts, h.messages⟩
    exact hkept.publish_hidden (fun hsafe => hsafe.dashboard rfl) hsub _
  · exact h

theorem listTick_hidden (h : Alike toInt mine user s s')
    (hsub : ¬Subscribed user s "instances_list_metrics") (w : World) :
    Alike toInt mine user (s.listTick w) s' := by
  unfold Feed.listTick
  split
  · dsimp only
    split
    · exact h
    · have hkept : ∀ rates, Alike toInt mine user { s with listIoPrev := rates } s' :=
        fun _ => ⟨h.manager, h.cache, h.io, h.disks, h.status, h.alerts, h.messages⟩
      generalize List.foldl (Feed.rateItem w.clock) ([], s.listIoPrev) _ = rated
      exact (hkept rated.2).publish_hidden (fun hsafe => hsafe.list rfl) hsub _
  · exact h

/-! ### The jobs -/

/-- Broadcasts to everybody, written out. -/
theorem sent_foldl_broadcast (s : Feed) (messages : List LiveMessage) :
    messages.foldl Feed.broadcast s =
      { s with
        sent := s.sent ++ messages.flatMap fun m =>
          s.manager.connections.map fun socket => (socket, m) } := by
  induction messages generalizing s with
  | nil => rw [List.foldl_nil, List.flatMap_nil, List.append_nil]
  | cons m rest ih =>
    rw [List.foldl_cons, ih]
    unfold Feed.broadcast
    dsimp only
    rw [List.flatMap_cons, List.append_assoc]

theorem filter_broadcasts_eq_nil {s : Feed} (habsent : ¬Present user s)
    (messages : List LiveMessage) :
    (messages.flatMap fun m => s.manager.connections.map fun socket => (socket, m)).filter
      (fun m => decide (m.1.user = user)) = [] := by
  refine List.filter_eq_nil_iff.mpr fun m hm hu => ?_
  obtain ⟨_, -, hm⟩ := List.mem_flatMap.mp hm
  obtain ⟨socket, hsocket, rfl⟩ := List.mem_map.mp hm
  exact habsent ⟨socket, hsocket, of_decide_eq_true hu⟩

theorem syncTick (hw : World.Same mine user w w') (h : Alike toInt mine user s s')
    (hs : Spares toInt mine user s ⟨.syncTick, w⟩)
    (hs' : Spares toInt mine user s' ⟨.syncTick, w'⟩) :
    Alike toInt mine user (s.syncTick w) (s'.syncTick w') := by
  unfold Feed.syncTick
  dsimp only
  rw [sent_foldl_broadcast, sent_foldl_broadcast]
  refine ⟨h.manager, h.cache, h.io, h.disks, h.status, h.alerts, ?_⟩
  dsimp only
  rw [List.filter_append, List.filter_append, h.messages]
  by_cases hpresent : Present user s
  · have hpresent' : Present user s' := by
      unfold Present
      rw [← h.manager]
      exact hpresent
    obtain ⟨hchanges, hcreated, hdeleted⟩ := hw.guests.announced_eq s.lastIpDetect
      s'.lastIpDetect (hs hpresent) (hs' hpresent')
    unfold Feed.announcements
    rw [hchanges, hcreated, hdeleted, h.manager]
  · have habsent' : ¬Present user s' := by
      unfold Present
      rw [← h.manager]
      exact hpresent
    exact congrArg _ ((filter_broadcasts_eq_nil hpresent _).trans
      (filter_broadcasts_eq_nil habsent' _).symm)

/-- A step of both runs. -/
theorem step {e e' : LiveEvent} (hact : e.act = e'.act) (hw : World.Same mine user e.world e'.world)
    (h : Alike toInt mine user s s') (hs : Spares toInt mine user s e)
    (hs' : Spares toInt mine user s' e') :
    Alike toInt mine user (s.step toInt e) (s'.step toInt e') := by
  obtain ⟨act, w⟩ := e
  obtain ⟨act', w'⟩ := e'
  obtain rfl : act = act' := hact
  cases act with
  | connect socket =>
    simp only [Feed.step, Feed.connect]
    rw [← hw.users, h.manager]
    split
    · exact (h.setManager _).send fun hu => by rw [hu, hw.tasks]
    · exact h
  | message socket message =>
    simp only [Feed.step]
    rw [← h.manager]
    split
    · rename_i hsocket
      exact h.dispatch hw hsocket hs hs'
    · exact h
  | disconnect socket =>
    simp only [Feed.step]
    rw [h.manager]
    exact h.setManager _
  | dashboardTick =>
    exact ((h.dashboardTick_hidden hs w).symm.dashboardTick_hidden hs' w').symm
  | serverTick => exact h.serverTick hw hs
  | instanceTick => exact h.instanceTick hw hs
  | listTick => exact ((h.listTick_hidden hs w).symm.listTick_hidden hs' w').symm
  | statusTick =>
    exact ⟨h.manager, h.cache, h.io, h.disks, h.status.run hw hs hs', h.alerts, h.messages⟩
  | usageTick =>
    exact ⟨h.manager, h.cache, h.io, h.disks, h.status, h.alerts.run hw hs hs', h.messages⟩
  | syncTick => exact h.syncTick hw hs hs'

/-- What is alike for the user was received alike. -/
theorem receivedBy_eq (h : Alike toInt mine user s s') : s.receivedBy user = s'.receivedBy user :=
  Received.mk.injEq _ _ _ _ _ _ ▸ ⟨h.messages, h.status.heard, h.alerts.heard⟩

end Alike

/-! ### Runs -/

/-- The guests of a user by the servers that show them; `home` is the server under whose number the
panel keeps the guests of a server. -/
def owns (home : ServerId → ServerId) (user : UserId) (db : Db) (k : ServerId × Vmid) : Bool :=
  (db.vms.find? (home k.1, k.2)).any fun r => decide (r.ownerId = some user)

/-- Two runs with the same steps, in worlds that differ in the guests of others only. -/
def DifferInOthers (home : ServerId → ServerId) (user : UserId) (r r' : List LiveEvent) : Prop :=
  List.Forall₂ (fun e e' => e.act = e'.act ∧
    owns home user e.world.db = owns home user e'.world.db ∧
    World.Same (owns home user e.world.db) user e.world e'.world) r r'

variable (toInt) in
/-- The process, with the guests that were the user's in every step so far. -/
def watch (home : ServerId → ServerId) (user : UserId) (p : (ServerId × Vmid → Bool) × Feed)
    (e : LiveEvent) : (ServerId × Vmid → Bool) × Feed :=
  (fun k => p.1 k && owns home user e.world.db k, p.2.step toInt e)

variable (toInt) in
/-- Every step of a run spares the user, as for the guests that were the user's all along. -/
def Confined (home : ServerId → ServerId) (user : UserId) (r : List LiveEvent) : Prop :=
  Guarded (watch toInt home user)
    (fun p e => Spares toInt (watch toInt home user p e).1 user p.2 e) (fun _ => true, Feed.start) r

section Smaller

variable {small : ServerId × Vmid → Bool} (hle : ∀ k, small k = true → mine k = true)

include hle

theorem filter_smaller {α : Type} {xs ys : List α} {key : α → ServerId × Vmid}
    (h : xs.filter (fun x => mine (key x)) = ys.filter fun x => mine (key x)) :
    xs.filter (fun x => small (key x)) = ys.filter fun x => small (key x) := by
  have hselect : ∀ l : List α, l.filter (fun x => small (key x)) =
      (l.filter fun x => mine (key x)).filter fun x => small (key x) := by
    intro l
    rw [List.filter_filter]
    refine List.filter_congr fun x _ => ?_
    cases hx : small (key x) with
    | true => rw [hle _ hx, Bool.and_true]
    | false => rfl
  rw [hselect xs, hselect ys, h]

theorem numbered_smaller {server : ServerId} {vmid : Int}
    (h : numbered small server vmid = true) : numbered mine server vmid = true := by
  cases vmid with
  | ofNat vmid => exact hle _ h
  | negSucc vmid => rfl

theorem World.Same.smaller (h : World.Same mine user w w') : World.Same small user w w' where
  users := h.users
  prefs := h.prefs
  tasks := h.tasks
  now := h.now
  timestamp := h.timestamp
  clock := h.clock
  connection := h.connection
  vms server := filter_smaller hle (h.vms server)
  stats server node vmid hm := h.stats server node vmid (hle _ hm)
  nodeStatus := h.nodeStatus
  nodeRrd := h.nodeRrd
  status server kind node vmid hm := h.status server kind node vmid (numbered_smaller hle hm)
  fsinfo server node vmid hm := h.fsinfo server node vmid (numbered_smaller hle hm)
  guestRrd server kind node vmid timeframe hm :=
    h.guestRrd server kind node vmid timeframe (numbered_smaller hle hm)
  guests :=
    { servers := h.guests.servers
      rows := filter_smaller hle h.guests.rows
      probe := h.guests.probe
      commit := h.guests.commit
      listing := fun s => filter_smaller hle (h.guests.listing s) }

theorem Safe.larger {channel : String} (h : Safe toInt small channel) :
    Safe toInt mine channel where
  dashboard := h.dashboard
  list := h.list
  server := h.server
  inst hstart q hq server hserver := numbered_smaller hle (h.inst hstart q hq server hserver)

theorem Alike.smaller {s s' : Feed} (h : Alike toInt mine user s s') :
    Alike toInt small user s s' where
  manager := h.manager
  cache channel hsafe := h.cache channel (hsafe.larger hle)
  io channel hsafe := h.io channel (hsafe.larger hle)
  disks channel hsafe := h.disks channel (hsafe.larger hle)
  status := ⟨fun k hk => h.status.states k (hle k hk), h.status.heard⟩
  alerts := ⟨fun k hk => h.alerts.alerts k (hle k hk), h.alerts.heard⟩
  messages := h.messages

end Smaller

/-- A confined run is the run of the process. -/
theorem snd_foldl_watch (home : ServerId → ServerId) (user : UserId)
    (p : (ServerId × Vmid → Bool) × Feed)
    (r : List LiveEvent) :
    (r.foldl (watch toInt home user) p).2 = r.foldl (Feed.step toInt) p.2 := by
  induction r generalizing p with
  | nil => rfl
  | cons e r ih => exact ih (watch toInt home user p e)

/-- In two confined runs whose worlds differ in the guests of others only, the user receives the
same. -/
theorem receivedBy_eq_of_confined {home : ServerId → ServerId} {r r' : List LiveEvent}
    (h : DifferInOthers home user r r') (hr : Confined toInt home user r)
    (hr' : Confined toInt home user r') :
    (r.foldl (Feed.step toInt) .start).receivedBy user =
      (r'.foldl (Feed.step toInt) .start).receivedBy user := by
  have hstart : Alike toInt (fun _ => true) user Feed.start Feed.start :=
    ⟨rfl, fun _ _ => rfl, fun _ _ => rfl, fun _ _ => rfl, ⟨fun _ _ => rfl, rfl⟩,
      ⟨fun _ _ _ => rfl, rfl⟩, rfl⟩
  have hrun := foldl_of_forall₂ (R := fun p p' => p.1 = p'.1 ∧ Alike toInt p.1 user p.2 p'.2) h
    ?_ (s := (fun _ => true, Feed.start)) (t := (fun _ => true, Feed.start)) ⟨rfl, hstart⟩ hr hr'
  · rw [← snd_foldl_watch home user (fun _ => true, Feed.start) r,
      ← snd_foldl_watch home user (fun _ => true, Feed.start) r']
    exact hrun.2.receivedBy_eq
  · rintro ⟨mine, s⟩ ⟨mine', s'⟩ e e' ⟨hact, howns, hsame⟩ hs hs' ⟨hmine, halike⟩
    obtain rfl : mine = mine' := hmine
    have hnow : (watch toInt home user (mine, s) e).1 = (watch toInt home user (mine, s') e').1 := by
      unfold watch
      rw [howns]
    refine ⟨hnow, ?_⟩
    rw [← hnow] at hs'
    have howned : ∀ k, (watch toInt home user (mine, s) e).1 k = true →
        mine k = true ∧ owns home user e.world.db k = true :=
      fun k hk => Bool.and_eq_true_iff.mp hk
    exact (halike.smaller fun k hk => (howned k hk).1).step hact
      (hsame.smaller fun k hk => (howned k hk).2) hs hs'

/-! ### A tenant -/

/-- A user without a role. -/
def tenant : User := ⟨7, "tenant", false, none, []⟩

/-- The tenant's machine. -/
def ownMachine : VMInstance where
  serverId := 1
  vmid := 100
  node := "pve"
  vmType := .qemu
  name := "web"
  ownerId := some 7
  status := "running"
  isTemplate := false
  cores := none
  memory := none
  diskSize := none
  osType := none
  ipAddress := none
  ipPrefix := none
  gateway := none
  nameserver := none
  cloudInitUser := none
  cloudInitPassword := none
  sshKeys := none
  templateId := none
  templateName := none
  description := none
  deletedAt := none
  lastSyncAt := none

/-- A node with two machines: 100 is the tenant's, and 200, of somebody else, is under some load. -/
def busyNode (load : Int) : World where
  db :=
    { servers := KeyedTable.empty.save ⟨1, "pve", "pve", "192.0.2.1", 8006, "root@pam",
        some "panel", some "secret", false, none, false, none, none, some true, none, none, none⟩
      vms := KeyedTable.empty.save ownMachine
      ipam := ⟨.empty, []⟩ }
  users := [7]
  users_nodup := List.nodup_singleton 7
  prefs _ := none
  tasks _ := ([], [])
  now := 0
  timestamp := 1
  positive := Nat.one_pos
  clock := 0
  answers :=
    { connection := fun _ => .connected
      session := fun _ => none
      nodeStatus := fun _ _ => none
      nodeRrd := fun _ _ _ => .null
      status := fun _ _ _ _ => none
      fsinfo := fun _ _ _ => []
      guestRrd := fun server _ _ vmid _ =>
        if server = 1 ∧ vmid = 200 then .number load else .number 5
      stats := fun _ _ _ => none
      resources := fun _ => [] }
  tick := ⟨fun _ => .raised, fun _ => .raised, fun _ => ⟨fun _ _ _ => none, fun _ _ => none⟩, 0, 0,
    true⟩

/-- The tenant opens a socket and asks for the history of a machine. -/
def asks (vmid load : Int) : List LiveEvent :=
  [⟨.connect ⟨7, 0⟩, busyNode load⟩, ⟨.dashboardTick, busyNode load⟩,
    ⟨.message ⟨7, 0⟩ (.request "get_rrd" "1" ⟨.ok 1, "pve", "hour", .ok vmid, "qemu"⟩),
      busyNode load⟩]

theorem same_busyNode (load load' : Int) :
    World.Same (owns id 7 (busyNode load).db) 7 (busyNode load) (busyNode load') where
  users := rfl
  prefs := rfl
  tasks := rfl
  now := rfl
  timestamp := rfl
  clock := rfl
  connection := rfl
  vms _ := rfl
  stats _ _ _ _ := rfl
  nodeStatus _ _ _ := rfl
  nodeRrd _ _ _ _ := rfl
  status _ _ _ _ _ := rfl
  fsinfo _ _ _ _ := rfl
  guestRrd server kind node vmid timeframe hm := by
    have hother : ¬(server = 1 ∧ vmid = 200) := by
      rintro ⟨rfl, rfl⟩
      exact Bool.false_ne_true hm
    exact (if_neg hother).trans (if_neg hother).symm
  guests := ⟨rfl, rfl, rfl, rfl, fun _ => rfl⟩

theorem differInOthers_asks (vmid load load' : Int) :
    DifferInOthers id 7 (asks vmid load) (asks vmid load') :=
  .cons ⟨rfl, rfl, same_busyNode load load'⟩ (.cons ⟨rfl, rfl, same_busyNode load load'⟩
    (.cons ⟨rfl, rfl, same_busyNode load load'⟩ .nil))

theorem confined_asks (load : Int) : Confined toInt id 7 (asks 100 load) := by
  refine ⟨trivial, ?_, fun _ _ => ⟨fun h => absurd h (by decide), ?_⟩, trivial⟩
  · rintro ⟨socket, hsocket, -⟩
    exact absurd hsocket List.not_mem_nil
  · rintro _ n vmid server ⟨⟩ ⟨⟩ hserver -
    have hid : server.id = 1 := (busyNode load).db.servers.key_of_find? hserver
    rw [hid]
    rfl

/-- A tenant who asks for the own machine learns nothing about the other one. -/
theorem receivedBy_eq_of_confined_own :
    ((asks 100 1).foldl (Feed.step String.toInt?) .start).receivedBy 7 =
      ((asks 100 2).foldl (Feed.step String.toInt?) .start).receivedBy 7 :=
  receivedBy_eq_of_confined (differInOthers_asks 100 1 2) (confined_asks 1) (confined_asks 2)

/-- The last message that a user received. -/
def Received.last (r : Received) : Option LiveMessage := r.messages.getLast?.map Prod.snd

/-- The history of another tenant's machine is given to whoever asks for it. -/
theorem others_history_sent : ¬∀ (toInt : String → Option Int) (home : ServerId → ServerId)
    (user : User), canViewAllInstances user = false → ∀ r r' : List LiveEvent,
      DifferInOthers home user.id r r' →
        (r.foldl (Feed.step toInt) .start).receivedBy user.id =
          (r'.foldl (Feed.step toInt) .start).receivedBy user.id := by
  intro h
  have hsame := h (fun _ => none) id tenant (by decide) (asks 200 1) (asks 200 2)
    (differInOthers_asks 200 1 2)
  have hlast : some (LiveMessage.rrdResponse "1" (some (.number 1)) none) =
      some (.rrdResponse "1" (some (.number 2)) none) := congrArg Received.last hsame
  simp at hlast

end PveManager.Live
