import PveManager.Api.ServerSessions
import PveManager.Scripts.Interference

/-!
# Concealment of a server

The response to a request for another server is the same whatever this one is,
and a request for the server itself gives it away unless it fails. Together with
the rules for sessions and stored rows this says for every endpoint when the
server stays concealed.
-/

namespace PveManager.Api.Servers

open PveManager.Core PveManager.Rbac

/-! ## Responses over tables that differ in one server -/

section Responses

variable {u : Unseen} {o : Outside} {sid : ServerId} {db db' : ServersDb} {α β : Type}

/-- Another server is found alike. -/
theorem AgreeOff.find? {hid : ServerId} (h : AgreeOff hid db db') (hne : sid ≠ hid) :
    db'.servers.find? sid = db.servers.find? sid := by
  have hfilter : ∀ t : KeyedTable ProxmoxServer.id,
      (t.filter fun s => decide (s.id ≠ hid)).find? sid = t.find? sid := by
    intro t
    rw [KeyedTable.find?_filter]
    cases hf : t.find? sid with
    | none => rfl
    | some s => simp [Option.filter, t.key_of_find? hf, hne]
  rw [← hfilter db'.servers, ← hfilter db.servers]
  exact congrArg (List.find? _) h.servers

/-- Another server's guests are visible alike. -/
theorem AgreeOff.visibleGuests {hid : ServerId} (h : AgreeOff hid db db') (hne : sid ≠ hid)
    (user : User) (guests : List Dict) :
    visibleGuests db'.toDb user sid guests = visibleGuests db.toDb user sid guests := by
  have hfilter : ∀ rows : List VMInstance,
      (rows.filter fun r => decide (r.ownerId = some user.id ∧ r.serverId = sid) && r.live) =
        (rows.filter fun r => decide (r.serverId ≠ hid)).filter fun r =>
          decide (r.ownerId = some user.id ∧ r.serverId = sid) && r.live := by
    intro rows
    rw [List.filter_filter]
    refine List.filter_congr fun r _ => ?_
    by_cases hr : r.serverId = sid
    · simp [hr, hne]
    · simp [hr]
  unfold Servers.visibleGuests getOwnedVmids
  rw [hfilter db'.vms.rows, hfilter db.vms.rows, h.guests]

/-- A visible set without the server selects the same rows. -/
theorem AgreeOff.visibleServers {hid : ServerId} (h : AgreeOff hid db db')
    {visible : Option (Finset ServerId)} (hv : sees visible hid = false) :
    visibleServers db' visible = visibleServers db visible := by
  have hfilter : ∀ rows : List ProxmoxServer, (rows.filter fun s => sees visible s.id) =
      (rows.filter fun s => decide (s.id ≠ hid)).filter fun s => sees visible s.id := by
    intro rows
    rw [List.filter_filter]
    refine List.filter_congr fun s _ => ?_
    by_cases hs : s.id = hid
    · simp [hs, hv]
    · simp [hs]
  unfold Servers.visibleServers
  rw [hfilter db'.servers.rows, hfilter db.servers.rows, h.servers]

/-- No call of the handler is about the server. -/
def Silent (u : Unseen) (h : ServersHandler α) : Prop := h.Only fun c => ¬Names u.server.id c

theorem silent_bind {h : ServersHandler α} {k : α → ServersHandler β} (hh : Silent u h)
    (hk : ∀ a, Silent u (k a)) : Silent u (h >>= k) :=
  Proc.only_bind hh hk

theorem silent_request {s : ProxmoxServer} (hs : s.id ≠ u.server.id) (op : ServerOp) :
    Silent u (request (R := ServersRouter) s op) :=
  Proc.only_ask hs

theorem silent_isConnected {s : ProxmoxServer} (hs : s.id ≠ u.server.id) :
    Silent u (isConnected s : ServersHandler Bool) :=
  Proc.only_ask hs

theorem silent_effect {e : ServerEffect} (he : ¬Names u.server.id (.effect e)) :
    Silent u (effect (R := ServersRouter) e) :=
  Proc.only_ask he

theorem silent_ensure (b : Bool) (e : Exc) : Silent u (Proc.ensure b e : ServersHandler Unit) :=
  Proc.only_ensure b e

theorem silent_resolveServer {db : Db} {detail : String} {k : ProxmoxServer → ServersHandler α}
    (hk : ∀ s, db.servers.find? sid = some s → Silent u (k s)) :
    Silent u (resolveServer db sid detail >>= k) := by
  unfold resolveServer
  cases hs : db.servers.find? sid with
  | none => trivial
  | some s => exact hk s hs

theorem silent_tryCatch {h : ServersHandler α} {f : Exc → ServersHandler α} (hh : Silent u h)
    (hf : ∀ e, Silent u (f e)) : Silent u (tryCatch h f) :=
  Proc.only_tryCatch hh hf

theorem silent_saveStatus {row : ProxmoxServer} :
    Silent u (effect (R := ServersRouter) (.saveStatus row)) :=
  silent_effect fun h => h

private theorem silent_statusFailed {s : ProxmoxServer} (e : Exc) :
    Silent u (statusFailed o.now s e) :=
  silent_bind silent_saveStatus fun _ => trivial

private theorem silent_recheck {row : ProxmoxServer} (hrow : row.id ≠ u.server.id) :
    Silent u (recheck o.now row) := by
  have hsync : ∀ s, Silent u (syncIfOnline s) := by
    intro s
    unfold syncIfOnline
    split
    · exact silent_effect fun h => h
    · trivial
  refine silent_tryCatch (silent_bind ?_ fun checked => silent_bind (hsync checked) fun _ => trivial)
    fun e => silent_statusFailed e
  exact silent_bind (silent_ensure _ _) fun _ => silent_bind (silent_request hrow _) fun _ =>
    silent_bind silent_saveStatus fun _ => trivial

private theorem silent_callNode (hne : sid ≠ u.server.id) {op : ServerOp}
    {reply : op.Answer → ServersHandler Reply} (hreply : ∀ a, Silent u (reply a)) :
    Silent u (callNode u.db sid op reply) := by
  refine silent_resolveServer fun s hs => ?_
  have hsid : s.id ≠ u.server.id := find?_id hs ▸ hne
  refine silent_tryCatch (silent_bind ?_ fun _ => silent_bind (silent_request hsid _) hreply)
    fun _ => trivial
  exact silent_bind (silent_ensure _ _) fun _ =>
    silent_bind (silent_isConnected hsid) fun _ => silent_ensure _ _

private theorem silent_fetchAll {l : List ProxmoxServer} (hne : ∀ s ∈ l, s.id ≠ u.server.id) :
    Silent u (fetchAll l) := by
  induction l with
  | nil => trivial
  | cons s rest ih =>
    exact silent_bind (silent_request (hne s List.mem_cons_self) _) fun _ =>
      silent_bind (ih fun t ht => hne t (List.mem_cons_of_mem _ ht)) fun _ => trivial

private theorem silent_saveStatuses (l : List (ProxmoxServer × Except String Resources)) :
    Silent u (saveStatuses o.now l) := by
  induction l with
  | nil => trivial
  | cons x rest ih =>
    obtain ⟨s, r⟩ := x
    cases r with
    | error e => exact silent_bind silent_saveStatus fun _ => ih
    | ok resources => exact silent_bind silent_saveStatus fun _ => ih

private theorem silent_newToken (payload : ProxmoxServerCreate) : Silent u (newToken payload) := by
  unfold newToken
  split
  · refine silent_bind (silent_effect fun h => h) fun r => ?_
    cases r with
    | error e => trivial
    | ok token => trivial
  · trivial

private theorem silent_insertServer {payload : ProxmoxServerCreate}
    {token : Option (String × String)} {row : ProxmoxServer} (hne : row.id ≠ u.server.id) :
    Silent u (insertServer payload token row) := by
  refine silent_bind (silent_effect hne) fun r => ?_
  cases r with
  | ok x => trivial
  | error e =>
    cases token with
    | none => trivial
    | some t => exact silent_bind (silent_effect fun h => h) fun _ => trivial

private theorem silent_storeUpdate {s : ProxmoxServer} (hs : s.id ≠ u.server.id)
    (updateData : ProxmoxServerUpdate) : Silent u (storeUpdate o.now s updateData) := by
  unfold storeUpdate
  cases hrow : updateData.apply s with
  | none => trivial
  | some row =>
    have hrid : row.id ≠ u.server.id := by
      rw [(ProxmoxServerUpdate.id_of_apply hrow).1]
      exact hs
    have hend : ∀ checked : ProxmoxServer, Silent u (do
        effect (R := ServersRouter)
          (.broadcast "server_updated" checked.id checked.name checked.isOnline)
        pure (Reply.server (serverResponse checked []))) :=
      fun checked => silent_bind (silent_effect fun h => h) fun _ => trivial
    refine silent_bind (silent_bind (silent_effect hrid) fun r => ?_) fun _ => ?_
    · cases r with
      | error e => trivial
      | ok x => trivial
    · dsimp only
      split
      · exact silent_bind (silent_recheck hrid) hend
      · exact silent_bind (Proc.only_pure row) hend

/-- The endpoint is given another server, or none. -/
def Endpoint.Elsewhere (hid : ServerId) : Endpoint → Prop
  | .listProxmoxServers | .getAllResources | .createProxmoxServer _ | .testProxmoxCredentials _ =>
    True
  | .getProxmoxServer sid | .getServerClusterInfo sid | .updateProxmoxServer sid _
  | .deleteProxmoxServer sid | .provisionServerToken sid | .testProxmoxConnection sid
  | .getServerResources sid | .getStorages sid _ _ | .getNodeStatus sid _
  | .getNodeRrddata sid _ _ => sid ≠ hid

/-- A handler for another server asks nothing of this one. -/
theorem silent_handler {e : Endpoint} (he : e.Elsewhere u.server.id) :
    Silent u (u.handler o e u.db) := by
  unfold Unseen.handler handle
  cases e with
  | listProxmoxServers => exact silent_bind (silent_ensure _ _) fun _ => trivial
  | getAllResources =>
    exact silent_bind (silent_ensure _ _) fun _ =>
      silent_bind (silent_fetchAll fun s hs => u.ne_of_visible hs) fun _ =>
        silent_bind (silent_saveStatuses _) fun _ => trivial
  | createProxmoxServer payload =>
    refine silent_bind (silent_ensure _ _) fun _ => silent_bind (silent_ensure _ _) fun _ =>
      silent_bind (silent_newToken payload) fun token =>
        silent_bind (silent_insertServer u.nextServerId_ne) fun _ => ?_
    rw [checkStatus_bind]
    exact silent_bind (silent_recheck u.nextServerId_ne) fun _ =>
      silent_bind (silent_effect fun h => h) fun _ => trivial
  | testProxmoxCredentials payload =>
    refine silent_bind (silent_ensure _ _) fun _ => silent_bind (silent_effect fun h => h) fun r => ?_
    cases r with
    | error e => trivial
    | ok connected => cases connected <;> trivial
  | getProxmoxServer sid =>
    exact silent_bind (silent_ensure _ _) fun _ => silent_resolveServer fun _ _ => trivial
  | getServerClusterInfo sid =>
    refine silent_bind (silent_ensure _ _) fun _ => silent_resolveServer fun s hs => ?_
    have hsid : s.id ≠ u.server.id := find?_id hs ▸ he
    refine silent_tryCatch (silent_bind (silent_ensure _ _) fun _ =>
      silent_bind (silent_isConnected hsid) fun connected => ?_) fun _ => trivial
    cases connected with
    | false => trivial
    | true =>
      exact silent_bind (silent_request hsid _) fun _ =>
        silent_bind (silent_request hsid _) fun _ => trivial
  | updateProxmoxServer sid serverData =>
    refine silent_bind (silent_ensure _ _) fun _ => silent_resolveServer fun s hs => ?_
    have hsid : s.id ≠ u.server.id := find?_id hs ▸ he
    dsimp only
    split
    · exact silent_bind (silent_effect fun h => h) fun _ => silent_storeUpdate hsid _
    · exact silent_storeUpdate hsid _
  | deleteProxmoxServer sid =>
    exact silent_bind (silent_ensure _ _) fun _ => silent_resolveServer fun _ _ =>
      silent_bind (silent_effect fun h => h) fun _ => silent_bind (silent_effect fun h => h) fun _ =>
        silent_bind (silent_effect fun h => h) fun _ =>
          silent_bind (silent_effect fun h => h) fun _ => trivial
  | provisionServerToken sid =>
    refine silent_bind (silent_ensure _ _) fun _ => silent_resolveServer fun s hs => ?_
    have hsid : s.id ≠ u.server.id := find?_id hs ▸ he
    refine silent_bind (silent_ensure _ _) fun _ => silent_bind (silent_request hsid _) fun r => ?_
    cases r with
    | error e => trivial
    | ok token =>
      refine silent_bind (silent_effect hsid) fun r => ?_
      cases r with
      | error e => exact silent_bind (silent_request hsid _) fun _ => trivial
      | ok x => exact silent_bind (silent_effect fun h => h) fun _ => trivial
  | testProxmoxConnection sid =>
    refine silent_bind (silent_ensure _ _) fun _ => silent_resolveServer fun s hs => ?_
    have hsid : s.id ≠ u.server.id := find?_id hs ▸ he
    refine silent_tryCatch (silent_bind (silent_ensure _ _) fun _ =>
      silent_bind (silent_isConnected hsid) fun connected => ?_) fun _ =>
        silent_bind (silent_statusFailed _) fun _ => trivial
    cases connected with
    | false => exact silent_bind silent_saveStatus fun _ => trivial
    | true => exact silent_bind silent_saveStatus fun _ => trivial
  | getServerResources sid =>
    refine silent_bind (silent_ensure _ _) fun _ => silent_resolveServer fun s hs => ?_
    have hsid : s.id ≠ u.server.id := find?_id hs ▸ he
    refine silent_bind (silent_request hsid _) fun r => ?_
    cases r with
    | error e => exact silent_bind silent_saveStatus fun _ => trivial
    | ok resources =>
      refine silent_bind (silent_tryCatch (silent_bind (silent_ensure _ _) fun _ =>
        silent_bind (silent_request hsid _) fun _ => trivial) fun _ => trivial) fun _ => ?_
      exact silent_bind silent_saveStatus fun _ => trivial
  | getStorages sid node contentType =>
    exact silent_bind (silent_ensure _ _) fun _ => silent_callNode he fun _ => trivial
  | getNodeStatus sid node =>
    refine silent_bind (silent_ensure _ _) fun _ => silent_callNode he fun status => ?_
    split <;> trivial
  | getNodeRrddata sid node timeframe =>
    exact silent_bind (silent_ensure _ _) fun _ => silent_callNode he fun _ => trivial

/-- The handler of another server is the same over tables that differ in this one. -/
private theorem handler_congr {e : Endpoint} (he : e.Elsewhere u.server.id)
    (h : AgreeOff u.server.id u.db db') (hcreate : ∀ payload, e ≠ .createProxmoxServer payload) :
    u.handler o e db' = u.handler o e u.db := by
  have hresolve : ∀ sid detail, sid ≠ u.server.id →
      (resolveServer db'.toDb sid detail : ServersHandler ProxmoxServer) =
        resolveServer u.db.toDb sid detail := by
    intro sid detail hne
    unfold resolveServer
    rw [h.find? hne]
  unfold Unseen.handler
  cases e with
  | listProxmoxServers =>
    unfold handle listProxmoxServers
    dsimp only
    rw [h.workspaces, h.visibleServers u.hidden]
  | getAllResources =>
    unfold handle getAllResources
    dsimp only
    rw [h.workspaces, h.visibleServers u.hidden]
    refine congrArg _ (funext fun _ => congrArg _ (funext fun fetched => ?_))
    have hentry : ∀ x ∈ (visibleServers u.db
        (getVisibleServerIds u.db.workspaces u.user u.header)).zip fetched,
        serverEntry db' u.user x.1 x.2 = serverEntry u.db u.user x.1 x.2 := by
      rintro ⟨s, r⟩ hx
      have hne := u.ne_of_visible (List.of_mem_zip hx).1
      unfold serverEntry
      cases r with
      | error e => rfl
      | ok resources => simp only [h.visibleGuests hne]
    rw [List.map_congr_left hentry]
  | createProxmoxServer payload => exact absurd rfl (hcreate payload)
  | testProxmoxCredentials payload => rfl
  | getProxmoxServer sid =>
    unfold handle getProxmoxServer
    dsimp only
    rw [hresolve _ _ he, h.workspaces]
  | getServerClusterInfo sid =>
    unfold handle getServerClusterInfo
    dsimp only
    rw [hresolve _ _ he]
  | updateProxmoxServer sid serverData =>
    unfold handle updateProxmoxServer
    dsimp only
    rw [hresolve _ _ he]
  | deleteProxmoxServer sid =>
    unfold handle deleteProxmoxServer
    dsimp only
    rw [hresolve _ _ he]
  | provisionServerToken sid =>
    unfold handle provisionServerToken
    dsimp only
    rw [hresolve _ _ he]
  | testProxmoxConnection sid =>
    unfold handle testProxmoxConnection
    dsimp only
    rw [hresolve _ _ he]
  | getServerResources sid =>
    unfold handle getServerResources
    dsimp only
    rw [hresolve _ _ he]
    simp only [h.visibleGuests he]
  | getStorages sid node contentType =>
    unfold handle getStorages callNode
    dsimp only
    rw [hresolve _ _ he]
  | getNodeStatus sid node =>
    unfold handle getNodeStatus callNode
    dsimp only
    rw [hresolve _ _ he]
  | getNodeRrddata sid node timeframe =>
    unfold handle getNodeRrddata callNode
    dsimp only
    rw [hresolve _ _ he]

/-- The request to add a server, once it is past the checks. -/
private theorem response_create {payload : ProxmoxServerCreate} {db : ServersDb}
    {answers : (c : RouterCall ServersRouter) → c.Answer} {reply : Reply}
    (h : u.response o (.createProxmoxServer payload) db answers = .ok reply) :
    hasPermission u.user "server:create" = true ∧
      (!db.servers.rows.any fun s => decide (s.name = payload.name)) = true := by
  unfold Unseen.response Unseen.handler handle createProxmoxServer permissionChecker at h
  dsimp only at h
  constructor
  · by_contra hp
    rw [Host.exec_ensure_bind_of_not _ (by simpa using hp)] at h
    exact absurd h (by simp)
  · by_contra hn
    by_cases hp : hasPermission u.user "server:create" = true
    · rw [Host.exec_ensure_bind_of _ hp, Host.exec_ensure_bind_of_not _ (by simpa using hn)] at h
      exact absurd h (by simp)
    · rw [Host.exec_ensure_bind_of_not _ (by simpa using hp)] at h
      exact absurd h (by simp)

/-- Requests for another server get the same response. -/
theorem unaware_elsewhere {e : Endpoint} (he : e.Elsewhere u.server.id) : u.Unaware o e := by
  intro db' answers' hagree hans reply reply' hr hr'
  have hsame : u.handler o e db' = u.handler o e u.db := by
    cases e with
    | createProxmoxServer payload =>
      unfold Unseen.handler handle createProxmoxServer
      dsimp only
      rw [(response_create hr).2, (response_create hr').2, hagree.nextServerId]
    | _ => exact handler_congr he hagree fun _ h => by cases h
  unfold Unseen.response at hr hr'
  rw [hsame] at hr'
  have halike : ∀ s s' c, ¬Names u.server.id c →
      o.host.answer s c = { o with answers := answers' }.host.answer s' c :=
    fun _ _ c hc => (hans c hc).symm
  have hout := Host.outcome_congr (silent_handler (o := o) he) halike ⟨u.db.toDb, o.sessions⟩
    ⟨db'.toDb, o.sessions⟩
  rw [hr, hr', Except.ok.injEq] at hout
  exact hout.symm

end Responses

/-! ## Requests for the server itself -/

section Itself

variable {u : Unseen} {o : Outside} {e : Endpoint}

/-- The tables with another row of the server. -/
def Unseen.withServer (u : Unseen) (row : ProxmoxServer) (h : row.id = u.server.id) : ServersDb :=
  { u.db with
    servers := u.db.servers.save row
    nextServerId_fresh := by
      rw [KeyedTable.find?_save, h, if_neg (Ne.symm u.nextServerId_ne)]
      exact u.db.nextServerId_fresh }

theorem Unseen.find?_withServer (u : Unseen) {row : ProxmoxServer} (h : row.id = u.server.id) :
    (u.withServer row h).servers.find? u.server.id = some row := by
  unfold Unseen.withServer
  rw [KeyedTable.find?_save, if_pos h]

theorem Unseen.agreeOff_withServer (u : Unseen) {row : ProxmoxServer} (h : row.id = u.server.id) :
    AgreeOff u.server.id u.db (u.withServer row h) where
  servers := KeyedTable.filter_rows_save _ _ fun a ha => by simp [ha.trans h]
  guests := rfl
  addresses := rfl
  workspaces := rfl
  nextServerId := rfl

/-- Two rows of the server that get different responses give the request away. -/
theorem not_concealed_of_replies {row : ProxmoxServer} (h : row.id = u.server.id)
    {answers' : (c : RouterCall ServersRouter) → c.Answer}
    (hans : ∀ c, ¬Names u.server.id c → answers' c = o.answers c) {reply reply' : Reply}
    (hr : u.response o e u.db o.answers = .ok reply)
    (hr' : u.response o e (u.withServer row h) answers' = .ok reply') (hne : reply' ≠ reply) :
    ¬u.Concealed o e :=
  fun hc => hne (hc.unaware _ _ (u.agreeOff_withServer h) hans _ _ hr hr')

/-- From the panel `p` on, the handler keeps away and ends in an error. -/
def Fails (u : Unseen) (o : Outside) (p : Panel) (h : ServersHandler Reply) : Prop :=
  o.host.Meets (fun p c => ¬Uses u.server.id p c)
    (fun p r => Clean u p ∧ ∃ exc, r = .error exc) p h

/-- An error tells nothing. -/
theorem concealed_of_fails (h : Fails u o (u.start o) (u.handler o e u.db)) : u.Concealed o e := by
  refine ⟨Host.meets_mono (fun _ _ hpost => hpost.1) h, ?_⟩
  intro db' answers' _ _ reply reply' hr
  obtain ⟨exc, hexc⟩ := (Host.post_exec h).2
  exact absurd (hexc.symm.trans hr) (by simp)

theorem fails_ensure_of_not {p : Panel} (hp : Clean u p) {b : Bool} {exc : Exc} (hb : b = false)
    {k : Unit → ServersHandler Reply} : Fails u o p (Proc.ensure b exc >>= k) :=
  Host.meets_ensure_bind.mpr ⟨fun h => absurd h (by simp [hb]), fun _ => ⟨hp, _, rfl⟩⟩

theorem fails_ensure {p : Panel} {b : Bool} {exc : Exc} (hb : b = true)
    {k : Unit → ServersHandler Reply} (hk : Fails u o p (k ())) :
    Fails u o p (Proc.ensure b exc >>= k) :=
  Host.meets_ensure_bind.mpr ⟨fun _ => hk, fun h => absurd h (by simp [hb])⟩

/-- A request that is refused fails, and so does an admitted one whose rest fails. -/
theorem fails_request {permission detail : String} {k : ProxmoxServer → ServersHandler Reply}
    (h : hasPermission u.user permission = true → Fails u o (u.start o) (k u.server)) :
    Fails u o (u.start o) (permissionChecker u.user permission >>= fun _ =>
      resolveServer u.db.toDb u.server.id detail >>= k) := by
  cases hp : hasPermission u.user permission with
  | false => exact fails_ensure_of_not (clean_start u o) hp
  | true =>
    refine fails_ensure hp ?_
    unfold resolveServer
    rw [u.registered]
    exact h hp

/-- What an admitted request for a registered server goes on with. -/
private theorem exec_admitted {H : Host ServersRouter.interface Panel} {q : Panel} {db : Db}
    {permission detail : String} {sid : ServerId} {s : ProxmoxServer}
    (hp : hasPermission u.user permission = true) (hs : db.servers.find? sid = some s)
    (k : ProxmoxServer → ServersHandler Reply) :
    H.exec q (permissionChecker u.user permission >>= fun _ =>
      resolveServer db sid detail >>= k) = H.exec q (k s) := by
  unfold permissionChecker resolveServer
  rw [Host.exec_ensure_bind_of _ hp, hs]
  rfl

/-- The row of another server under the same id. -/
private def otherRow (s : ProxmoxServer) : ProxmoxServer :=
  { s with
    name := s.name ++ "'"
    clusterName := if s.clusterName = none then some "" else none }

private theorem otherRow_name (s : ProxmoxServer) : (otherRow s).name ≠ s.name := by
  intro h
  have hlen := congrArg String.length h
  rw [otherRow, String.length_append] at hlen
  exact absurd hlen (by simp)

private theorem otherRow_clusterName (s : ProxmoxServer) :
    (otherRow s).clusterName ≠ s.clusterName := by
  unfold otherRow
  cases s.clusterName with
  | none => simp
  | some c => simp

private theorem not_concealed_get (hp : hasPermission u.user "server:view" = true) :
    ¬u.Concealed o (.getProxmoxServer u.server.id) := by
  have hreply : ∀ (db : ServersDb) s answers, db.servers.find? u.server.id = some s →
      u.response o (.getProxmoxServer u.server.id) db answers =
        .ok (.server (serverResponse s (attachWorkspaces db.workspaces s.id))) := by
    intro db s answers hs
    unfold Unseen.response Unseen.handler handle getProxmoxServer
    dsimp only
    rw [exec_admitted hp hs]
    rfl
  have hid : (otherRow u.server).id = u.server.id := rfl
  refine not_concealed_of_replies hid (fun _ _ => rfl) (hreply _ _ _ u.registered)
    (hreply _ _ _ (u.find?_withServer hid)) fun h => ?_
  rw [Reply.server.injEq] at h
  exact otherRow_clusterName _ (congrArg ProxmoxServerResponse.clusterName h)

/-- With credentials the connection check of the server's own client is a use of them. -/
private theorem not_away_connect {permission detail : String}
    {f : ProxmoxServer → Exc → ServersHandler Reply} {h : ProxmoxServer → ServersHandler Reply}
    (hp : hasPermission u.user permission = true) (hcred : hasCredentials u.server = true)
    (hh : ∀ s, ∃ k, h s = getProxmoxClient s >>= fun _ => isConnected s >>= k) :
    ¬Away u o (u.start o) (permissionChecker u.user permission >>= fun _ =>
      resolveServer u.db.toDb u.server.id detail >>= fun s => tryCatch (h s) (f s)) := by
  intro ha
  have hc := clean_start u o
  have hs := (away_resolveServer hc).mp ((away_permissionChecker hc).mp ha hp) _ u.registered
  obtain ⟨k, hk⟩ := hh u.server
  rw [hk] at hs
  unfold Away getProxmoxClient at hs
  rw [Host.meets_tryCatch, Host.meets_ensure_bind] at hs
  exact (hs.1 hcred).1 (Or.inl rfl)

private theorem not_concealed_clusterInfo (hp : hasPermission u.user "server:view" = true) :
    ¬u.Concealed o (.getServerClusterInfo u.server.id) := by
  cases hcred : hasCredentials u.server with
  | true => exact fun h =>
    not_away_connect (h := clusterInfo u.server.id) hp hcred (fun _ => ⟨_, rfl⟩) h.keepsAway
  | false =>
    have hreply : ∀ (db : ServersDb) s answers, db.servers.find? u.server.id = some s →
        hasCredentials s = false →
        u.response o (.getServerClusterInfo u.server.id) db answers =
          .ok (.clusterError u.server.id s.name (noCredentials s).str) := by
      intro db s answers hs hc
      unfold Unseen.response Unseen.handler handle getServerClusterInfo
      dsimp only
      rw [exec_admitted hp hs]
      unfold clusterInfo getProxmoxClient
      rw [hc]
      rfl
    have hid : (otherRow u.server).id = u.server.id := rfl
    refine not_concealed_of_replies hid (fun _ _ => rfl) (hreply _ _ _ u.registered hcred)
      (hreply _ _ _ (u.find?_withServer hid) hcred) fun h => ?_
    rw [Reply.clusterError.injEq] at h
    exact otherRow_name _ h.2.1

/-- The server with credentials it answers to. -/
private def reachableRow (s : ProxmoxServer) : ProxmoxServer :=
  { s with
    usePassword := true
    password := some "x" }

/-- The same answers, but the server is connected. -/
private def connectedTo (sid : ServerId) (answers : (c : RouterCall ServersRouter) → c.Answer) :
    (c : RouterCall ServersRouter) → c.Answer
  | .isConnected s => if s.id = sid then true else answers (.isConnected s)
  | .request s op => answers (.request s op)
  | .effect e => answers (.effect e)

private theorem not_concealed_test (hp : hasPermission u.user "server:view" = true) :
    ¬u.Concealed o (.testProxmoxConnection u.server.id) := by
  cases hcred : hasCredentials u.server with
  | true => exact fun h =>
    not_away_connect (h := testConnection o.now) hp hcred (fun _ => ⟨_, rfl⟩) h.keepsAway
  | false =>
    have hreply : u.response o (.testProxmoxConnection u.server.id) u.db o.answers =
        .ok (.tested false (noCredentials u.server).str) := by
      unfold Unseen.response Unseen.handler handle testProxmoxConnection
      dsimp only
      rw [exec_admitted hp u.registered]
      unfold testConnection getProxmoxClient
      rw [hcred]
      rfl
    have hid : (reachableRow u.server).id = u.server.id := rfl
    have hreply' : u.response o (.testProxmoxConnection u.server.id) (u.withServer _ hid)
        (connectedTo u.server.id o.answers) = .ok (.tested true "Connection successful") := by
      unfold Unseen.response Unseen.handler handle testProxmoxConnection
      dsimp only
      rw [exec_admitted hp (u.find?_withServer hid)]
      have hc : hasCredentials (reachableRow u.server) = true := by
        simp [hasCredentials, reachableRow, truthy]
      have hans : ({ o with answers := connectedTo u.server.id o.answers }.host).answer
          ⟨(u.withServer _ hid).toDb, o.sessions⟩ (.isConnected (reachableRow u.server)) = true :=
        if_pos rfl
      unfold testConnection getProxmoxClient isConnected
      rw [Host.exec_tryCatch, Host.exec_ensure_bind_of _ hc, Host.exec_ask_bind, hans]
      rfl
    refine not_concealed_of_replies hid ?_ hreply hreply' fun h => ?_
    · intro c hc
      cases c with
      | isConnected s => exact if_neg hc
      | request s op => rfl
      | effect e => rfl
    · simp only [Reply.tested.injEq, Bool.true_eq_false, false_and] at h

private theorem not_concealed_delete (hp : hasPermission u.user "server:delete" = true) :
    ¬u.Concealed o (.deleteProxmoxServer u.server.id) := by
  intro h
  have hc := clean_start u o
  have ha : Away u o (u.start o) (deleteProxmoxServer u.db u.user u.server.id) := h.keepsAway
  have hs := (away_resolveServer hc).mp ((away_permissionChecker hc).mp ha hp) _ u.registered
  have hend : SameStored u.server.id u.db.toDb
      (PveManager.Servers.deleteServerRecords u.db.toDb u.server.id u.user.username) :=
    hs.2.2.2.2
  have hfind := hend.server
  rw [PveManager.Servers.deleteServerRecords, KeyedTable.find?_erase, if_pos rfl, u.registered]
    at hfind
  exact absurd hfind (by simp)

/-- A check returns the row it was given, but for its status. -/
private theorem meets_recheck {H : Host ServersRouter.interface Panel} {q : Panel}
    {now : Time} {row : ProxmoxServer} {post : Panel → Except Exc ProxmoxServer → Prop}
    (h : ∀ q checked, checked.clusterName = row.clusterName → post q (.ok checked)) :
    H.Meets (fun _ _ => True) post q (recheck now row) := by
  cases hcred : hasCredentials row with
  | false =>
    rw [recheck_of_not hcred]
    exact ⟨trivial, h _ _ (ProxmoxServer.clusterName_updateStatus ..)⟩
  | true =>
    rw [recheck_of hcred]
    refine ⟨trivial, trivial, ?_⟩
    unfold syncIfOnline
    split
    · exact ⟨trivial, h _ _ (clusterName_checkedRow _)⟩
    · exact h _ _ (clusterName_checkedRow _)

/-- The response is a server recorded for this cluster. -/
private def AnswersServer (cluster : Option String) (r : Except Exc Reply) : Prop :=
  ∃ resp : ProxmoxServerResponse, r = .ok (.server resp) ∧ resp.clusterName = cluster

/-- An update that is stored answers with the row. -/
private theorem response_update {db : ServersDb} {s row : ProxmoxServer}
    {serverData : ProxmoxServerUpdate} {answers : (c : RouterCall ServersRouter) → c.Answer}
    (hp : hasPermission u.user "server:update" = true)
    (hs : db.servers.find? u.server.id = some s) (hrow : serverData.dropBlank.apply s = some row)
    (hok : answers (.effect (.updateServer row)) = .ok ()) :
    AnswersServer s.clusterName
      (u.response o (.updateProxmoxServer u.server.id serverData) db answers) := by
  have hcl := (ProxmoxServerUpdate.id_of_apply hrow).2
  have hend : ∀ q (checked : ProxmoxServer), checked.clusterName = row.clusterName →
      ({ o with answers := answers }.host).Meets (fun _ _ => True)
        (fun _ r => AnswersServer s.clusterName r) q (do
          effect (R := ServersRouter)
            (.broadcast "server_updated" checked.id checked.name checked.isOnline)
          pure (Reply.server (serverResponse checked []))) :=
    fun q checked hc => ⟨trivial, _, rfl, hc.trans hcl⟩
  have hstore : ∀ q, ({ o with answers := answers }.host).Meets (fun _ _ => True)
      (fun _ r => AnswersServer s.clusterName r) q
      (storeUpdate o.now s serverData.dropBlank) := by
    intro q
    unfold storeUpdate orRaise
    rw [hrow]
    dsimp only
    rw [bind_assoc]
    refine ⟨trivial, ?_⟩
    have hans : ({ o with answers := answers }.host).answer q (.effect (.updateServer row)) =
        .ok () := hok
    rw [hans]
    change Host.Meets _ _ _ _ (if _ then _ else _)
    split
    · refine Host.meets_bind.mpr (meets_recheck fun q' checked hc => hend q' checked hc)
    · exact hend _ row rfl
  unfold Unseen.response Unseen.handler handle updateProxmoxServer
  dsimp only
  rw [exec_admitted hp hs]
  split
  · exact Host.post_exec (hstore _)
  · exact Host.post_exec (hstore _)

/-- The same answers, but the rows of the server are stored. -/
private def committing (sid : ServerId) (answers : (c : RouterCall ServersRouter) → c.Answer) :
    (c : RouterCall ServersRouter) → c.Answer
  | .isConnected s => answers (.isConnected s)
  | .request s op => answers (.request s op)
  | .effect (.updateServer row) =>
    if row.id = sid then .ok () else answers (.effect (.updateServer row))
  | .effect e => answers (.effect e)

private theorem not_concealed_update {serverData : ProxmoxServerUpdate} {row : ProxmoxServer}
    (hp : hasPermission u.user "server:update" = true)
    (hrow : serverData.dropBlank.apply u.server = some row)
    (hok : o.answers (.effect (.updateServer row)) = .ok ()) :
    ¬u.Concealed o (.updateProxmoxServer u.server.id serverData) := by
  have hid : (otherRow u.server).id = u.server.id := rfl
  obtain ⟨row', hrow'⟩ := ProxmoxServerUpdate.apply_of_apply hrow (otherRow u.server)
  have hok' : committing u.server.id o.answers (.effect (.updateServer row')) = .ok () :=
    if_pos (ProxmoxServerUpdate.id_of_apply hrow').1
  obtain ⟨resp, hr, hc⟩ := response_update hp u.registered hrow hok
  obtain ⟨resp', hr', hc'⟩ := response_update hp (u.find?_withServer hid) hrow' hok'
  refine not_concealed_of_replies hid ?_ hr hr' fun h => ?_
  · intro c hn
    cases c with
    | isConnected s => rfl
    | request s op => rfl
    | effect e =>
      cases e with
      | updateServer row => exact if_neg hn
      | _ => rfl
  · rw [Reply.server.injEq] at h
    rw [h, hc] at hc'
    exact otherRow_clusterName _ hc'.symm

/-- An update that is not stored fails. -/
private theorem fails_storeUpdate {q : Panel} (hq : Clean u q) {updateData : ProxmoxServerUpdate}
    (hno : ∀ row, updateData.apply u.server = some row →
      o.answers (.effect (.updateServer row)) ≠ .ok ()) :
    Fails u o q (storeUpdate o.now u.server updateData) := by
  unfold storeUpdate orRaise
  cases hrow : updateData.apply u.server with
  | none => exact ⟨hq, _, rfl⟩
  | some row =>
    dsimp only
    rw [bind_assoc]
    refine ⟨fun hu => hu, ?_⟩
    cases hans : o.answers (.effect (.updateServer row)) with
    | ok x => exact absurd hans (hno row hrow)
    | error exc =>
      have hh : o.host.answer q (.effect (.updateServer row)) = .error exc := hans
      have hcl : Clean u (o.host.next q (.effect (.updateServer row))) := by
        unfold Outside.host
        dsimp only
        rw [hans]
        exact hq
      rw [hh]
      exact ⟨hcl, _, rfl⟩

private theorem fails_update {serverData : ProxmoxServerUpdate}
    (hno : hasPermission u.user "server:update" = true → ∀ row,
      serverData.dropBlank.apply u.server = some row →
        o.answers (.effect (.updateServer row)) ≠ .ok ()) :
    Fails u o (u.start o) (updateProxmoxServer u.db u.user o.now u.server.id serverData) := by
  refine fails_request fun hp => ?_
  have hc := clean_start u o
  dsimp only
  split
  · have hq : Clean u (o.host.next (u.start o)
        (.effect (.clearServerCache u.server.ipAddress))) := hc
    exact ⟨fun hu => hu, fails_storeUpdate hq (hno hp)⟩
  · exact fails_storeUpdate hc (hno hp)

private theorem fails_callNode {permission : String} {op : ServerOp}
    {reply : op.Answer → ServersHandler Reply}
    (hno : hasPermission u.user permission = true → hasCredentials u.server = false) :
    Fails u o (u.start o) (permissionChecker u.user permission >>= fun _ =>
      callNode u.db u.server.id op reply) := by
  refine fails_request fun hp => ?_
  have hc := clean_start u o
  unfold Fails orServerError
  rw [Host.meets_tryCatch]
  unfold getClientOr503 getProxmoxClient
  rw [bind_assoc, Host.meets_ensure_bind]
  exact ⟨fun h => absurd h (by simp [hno hp]), fun _ => ⟨hc, _, rfl⟩⟩

end Itself

/-- For other servers the request keeps away exactly when it keeps off. -/
private theorem keepsAway_iff {u : Unseen} {o : Outside} {e : Endpoint}
    (he : e.Elsewhere u.server.id) : u.KeepsAway o e ↔ KeepsOff u o e := by
  have hc := clean_start u o
  cases e with
  | listProxmoxServers => exact iff_of_true away_listProxmoxServers trivial
  | getAllResources => exact away_getAllResources
  | createProxmoxServer payload => exact away_createProxmoxServer
  | testProxmoxCredentials payload => exact away_testProxmoxCredentials
  | getProxmoxServer sid => exact iff_of_true away_getProxmoxServer fun _ => he
  | getServerClusterInfo sid =>
    refine (away_permissionChecker hc).trans (imp_congr_right fun _ => ?_)
    refine (away_resolveServer hc).trans ?_
    refine Iff.trans ?_ (and_iff_right he).symm
    refine forall_congr' fun s => imp_congr_right fun hs => ?_
    exact away_clusterInfo (find?_id hs ▸ he) fun _ _ => Iff.rfl
  | updateProxmoxServer sid serverData => exact away_updateProxmoxServer he
  | deleteProxmoxServer sid => exact iff_of_true (away_deleteProxmoxServer he) fun _ => he
  | provisionServerToken sid => exact away_provisionServerToken
  | testProxmoxConnection sid =>
    refine (away_permissionChecker hc).trans (imp_congr_right fun _ => ?_)
    refine (away_resolveServer hc).trans ?_
    refine Iff.trans ?_ (and_iff_right he).symm
    refine forall_congr' fun s => imp_congr_right fun hs => ?_
    exact away_testConnection (find?_id hs ▸ he)
  | getServerResources sid => exact away_getServerResources
  | getStorages sid node contentType =>
    refine (away_permissionChecker hc).trans (imp_congr_right fun _ => ?_)
    exact away_callNode (fun _ => rfl) fun p a hp => hp
  | getNodeStatus sid node =>
    refine (away_permissionChecker hc).trans (imp_congr_right fun _ => ?_)
    refine away_callNode (fun _ => rfl) fun p status hp => ?_
    split <;> exact hp
  | getNodeRrddata sid node timeframe =>
    refine (away_permissionChecker hc).trans (imp_congr_right fun _ => ?_)
    exact away_callNode (fun _ => rfl) fun p a hp => hp

/-- Requests for the server itself must be refused or fail. -/
private theorem concealed_iff_itself {u : Unseen} {o : Outside} {e : Endpoint}
    (he : ¬e.Elsewhere u.server.id) : u.Concealed o e ↔ KeepsOff u o e := by
  have hc := clean_start u o
  cases e with
  | listProxmoxServers => exact absurd trivial he
  | getAllResources => exact absurd trivial he
  | createProxmoxServer payload => exact absurd trivial he
  | testProxmoxCredentials payload => exact absurd trivial he
  | getProxmoxServer sid =>
    obtain rfl : sid = u.server.id := not_not.mp he
    refine ⟨fun h hp => absurd h (not_concealed_get hp), fun h => concealed_of_fails ?_⟩
    exact fails_request fun hp => absurd rfl (h hp)
  | getServerClusterInfo sid =>
    obtain rfl : sid = u.server.id := not_not.mp he
    refine ⟨fun h hp => absurd h (not_concealed_clusterInfo hp), fun h => concealed_of_fails ?_⟩
    exact fails_request fun hp => absurd rfl (h hp).1
  | updateProxmoxServer sid serverData =>
    obtain rfl : sid = u.server.id := not_not.mp he
    refine ⟨fun h hp s hs row hrow hok => ?_, fun h => concealed_of_fails ?_⟩
    · obtain rfl := Option.some.inj (u.registered.symm.trans hs)
      exact absurd h (not_concealed_update hp hrow hok)
    · exact fails_update fun hp row hrow hok => absurd rfl (h hp _ u.registered row hrow hok).1
  | deleteProxmoxServer sid =>
    obtain rfl : sid = u.server.id := not_not.mp he
    refine ⟨fun h hp => absurd h (not_concealed_delete hp), fun h => concealed_of_fails ?_⟩
    exact fails_request fun hp => absurd rfl (h hp)
  | provisionServerToken sid =>
    obtain rfl : sid = u.server.id := not_not.mp he
    refine ⟨fun h => away_provisionServerToken.mp h.keepsAway, fun h => concealed_of_fails ?_⟩
    refine fails_request fun hp => fails_ensure_of_not hc ?_
    by_contra hpw
    exact (h hp _ u.registered (by simpa using hpw)).1 rfl
  | testProxmoxConnection sid =>
    obtain rfl : sid = u.server.id := not_not.mp he
    refine ⟨fun h hp => absurd h (not_concealed_test hp), fun h => concealed_of_fails ?_⟩
    exact fails_request fun hp => absurd rfl (h hp).1
  | getServerResources sid =>
    obtain rfl : sid = u.server.id := not_not.mp he
    refine ⟨fun h => away_getServerResources.mp h.keepsAway, fun h => concealed_of_fails ?_⟩
    exact fails_request fun hp => absurd rfl (h hp _ u.registered).1.1
  | getStorages sid node contentType =>
    obtain rfl : sid = u.server.id := not_not.mp he
    refine ⟨fun h hp => ?_, fun h => concealed_of_fails (fails_callNode fun hp => ?_)⟩
    · refine (away_callNode (fun _ => rfl) fun p a hq => ?_).mp
        ((away_permissionChecker hc).mp h.keepsAway hp)
      exact hq
    · by_contra hcred
      exact (h hp _ u.registered (by simpa using hcred)).1 rfl
  | getNodeStatus sid node =>
    obtain rfl : sid = u.server.id := not_not.mp he
    refine ⟨fun h hp => ?_, fun h => concealed_of_fails (fails_callNode fun hp => ?_)⟩
    · refine (away_callNode (fun _ => rfl) fun p status hp => ?_).mp
        ((away_permissionChecker hc).mp h.keepsAway hp)
      split <;> exact hp
    · by_contra hcred
      exact (h hp _ u.registered (by simpa using hcred)).1 rfl
  | getNodeRrddata sid node timeframe =>
    obtain rfl : sid = u.server.id := not_not.mp he
    refine ⟨fun h hp => ?_, fun h => concealed_of_fails (fails_callNode fun hp => ?_)⟩
    · refine (away_callNode (fun _ => rfl) fun p a hq => ?_).mp
        ((away_permissionChecker hc).mp h.keepsAway hp)
      exact hq
    · by_contra hcred
      exact (h hp _ u.registered (by simpa using hcred)).1 rfl

/-- The server stays concealed exactly from the requests that keep off it. -/
theorem concealed_iff (u : Unseen) (o : Outside) (e : Endpoint) :
    u.Concealed o e ↔ KeepsOff u o e := by
  by_cases he : e.Elsewhere u.server.id
  · rw [← keepsAway_iff he]
    exact ⟨fun h => h.keepsAway, fun h => ⟨h, unaware_elsewhere he⟩⟩
  · exact concealed_iff_itself he

/-! ## A user who may view servers -/

/-- The role that the servers page asks for. -/
def viewerRole : Role := ⟨"user", ⟨[("server:view", true)], by decide⟩⟩

/-- One registered server, assigned to nobody, and a user with that role. -/
def unassigned : Unseen where
  db :=
    { servers := Scripts.scriptServers
      vms := .empty
      ipam := ⟨.empty, []⟩
      workspaces := ⟨.empty, [], []⟩
      nextServerId := 2
      nextServerId_fresh := by decide }
  user := ⟨8, "tenant", false, some viewerRole, []⟩
  header := none
  server := Scripts.scriptServer
  registered := by decide
  hidden := by decide

/-- Nothing outside the panel works. -/
def unreachable : Outside where
  answers
    | .isConnected _ => false
    | .request _ op => match op with
      | .checkConnection => ⟨false, none, none⟩
      | .isCluster | .revokeApiToken _ => false
      | .getNodes | .getNodeStorages _ => []
      | .getNodeStatus _ => none
      | .getNodeRrddata _ _ => []
      | .getProxmoxResources _ | .provisionApiToken _ => .error "unreachable"
    | .effect e => match e with
      | .insertServer _ | .updateServer _ => .ok ()
      | .testCredentials _ | .provisionApiToken _ _ => .error "unreachable"
      | .revokeApiToken _ _ => false
      | .saveStatus _ | .deleteServer _ _ | .clearServerCache _ | .cleanupServerState _
      | .syncVmCache | .broadcast .. => ()
  sessions _ := none
  tick := ⟨fun _ => .raised, fun _ => .raised, fun _ => ⟨fun _ _ _ => none, fun _ _ => none⟩, 0, 0, true⟩
  lastIpDetect := .empty
  now := 0

/-- The permission to view servers alone shows a server that is not visible. -/
theorem unassigned_not_concealed :
    ¬unassigned.Concealed unreachable (.getProxmoxServer 1) :=
  not_concealed_get (u := unassigned) (by decide)

end PveManager.Api.Servers
