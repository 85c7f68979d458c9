import PveManager.Api.ServerVisibility

/-!
# Keeping away from a server

Rules that follow a handler of the servers router call by call, and for every
endpoint the condition under which it uses no session of the server and leaves
what is stored about it alone.
-/

namespace PveManager.Api.Servers

open PveManager.Core PveManager.Rbac

/-! ## Stored rows -/

namespace SameStored

variable {sid : ServerId} {db db' : Db}

theorem refl (sid : ServerId) (db : Db) : SameStored sid db db :=
  ⟨rfl, fun _ => rfl, fun _ _ => Iff.rfl⟩

/-- Saving another server's row changes nothing stored about this one. -/
theorem save_iff {row : ProxmoxServer} (h : row.id ≠ sid) :
    SameStored sid db { db' with servers := db'.servers.save row } ↔ SameStored sid db db' := by
  have hf : (db'.servers.save row).find? sid = db'.servers.find? sid := by
    rw [KeyedTable.find?_save, if_neg h]
  constructor
  · intro hs
    exact ⟨hf.symm.trans hs.server, hs.guests, hs.addresses⟩
  · intro hs
    exact ⟨hf.trans hs.server, hs.guests, hs.addresses⟩

/-- Nor does deleting another server. -/
theorem delete {target : ServerId} (username : String) (h : target ≠ sid)
    (hs : SameStored sid db db') :
    SameStored sid db (PveManager.Servers.deleteServerRecords db' target username) where
  server := by
    rw [PveManager.Servers.deleteServerRecords, KeyedTable.find?_erase, if_neg (Ne.symm h)]
    exact hs.server
  guests vmid := by
    rw [PveManager.Servers.find?_deleteServerRecords_of_ne db' username (Ne.symm h)]
    exact hs.guests vmid
  addresses a ha := by
    rw [PveManager.Servers.deleteServerRecords, Ipam.mem_releaseAllByServer, ← hs.addresses a ha]
    refine ⟨fun hm => hm.1, fun hm => ⟨hm, fun hr => h ?_⟩⟩
    exact Option.some.inj (hr.1.symm.trans ha)

/-- A sync that does not read the server keeps its rows exactly when nothing is to delete. -/
theorem sync_iff {env : Sync.TickEnv} {last : Sync.LastIpDetect} (hs : SameStored sid db db')
    (h : ∀ s ∈ Sync.onlineServers db', s.id = sid → Sync.hasAuth s = false) :
    SameStored sid db (Sync.syncVmCache env last db').db ↔ Sync.NothingToDelete env db' sid := by
  constructor
  · intro hsync
    refine (Sync.syncVmCache_find?_of_unread_iff last h).mp fun vmid => ?_
    exact (hsync.guests vmid).trans (hs.guests vmid).symm
  · intro hnd
    refine ⟨?_, fun vmid => ?_, fun a ha => ?_⟩
    · rw [Sync.syncVmCache_servers]
      exact hs.server
    · exact ((Sync.syncVmCache_find?_of_unread_iff last h).mpr hnd vmid).trans (hs.guests vmid)
    · exact (Sync.mem_syncVmCache_allocations_of_unread hnd ha).trans (hs.addresses a ha)

end SameStored

/-! ## Rules -/

section Rules

variable {u : Unseen} {o : Outside} {p : Panel} {α β : Type}

/-- From the panel `p` on, the handler uses no session of the server and keeps what is stored. -/
def Away (u : Unseen) (o : Outside) (p : Panel) (h : ServersHandler α) : Prop :=
  o.host.Meets (fun p c => ¬Uses u.server.id p c)
    (fun p _ => SameStored u.server.id u.db.toDb p.db) p h

/-- Nothing stored about the server has changed so far. -/
def Clean (u : Unseen) (p : Panel) : Prop := SameStored u.server.id u.db.toDb p.db

theorem clean_start (u : Unseen) (o : Outside) : Clean u ⟨u.db.toDb, o.sessions⟩ :=
  SameStored.refl _ _

theorem away_ensure (hp : Clean u p) {b : Bool} {e : Exc} {k : Unit → ServersHandler α} :
    Away u o p (Proc.ensure b e >>= k) ↔ (b = true → Away u o p (k ())) :=
  Host.meets_ensure_bind.trans ⟨fun h => h.1, fun h => ⟨h, fun _ => hp⟩⟩

theorem away_permissionChecker (hp : Clean u p) {permission : String}
    {k : Unit → ServersHandler α} :
    Away u o p (permissionChecker u.user permission >>= k) ↔
      (hasPermission u.user permission = true → Away u o p (k ())) :=
  away_ensure hp

theorem away_resolveServer (hp : Clean u p) {db : Db} {sid : ServerId} {detail : String}
    {k : ProxmoxServer → ServersHandler α} :
    Away u o p (resolveServer db sid detail >>= k) ↔
      ∀ s, db.servers.find? sid = some s → Away u o p (k s) := by
  unfold resolveServer
  cases hs : db.servers.find? sid with
  | none => exact ⟨fun _ s hs' => absurd hs' (by simp), fun _ => hp⟩
  | some s =>
    constructor
    · intro h s' hs'
      cases hs'
      exact h
    · intro h
      exact h s rfl

/-- A question to a registered server leaves the panel as it is. -/
theorem away_request {s : ProxmoxServer} {op : ServerOp} {k : op.Answer → ServersHandler α} :
    Away u o p (request (R := ServersRouter) s op >>= k) ↔
      ¬Uses u.server.id p (.request s op) ∧ Away u o p (k (o.answers (.request s op))) := Iff.rfl

theorem away_isConnected {s : ProxmoxServer} {k : Bool → ServersHandler α} :
    Away u o p (isConnected s >>= k) ↔
      ¬Uses u.server.id p (.isConnected s) ∧ Away u o p (k (o.answers (.isConnected s))) := Iff.rfl

theorem away_effect {e : ServerEffect} {k : e.Answer → ServersHandler α} :
    Away u o p (effect (R := ServersRouter) e >>= k) ↔
      ¬Uses u.server.id p (.effect e) ∧
        Away u o (o.host.next p (.effect e)) (k (o.answers (.effect e))) := Iff.rfl

/-- A handler of exceptions that only ends the request adds nothing. -/
theorem away_tryCatch {h : ServersHandler α} {f : Exc → ServersHandler α}
    (hf : ∀ p e, Away u o p (f e) ↔ Clean u p) :
    Away u o p (tryCatch h f) ↔ Away u o p h := by
  unfold Away
  rw [Host.meets_tryCatch]
  refine Host.meets_congr fun p r => ?_
  cases r with
  | ok a => exact Iff.rfl
  | error e => exact hf p e

theorem away_orServerError {h : ServersHandler α} :
    Away u o p (orServerError h) ↔ Away u o p h :=
  away_tryCatch fun _ _ => Iff.rfl

/-- Another server's status is no business of this one. -/
theorem clean_saveStatus {row : ProxmoxServer} (h : row.id ≠ u.server.id) :
    Clean u (o.host.next p (.effect (.saveStatus row))) ↔ Clean u p :=
  SameStored.save_iff h

theorem away_saveStatus {row : ProxmoxServer} {k : Unit → ServersHandler α} :
    Away u o p (effect (R := ServersRouter) (.saveStatus row) >>= k) ↔
      Away u o (o.host.next p (.effect (.saveStatus row))) (k ()) :=
  ⟨fun h => h.2, fun h => ⟨fun hu => hu, h⟩⟩

theorem away_updateServer {row : ProxmoxServer} {k : Except String Unit → ServersHandler α} :
    Away u o p (effect (R := ServersRouter) (.updateServer row) >>= k) ↔
      Away u o (o.host.next p (.effect (.updateServer row)))
        (k (o.answers (.effect (.updateServer row)))) :=
  ⟨fun h => h.2, fun h => ⟨fun hu => hu, h⟩⟩

theorem away_insertServer {row : ProxmoxServer} {k : Except String Unit → ServersHandler α} :
    Away u o p (effect (R := ServersRouter) (.insertServer row) >>= k) ↔
      Away u o (o.host.next p (.effect (.insertServer row)))
        (k (o.answers (.effect (.insertServer row)))) :=
  ⟨fun h => h.2, fun h => ⟨fun hu => hu, h⟩⟩

theorem away_broadcast {event name : String} {sid : ServerId} {online : Option Bool}
    {k : Unit → ServersHandler α} :
    Away u o p (effect (R := ServersRouter) (.broadcast event sid name online) >>= k) ↔
      Away u o p (k ()) :=
  ⟨fun h => h.2, fun h => ⟨fun hu => hu, h⟩⟩

/-- A client of another server is used exactly when its session is not this server's. -/
theorem not_uses_request {s : ProxmoxServer} {op : ServerOp} :
    ¬Uses u.server.id p (.request s op) ↔
      s.id ≠ u.server.id ∧ p.sessions (op.key s) ≠ some u.server.id := by
  simp only [Uses, not_or, ne_eq]

theorem not_uses_isConnected {s : ProxmoxServer} :
    ¬Uses u.server.id p (.isConnected s) ↔
      s.id ≠ u.server.id ∧ p.sessions (clientKey s) ≠ some u.server.id := by
  simp only [Uses, not_or, ne_eq]

end Rules

/-! ## Endpoints that keep away -/

section KeepsAway

variable {u : Unseen} {o : Outside} {sid : ServerId} {α : Type}

/-- Where the panel starts. -/
abbrev Unseen.start (u : Unseen) (o : Outside) : Panel := ⟨u.db.toDb, o.sessions⟩

theorem find?_id {s : ProxmoxServer} (hs : u.db.servers.find? sid = some s) :
    s.id = sid :=
  u.db.servers.key_of_find? hs

theorem away_callNode {op : ServerOp} {reply : op.Answer → ServersHandler Reply}
    (hkey : ∀ s, op.key s = clientKey s) (hreply : ∀ p a, Clean u p → Away u o p (reply a)) :
    Away u o (u.start o) (callNode u.db sid op reply) ↔
      ∀ s, u.db.servers.find? sid = some s → hasCredentials s = true →
        Own u o (clientKey s) s := by
  have hc := clean_start u o
  unfold callNode
  rw [away_resolveServer hc]
  refine forall_congr' fun s => imp_congr_right fun hs => ?_
  rw [away_orServerError]
  unfold getClientOr503 getProxmoxClient
  rw [bind_assoc, away_ensure hc]
  refine imp_congr_right fun _ => ?_
  rw [bind_assoc, away_isConnected, not_uses_isConnected]
  constructor
  · intro h
    exact h.1
  · intro h
    refine ⟨h, (away_ensure hc).mpr fun _ => ?_⟩
    rw [away_request, not_uses_request, hkey]
    exact ⟨h, hreply _ _ hc⟩

theorem away_clusterInfo {s : ProxmoxServer} (hne : s.id ≠ u.server.id)
    {f : Exc → ServersHandler Reply} (hf : ∀ p e, Away u o p (f e) ↔ Clean u p) :
    Away u o (u.start o) (tryCatch (clusterInfo sid s) f) ↔
      (hasCredentials s = true → o.sessions (clientKey s) ≠ some u.server.id) := by
  have hc := clean_start u o
  rw [away_tryCatch hf]
  unfold clusterInfo getProxmoxClient
  rw [away_ensure hc]
  refine imp_congr_right fun _ => ?_
  rw [away_isConnected, not_uses_isConnected]
  constructor
  · intro h
    exact h.1.2
  · intro h
    refine ⟨⟨hne, h⟩, ?_⟩
    split
    · rw [away_request, not_uses_request]
      exact ⟨⟨hne, h⟩, away_request.mpr ⟨not_uses_request.mpr ⟨hne, h⟩, hc⟩⟩
    · exact hc

/-- Writing the failure of a check keeps away for another server. -/
private theorem away_statusFailed {p : Panel} {s : ProxmoxServer} (hne : s.id ≠ u.server.id)
    {e : Exc} {k : ProxmoxServer → ServersHandler α}
    (hk : ∀ q row, Away u o q (k row) ↔ Clean u q) :
    Away u o p (statusFailed o.now s e >>= k) ↔ Clean u p := by
  have hrow : (s.updateStatus o.now false (some e.str) none).id ≠ u.server.id := by simpa using hne
  unfold statusFailed
  rw [bind_assoc, away_saveStatus, pure_bind, hk, clean_saveStatus hrow]

theorem away_testConnection {s : ProxmoxServer} (hne : s.id ≠ u.server.id) :
    Away u o (u.start o) (tryCatch (testConnection o.now s) fun e => do
      let _ ← statusFailed o.now s e
      pure (Reply.tested false e.str)) ↔
      (hasCredentials s = true → o.sessions (clientKey s) ≠ some u.server.id) := by
  have hc := clean_start u o
  rw [away_tryCatch fun p e => away_statusFailed hne fun _ _ => Iff.rfl]
  unfold testConnection getProxmoxClient
  rw [away_ensure hc]
  refine imp_congr_right fun _ => ?_
  rw [away_isConnected, not_uses_isConnected]
  constructor
  · intro h
    exact h.1.2
  · intro h
    refine ⟨⟨hne, h⟩, ?_⟩
    split
    · exact away_saveStatus.mpr ((clean_saveStatus (by simpa using hne)).mpr hc)
    · exact away_saveStatus.mpr ((clean_saveStatus (by simpa using hne)).mpr hc)

/-- A commit of another server's row. -/
private theorem clean_updateServer {p : Panel} {row : ProxmoxServer} (h : row.id ≠ u.server.id)
    (hp : Clean u p) : Clean u (o.host.next p (.effect (.updateServer row))) := by
  unfold Clean Outside.host
  dsimp only
  cases o.answers (.effect (.updateServer row)) with
  | error e => exact hp
  | ok x => exact (SameStored.save_iff h).mpr hp

private theorem clean_insertServer {p : Panel} {row : ProxmoxServer} (h : row.id ≠ u.server.id)
    (hp : Clean u p) : Clean u (o.host.next p (.effect (.insertServer row))) := by
  unfold Clean Outside.host
  dsimp only
  cases o.answers (.effect (.insertServer row)) with
  | error e => exact hp
  | ok x => exact (SameStored.save_iff h).mpr hp

theorem away_provisionServerToken :
    Away u o (u.start o) (provisionServerToken u.db u.user sid) ↔
      (hasPermission u.user "server:update" = true →
        ∀ s, u.db.servers.find? sid = some s → truthy s.password = true →
          Own u o (provisionKey s.ipAddress s.port s.apiUser) s) := by
  have hc := clean_start u o
  unfold provisionServerToken
  rw [away_permissionChecker hc]
  refine imp_congr_right fun _ => ?_
  rw [away_resolveServer hc]
  refine forall_congr' fun s => imp_congr_right fun hs => ?_
  rw [away_ensure hc]
  refine imp_congr_right fun _ => ?_
  rw [away_request, not_uses_request]
  constructor
  · intro h
    exact h.1
  · intro h
    refine ⟨h, ?_⟩
    cases o.answers (.request s (.provisionApiToken s!"PVEmanager ({s.name})")) with
    | error e => exact hc
    | ok token =>
      obtain ⟨tokenName, tokenValue⟩ := token
      dsimp only
      refine away_effect.mpr ⟨fun hu => hu, ?_⟩
      have hrow : Clean u (o.host.next (u.start o) (.effect (.updateServer { s with
          apiTokenName := some tokenName
          apiTokenValue := some tokenValue
          usePassword := false }))) :=
        clean_updateServer h.1 hc
      cases o.answers (.effect (.updateServer { s with
          apiTokenName := some tokenName
          apiTokenValue := some tokenValue
          usePassword := false })) with
      | error e => exact away_request.mpr ⟨not_uses_request.mpr h, hrow⟩
      | ok x => exact away_effect.mpr ⟨fun hu => hu, hrow⟩

theorem away_getServerResources :
    Away u o (u.start o) (getServerResources u.db u.user o.now sid) ↔
      (hasPermission u.user "vm:view" = true →
        ∀ s, u.db.servers.find? sid = some s → Own u o (resourcesKey s) s ∧
          ((o.answers (.request s (.getProxmoxResources (nodeFilter s)))).isOk = true →
            hasCredentials s = true → o.sessions (clientKey s) ≠ some u.server.id)) := by
  have hc := clean_start u o
  unfold getServerResources
  rw [away_permissionChecker hc]
  refine imp_congr_right fun _ => ?_
  rw [away_resolveServer hc]
  refine forall_congr' fun s => imp_congr_right fun hs => ?_
  rw [away_request, not_uses_request]
  refine and_congr_right fun hown => ?_
  have hsave : ∀ online err, Clean u (o.host.next (u.start o)
      (.effect (.saveStatus (s.updateStatus o.now online err none)))) :=
    fun online err => (clean_saveStatus (by simpa using hown.1)).mpr hc
  cases o.answers (.request s (.getProxmoxResources (nodeFilter s))) with
  | error e =>
    exact iff_of_true (away_saveStatus.mpr (hsave _ _)) fun hok =>
      absurd hok (by simp [Except.isOk, Except.toBool])
  | ok resources =>
    dsimp only
    cases hcred : hasCredentials s with
    | false =>
      rw [nodeUptime_of_not hcred, pure_bind]
      exact iff_of_true (away_saveStatus.mpr (hsave _ _)) fun _ h => absurd h (by simp)
    | true =>
      rw [nodeUptime_of hcred, bind_assoc, away_request, not_uses_request]
      constructor
      · intro h _ _
        exact h.1.2
      · intro h
        exact ⟨⟨hown.1, h rfl rfl⟩, away_saveStatus.mpr (hsave _ _)⟩

private theorem spares_reads {p : Panel} :
    ¬Uses u.server.id p (.effect .syncVmCache) ↔
      ∀ s ∈ Sync.onlineServers p.db, Sync.hasAuth s = true →
        s.id ≠ u.server.id ∧ p.sessions (clientKey s) ≠ some u.server.id := by
  constructor
  · intro h s hs ha
    refine ⟨fun hid => h ⟨s, hs, ha, Or.inl hid⟩, fun hses => h ⟨s, hs, ha, Or.inr hses⟩⟩
  · rintro h ⟨s, hs, ha, hid | hses⟩
    · exact (h s hs ha).1 hid
    · exact (h s hs ha).2 hses

/-- A sync keeps away exactly when it spares the server. -/
private theorem away_sync {p : Panel} (hp : Clean u p) {k : Unit → ServersHandler α}
    (hk : ∀ q, Away u o q (k ()) ↔ Clean u q) :
    Away u o p (effect (R := ServersRouter) .syncVmCache >>= k) ↔ Spares u o p := by
  rw [away_effect, spares_reads]
  refine and_congr_right fun hread => ?_
  rw [hk]
  refine SameStored.sync_iff hp fun s hs hid => ?_
  by_contra ha
  exact (hread s hs (by simpa using ha)).1 hid

/-- The check of another server's new row. -/
private theorem away_recheck {p : Panel} (hp : Clean u p) {row : ProxmoxServer}
    (hne : row.id ≠ u.server.id) {k : ProxmoxServer → ServersHandler α}
    (hk : ∀ q r, Away u o q (k r) ↔ Clean u q) :
    Away u o p (recheck o.now row >>= k) ↔ CheckSpares u o p row := by
  unfold CheckSpares
  cases hcred : hasCredentials row with
  | false =>
    rw [recheck_of_not hcred, away_statusFailed hne hk]
    exact iff_of_true hp fun h => absurd h (by simp)
  | true =>
    rw [recheck_of hcred, bind_assoc, away_request, not_uses_request]
    rw [forall_prop_of_true rfl]
    refine (and_congr_left' ⟨fun h => h.2, fun h => ⟨hne, h⟩⟩).trans (and_congr_right fun _ => ?_)
    rw [bind_assoc, away_saveStatus, bind_assoc]
    cases hok : (o.answers (.request row .checkConnection)).ok with
    | false =>
      have hq : Clean u (o.host.next p (.effect (.saveStatus
          (checkedRow o.now row (o.answers (.request row .checkConnection)))))) :=
        (clean_saveStatus (by rwa [id_checkedRow])).mpr hp
      unfold syncIfOnline
      rw [if_neg (by rw [isOnline_checkedRow, hok]; simp)]
      exact iff_of_true ((hk _ _).mpr hq) fun h => absurd h (by simp)
    | true =>
      have hq : Clean u (o.host.next p (.effect (.saveStatus
          (row.updateStatus o.now true none none)))) :=
        (clean_saveStatus (by rwa [ProxmoxServer.id_updateStatus])).mpr hp
      unfold syncIfOnline
      rw [checkedRow_of_ok hok, if_pos (ProxmoxServer.isOnline_updateStatus ..),
        forall_prop_of_true rfl]
      exact away_sync hq fun q => hk q _

/-- The part of an update after the credentials: storing the row and checking it. -/
private theorem away_storeUpdate {q : Panel} (hq : Clean u q) {s : ProxmoxServer}
    (hid : s.id = sid) (hne : sid ≠ u.server.id) {updateData : ProxmoxServerUpdate} :
    Away u o q (storeUpdate o.now s updateData) ↔
      ∀ row, updateData.apply s = some row → o.answers (.effect (.updateServer row)) = .ok () →
        sid ≠ u.server.id ∧ (updateData.setsConnection = true →
          CheckSpares u o (committed q row) row) := by
  unfold storeUpdate
  cases hrow : updateData.apply s with
  | none => exact iff_of_true hq fun row h => absurd h (by simp)
  | some row =>
    have hrid : row.id ≠ u.server.id := by
      rw [(ProxmoxServerUpdate.id_of_apply hrow).1, hid]
      exact hne
    have hcl := clean_updateServer (o := o) hrid hq
    have hone : (∀ row', some row = some row' →
        o.answers (.effect (.updateServer row')) = .ok () →
          sid ≠ u.server.id ∧ (updateData.setsConnection = true →
            CheckSpares u o (committed q row') row')) ↔
        (o.answers (.effect (.updateServer row)) = .ok () → updateData.setsConnection = true →
          CheckSpares u o (committed q row) row) := by
      constructor
      · intro h hok
        exact (h row rfl hok).2
      · intro h row' hr hok
        cases hr
        exact ⟨hne, h hok⟩
    rw [hone]
    dsimp only
    unfold orRaise
    rw [bind_assoc, away_updateServer]
    have hnext : o.answers (.effect (.updateServer row)) = .ok () →
        o.host.next q (.effect (.updateServer row)) = committed q row := by
      intro hok
      unfold Outside.host
      dsimp only
      rw [hok]
      rfl
    cases hans : o.answers (.effect (.updateServer row)) with
    | error e => exact iff_of_true hcl fun h => absurd h (by simp)
    | ok x =>
      rw [hnext hans] at hcl ⊢
      rw [forall_prop_of_true rfl]
      dsimp only
      rw [pure_bind]
      by_cases hconn : updateData.setsConnection = true
      · rw [if_pos hconn, forall_prop_of_true hconn]
        exact away_recheck hcl hrid fun p r => away_broadcast
      · rw [if_neg hconn, pure_bind, away_broadcast]
        exact iff_of_true hcl fun h => absurd h hconn

theorem away_updateProxmoxServer (hne : sid ≠ u.server.id)
    {serverData : ProxmoxServerUpdate} :
    Away u o (u.start o) (updateProxmoxServer u.db u.user o.now sid serverData) ↔
      KeepsOff u o (.updateProxmoxServer sid serverData) := by
  have hc := clean_start u o
  unfold updateProxmoxServer KeepsOff
  rw [away_permissionChecker hc]
  refine imp_congr_right fun _ => ?_
  rw [away_resolveServer hc]
  refine forall_congr' fun s => imp_congr_right fun hs => ?_
  have hid := find?_id hs
  unfold sessionsAfter
  dsimp only
  by_cases hset : serverData.dropBlank.setsCredentials = true
  · rw [if_pos hset, if_pos hset]
    refine away_effect.trans ((and_iff_right fun hu => hu).trans ?_)
    have hq : Clean u (o.host.next (u.start o) (.effect (.clearServerCache s.ipAddress))) := hc
    exact away_storeUpdate hq hid hne
  · rw [if_neg hset, if_neg hset]
    exact away_storeUpdate hc hid hne

/-- The token of a creation request is asked for through a session of its own. -/
private theorem away_newToken {p : Panel} (hp : Clean u p) {payload : ProxmoxServerCreate}
    {k : Option (String × String) → ServersHandler α} :
    Away u o p (newToken payload >>= k) ↔
      (payload.autoCreateToken = true → p.sessions payload.tokenKey ≠ some u.server.id) ∧
        ∀ token, tokenOf o payload = .ok token → Away u o p (k token) := by
  unfold newToken tokenOf
  cases payload.autoCreateToken with
  | false =>
    constructor
    · intro h
      exact ⟨fun ha => absurd ha (by simp), fun token ht => by cases ht; exact h⟩
    · intro h
      exact h.2 none rfl
  | true =>
    rw [if_pos rfl, if_pos rfl, bind_assoc, away_effect, forall_prop_of_true rfl]
    refine and_congr_right fun _ => ?_
    cases o.answers (.effect (.provisionApiToken payload s!"PVEmanager ({payload.name})")) with
    | error e => exact iff_of_true hp fun token ht => absurd ht (by simp [Except.map])
    | ok token =>
      constructor
      · intro h token' ht
        cases ht
        exact h
      · intro h
        exact h (some token) rfl

/-- A new row is stored, or its token removed through the session it was made with. -/
private theorem away_insert {p : Panel} (hp : Clean u p) {payload : ProxmoxServerCreate}
    {token : Option (String × String)} {row : ProxmoxServer} (hne : row.id ≠ u.server.id)
    (htoken : token.isSome = true → p.sessions payload.tokenKey ≠ some u.server.id)
    {k : Unit → ServersHandler α} :
    Away u o p (insertServer payload token row >>= k) ↔
      (o.answers (.effect (.insertServer row)) = .ok () → Away u o (committed p row) (k ())) := by
  unfold insertServer
  rw [bind_assoc, away_insertServer]
  have hcl := clean_insertServer (o := o) hne hp
  cases hans : o.answers (.effect (.insertServer row)) with
  | ok x =>
    have hnext : o.host.next p (.effect (.insertServer row)) = committed p row := by
      unfold Outside.host
      dsimp only
      rw [hans]
      rfl
    rw [hnext, forall_prop_of_true rfl]
    exact Iff.rfl
  | error e =>
    refine iff_of_true ?_ fun h => absurd h (by simp)
    cases token with
    | none => exact hcl
    | some t => exact ⟨htoken rfl, hcl⟩

theorem Unseen.nextServerId_ne (u : Unseen) : u.db.nextServerId ≠ u.server.id := by
  intro h
  have hfresh := u.db.nextServerId_fresh
  rw [h, u.registered] at hfresh
  exact absurd hfresh (by simp)

theorem away_createProxmoxServer {payload : ProxmoxServerCreate} :
    Away u o (u.start o) (createProxmoxServer u.db u.user o.now payload) ↔
      KeepsOff u o (.createProxmoxServer payload) := by
  have hc := clean_start u o
  unfold createProxmoxServer KeepsOff
  rw [away_permissionChecker hc]
  refine imp_congr_right fun _ => ?_
  rw [away_ensure hc, Bool.not_eq_true']
  refine imp_congr_right fun _ => ?_
  rw [away_newToken hc]
  refine and_congr_right fun htoken => forall_congr' fun token => imp_congr_right fun htok => ?_
  have hauto : token.isSome = true → o.sessions payload.tokenKey ≠ some u.server.id := by
    intro hsome
    refine htoken ?_
    by_contra ha
    rw [tokenOf, if_neg ha, Except.ok.injEq] at htok
    rw [← htok] at hsome
    exact absurd hsome (by simp)
  have hne : (newRow u.db.nextServerId payload token).id ≠ u.server.id := u.nextServerId_ne
  rw [away_insert hc hne hauto]
  refine imp_congr_right fun _ => ?_
  rw [checkStatus_bind]
  have hq : Clean u (committed (u.start o) (newRow u.db.nextServerId payload token)) :=
    (SameStored.save_iff hne).mpr hc
  exact away_recheck hq hne fun p r => away_broadcast

/-- A visible server is another one. -/
theorem Unseen.ne_of_visible (u : Unseen) {s : ProxmoxServer}
    (hs : s ∈ visibleServers u.db (getVisibleServerIds u.db.workspaces u.user u.header)) :
    s.id ≠ u.server.id := by
  intro hid
  have hv := (List.mem_filter.mp (List.mem_mergeSort.mp hs)).2
  rw [hid, u.hidden] at hv
  exact absurd hv (by simp)

private theorem away_fetchAll {p : Panel} {l : List ProxmoxServer}
    (hne : ∀ s ∈ l, s.id ≠ u.server.id)
    {k : List (Except String Resources) → ServersHandler α} :
    Away u o p (fetchAll l >>= k) ↔
      (∀ s ∈ l, p.sessions (resourcesKey s) ≠ some u.server.id) ∧
        Away u o p (k (l.map fun s => o.answers (.request s (.getProxmoxResources none)))) := by
  induction l generalizing k with
  | nil => simp [fetchAll]
  | cons s rest ih =>
    unfold fetchAll
    rw [bind_assoc, away_request, not_uses_request, List.forall_mem_cons, and_assoc,
      and_iff_right (hne s List.mem_cons_self), and_assoc]
    refine and_congr_right fun _ => ?_
    rw [bind_assoc, ih fun t ht => hne t (List.mem_cons_of_mem _ ht)]
    rfl

private theorem away_saveStatuses {p : Panel} (hp : Clean u p)
    {l : List (ProxmoxServer × Except String Resources)} (hne : ∀ x ∈ l, x.1.id ≠ u.server.id)
    {k : Unit → ServersHandler α} (hk : ∀ q, Clean u q → Away u o q (k ())) :
    Away u o p (saveStatuses o.now l >>= k) := by
  induction l generalizing p with
  | nil => exact hk p hp
  | cons x rest ih =>
    obtain ⟨s, r⟩ := x
    have hs : s.id ≠ u.server.id := hne (s, r) List.mem_cons_self
    have hrest := fun q hq => ih (p := q) hq fun y hy => hne y (List.mem_cons_of_mem _ hy)
    unfold saveStatuses
    cases r with
    | error e =>
      dsimp only
      rw [bind_assoc, away_saveStatus]
      exact hrest _ ((clean_saveStatus (by rwa [ProxmoxServer.id_updateStatus])).mpr hp)
    | ok resources =>
      dsimp only
      rw [bind_assoc, away_saveStatus]
      exact hrest _ ((clean_saveStatus (by rwa [ProxmoxServer.id_updateStatus])).mpr hp)

theorem away_getAllResources :
    Away u o (u.start o) (getAllResources u.db u.user u.header o.now) ↔
      KeepsOff u o .getAllResources := by
  have hc := clean_start u o
  unfold getAllResources KeepsOff
  rw [away_permissionChecker hc]
  refine imp_congr_right fun _ => ?_
  dsimp only
  rw [away_fetchAll fun s hs => u.ne_of_visible hs]
  refine and_iff_left (away_saveStatuses hc ?_ fun q hq => hq)
  intro x hx
  exact u.ne_of_visible (List.of_mem_zip hx).1

theorem away_testProxmoxCredentials {payload : ProxmoxServerCreate} :
    Away u o (u.start o) (testProxmoxCredentials u.user payload) ↔
      KeepsOff u o (.testProxmoxCredentials payload) := by
  have hc := clean_start u o
  unfold testProxmoxCredentials KeepsOff
  rw [away_permissionChecker hc]
  refine imp_congr_right fun _ => ?_
  rw [away_effect]
  refine and_iff_left ?_
  cases o.answers (.effect (.testCredentials payload)) with
  | error e => exact hc
  | ok connected => cases connected <;> exact hc

theorem away_deleteProxmoxServer (hne : sid ≠ u.server.id) :
    Away u o (u.start o) (deleteProxmoxServer u.db u.user sid) := by
  have hc := clean_start u o
  refine (away_permissionChecker hc).mpr fun _ => (away_resolveServer hc).mpr fun s hs => ?_
  refine away_effect.mpr ⟨fun hu => hu, away_effect.mpr ⟨fun hu => hu, ?_⟩⟩
  refine away_effect.mpr ⟨fun hu => hu, away_effect.mpr ⟨fun hu => hu, ?_⟩⟩
  exact SameStored.delete _ hne hc

theorem away_getProxmoxServer :
    Away u o (u.start o) (getProxmoxServer u.db u.user sid) :=
  (away_permissionChecker (clean_start u o)).mpr fun _ =>
    (away_resolveServer (clean_start u o)).mpr fun _ _ => clean_start u o

theorem away_listProxmoxServers :
    Away u o (u.start o) (listProxmoxServers u.db u.user u.header) :=
  (away_permissionChecker (clean_start u o)).mpr fun _ => clean_start u o

end KeepsAway

end PveManager.Api.Servers
