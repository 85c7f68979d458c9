import PveManager.Api.Servers
import PveManager.Core.Contract

/-!
# Servers outside the visible set

What a request to the servers router does to a registered server its sender does
not see: whether a session opened with the server's credentials is used, what is
stored about it afterwards, and whether the response depends on it. The main
result says for every endpoint when the request keeps away from the server.
-/

namespace PveManager.Api.Servers

open PveManager.Core PveManager.Rbac

/-- A registered server and a user who does not see it. -/
structure Unseen where
  db : ServersDb
  user : User
  header : Option String
  server : ProxmoxServer
  registered : db.servers.find? server.id = some server
  hidden : sees (getVisibleServerIds db.workspaces user header) server.id = false

/-- Everything outside the tables: what is answered, the open sessions with the server whose stored
credentials opened them, what a cache sync finds, and the time. -/
structure Outside where
  answers : (c : RouterCall ServersRouter) → c.Answer
  sessions : String → Option ServerId
  tick : Sync.TickEnv
  lastIpDetect : Sync.LastIpDetect
  now : Time

/-- The tables and the open sessions while a request is handled. -/
structure Panel where
  db : Db
  sessions : String → Option ServerId

namespace Outside

variable (o : Outside)

/-- The tables after a call. -/
def stored (db : Db) : (c : RouterCall ServersRouter) → c.Answer → Db
  | .effect (.insertServer row), .ok () => { db with servers := db.servers.save row }
  | .effect (.updateServer row), .ok () => { db with servers := db.servers.save row }
  | .effect (.saveStatus row), _ => { db with servers := db.servers.save row }
  | .effect (.deleteServer sid username), _ => PveManager.Servers.deleteServerRecords db sid username
  | .effect .syncVmCache, _ => (Sync.syncVmCache o.tick o.lastIpDetect db).db
  | _, _ => db

/-- The open sessions after a call. -/
def kept (sessions : String → Option ServerId) : RouterCall ServersRouter → String → Option ServerId
  | .effect (.clearServerCache host), key => if clears host key then none else sessions key
  | _, key => sessions key

/-- The panel that handles the request. -/
def host : Host ServersRouter.interface Panel where
  answer _ c := o.answers c
  next p c := ⟨o.stored p.db c (o.answers c), kept p.sessions c⟩

end Outside

/-- The call goes through a session that the credentials of this server open or opened. -/
def Uses (sid : ServerId) (p : Panel) : RouterCall ServersRouter → Prop
  | .isConnected s => s.id = sid ∨ p.sessions (clientKey s) = some sid
  | .request s op => s.id = sid ∨ p.sessions (op.key s) = some sid
  | .effect (.testCredentials payload) => p.sessions payload.testKey = some sid
  | .effect (.provisionApiToken payload _) | .effect (.revokeApiToken payload _) =>
    p.sessions payload.tokenKey = some sid
  | .effect .syncVmCache => ∃ s ∈ Sync.onlineServers p.db, Sync.hasAuth s = true ∧
      (s.id = sid ∨ p.sessions (clientKey s) = some sid)
  | _ => False

/-- The call asks this server, or is answered by the commit of its row. -/
def Names (sid : ServerId) : RouterCall ServersRouter → Prop
  | .isConnected s | .request s _ => s.id = sid
  | .effect (.insertServer row) | .effect (.updateServer row) => row.id = sid
  | _ => False

/-- The tables hold the same about a server. -/
structure SameStored (sid : ServerId) (db db' : Db) : Prop where
  server : db'.servers.find? sid = db.servers.find? sid
  guests : ∀ vmid, db'.vms.find? (sid, vmid) = db.vms.find? (sid, vmid)
  addresses : ∀ a : IPAMAllocation, a.proxmoxServerId = some sid →
    (a ∈ db'.ipam.allocations.rows ↔ a ∈ db.ipam.allocations.rows)

/-- The tables differ in what they hold about one server only. -/
structure AgreeOff (sid : ServerId) (db db' : ServersDb) : Prop where
  servers : db'.servers.rows.filter (fun s => decide (s.id ≠ sid)) =
    db.servers.rows.filter fun s => decide (s.id ≠ sid)
  guests : db'.vms.rows.filter (fun r => decide (r.serverId ≠ sid)) =
    db.vms.rows.filter fun r => decide (r.serverId ≠ sid)
  addresses : db'.ipam.allocations.rows.filter (fun a => decide (a.proxmoxServerId ≠ some sid)) =
    db.ipam.allocations.rows.filter fun a => decide (a.proxmoxServerId ≠ some sid)
  workspaces : db'.workspaces = db.workspaces
  nextServerId : db'.nextServerId = db.nextServerId

/-- The endpoints with what the request says. -/
inductive Endpoint
  | listProxmoxServers
  | getAllResources
  | createProxmoxServer (payload : ProxmoxServerCreate)
  | testProxmoxCredentials (payload : ProxmoxServerCreate)
  | getProxmoxServer (serverId : ServerId)
  | getServerClusterInfo (serverId : ServerId)
  | updateProxmoxServer (serverId : ServerId) (serverData : ProxmoxServerUpdate)
  | deleteProxmoxServer (serverId : ServerId)
  | provisionServerToken (serverId : ServerId)
  | testProxmoxConnection (serverId : ServerId)
  | getServerResources (serverId : ServerId)
  | getStorages (serverId : ServerId) (node : String) (contentType : Option String)
  | getNodeStatus (serverId : ServerId) (node : String)
  | getNodeRrddata (serverId : ServerId) (node timeframe : String)

/-- The handler of an endpoint. -/
def handle (db : ServersDb) (user : User) (header : Option String) (now : Time) :
    Endpoint → ServersHandler Reply
  | .listProxmoxServers => Servers.listProxmoxServers db user header
  | .getAllResources => Servers.getAllResources db user header now
  | .createProxmoxServer payload => Servers.createProxmoxServer db user now payload
  | .testProxmoxCredentials payload => Servers.testProxmoxCredentials user payload
  | .getProxmoxServer sid => Servers.getProxmoxServer db user sid
  | .getServerClusterInfo sid => Servers.getServerClusterInfo db user sid
  | .updateProxmoxServer sid serverData => Servers.updateProxmoxServer db user now sid serverData
  | .deleteProxmoxServer sid => Servers.deleteProxmoxServer db user sid
  | .provisionServerToken sid => Servers.provisionServerToken db user sid
  | .testProxmoxConnection sid => Servers.testProxmoxConnection db user now sid
  | .getServerResources sid => Servers.getServerResources db user now sid
  | .getStorages sid node contentType => Servers.getStorages db user sid node contentType
  | .getNodeStatus sid node => Servers.getNodeStatus db user sid node
  | .getNodeRrddata sid node timeframe => Servers.getNodeRrddata db user sid node timeframe

namespace Unseen

variable (u : Unseen) (o : Outside) (e : Endpoint)

/-- The request of the user, handled over some tables. -/
def handler (db : ServersDb) : ServersHandler Reply := handle db u.user u.header o.now e

/-- The response over the tables `db`, answered by `answers`. -/
def response (db : ServersDb) (answers : (c : RouterCall ServersRouter) → c.Answer) :
    Except Exc Reply :=
  ({ o with answers := answers }.host.exec ⟨db.toDb, o.sessions⟩ (u.handler o e db)).2

/-- The request uses no session of the server and leaves everything stored about it as it was. -/
def KeepsAway : Prop :=
  o.host.Meets (fun p c => ¬Uses u.server.id p c)
    (fun p _ => SameStored u.server.id u.db.toDb p.db) ⟨u.db.toDb, o.sessions⟩ (u.handler o e u.db)

/-- Two successful responses are the same when only the server differs. -/
def Unaware : Prop :=
  ∀ db' answers', AgreeOff u.server.id u.db db' →
    (∀ c, ¬Names u.server.id c → answers' c = o.answers c) →
      ∀ reply reply', u.response o e u.db o.answers = .ok reply →
        u.response o e db' answers' = .ok reply' → reply' = reply

/-- The server stays invisible to the request. -/
structure Concealed : Prop where
  keepsAway : u.KeepsAway o e
  unaware : u.Unaware o e

end Unseen

/-! ## When a request keeps away -/

section Condition

variable (u : Unseen) (o : Outside)

/-- A client with this key, built from this row, opens its own session and finds none of the
server's. -/
def Own (key : String) (s : ProxmoxServer) : Prop :=
  s.id ≠ u.server.id ∧ o.sessions key ≠ some u.server.id

/-- A cache sync neither reads the server nor deletes its rows. -/
def Spares (p : Panel) : Prop :=
  (∀ s ∈ Sync.onlineServers p.db, Sync.hasAuth s = true →
    s.id ≠ u.server.id ∧ p.sessions (clientKey s) ≠ some u.server.id) ∧
  Sync.NothingToDelete o.tick p.db u.server.id

/-- The panel after a row is committed. -/
def committed (p : Panel) (row : ProxmoxServer) : Panel :=
  { p with db := { p.db with servers := p.db.servers.save row } }

/-- Checking a new row finds none of the server's sessions, and the sync that follows a success
spares the server. -/
def CheckSpares (p : Panel) (row : ProxmoxServer) : Prop :=
  hasCredentials row = true → p.sessions (clientKey row) ≠ some u.server.id ∧
    ((o.answers (.request row .checkConnection)).ok = true →
      Spares u o (committed p (row.updateStatus o.now true none none)))

/-- The token a creation request gets. -/
def tokenOf (payload : ProxmoxServerCreate) : Except String (Option (String × String)) :=
  if payload.autoCreateToken then
    (o.answers (.effect (.provisionApiToken payload s!"PVEmanager ({payload.name})"))).map some
  else .ok none

/-- The sessions left when new credentials clear those of the old host. -/
def sessionsAfter (serverData : ProxmoxServerUpdate) (s : ProxmoxServer) :
    String → Option ServerId :=
  if serverData.setsCredentials then
    Outside.kept o.sessions (.effect (.clearServerCache s.ipAddress))
  else o.sessions

/-- What the request must be for the server to stay concealed: it is refused, it fails, or every
client it builds opens a session of its own for another server. -/
def KeepsOff : Endpoint → Prop
  | .listProxmoxServers => True
  | .getAllResources => hasPermission u.user "vm:view" = true →
      ∀ s ∈ visibleServers u.db (getVisibleServerIds u.db.workspaces u.user u.header),
        o.sessions (resourcesKey s) ≠ some u.server.id
  | .createProxmoxServer payload => hasPermission u.user "server:create" = true →
      (u.db.servers.rows.any fun s => decide (s.name = payload.name)) = false →
      (payload.autoCreateToken = true → o.sessions payload.tokenKey ≠ some u.server.id) ∧
      ∀ token, tokenOf o payload = .ok token →
        let row := newRow u.db.nextServerId payload token
        o.answers (.effect (.insertServer row)) = .ok () →
          CheckSpares u o (committed ⟨u.db.toDb, o.sessions⟩ row) row
  | .testProxmoxCredentials payload => hasPermission u.user "server:view" = true →
      o.sessions payload.testKey ≠ some u.server.id
  | .getProxmoxServer sid => hasPermission u.user "server:view" = true → sid ≠ u.server.id
  | .getServerClusterInfo sid | .testProxmoxConnection sid =>
      hasPermission u.user "server:view" = true →
      sid ≠ u.server.id ∧ ∀ s, u.db.servers.find? sid = some s → hasCredentials s = true →
        o.sessions (clientKey s) ≠ some u.server.id
  | .updateProxmoxServer sid serverData => hasPermission u.user "server:update" = true →
      ∀ s, u.db.servers.find? sid = some s → ∀ row, serverData.dropBlank.apply s = some row →
      o.answers (.effect (.updateServer row)) = .ok () →
        sid ≠ u.server.id ∧ (serverData.dropBlank.setsConnection = true →
          CheckSpares u o
            (committed ⟨u.db.toDb, sessionsAfter o serverData.dropBlank s⟩ row) row)
  | .deleteProxmoxServer sid => hasPermission u.user "server:delete" = true → sid ≠ u.server.id
  | .provisionServerToken sid => hasPermission u.user "server:update" = true →
      ∀ s, u.db.servers.find? sid = some s → truthy s.password = true →
        Own u o (provisionKey s.ipAddress s.port s.apiUser) s
  | .getServerResources sid => hasPermission u.user "vm:view" = true →
      ∀ s, u.db.servers.find? sid = some s → Own u o (resourcesKey s) s ∧
        ((o.answers (.request s (.getProxmoxResources (nodeFilter s)))).isOk = true →
          hasCredentials s = true → o.sessions (clientKey s) ≠ some u.server.id)
  | .getStorages sid _ _ => hasPermission u.user "server:view" = true →
      ∀ s, u.db.servers.find? sid = some s → hasCredentials s = true → Own u o (clientKey s) s
  | .getNodeStatus sid _ | .getNodeRrddata sid _ _ => hasPermission u.user "vm:view" = true →
      ∀ s, u.db.servers.find? sid = some s → hasCredentials s = true → Own u o (clientKey s) s

end Condition

end PveManager.Api.Servers
