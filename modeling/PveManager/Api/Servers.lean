import Mathlib.Algebra.GroupWithZero.Nat
import PveManager.Api.Access
import PveManager.Api.Visibility
import PveManager.Servers.Delete
import PveManager.Sync.Tick

/-!
# The servers router

The endpoints of `servers.py` over the registered servers, the workspaces and the
cached guests. Clients share sessions: a connection opened earlier is reused by
every client with the same connection key. What is logged is left out, and so are
the rows a deleted server takes along that no other modelled code reads.
-/

namespace PveManager.Api.Servers

open PveManager.Core PveManager.Rbac

/-- A dictionary decoded from JSON. -/
abbrev Dict := List (String × Json)

/-- `d.get(key)`. -/
def Dict.get (d : Dict) (key : String) : Json := (d.lookup key).getD .null

/-- The tables the servers router works on. -/
structure ServersDb extends Db where
  workspaces : WorkspaceTables
  /-- The next value of the servers' id sequence. -/
  nextServerId : ServerId
  nextServerId_fresh : servers.find? nextServerId = none

/-- `ProxmoxServerCreate`. -/
structure ProxmoxServerCreate where
  name : String
  hostname : String
  ipAddress : String
  port : Nat
  apiUser : String
  apiTokenName : Option String
  apiTokenValue : Option String
  usePassword : Bool
  password : Option String
  autoCreateToken : Bool
  verifySsl : Bool
  description : Option String

/-- `ProxmoxServerUpdate`: an unset field is `none`, an explicit null is `some none`. -/
structure ProxmoxServerUpdate where
  name : Option (Option String)
  hostname : Option (Option String)
  ipAddress : Option (Option String)
  port : Option (Option Nat)
  apiUser : Option (Option String)
  apiTokenName : Option (Option String)
  apiTokenValue : Option (Option String)
  usePassword : Option (Option Bool)
  password : Option (Option String)
  verifySsl : Option (Option Bool)
  description : Option (Option String)

/-- The new value of a column that is not nullable. -/
def required {α : Type} (new : Option (Option α)) (old : α) : Option α := new.getD (some old)

namespace ProxmoxServerUpdate

/-- Blank secrets mean "do not change". -/
def dropBlank (data : ProxmoxServerUpdate) : ProxmoxServerUpdate :=
  let keep (field : Option (Option String)) := if field = some (some "") then none else field
  { data with
    apiTokenName := keep data.apiTokenName
    apiTokenValue := keep data.apiTokenValue
    password := keep data.password }

/-- A credential was sent. -/
def setsCredentials (data : ProxmoxServerUpdate) : Bool :=
  data.password.isSome || data.apiTokenName.isSome || data.apiTokenValue.isSome ||
    data.apiUser.isSome

/-- `creds_changed`. -/
def setsConnection (data : ProxmoxServerUpdate) : Bool :=
  data.setsCredentials || data.ipAddress.isSome || data.hostname.isSome || data.port.isSome ||
    data.verifySsl.isSome || data.usePassword.isSome

/-- The row with the sent fields, unless a null goes to a column that has none. -/
def apply (data : ProxmoxServerUpdate) (server : ProxmoxServer) : Option ProxmoxServer := do
  let name ← required data.name server.name
  let hostname ← required data.hostname server.hostname
  let ipAddress ← required data.ipAddress server.ipAddress
  let port ← required data.port server.port
  let apiUser ← required data.apiUser server.apiUser
  let usePassword ← required data.usePassword server.usePassword
  let verifySsl ← required data.verifySsl server.verifySsl
  pure { server with
    name := name
    hostname := hostname
    ipAddress := ipAddress
    port := port
    apiUser := apiUser
    apiTokenName := data.apiTokenName.getD server.apiTokenName
    apiTokenValue := data.apiTokenValue.getD server.apiTokenValue
    usePassword := usePassword
    password := data.password.getD server.password
    verifySsl := verifySsl
    description := data.description.getD server.description }

end ProxmoxServerUpdate

/-- A node as `get_nodes` lists it. -/
structure NodeEntry where
  node : Option String
  uptime : Option Nat

/-- The guests of `get_proxmox_resources`. -/
structure Resources where
  vms : List Dict
  containers : List Dict

/-- A storage of a node. -/
structure StorageEntry where
  storage : String
  content : String
  /-- `storage.get('active', 1)` as a truth value. -/
  active : Bool
  data : Dict

/-- What `check_connection` answers. -/
structure CheckResult where
  ok : Bool
  errorKind : Option String
  error : Option String

/-- What is asked of a registered server with its stored credentials. -/
inductive ServerOp
  | checkConnection
  | isCluster
  | getNodes
  | getNodeStorages (node : String)
  | getNodeStatus (node : String)
  | getNodeRrddata (node timeframe : String)
  /-- `get_proxmox_resources`, through a client of its own. -/
  | getProxmoxResources (node : Option String)
  /-- `provision_api_token` with the stored password. -/
  | provisionApiToken (comment : String)
  /-- `revoke_api_token` with the stored password. -/
  | revokeApiToken (tokenName : String)

abbrev ServerOp.Answer : ServerOp → Type
  | .checkConnection => CheckResult
  | .isCluster => Bool
  | .getNodes => List NodeEntry
  | .getNodeStorages _ => List StorageEntry
  | .getNodeStatus _ => Option Dict
  | .getNodeRrddata _ _ => Dict
  | .getProxmoxResources _ => Except String Resources
  | .provisionApiToken _ => Except String (String × String)
  | .revokeApiToken _ => Bool

/-- What the handlers do besides asking a registered server. -/
inductive ServerEffect
  /-- Commit a new row. -/
  | insertServer (row : ProxmoxServer)
  /-- Commit the new columns of a row. -/
  | updateServer (row : ProxmoxServer)
  /-- Commit what `update_status` wrote. -/
  | saveStatus (row : ProxmoxServer)
  /-- Delete the row and all that belongs to it. -/
  | deleteServer (serverId : ServerId) (username : String)
  | clearServerCache (host : String)
  | cleanupServerState (serverId : ServerId)
  | syncVmCache
  | broadcast (event : String) (serverId : ServerId) (name : String) (isOnline : Option Bool)
  /-- Connect with the credentials of a request. -/
  | testCredentials (payload : ProxmoxServerCreate)
  | provisionApiToken (payload : ProxmoxServerCreate) (comment : String)
  | revokeApiToken (payload : ProxmoxServerCreate) (tokenName : String)

abbrev ServerEffect.Answer : ServerEffect → Type
  | .insertServer _ | .updateServer _ => Except String Unit
  | .testCredentials _ => Except String Bool
  | .provisionApiToken _ _ => Except String (String × String)
  | .revokeApiToken _ _ => Bool
  | .saveStatus _ | .deleteServer _ _ | .clearServerCache _ | .cleanupServerState _ | .syncVmCache
  | .broadcast .. => Unit

abbrev ServersRouter : Router where
  Op := ServerOp
  OpAnswer := ServerOp.Answer
  Effect := ServerEffect
  EffectAnswer := ServerEffect.Answer

abbrev ServersHandler (α : Type) := Handler ServersRouter α

/-! ### Connection keys -/

/-- `connection_key`: clients with the same key share a session. -/
def connectionKey (host user : String) (tokenName : Option String) : String :=
  host ++ ":" ++ user ++ ":" ++ (if truthy tokenName then tokenName.getD "" else "password")

/-- `build_host`: a port other than the default is appended. -/
def buildHost (ipAddress : String) (port : Nat) : String :=
  if port ≠ 0 ∧ port ≠ 8006 then s!"{ipAddress}:{port}" else ipAddress

/-- The key of the client `from_server` builds. -/
def clientKey (s : ProxmoxServer) : String :=
  connectionKey (buildHost (if s.ipAddress ≠ "" then s.ipAddress else s.hostname) s.port) s.apiUser
    (if s.usePassword && truthy s.password then none else s.apiTokenName)

/-- The key of the client `get_proxmox_resources` builds for a server; it never takes a port. -/
def resourcesKey (s : ProxmoxServer) : String :=
  connectionKey s.ipAddress s.apiUser (if s.usePassword then none else s.apiTokenName)

/-- The key of the clients of `provision_api_token` and `revoke_api_token`. -/
def provisionKey (ipAddress : String) (port : Nat) (apiUser : String) : String :=
  connectionKey (buildHost ipAddress port) apiUser none

/-- The key of the client a request to a server goes through. -/
def ServerOp.key (s : ProxmoxServer) : ServerOp → String
  | .getProxmoxResources _ => resourcesKey s
  | .provisionApiToken _ | .revokeApiToken _ => provisionKey s.ipAddress s.port s.apiUser
  | _ => clientKey s

/-- The key of the client that tests the credentials of a request. -/
def ProxmoxServerCreate.testKey (payload : ProxmoxServerCreate) : String :=
  connectionKey payload.ipAddress payload.apiUser
    (if payload.usePassword || payload.autoCreateToken then none else payload.apiTokenName)

/-- The key of the client that provisions a token for a request. -/
def ProxmoxServerCreate.tokenKey (payload : ProxmoxServerCreate) : String :=
  provisionKey payload.ipAddress payload.port payload.apiUser

/-- `clear_server_cache` drops the sessions of this key. -/
def clears (host key : String) : Bool := (host ++ ":").toList.isPrefixOf key.toList

/-- A workspace reference of a response. -/
structure ServerWorkspaceBrief where
  id : Nat
  name : String
  color : Option String

/-- `ProxmoxServerResponse`, without the secrets. -/
structure ProxmoxServerResponse where
  id : ServerId
  name : String
  hostname : String
  ipAddress : String
  port : Nat
  apiUser : String
  verifySsl : Bool
  usePassword : Bool
  clusterName : Option String
  description : Option String
  lastCheck : Option Time
  isOnline : Option Bool
  lastError : Option String
  lastErrorKind : Option String
  workspaces : List ServerWorkspaceBrief

/-- One server of `get_all_resources`. -/
structure ServerResources where
  id : ServerId
  name : String
  ip : String
  error : Option String
  vms : List Dict
  containers : List Dict

/-- A successful response. -/
inductive Reply
  | servers (list : List ProxmoxServerResponse)
  | server (response : ProxmoxServerResponse)
  | clusterInfo (serverId : ServerId) (serverName : String) (isCluster : Bool) (nodes : List String)
  | clusterError (serverId : ServerId) (serverName : String) (error : String)
  | deleted
  | tested (success : Bool) (message : String)
  | provisioned (tokenName : String)
  | resources (serverId : ServerId) (serverName : String) (vms containers : List Dict)
      (nodeUptime : Option Nat)
  | allResources (servers : List ServerResources) (totalVms totalContainers : Nat)
  | storages (list : List StorageEntry)
  | content (data : Dict)

/-- `_attach_workspaces` for one server. -/
def attachWorkspaces (ws : WorkspaceTables) (serverId : ServerId) : List ServerWorkspaceBrief :=
  (ws.servers.filter fun row => decide (row.2 = serverId)).filterMap fun row =>
    (ws.workspaces.find? row.1).map fun w => ⟨w.id, w.name, w.color⟩

/-- The response for a row. -/
def serverResponse (s : ProxmoxServer) (workspaces : List ServerWorkspaceBrief) :
    ProxmoxServerResponse where
  id := s.id
  name := s.name
  hostname := s.hostname
  ipAddress := s.ipAddress
  port := s.port
  apiUser := s.apiUser
  verifySsl := s.verifySsl
  usePassword := s.usePassword
  clusterName := s.clusterName
  description := s.description
  lastCheck := s.lastCheck
  isOnline := s.isOnline
  lastError := s.lastError
  lastErrorKind := s.lastErrorKind
  workspaces := workspaces

/-- The servers of a visible set, ordered by id. -/
def visibleServers (db : ServersDb) (visible : Option (Finset ServerId)) : List ProxmoxServer :=
  (db.servers.rows.filter fun s => sees visible s.id).mergeSort fun a b => decide (a.id ≤ b.id)

/-- `get_owned_vmids` on one server. -/
def getOwnedVmids (db : Db) (user : User) (serverId : ServerId) : List Vmid :=
  (db.vms.rows.filter fun r =>
    decide (r.ownerId = some user.id ∧ r.serverId = serverId) && r.live).map VMInstance.vmid

/-- `vm.get('vmid') in owned`. -/
def ownedBy (owned : List Vmid) (guest : Dict) : Bool :=
  match guest.get "vmid" with
  | .number n => decide (n ∈ owned.map Int.ofNat)
  | _ => false

/-- The guests of a listing the user may see. -/
def visibleGuests (db : Db) (user : User) (serverId : ServerId) (guests : List Dict) : List Dict :=
  if canViewAllInstances user then guests
  else guests.filter (ownedBy (getOwnedVmids db user serverId))

/-- `not vm.get('template', 0)`. -/
def notTemplate (guest : Dict) : Bool := !(guest.get "template").truthy

section Endpoints

variable (db : ServersDb) (user : User) (header : Option String) (now : Time)
  (serverId : ServerId)

/-! ### Lists -/

def listProxmoxServers : ServersHandler Reply := do
  permissionChecker user "server:view"
  pure (.servers ((visibleServers db (getVisibleServerIds db.workspaces user header)).map fun s =>
    serverResponse s (attachWorkspaces db.workspaces s.id)))

/-- Every server is asked by itself; a failure is kept as the server's error. -/
def fetchAll : List ProxmoxServer → ServersHandler (List (Except String Resources))
  | [] => pure []
  | s :: rest => do
    let r ← request (R := ServersRouter) s (.getProxmoxResources none)
    let rs ← fetchAll rest
    pure (r :: rs)

/-- The statuses written while the response is put together. -/
def saveStatuses : List (ProxmoxServer × Except String Resources) → ServersHandler Unit
  | [] => pure ()
  | (s, r) :: rest => do
    match r with
    | .error e =>
      effect (R := ServersRouter) (.saveStatus (s.updateStatus now false (some e) none))
    | .ok _ => effect (R := ServersRouter) (.saveStatus (s.updateStatus now true none none))
    saveStatuses rest

/-- The entry of one server in the response. -/
def serverEntry (s : ProxmoxServer) (r : Except String Resources) : ServerResources :=
  match r with
  | .error e => ⟨s.id, s.name, s.ipAddress, some e, [], []⟩
  | .ok resources =>
    ⟨s.id, s.name, s.ipAddress, none, visibleGuests db.toDb user s.id resources.vms,
      visibleGuests db.toDb user s.id resources.containers⟩

def getAllResources : ServersHandler Reply := do
  permissionChecker user "vm:view"
  let servers := visibleServers db (getVisibleServerIds db.workspaces user header)
  let fetched ← fetchAll servers
  saveStatuses now (servers.zip fetched)
  let entries := (servers.zip fetched).map fun p => serverEntry db user p.1 p.2
  pure (.allResources entries (entries.map fun e => e.vms.length).sum
    (entries.map fun e => e.containers.length).sum)

/-! ### Adding and testing -/

/-- The row after a check. -/
def checkedRow (server : ProxmoxServer) (result : CheckResult) : ProxmoxServer :=
  if result.ok then server.updateStatus now true none none
  else server.updateStatus now false
    (if truthy result.error then result.error else some "Failed to connect") result.errorKind

/-- The first availability check of a row, which also writes its status. -/
def checkStatus (server : ProxmoxServer) : ServersHandler ProxmoxServer := do
  getProxmoxClient server
  let result ← request (R := ServersRouter) server .checkConnection
  effect (R := ServersRouter) (.saveStatus (checkedRow now server result))
  pure (checkedRow now server result)

/-- What an exception of the check writes. -/
def statusFailed (server : ProxmoxServer) (e : Exc) : ServersHandler ProxmoxServer := do
  let failed := server.updateStatus now false (some e.str) none
  effect (R := ServersRouter) (.saveStatus failed)
  pure failed

/-- The cache is refreshed at once for a server that is online. -/
def syncIfOnline (server : ProxmoxServer) : ServersHandler Unit :=
  if server.isOnline = some true then effect (R := ServersRouter) .syncVmCache else pure ()

/-- The row of a creation request. -/
def newRow (id : ServerId) (payload : ProxmoxServerCreate) (token : Option (String × String)) :
    ProxmoxServer where
  id := id
  name := payload.name
  hostname := payload.hostname
  ipAddress := payload.ipAddress
  port := payload.port
  apiUser := payload.apiUser
  apiTokenName := (token.map Prod.fst).or payload.apiTokenName
  apiTokenValue := (token.map Prod.snd).or payload.apiTokenValue
  usePassword := token.isNone && payload.usePassword
  password := payload.password
  verifySsl := payload.verifySsl
  clusterName := none
  description := payload.description
  isOnline := none
  lastCheck := none
  lastError := none
  lastErrorKind := none

/-- The token of a creation request that asks for one. -/
def newToken (payload : ProxmoxServerCreate) : ServersHandler (Option (String × String)) := do
  if payload.autoCreateToken then
    match ← effect (R := ServersRouter) (.provisionApiToken payload s!"PVEmanager ({payload.name})") with
    | .ok token => pure (some token)
    | .error e => throw (.http 400 e)
  else pure none

/-- The commit of a new row; the token of a row that is not stored is removed again. -/
def insertServer (payload : ProxmoxServerCreate) (token : Option (String × String))
    (row : ProxmoxServer) : ServersHandler Unit := do
  match ← effect (R := ServersRouter) (.insertServer row) with
  | .ok () => pure ()
  | .error e =>
    if let some (tokenName, _) := token then
      let _ ← effect (R := ServersRouter) (.revokeApiToken payload tokenName)
    throw (.other e)

def createProxmoxServer (payload : ProxmoxServerCreate) : ServersHandler Reply := do
  permissionChecker user "server:create"
  Proc.ensure (!db.servers.rows.any fun s => decide (s.name = payload.name))
    (.http 400 s!"Server with name '{payload.name}' already exists")
  let token ← newToken payload
  let row := newRow db.nextServerId payload token
  insertServer payload token row
  let server ← tryCatch (checkStatus now row) (statusFailed now row)
  syncIfOnline server
  effect (R := ServersRouter) (.broadcast "server_added" server.id server.name server.isOnline)
  pure (.server (serverResponse server []))

def testProxmoxCredentials (payload : ProxmoxServerCreate) : ServersHandler Reply := do
  permissionChecker user "server:view"
  match ← effect (R := ServersRouter) (.testCredentials payload) with
  | .ok true => pure (.tested true "Connection successful")
  | .ok false => pure (.tested false "Failed to connect to Proxmox server")
  | .error e => pure (.tested false e)

/-! ### One server -/

def getProxmoxServer : ServersHandler Reply := do
  permissionChecker user "server:view"
  let server ← resolveServer db.toDb serverId "Proxmox server not found"
  pure (.server (serverResponse server (attachWorkspaces db.workspaces server.id)))

/-- What the client of the server tells about its cluster. -/
def clusterInfo (server : ProxmoxServer) : ServersHandler Reply := do
  getProxmoxClient server
  let connected ← isConnected server
  if connected then
    let isCluster ← request (R := ServersRouter) server .isCluster
    let nodes ← request (R := ServersRouter) server .getNodes
    let names := (nodes.filterMap NodeEntry.node).filter fun n => decide (n ≠ "")
    pure (.clusterInfo serverId server.name isCluster
      (if names.isEmpty then [server.hostname] else names))
  else pure (.clusterError serverId server.name "Cannot connect to server")

def getServerClusterInfo : ServersHandler Reply := do
  permissionChecker user "server:view"
  let server ← resolveServer db.toDb serverId "Proxmox server not found"
  tryCatch (clusterInfo serverId server) fun e =>
    pure (.clusterError serverId server.name e.str)

/-- The check after new connection settings. -/
def recheck (server : ProxmoxServer) : ServersHandler ProxmoxServer :=
  tryCatch (do
    let checked ← checkStatus now server
    syncIfOnline checked
    pure checked) (statusFailed now server)

/-- The commit of the sent fields and what follows it. -/
def storeUpdate (server : ProxmoxServer) (updateData : ProxmoxServerUpdate) :
    ServersHandler Reply := do
  match updateData.apply server with
  | none => throw (.other "null value violates not-null constraint")
  | some row =>
    orRaise (effect (R := ServersRouter) (.updateServer row))
    let checked ← if updateData.setsConnection then recheck now row else pure row
    effect (R := ServersRouter) (.broadcast "server_updated" checked.id checked.name checked.isOnline)
    pure (.server (serverResponse checked []))

def updateProxmoxServer (serverData : ProxmoxServerUpdate) : ServersHandler Reply := do
  permissionChecker user "server:update"
  let server ← resolveServer db.toDb serverId "Proxmox server not found"
  let updateData := serverData.dropBlank
  if updateData.setsCredentials then
    effect (R := ServersRouter) (.clearServerCache server.ipAddress)
  storeUpdate now server updateData

def deleteProxmoxServer : ServersHandler Reply := do
  permissionChecker user "server:delete"
  let server ← resolveServer db.toDb serverId "Proxmox server not found"
  effect (R := ServersRouter) (.clearServerCache server.ipAddress)
  effect (R := ServersRouter) (.deleteServer serverId user.username)
  effect (R := ServersRouter) (.cleanupServerState serverId)
  effect (R := ServersRouter) (.broadcast "server_deleted" serverId server.name none)
  pure .deleted

def provisionServerToken : ServersHandler Reply := do
  permissionChecker user "server:update"
  let server ← resolveServer db.toDb serverId "Proxmox server not found"
  Proc.ensure (truthy server.password)
    (.http 400 "Server has no stored password — re-add it with credentials to create a token")
  match ← request (R := ServersRouter) server (.provisionApiToken s!"PVEmanager ({server.name})") with
  | .error e => throw (.http 400 e)
  | .ok (tokenName, tokenValue) =>
    let row := { server with
      apiTokenName := some tokenName
      apiTokenValue := some tokenValue
      usePassword := false }
    match ← effect (R := ServersRouter) (.updateServer row) with
    | .error e =>
      let _ ← request (R := ServersRouter) server (.revokeApiToken tokenName)
      throw (.other e)
    | .ok () =>
      effect (R := ServersRouter) (.clearServerCache server.ipAddress)
      pure (.provisioned tokenName)

/-- The connection test of a registered server, which also writes its status. -/
def testConnection (server : ProxmoxServer) : ServersHandler Reply := do
  getProxmoxClient server
  let connected ← isConnected server
  if connected then
    effect (R := ServersRouter) (.saveStatus (server.updateStatus now true none none))
    pure (.tested true "Connection successful")
  else
    effect (R := ServersRouter)
      (.saveStatus (server.updateStatus now false (some "Failed to connect") none))
    pure (.tested false "Failed to connect to Proxmox server")

def testProxmoxConnection : ServersHandler Reply := do
  permissionChecker user "server:view"
  let server ← resolveServer db.toDb serverId "Proxmox server not found"
  tryCatch (testConnection now server) fun e => do
    let _ ← statusFailed now server e
    pure (.tested false e.str)

/-- The node a server stands for: its hostname, unless that is its address. -/
def nodeFilter (server : ProxmoxServer) : Option String :=
  if server.hostname ≠ "" ∧ server.hostname ≠ server.ipAddress then some server.hostname else none

/-- The uptime of the server's node, or of the first node. -/
def uptimeOf (server : ProxmoxServer) (nodes : List NodeEntry) : Option Nat :=
  let target := (nodeFilter server).or (nodes.head?.bind NodeEntry.node)
  let found := (nodes.find? fun n => truthy target && decide (n.node = target)).bind NodeEntry.uptime
  found.or (nodes.head?.bind NodeEntry.uptime)

/-- The uptime, through a second client; failures are ignored. -/
def nodeUptime (server : ProxmoxServer) : ServersHandler (Option Nat) :=
  tryCatch (do
    getProxmoxClient server
    let nodes ← request (R := ServersRouter) server .getNodes
    pure (uptimeOf server nodes)) fun _ => pure none

def getServerResources : ServersHandler Reply := do
  permissionChecker user "vm:view"
  let server ← resolveServer db.toDb serverId "Proxmox server not found"
  match ← request (R := ServersRouter) server (.getProxmoxResources (nodeFilter server)) with
  | .error e =>
    effect (R := ServersRouter) (.saveStatus (server.updateStatus now false (some e) none))
    throw (.http 500 s!"Error getting resources: {e}")
  | .ok resources =>
    let uptime ← nodeUptime server
    effect (R := ServersRouter) (.saveStatus (server.updateStatus now true none none))
    pure (.resources serverId server.name
      (visibleGuests db.toDb user serverId (resources.vms.filter notTemplate))
      (visibleGuests db.toDb user serverId (resources.containers.filter notTemplate)) uptime)

/-! ### The node of a server -/

/-- The common part of the endpoints that ask the server's client and answer with the result. -/
def callNode (op : ServerOp) (reply : op.Answer → ServersHandler Reply) : ServersHandler Reply := do
  let server ← resolveServer db.toDb serverId "Proxmox server not found"
  orServerError do
    getClientOr503 server "Failed to connect to Proxmox server"
    let result ← request (R := ServersRouter) server op
    reply result

/-- Active storages first, then by name. -/
def storageLe (a b : StorageEntry) : Bool :=
  if a.active = b.active then decide (a.storage ≤ b.storage) else a.active

/-- The storages with the wanted content, if one was asked for. -/
def withContent (contentType : Option String) (storages : List StorageEntry) : List StorageEntry :=
  if truthy contentType then
    storages.filter fun s => decide (contentType.getD "" ∈ s.content.splitOn ",")
  else storages

def getStorages (node : String) (contentType : Option String) : ServersHandler Reply := do
  permissionChecker user "server:view"
  callNode db serverId (.getNodeStorages node) fun storages =>
    pure (.storages ((withContent contentType storages).mergeSort storageLe))

def getNodeStatus (node : String) : ServersHandler Reply := do
  permissionChecker user "vm:view"
  callNode db serverId (.getNodeStatus node) fun status =>
    match status with
    | none | some [] => throw (.http 404 "Node status not found")
    | some data => pure (.content data)

def getNodeRrddata (node timeframe : String) : ServersHandler Reply := do
  permissionChecker user "vm:view"
  callNode db serverId (.getNodeRrddata node timeframe) fun data => pure (.content data)

end Endpoints

/-- The sent fields never change the id or the recorded cluster. -/
theorem ProxmoxServerUpdate.id_of_apply {data : ProxmoxServerUpdate} {server row : ProxmoxServer}
    (h : data.apply server = some row) :
    row.id = server.id ∧ row.clusterName = server.clusterName := by
  simp only [apply, Option.bind_eq_bind, Option.bind_eq_some_iff, Option.pure_def,
    Option.some.injEq] at h
  obtain ⟨_, _, _, _, _, _, _, _, _, _, _, _, _, _, rfl⟩ := h
  exact ⟨rfl, rfl⟩

private theorem required_of {α : Type} {new : Option (Option α)} {old v : α}
    (h : required new old = some v) (old' : α) : ∃ v', required new old' = some v' := by
  cases new with
  | none => exact ⟨old', rfl⟩
  | some x => exact ⟨v, h⟩

/-- Whether a null is refused does not depend on the row. -/
theorem ProxmoxServerUpdate.apply_of_apply {data : ProxmoxServerUpdate}
    {server row : ProxmoxServer} (h : data.apply server = some row) (server' : ProxmoxServer) :
    ∃ row', data.apply server' = some row' := by
  simp only [apply, Option.bind_eq_bind, Option.bind_eq_some_iff] at h ⊢
  obtain ⟨_, h1, _, h2, _, h3, _, h4, _, h5, _, h6, _, h7, _⟩ := h
  obtain ⟨_, h1⟩ := required_of h1 server'.name
  obtain ⟨_, h2⟩ := required_of h2 server'.hostname
  obtain ⟨_, h3⟩ := required_of h3 server'.ipAddress
  obtain ⟨_, h4⟩ := required_of h4 server'.port
  obtain ⟨_, h5⟩ := required_of h5 server'.apiUser
  obtain ⟨_, h6⟩ := required_of h6 server'.usePassword
  obtain ⟨_, h7⟩ := required_of h7 server'.verifySsl
  exact ⟨_, _, h1, _, h2, _, h3, _, h4, _, h5, _, h6, _, h7, rfl⟩

/-! ## With and without credentials -/

section Credentials

variable {now : Time} {server : ProxmoxServer}

@[simp] theorem id_checkedRow (result : CheckResult) :
    (checkedRow now server result).id = server.id := by
  unfold checkedRow
  split
  · exact ProxmoxServer.id_updateStatus ..
  · exact ProxmoxServer.id_updateStatus ..

theorem checkedRow_of_ok {result : CheckResult} (h : result.ok = true) :
    checkedRow now server result = server.updateStatus now true none none := by
  rw [checkedRow, if_pos h]

/-- The row is online exactly after a good check. -/
@[simp] theorem isOnline_checkedRow (result : CheckResult) :
    (checkedRow now server result).isOnline = some result.ok := by
  unfold checkedRow
  split
  · rename_i h
    rw [ProxmoxServer.isOnline_updateStatus, h]
  · rename_i h
    rw [ProxmoxServer.isOnline_updateStatus, Bool.eq_false_iff.mpr h]

@[simp] theorem clusterName_checkedRow (result : CheckResult) :
    (checkedRow now server result).clusterName = server.clusterName := by
  unfold checkedRow
  split
  · exact ProxmoxServer.clusterName_updateStatus ..
  · exact ProxmoxServer.clusterName_updateStatus ..

/-- The exception of a server without credentials. -/
def noCredentials (server : ProxmoxServer) : Exc :=
  .http 503 (s!"Server '{server.name}' has no valid Proxmox credentials configured " ++
    "(API token or password). Edit the server settings.")

theorem checkStatus_of (h : hasCredentials server = true) (f : Exc → ServersHandler ProxmoxServer) :
    tryCatch (checkStatus now server) f = (do
      let result ← request (R := ServersRouter) server .checkConnection
      effect (R := ServersRouter) (.saveStatus (checkedRow now server result))
      pure (checkedRow now server result)) := by
  unfold checkStatus getProxmoxClient
  rw [h]
  rfl

theorem checkStatus_of_not (h : hasCredentials server = false)
    (f : Exc → ServersHandler ProxmoxServer) :
    tryCatch (checkStatus now server) f = f (noCredentials server) := by
  unfold checkStatus getProxmoxClient
  rw [h]
  rfl

/-- The sync raises nothing. -/
theorem syncIfOnline_caught (row : ProxmoxServer) (f : Exc → ServersHandler ProxmoxServer) :
    tryCatch (do syncIfOnline row; pure row) f = (do syncIfOnline row; pure row) := by
  unfold syncIfOnline
  split
  · rfl
  · rfl

theorem recheck_of (h : hasCredentials server = true) :
    recheck now server = (do
      let result ← request (R := ServersRouter) server .checkConnection
      effect (R := ServersRouter) (.saveStatus (checkedRow now server result))
      syncIfOnline (checkedRow now server result)
      pure (checkedRow now server result)) := by
  unfold recheck checkStatus getProxmoxClient
  rw [h]
  exact congrArg (Proc.call _) (funext fun result =>
    congrArg (Proc.call _) (funext fun _ => syncIfOnline_caught _ _))

theorem recheck_of_not (h : hasCredentials server = false) :
    recheck now server = statusFailed now server (noCredentials server) := by
  unfold recheck checkStatus getProxmoxClient
  rw [h]
  rfl

/-- Adding a server checks it like an update does: a failed check is never followed by a sync. -/
theorem checkStatus_bind {α : Type} (k : ProxmoxServer → ServersHandler α) :
    (do
      let row ← tryCatch (checkStatus now server) (statusFailed now server)
      syncIfOnline row
      k row) = recheck now server >>= k := by
  cases h : hasCredentials server with
  | true =>
    rw [checkStatus_of h, recheck_of h]
    simp only [bind_assoc, pure_bind]
  | false =>
    rw [checkStatus_of_not h, recheck_of_not h]
    unfold statusFailed syncIfOnline
    simp

theorem nodeUptime_of (h : hasCredentials server = true) :
    nodeUptime server = (do
      let nodes ← request (R := ServersRouter) server .getNodes
      pure (uptimeOf server nodes)) := by
  unfold nodeUptime getProxmoxClient
  rw [h]
  rfl

theorem nodeUptime_of_not (h : hasCredentials server = false) : nodeUptime server = pure none := by
  unfold nodeUptime getProxmoxClient
  rw [h]
  rfl

end Credentials

end PveManager.Api.Servers
