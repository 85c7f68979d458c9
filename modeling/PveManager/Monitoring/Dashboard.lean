import Mathlib.Algebra.GroupWithZero.Nat
import PveManager.Core.KeyedTable
import PveManager.Core.Watcher
import PveManager.Models.Records

/-!
# Listings and the dashboard totals

A client lists the guests of every node its session names, so each member of a
Proxmox cluster lists the whole cluster. The dashboard asks every registered
server, falls back to the server's last listing where the new one is empty, and
adds the lengths up.
-/

namespace PveManager.Monitoring

open PveManager.Core

/-- One entry of a node's listing. -/
structure GuestEntry where
  vmid : Vmid
  name : String
  status : String
  /-- How often the guest's status has changed so far. No code reads it. -/
  changes : Nat
  deriving DecidableEq, Repr

/-- An entry with the node and the kind the client writes into it. -/
structure Listed extends GuestEntry where
  node : String
  type : VmType
  deriving DecidableEq, Repr

/-- What an open session answers; `none` is a failed request. -/
structure Session where
  nodes : Option (List String)
  qemu : String → Option (List GuestEntry)
  lxc : String → Option (List GuestEntry)

namespace Session

/-- `get_nodes`. -/
def getNodes (s : Session) : List String := s.nodes.getD []

/-- The listings of all nodes; a node that fails is left out. -/
def listAll (s : Session) (type : VmType) (ask : String → Option (List GuestEntry)) :
    List Listed :=
  s.getNodes.flatMap fun node => ((ask node).getD []).map fun entry => ⟨entry, node, type⟩

end Session

/-- `get_vms`; the client has no session where the connection failed. -/
def getVms : Option Session → List Listed
  | none => []
  | some s => s.listAll .qemu s.qemu

/-- `get_containers`. -/
def getContainers : Option Session → List Listed
  | none => []
  | some s => s.listAll .lxc s.lxc

/-- Both listings of a server. -/
structure Guests where
  vms : List Listed
  containers : List Listed
  deriving DecidableEq, Repr

/-- `get_all_resources` of the client. -/
def getAllResources (client : Option Session) : Guests := ⟨getVms client, getContainers client⟩

/-- The entry of a server in the dashboard's payload. -/
structure ServerPayload where
  id : ServerId
  name : String
  ip : String
  guests : Guests
  vmsCount : Nat
  containersCount : Nat
  deriving DecidableEq, Repr

/-- The payload of the channel `dashboard_metrics`. -/
structure DashboardPayload where
  servers : List ServerPayload
  totalVms : Nat
  totalContainers : Nat
  deriving DecidableEq, Repr

/-- `base[key]`, or the remembered value where it is empty. -/
def orLast (base last : List Listed) : List Listed := if base ≠ [] then base else last

/-- `_merge_server_cache`: the guests shown, which are remembered as well. -/
def mergeServerCache (last base : Guests) : Guests :=
  ⟨orLast base.vms last.vms, orLast base.containers last.containers⟩

/-- Whether building the client raised, else the client's session if it has one. -/
abbrev Client := Option (Option Session)

/-- What `_fetch_server_resources_with_nodes` lists before it merges. -/
def fetchedGuests : Client → Guests
  | none => ⟨[], []⟩
  | some session => getAllResources session

/-- `_server_last_good`. -/
abbrev LastGood := ServerId → Guests

/-- One round of `dashboard_metrics_loop`: the registered servers and their clients. -/
structure DashboardRound where
  servers : KeyedTable ProxmoxServer.id
  client : ServerId → Client

namespace DashboardRound

variable (r : DashboardRound) (last : LastGood)

/-- The guests a server is shown with. -/
def shown (id : ServerId) : Guests := mergeServerCache (last id) (fetchedGuests (r.client id))

/-- `_fetch_server_resources_with_nodes`. -/
def fetchServerResources (s : ProxmoxServer) : ServerPayload where
  id := s.id
  name := s.name
  ip := s.ipAddress
  guests := r.shown last s.id
  vmsCount := (r.shown last s.id).vms.length
  containersCount := (r.shown last s.id).containers.length

/-- The payload of the round. -/
def payload : DashboardPayload :=
  let results := r.servers.rows.map (r.fetchServerResources last)
  ⟨results, (results.map ServerPayload.vmsCount).sum,
    (results.map ServerPayload.containersCount).sum⟩

/-- The listings remembered after the round. -/
def remember : LastGood := fun id =>
  if (r.servers.find? id).isSome then r.shown last id else last id

/-- The guests of one kind the totals count, each with the server it is shown under. -/
def counted (kind : Guests → List Listed) : List (ServerId × Vmid) :=
  r.servers.rows.flatMap fun s => (kind (r.shown last s.id)).map fun g => (s.id, g.vmid)

variable {r last}

theorem totalVms_payload :
    (r.payload last).totalVms = (r.counted last Guests.vms).length := by
  simp [payload, counted, fetchServerResources, List.length_flatMap, Function.comp_def]

theorem totalContainers_payload :
    (r.payload last).totalContainers = (r.counted last Guests.containers).length := by
  simp [payload, counted, fetchServerResources, List.length_flatMap, Function.comp_def]

end DashboardRound

end PveManager.Monitoring
