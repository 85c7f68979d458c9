import PveManager.Ipam.Release

/-!
# Removing a registered server

The database half of `delete_proxmox_server`: the addresses recorded for the
server are released, its cached guests are deleted for good, not soft-deleted,
and the server row goes.
-/

namespace PveManager.Servers

open PveManager.Core

/-- The tables after a server is removed. -/
def deleteServerRecords (db : Db) (sid : ServerId) (username : String) : Db where
  servers := db.servers.erase sid
  vms := db.vms.filter fun r => r.serverId ≠ sid
  ipam := (db.ipam.releaseAllByServer sid (some username)).1

/-- The rows of the other servers stay. -/
theorem find?_deleteServerRecords_of_ne (db : Db) {sid : ServerId} (username : String)
    {k : ServerId × Vmid} (h : k.1 ≠ sid) :
    (deleteServerRecords db sid username).vms.find? k = db.vms.find? k := by
  rw [deleteServerRecords, KeyedTable.find?_filter]
  cases hf : db.vms.find? k with
  | none => rfl
  | some r =>
    have hk : r.serverId = k.1 := congrArg Prod.fst (db.vms.key_of_find? hf)
    simp [Option.filter, hk, h]

/-- No row of the removed server is left. -/
theorem find?_deleteServerRecords_self (db : Db) (sid : ServerId) (username : String)
    (vmid : Vmid) : (deleteServerRecords db sid username).vms.find? (sid, vmid) = none := by
  rw [deleteServerRecords, KeyedTable.find?_filter]
  cases hf : db.vms.find? (sid, vmid) with
  | none => rfl
  | some r =>
    have hk : r.serverId = sid := congrArg Prod.fst (db.vms.key_of_find? hf)
    simp [Option.filter, hk]

/-- The addresses of the other servers' guests stay. -/
theorem mem_deleteServerRecords_of_keyedTo {db : Db} {sid sid' : ServerId} {username : String}
    {vmid : Vmid} {a : IPAMAllocation} (h : sid' ≠ sid) (hk : a.keyedTo sid' vmid = true) :
    a ∈ (deleteServerRecords db sid username).ipam.allocations.rows ↔
      a ∈ db.ipam.allocations.rows := by
  rw [deleteServerRecords, Ipam.mem_releaseAllByServer]
  simp only [IPAMAllocation.keyedTo, decide_eq_true_eq] at hk
  constructor
  · exact fun hm => hm.1
  · refine fun hm => ⟨hm, fun hs => h ?_⟩
    exact Option.some.inj (hk.1.symm.trans hs.1)

end PveManager.Servers
