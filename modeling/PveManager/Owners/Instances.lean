import PveManager.Api.Access
import PveManager.Ipam.Release

/-!
# Writing the rows of guests

The three writes of the request handlers to `vm_instances`: saving a guest after
it was created, deleting a guest, and giving it to somebody. Each comes with the
row that every key has afterwards.
-/

namespace PveManager.Owners

open PveManager.Core PveManager.Api

/-- One guest over its lifetime; a number that is used again stands for another guest. -/
abbrev GuestId := Nat

/-- The arguments of `save_vm_instance`. -/
structure SaveArgs where
  serverId : ServerId
  vmid : Vmid
  node : String
  vmType : VmType
  name : String
  cores : Option Nat := none
  memory : Option Nat := none
  diskSize : Option Nat := none
  ipAddress : Option String := none
  ipPrefix : Option Nat := some 24
  gateway : Option String := none
  nameserver : Option String := none
  cloudInitUser : Option String := none
  cloudInitPassword : Option String := none
  sshKeys : Option String := none
  templateId : Option Nat := none
  templateName : Option String := none
  description : Option String := none
  extraConfig : Option String := none
  ownerId : Option UserId := none

/-- The key of the row that is written. -/
def SaveArgs.key (args : SaveArgs) : ServerId × Vmid := (args.serverId, args.vmid)

/-- The update of an existing row; the owner is written only when one is given. -/
def SaveArgs.update (args : SaveArgs) (row : VMInstance) : VMInstance :=
  { row with
    node := args.node
    vmType := args.vmType
    name := args.name
    cores := args.cores
    memory := args.memory
    diskSize := args.diskSize
    ipAddress := args.ipAddress
    ipPrefix := args.ipPrefix
    gateway := args.gateway
    nameserver := args.nameserver
    cloudInitUser := args.cloudInitUser
    cloudInitPassword := args.cloudInitPassword
    sshKeys := args.sshKeys
    templateId := args.templateId
    templateName := args.templateName
    description := args.description
    extraConfig := args.extraConfig
    ownerId := args.ownerId.or row.ownerId }

/-- A row for a guest that has none. -/
def SaveArgs.create (args : SaveArgs) : VMInstance where
  serverId := args.serverId
  vmid := args.vmid
  node := args.node
  vmType := args.vmType
  name := args.name
  ownerId := args.ownerId
  status := "unknown"
  isTemplate := false
  cores := args.cores
  memory := args.memory
  diskSize := args.diskSize
  osType := none
  ipAddress := args.ipAddress
  ipPrefix := args.ipPrefix
  gateway := args.gateway
  nameserver := args.nameserver
  cloudInitUser := args.cloudInitUser
  cloudInitPassword := args.cloudInitPassword
  sshKeys := args.sshKeys
  templateId := args.templateId
  templateName := args.templateName
  description := args.description
  deletedAt := none
  lastSyncAt := none
  extraConfig := args.extraConfig

/-- The row that is written: a live row is updated, a deleted one updated and restored. -/
def SaveArgs.row (args : SaveArgs) : Option VMInstance → VMInstance
  | some row =>
    if row.live then args.update row
    else { args.update row with status := "unknown", deletedAt := none }
  | none => args.create

/-- `save_vm_instance`. -/
def saveVmInstance (db : Db) (args : SaveArgs) : Db :=
  { db with vms := db.vms.save (args.row (db.vms.find? args.key)) }

/-- `soft_delete_vm_instance`. -/
def softDeleteVmInstance (now : Time) (db : Db) (sid : ServerId) (vmid : Vmid) : Db :=
  match getVmInstance db sid vmid with
  | none => db
  | some row =>
    { db with
      vms := db.vms.save { row with deletedAt := some now }
      ipam := (db.ipam.releaseIpByVmid sid vmid (some "system")
        (some "VM/Container soft deleted")).1 }

/-- The row `set_vm_owner` writes; `newKeys` is what `_collect_owner_ssh_keys` returns for the
new owner. -/
def reassigned (row : VMInstance) (userId : Option UserId) (newKeys : String) : VMInstance :=
  { row with
    sshKeys := if row.ownerId = userId then row.sshKeys
      else if newKeys = "" then none else some newKeys
    ownerId := userId }

/-- Give the guest to a user, or to nobody; a guest without a live row is not found. -/
def assignOwner (db : Db) (sid : ServerId) (vmid : Vmid) (userId : Option UserId)
    (newKeys : String) : Db :=
  match getVmInstance db sid vmid with
  | none => db
  | some row => { db with vms := db.vms.save (reassigned row userId newKeys) }

/-! ### The rows afterwards -/

variable {db : Db} {args : SaveArgs}

/-- The row of the live guest. -/
theorem getVmInstance_eq_some_iff {sid : ServerId} {vmid : Vmid} {row : VMInstance} :
    getVmInstance db sid vmid = some row ↔
      db.vms.find? (sid, vmid) = some row ∧ row.live = true :=
  Option.filter_eq_some_iff

theorem row_of_live {row : VMInstance} (h : row.live = true) :
    args.row (some row) = args.update row := if_pos h

theorem row_of_not_live {row : VMInstance} (h : ¬row.live = true) :
    args.row (some row) = { args.update row with status := "unknown", deletedAt := none } :=
  if_neg h

/-- The owner of an existing row stays unless one is given. -/
@[simp] theorem ownerId_row (o : Option VMInstance) :
    (args.row o).ownerId = args.ownerId.or (o.bind VMInstance.ownerId) := by
  cases o with
  | none => exact (Option.or_none (o := args.ownerId)).symm
  | some row =>
    by_cases h : row.live = true
    · rw [row_of_live h]
      rfl
    · rw [row_of_not_live h]
      rfl

@[simp] theorem live_row (o : Option VMInstance) : (args.row o).live = true := by
  cases o with
  | none => rfl
  | some row =>
    by_cases h : row.live = true
    · rw [row_of_live h]
      exact h
    · rw [row_of_not_live h]
      rfl

theorem key_row (o : Option VMInstance) (h : ∀ row ∈ o, row.key = args.key) :
    (args.row o).key = args.key := by
  cases o with
  | none => rfl
  | some row =>
    have hrow : (args.row (some row)).key = row.key := by
      by_cases h : row.live = true
      · rw [row_of_live h]
        rfl
      · rw [row_of_not_live h]
        rfl
    exact hrow.trans (h row rfl)

/-- A save writes the row of its own key. -/
theorem find?_saveVmInstance (db : Db) (args : SaveArgs) (k : ServerId × Vmid) :
    (saveVmInstance db args).vms.find? k =
      if args.key = k then some (args.row (db.vms.find? args.key)) else db.vms.find? k := by
  have hkey : (args.row (db.vms.find? args.key)).key = args.key :=
    key_row _ fun row hrow => db.vms.key_of_find? hrow
  change (db.vms.save _).find? k = _
  rw [KeyedTable.find?_save, hkey]

/-- Rewriting the live row of a guest, where it has one. -/
private theorem find?_rewriteLive (db : Db) (sid : ServerId) (vmid : Vmid)
    {f : VMInstance → VMInstance} (hf : ∀ row, (f row).key = row.key) (k : ServerId × Vmid) :
    (match getVmInstance db sid vmid with
      | none => db.vms
      | some row => db.vms.save (f row)).find? k =
      (db.vms.find? k).map fun row =>
        if (sid, vmid) = k ∧ row.live = true then f row else row := by
  cases hg : getVmInstance db sid vmid with
  | none =>
    cases hfind : db.vms.find? k with
    | none => rfl
    | some row =>
      have hnot : ¬((sid, vmid) = k ∧ row.live = true) := by
        rintro ⟨rfl, hlive⟩
        rw [getVmInstance_eq_some_iff.mpr ⟨hfind, hlive⟩] at hg
        cases hg
      rw [Option.map_some, if_neg hnot]
  | some row =>
    obtain ⟨hfind, hlive⟩ := getVmInstance_eq_some_iff.mp hg
    rw [KeyedTable.find?_save, hf, db.vms.key_of_find? hfind]
    by_cases hk : (sid, vmid) = k
    · rw [if_pos hk, ← hk, hfind, Option.map_some, if_pos ⟨rfl, hlive⟩]
    · simp [hk]

/-- A deletion marks the live row of its guest. -/
theorem find?_softDeleteVmInstance (now : Time) (db : Db) (sid : ServerId) (vmid : Vmid)
    (k : ServerId × Vmid) :
    (softDeleteVmInstance now db sid vmid).vms.find? k = (db.vms.find? k).map fun row =>
      if (sid, vmid) = k ∧ row.live = true then { row with deletedAt := some now } else row := by
  have h := find?_rewriteLive db sid vmid (f := fun row => { row with deletedAt := some now })
    (fun _ => rfl) k
  unfold softDeleteVmInstance
  cases hg : getVmInstance db sid vmid with
  | none =>
    rw [hg] at h
    exact h
  | some row =>
    rw [hg] at h
    exact h

/-- An assignment rewrites the live row of its guest. -/
theorem find?_assignOwner (db : Db) (sid : ServerId) (vmid : Vmid) (userId : Option UserId)
    (newKeys : String) (k : ServerId × Vmid) :
    (assignOwner db sid vmid userId newKeys).vms.find? k = (db.vms.find? k).map fun row =>
      if (sid, vmid) = k ∧ row.live = true then reassigned row userId newKeys else row := by
  have h := find?_rewriteLive db sid vmid (f := fun row => reassigned row userId newKeys)
    (fun _ => rfl) k
  unfold assignOwner
  cases hg : getVmInstance db sid vmid with
  | none =>
    rw [hg] at h
    exact h
  | some row =>
    rw [hg] at h
    exact h

end PveManager.Owners
