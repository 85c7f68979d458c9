import Mathlib.Data.List.Sort
import PveManager.Models.Records

/-!
# Releasing the addresses of a guest

The release half of the IPAM service: by address, by guest with its legacy
fallback, and by server. The lemmas say which allocations a release can remove:
one that is recorded for the guest, or one without a server whose resource id is
the guest's number.
-/

namespace PveManager

namespace Ipam

/-- `find_allocations_by_resource`: every active allocation of the guest, main address
first and then by id; Python's `sorted` is stable, as the insertion sort is. -/
def findAllocationsByResource (ipam : Ipam) (sid : ServerId) (vmid : Vmid) :
    List IPAMAllocation :=
  (ipam.allocations.rows.filter fun a => a.keyedTo sid vmid && a.active).insertionSort
    fun a b => (a.isPrimary && !b.isPrimary) || (a.isPrimary == b.isPrimary && decide (a.id ≤ b.id))

/-- Rows of the fallback search: no server recorded, resource id equal to the number. -/
def legacyFor (a : IPAMAllocation) (vmid : Vmid) : Bool :=
  decide (a.resourceId = some vmid ∧ a.proxmoxServerId = none) && a.active

/-- `_log_history` for a release. -/
def releasedEntry (a : IPAMAllocation) (releasedBy : Option String) (reason : Option String) :
    IPAMHistory where
  ipAddress := a.ipAddress
  networkId := a.networkId
  action := "released"
  oldResourceType := a.resourceType
  oldResourceName := a.resourceName
  oldStatus := some a.status
  oldProxmoxVmid := a.proxmoxVmid
  resourceType := a.resourceType
  resourceId := a.resourceId
  resourceName := a.resourceName
  performedBy := if truthy releasedBy then releasedBy.getD "" else "system"
  notes := reason

/-- `release_ip`: log and delete the allocation of the address, or report that there is none. -/
def releaseIp (ipam : Ipam) (ip : String) (releasedBy reason : Option String) :
    Ipam × Except String Unit :=
  match ipam.allocations.find? ip with
  | none => (ipam, .error s!"IP {ip} is not allocated")
  | some a =>
    ({ allocations := ipam.allocations.erase ip
       history := ipam.history ++ [releasedEntry a releasedBy reason] }, .ok ())

/-- The allocations a release by guest works on, with the legacy fallback. -/
def releaseTargets (ipam : Ipam) (sid : ServerId) (vmid : Vmid) : List IPAMAllocation :=
  match ipam.findAllocationsByResource sid vmid with
  | [] => ipam.allocations.rows.filter fun a => legacyFor a vmid
  | targets => targets

/-- The release loop, collecting the released addresses and the errors. -/
def releaseLoop (releasedBy reason : Option String) :
    List IPAMAllocation → Ipam → List String → List String → Ipam × List String × List String
  | [], ipam, released, errors => (ipam, released, errors)
  | a :: rest, ipam, released, errors =>
    match ipam.releaseIp a.ipAddress releasedBy reason with
    | (ipam', .ok ()) => releaseLoop releasedBy reason rest ipam' (released ++ [a.ipAddress]) errors
    | (ipam', .error e) => releaseLoop releasedBy reason rest ipam' released (errors ++ [e])

/-- `release_ip_by_vmid`: the new tables, whether something was released, and the text. -/
def releaseIpByVmid (ipam : Ipam) (sid : ServerId) (vmid : Vmid)
    (releasedBy reason : Option String) : Ipam × Bool × Option String :=
  match ipam.releaseTargets sid vmid with
  | [] => (ipam, false, none)
  | targets =>
    match releaseLoop releasedBy reason targets ipam [] [] with
    | (ipam', [], []) => (ipam', false, none)
    | (ipam', [], errors) => (ipam', false, some ("; ".intercalate errors))
    | (ipam', released, _) => (ipam', true, some (", ".intercalate released))

/-- `release_all_by_server`: every active allocation of the server goes. -/
def releaseAllByServer (ipam : Ipam) (sid : ServerId) (releasedBy : Option String) :
    Ipam × Nat :=
  let targets := ipam.allocations.rows.filter fun a =>
    decide (a.proxmoxServerId = some sid) && a.active
  ({ allocations := ipam.allocations.filter fun a =>
       !(decide (a.proxmoxServerId = some sid) && a.active)
     history := ipam.history ++ targets.map fun a =>
       { releasedEntry a releasedBy (some s!"Proxmox server {sid} deleted") with
         oldStatus := none } },
   targets.length)

/-! ## What a release removes -/

/-- An allocation survives a release by address exactly when it has another address. -/
theorem mem_releaseIp (ipam : Ipam) (ip : String) (releasedBy reason : Option String)
    (a : IPAMAllocation) :
    a ∈ (ipam.releaseIp ip releasedBy reason).1.allocations.rows ↔
      a ∈ ipam.allocations.rows ∧ a.ipAddress ≠ ip := by
  unfold releaseIp
  cases hf : ipam.allocations.find? ip with
  | none =>
    have hn := ipam.allocations.find?_eq_none_iff.mp hf
    exact ⟨fun h => ⟨h, hn a h⟩, fun h => h.1⟩
  | some b => exact ipam.allocations.mem_rows_erase ip a

/-- The release loop removes exactly the addresses it was given. -/
theorem mem_releaseLoop (releasedBy reason : Option String) (targets : List IPAMAllocation)
    (ipam : Ipam) (released errors : List String) (a : IPAMAllocation) :
    a ∈ (releaseLoop releasedBy reason targets ipam released errors).1.allocations.rows ↔
      a ∈ ipam.allocations.rows ∧ a.ipAddress ∉ targets.map IPAMAllocation.ipAddress := by
  induction targets generalizing ipam released errors with
  | nil => simp [releaseLoop]
  | cons t rest ih =>
    have hstep := mem_releaseIp ipam t.ipAddress releasedBy reason a
    unfold releaseLoop
    cases hr : ipam.releaseIp t.ipAddress releasedBy reason with
    | mk ipam' result =>
      rw [hr] at hstep
      cases result with
      | ok u =>
        rw [ih, hstep]
        simp only [List.map_cons, List.mem_cons, not_or]
        tauto
      | error e =>
        rw [ih, hstep]
        simp only [List.map_cons, List.mem_cons, not_or]
        tauto

theorem mem_findAllocationsByResource (ipam : Ipam) (sid : ServerId) (vmid : Vmid)
    (a : IPAMAllocation) :
    a ∈ ipam.findAllocationsByResource sid vmid ↔
      a ∈ ipam.allocations.rows ∧ a.keyedTo sid vmid = true ∧ a.active = true := by
  rw [findAllocationsByResource, List.mem_insertionSort, List.mem_filter, Bool.and_eq_true]

/-- A target of a release by guest is stored, and recorded for the guest or a legacy row of
its number. -/
theorem mem_releaseTargets {ipam : Ipam} {sid : ServerId} {vmid : Vmid} {a : IPAMAllocation}
    (h : a ∈ ipam.releaseTargets sid vmid) :
    a ∈ ipam.allocations.rows ∧
      (a.keyedTo sid vmid = true ∧ a.active = true ∨ legacyFor a vmid = true) := by
  unfold releaseTargets at h
  split at h
  · exact ⟨(List.mem_filter.mp h).1, Or.inr (List.mem_filter.mp h).2⟩
  · have hm := (mem_findAllocationsByResource ipam sid vmid a).mp h
    exact ⟨hm.1, Or.inl hm.2⟩

/-- The tables after a release by guest are the loop's, also where there is no target. -/
theorem releaseIpByVmid_fst (ipam : Ipam) (sid : ServerId) (vmid : Vmid)
    (releasedBy reason : Option String) :
    (ipam.releaseIpByVmid sid vmid releasedBy reason).1 =
      (releaseLoop releasedBy reason (ipam.releaseTargets sid vmid) ipam [] []).1 := by
  unfold releaseIpByVmid
  split
  · rename_i h
    rw [h]
    rfl
  · split
    · rename_i h
      rw [h]
    · rename_i h
      rw [h]
    · rename_i h
      rw [h]

/-- Exactly the targets of the guest go in a release by guest. -/
theorem mem_releaseIpByVmid (ipam : Ipam) (sid : ServerId) (vmid : Vmid)
    (releasedBy reason : Option String) (a : IPAMAllocation) :
    a ∈ (ipam.releaseIpByVmid sid vmid releasedBy reason).1.allocations.rows ↔
      a ∈ ipam.allocations.rows ∧ a ∉ ipam.releaseTargets sid vmid := by
  rw [releaseIpByVmid_fst, mem_releaseLoop]
  constructor
  · rintro ⟨hm, hn⟩
    exact ⟨hm, fun ht => hn (List.mem_map_of_mem ht)⟩
  · rintro ⟨hm, hn⟩
    refine ⟨hm, fun ht => ?_⟩
    obtain ⟨b, hb, he⟩ := List.mem_map.mp ht
    have hab : b = a := ipam.allocations.eq_of_key_eq (mem_releaseTargets hb).1 hm he
    exact hn (hab ▸ hb)

/-- Releasing all of a server leaves the allocations of the other servers. -/
theorem mem_releaseAllByServer (ipam : Ipam) (sid : ServerId) (releasedBy : Option String)
    (a : IPAMAllocation) :
    a ∈ (ipam.releaseAllByServer sid releasedBy).1.allocations.rows ↔
      a ∈ ipam.allocations.rows ∧ ¬(a.proxmoxServerId = some sid ∧ a.active = true) := by
  simp only [releaseAllByServer, Core.KeyedTable.rows_filter, List.mem_filter, Bool.not_eq_true',
    ← Bool.not_eq_true, Bool.and_eq_true, decide_eq_true_eq]

end Ipam

end PveManager
