import Mathlib.Data.Fintype.EquivFin
import PveManager.Api.Access
import PveManager.Ipam.Readers

/-!
# The addresses of the guest list

The list of all guests looks the addresses up in two maps built from the active
rows of the table. Rows with a server and a number are kept under both; the
other ones under their resource id alone, where every guest of that number on
every server finds them.
-/

namespace PveManager.Ipam

open PveManager.Core PveManager.Api

/-! ### The maps -/

/-- `ipam_by_vmid` and `ipam_all_by_vmid`. -/
structure GuestLookups where
  byVmid : Option ServerId × Nat → Option IPAMAllocation
  allByVmid : ServerId × Vmid → List IPAMAllocation

/-- One round of the loop over the active rows. -/
def GuestLookups.add (l : GuestLookups) (a : IPAMAllocation) : GuestLookups :=
  match guestKey a with
  | some (sid, vmid) =>
    { byVmid := Function.update l.byVmid (some sid, vmid) (pickMain (l.byVmid (some sid, vmid)) a)
      allByVmid := Function.update l.allByVmid (sid, vmid) (l.allByVmid (sid, vmid) ++ [a]) }
  | none =>
    match a.resourceId.filter (· ≠ 0) with
    | some id =>
      { l with byVmid := Function.update l.byVmid (none, id) ((l.byVmid (none, id)).or (some a)) }
    | none => l

/-- The maps after the loop. -/
def guestLookups (ipam : Ipam) : GuestLookups :=
  (ipam.allocations.rows.filter IPAMAllocation.active).foldl GuestLookups.add
    ⟨fun _ => none, fun _ => []⟩

/-! ### The response -/

/-- An element of `ips`. -/
structure IpEntry where
  ip : String
  isPrimary : Bool
  assignmentKind : String
  targetInterface : Option String
  applyStatus : Option String

def ipEntry (a : IPAMAllocation) : IpEntry where
  ip := a.ipAddress
  isPrimary := a.isPrimary
  assignmentKind := a.assignmentKind
  targetInterface := a.targetInterface
  applyStatus := a.applyStatus

/-- The fields of a listed guest that are read from the table of addresses. -/
structure GuestEntry where
  serverId : ServerId
  vmid : Vmid
  ip : String
  ips : List IpEntry
  /-- The recorded name; without one the list makes one up from the number. -/
  hostname : Option String
  owner : Option String
  networkName : String

/-- The guest an entry is about. -/
def GuestEntry.key (e : GuestEntry) : ServerId × Vmid := (e.serverId, e.vmid)

/-- The element of the response for a cached row. -/
def guestEntry (networks : List IPAMNetwork) (ipam : Ipam) (vm : VMInstance) : GuestEntry :=
  let l := guestLookups ipam
  let alloc := (l.byVmid (some vm.serverId, vm.vmid)).or (l.byVmid (none, vm.vmid))
  { serverId := vm.serverId
    vmid := vm.vmid
    ip := (alloc.map IPAMAllocation.ipAddress).getD (vm.ipAddress.getD "")
    ips := ((l.allByVmid (vm.serverId, vm.vmid)).insertionSort fun a b =>
      (a.isPrimary && !b.isPrimary) || (a.isPrimary == b.isPrimary && decide (a.id ≤ b.id))).map
        ipEntry
    hostname := alloc.elim (some "") IPAMAllocation.hostname
    owner := alloc.elim (some "") IPAMAllocation.allocatedBy
    networkName := ((alloc.bind fun a => networks.find? fun n => decide (n.id = a.networkId)).map
      IPAMNetwork.name).getD "" }

/-- The state a request for the list reads. -/
structure GuestListing where
  vms : KeyedTable VMInstance.key
  ipam : Ipam
  ids_unique : ipam.IdsUnique
  networks : List IPAMNetwork
  user : User
  /-- `get_workspace_server_ids`. -/
  workspaceServerIds : Option (List ServerId)

namespace GuestListing

variable (r : GuestListing)

/-- A row that the request lists. -/
def lists (vm : VMInstance) : Bool :=
  vm.live && !vm.isTemplate && r.workspaceServerIds.all (fun ids => decide (vm.serverId ∈ ids)) &&
    (canViewAllInstances r.user || decide (vm.ownerId = some r.user.id))

/-- `get_all_virtual_machines`. -/
def getAllVirtualMachines : List GuestEntry :=
  ((r.vms.rows.filter r.lists).mergeSort fun a b => decide (a.name ≤ b.name)).map
    (guestEntry r.networks r.ipam)

end GuestListing

/-! ### What the maps say -/

section Maps

variable {ipam : Ipam} {sid : ServerId} {vmid : Vmid}

/-- An active row of something else that the list finds under a guest's number. -/
def foreignFor (a : IPAMAllocation) (vmid : Vmid) : Bool :=
  decide (vmid ≠ 0 ∧ guestKey a = none ∧ a.resourceId = some vmid) && a.active

theorem byVmid_add_some (l : GuestLookups) (a : IPAMAllocation) :
    (l.add a).byVmid (some sid, vmid) =
      if guestKey a = some (sid, vmid) then pickMain (l.byVmid (some sid, vmid)) a
      else l.byVmid (some sid, vmid) := by
  unfold GuestLookups.add
  cases hkey : guestKey a with
  | none =>
    cases a.resourceId.filter (· ≠ 0) with
    | none => rfl
    | some id =>
      have hne : (some sid, vmid) ≠ ((none : Option ServerId), id) := fun h => by cases h
      dsimp only
      rw [Function.update_of_ne hne, if_neg fun h => by cases h]
  | some own =>
    dsimp only
    by_cases h : own = (sid, vmid)
    · subst h
      rw [if_pos rfl, Function.update_self]
    · rw [if_neg fun h' => h (Option.some.inj h'), Function.update_of_ne]
      intro h'
      cases h'
      exact h rfl

theorem byVmid_add_none (l : GuestLookups) (a : IPAMAllocation) :
    (l.add a).byVmid (none, vmid) =
      if vmid ≠ 0 ∧ guestKey a = none ∧ a.resourceId = some vmid then
        (l.byVmid (none, vmid)).or (some a)
      else l.byVmid (none, vmid) := by
  unfold GuestLookups.add
  cases hkey : guestKey a with
  | some own =>
    have hne : ((none : Option ServerId), vmid) ≠ (some own.1, own.2) := fun h => by cases h
    dsimp only
    rw [Function.update_of_ne hne, if_neg fun h => by cases h.2.1]
  | none =>
    cases hid : a.resourceId.filter (· ≠ 0) with
    | none =>
      refine (if_neg ?_).symm
      rintro ⟨hvmid, -, hown⟩
      rw [hown, Option.filter_some, if_pos (decide_eq_true hvmid)] at hid
      cases hid
    | some id =>
      obtain ⟨hown, hne⟩ := Option.filter_eq_some_iff.mp hid
      by_cases h : vmid = id
      · subst h
        rw [if_pos ⟨of_decide_eq_true hne, rfl, hown⟩]
        exact Function.update_self ..
      · rw [if_neg fun h' => h (Option.some.inj (h'.2.2.symm.trans hown))]
        refine Function.update_of_ne (fun h' => ?_) _ _
        cases h'
        exact h rfl

theorem allByVmid_add (l : GuestLookups) (a : IPAMAllocation) :
    (l.add a).allByVmid (sid, vmid) =
      if guestKey a = some (sid, vmid) then l.allByVmid (sid, vmid) ++ [a]
      else l.allByVmid (sid, vmid) := by
  unfold GuestLookups.add
  cases hkey : guestKey a with
  | none => cases a.resourceId.filter (· ≠ 0) <;> rfl
  | some own =>
    dsimp only
    by_cases h : own = (sid, vmid)
    · subst h
      rw [if_pos rfl, Function.update_self]
    · rw [if_neg fun h' => h (Option.some.inj h'), Function.update_of_ne (Ne.symm h)]

/-- Under a server and a number the list finds what the cache worker finds. -/
theorem byVmid_some :
    (guestLookups ipam).byVmid (some sid, vmid) = ipam.cacheLookup (sid, vmid) := by
  unfold guestLookups cacheLookup
  refine congrFun (a := (sid, vmid)) (List.foldl_hom
    (fun (l : GuestLookups) (key : ServerId × Vmid) => l.byVmid (some key.1, key.2))
    fun l a => ?_).symm
  funext key
  rw [byVmid_add_some]
  cases hkey : guestKey a with
  | none => rfl
  | some own =>
    by_cases h : own = key
    · subst h
      rw [if_pos rfl]
      exact Function.update_self ..
    · rw [if_neg fun h' => h (Option.some.inj h')]
      exact Function.update_of_ne (Ne.symm h) _ _

/-- Under a number alone it finds the first row of something else. -/
theorem byVmid_none : (guestLookups ipam).byVmid (none, vmid) =
    ipam.allocations.rows.find? fun a => foreignFor a vmid := by
  have hfold : ∀ (rows : List IPAMAllocation) (l : GuestLookups),
      (rows.foldl GuestLookups.add l).byVmid (none, vmid) =
        (l.byVmid (none, vmid)).or (rows.find? fun a =>
          decide (vmid ≠ 0 ∧ guestKey a = none ∧ a.resourceId = some vmid)) := by
    intro rows
    induction rows with
    | nil => exact fun l => Option.or_none.symm
    | cons a rows ih =>
      intro l
      rw [List.foldl_cons, ih, byVmid_add_none, List.find?_cons]
      split
      · rename_i h
        rw [decide_eq_true h, Option.or_assoc, Option.some_or]
      · rename_i h
        rw [decide_eq_false h]
  rw [guestLookups, hfold, Option.none_or, List.find?_filter]
  congr 1
  funext a
  rw [foreignFor, Bool.eq_iff_iff]
  simp only [decide_eq_true_eq, Bool.and_eq_true]
  exact And.comm

/-- Under a server and a number all active rows of the guest are kept. -/
theorem allByVmid_eq : (guestLookups ipam).allByVmid (sid, vmid) =
    (ipam.allocations.rows.filter IPAMAllocation.active).filter fun a =>
      decide (guestKey a = some (sid, vmid)) := by
  have hfold : ∀ (rows : List IPAMAllocation) (l : GuestLookups),
      (rows.foldl GuestLookups.add l).allByVmid (sid, vmid) =
        l.allByVmid (sid, vmid) ++ rows.filter fun a => decide (guestKey a = some (sid, vmid)) := by
    intro rows
    induction rows with
    | nil => exact fun l => (List.append_nil _).symm
    | cons a rows ih =>
      intro l
      rw [List.foldl_cons, ih, allByVmid_add, List.filter_cons]
      by_cases h : guestKey a = some (sid, vmid)
      · rw [if_pos h, if_pos (decide_eq_true h), List.append_assoc, List.singleton_append]
      · rw [if_neg h, if_neg fun h' => h (of_decide_eq_true h')]
  exact hfold _ _

end Maps

/-! ### What the entry of a guest shows -/

/-- The rows recorded for a guest. -/
def recorded (ipam : Ipam) (sid : ServerId) (vmid : Vmid) : List IPAMAllocation :=
  ipam.allocations.rows.filter fun a => a.keyedTo sid vmid

/-- The guest has one active row, or one that alone is flagged. -/
def SoleMain (ipam : Ipam) (sid : ServerId) (vmid : Vmid) : Prop :=
  ∃ a ∈ ipam.allocations.rows, ownFor a sid vmid = true ∧
    ∀ b ∈ ipam.allocations.rows, ownFor b sid vmid = true → b ≠ a →
      a.isPrimary = true ∧ b.isPrimary = false

section Entry

variable {networks networks' : List IPAMNetwork} {ipam ipam' : Ipam} {sid : ServerId}
  {vmid : Vmid} {vm : VMInstance}

theorem ip_guestEntry : (guestEntry networks ipam vm).ip =
    (((ipam.cacheLookup (vm.serverId, vm.vmid)).or
      (ipam.allocations.rows.find? fun a => foreignFor a vm.vmid)).map
        IPAMAllocation.ipAddress).getD (vm.ipAddress.getD "") := by
  rw [← byVmid_some, ← byVmid_none]
  rfl

theorem ips_guestEntry (hsid : vm.serverId ≠ 0) (hvmid : vm.vmid ≠ 0) :
    (guestEntry networks ipam vm).ips =
      (ipam.findAllocationsByResource vm.serverId vm.vmid).map ipEntry := by
  unfold guestEntry
  dsimp only
  rw [allByVmid_eq, filter_guestKey hsid hvmid]
  rfl

/-- A number zero has no addresses but the cached one. -/
theorem guestEntry_zero (hvmid : vm.vmid = 0) :
    (guestEntry networks ipam vm).ip = vm.ipAddress.getD "" ∧
      (guestEntry networks ipam vm).ips = [] := by
  have hzero : ¬(vm.serverId ≠ 0 ∧ vm.vmid ≠ 0) := fun h => h.2 hvmid
  constructor
  · have hforeign : (ipam.allocations.rows.find? fun a => foreignFor a vm.vmid) = none := by
      rw [List.find?_eq_none]
      intro a _ ha
      rw [foreignFor, Bool.and_eq_true, decide_eq_true_eq] at ha
      exact ha.1.1 hvmid
    rw [ip_guestEntry, (Readings.lookups_eq_none (Or.inl hzero)).1, hforeign]
    rfl
  · unfold guestEntry
    dsimp only
    rw [allByVmid_eq, filter_guestKey_zero hzero]
    rfl

theorem ownFor_iff_mem_recorded {a : IPAMAllocation} :
    a ∈ ipam.allocations.rows ∧ ownFor a sid vmid = true ↔
      a ∈ recorded ipam sid vmid ∧ a.active = true := by
  rw [recorded, List.mem_filter, ownFor, Bool.and_eq_true, and_assoc]

/-- The address that alone comes into question is found in every order of the rows. -/
theorem cacheLookup_of_soleMain (hsid : sid ≠ 0) (hvmid : vmid ≠ 0) {a : IPAMAllocation}
    (ha : a ∈ ipam.allocations.rows) (hown : ownFor a sid vmid = true)
    (hsole : ∀ b ∈ ipam.allocations.rows, ownFor b sid vmid = true → b ≠ a →
      a.isPrimary = true ∧ b.isPrimary = false) :
    ipam.cacheLookup (sid, vmid) = some a := by
  rw [cacheLookup_eq hsid hvmid]
  cases hflagged : ipam.allocations.rows.find? fun b => ownFor b sid vmid && b.isPrimary with
  | some b =>
    have hb := List.find?_some hflagged
    rw [Bool.and_eq_true] at hb
    by_contra hne
    have hsole' := hsole b (List.mem_of_find?_eq_some hflagged) hb.1 fun h => hne (by rw [h]; rfl)
    rw [hb.2] at hsole'
    cases hsole'.2
  | none =>
    cases hfound : ipam.allocations.rows.find? fun b => ownFor b sid vmid with
    | some b =>
      have hb : ownFor b sid vmid = true := by simpa using List.find?_some hfound
      by_contra hne
      have hsole' := hsole b (List.mem_of_find?_eq_some hfound) hb fun h => hne (by rw [h]; rfl)
      have hnot := List.find?_eq_none.mp hflagged a ha
      rw [hown, hsole'.1] at hnot
      exact absurd rfl hnot
    | none => exact absurd hown (List.find?_eq_none.mp hfound a ha)

/-- The rows of a guest are listed in one order. -/
theorem findAllocationsByResource_of_perm (hids : ipam.IdsUnique)
    (h : (recorded ipam' sid vmid).Perm (recorded ipam sid vmid)) :
    ipam'.findAllocationsByResource sid vmid = ipam.findAllocationsByResource sid vmid := by
  let r := fun a b : IPAMAllocation =>
    (a.isPrimary && !b.isPrimary) || (a.isPrimary == b.isPrimary && decide (a.id ≤ b.id))
  have : Std.Total fun a b => r a b = true :=
    ⟨fun a b => (Precedes.total a b).imp precedes_iff.mpr precedes_iff.mpr⟩
  have : IsTrans IPAMAllocation fun a b => r a b = true :=
    ⟨fun a b c hab hbc => precedes_iff.mpr
      ((precedes_iff.mp hab).trans (precedes_iff.mp hbc))⟩
  have hactive : ∀ ipam : Ipam,
      (ipam.allocations.rows.filter fun a => a.keyedTo sid vmid && a.active) =
        (recorded ipam sid vmid).filter IPAMAllocation.active := by
    intro ipam
    rw [recorded, List.filter_filter]
    exact List.filter_congr fun a _ => Bool.and_comm _ _
  have hperm : (ipam'.findAllocationsByResource sid vmid).Perm
      (ipam.findAllocationsByResource sid vmid) := by
    unfold findAllocationsByResource
    rw [hactive, hactive]
    refine (List.perm_insertionSort _ _).trans ((h.filter _).trans ?_)
    exact (List.perm_insertionSort _ _).symm
  refine List.Perm.eq_of_pairwise (fun a b ha hb hab hba => ?_)
    (List.pairwise_insertionSort (fun a b => r a b = true) _)
    (List.pairwise_insertionSort (fun a b => r a b = true) _) hperm
  have ha' := (mem_findAllocationsByResource _ _ _ _).mp (hperm.mem_iff.mp ha)
  have hb' := (mem_findAllocationsByResource _ _ _ _).mp hb
  exact (precedes_iff.mp hab).antisymm hids ha'.1 hb'.1 (precedes_iff.mp hba)

/-! ### Another table that shows another address -/

/-- A row of something else under the number of the guest. -/
def foreignRow (id : Nat) (ip : String) (vmid : Vmid) : IPAMAllocation where
  id := id
  networkId := 0
  ipAddress := ip
  resourceType := none
  resourceId := some vmid
  resourceName := none
  proxmoxServerId := none
  proxmoxVmid := none
  proxmoxNode := none
  status := "allocated"
  isPrimary := false

/-- The table with one more row in front. -/
def withFirst (ipam : Ipam) (a : IPAMAllocation)
    (ha : ∀ b ∈ ipam.allocations.rows, b.ipAddress ≠ a.ipAddress) : Ipam where
  allocations :=
    { rows := a :: ipam.allocations.rows
      keys_nodup := by
        rw [List.map_cons, List.nodup_cons]
        refine ⟨fun h => ?_, ipam.allocations.keys_nodup⟩
        obtain ⟨b, hb, hip⟩ := List.mem_map.mp h
        exact ha b hb hip }
  history := ipam.history

/-- The same table with one of its rows in front. -/
def withFront (ipam : Ipam) (b : IPAMAllocation) (hb : b ∈ ipam.allocations.rows) : Ipam where
  allocations :=
    { rows := b :: ipam.allocations.rows.erase b
      keys_nodup :=
        ((List.perm_cons_erase hb).map _).nodup_iff.mp ipam.allocations.keys_nodup }
  history := ipam.history

/-- A guest with an active row is found with one of them, a flagged one if there is any. -/
theorem exists_cacheLookup (hsid : sid ≠ 0) (hvmid : vmid ≠ 0)
    (h : ∃ a ∈ ipam.allocations.rows, ownFor a sid vmid = true) :
    ∃ c ∈ ipam.allocations.rows, ipam.cacheLookup (sid, vmid) = some c ∧
      ownFor c sid vmid = true ∧ (c.isPrimary = true ∨
        ∀ b ∈ ipam.allocations.rows, ownFor b sid vmid = true → b.isPrimary = false) := by
  obtain ⟨a, ha, hown⟩ := h
  rw [cacheLookup_eq hsid hvmid]
  cases hflagged : ipam.allocations.rows.find? fun b => ownFor b sid vmid && b.isPrimary with
  | some c =>
    have hc := List.find?_some hflagged
    rw [Bool.and_eq_true] at hc
    exact ⟨c, List.mem_of_find?_eq_some hflagged, rfl, hc.1, Or.inl hc.2⟩
  | none =>
    cases hfound : ipam.allocations.rows.find? fun b => ownFor b sid vmid with
    | none => exact absurd hown (List.find?_eq_none.mp hfound a ha)
    | some c =>
      have hc : ownFor c sid vmid = true := by simpa using List.find?_some hfound
      refine ⟨c, List.mem_of_find?_eq_some hfound, rfl, hc, Or.inr fun b hb hown => ?_⟩
      rw [Bool.eq_false_iff]
      intro hprimary
      have hnot := List.find?_eq_none.mp hflagged b hb
      rw [hown, hprimary] at hnot
      exact hnot rfl

/-- Unless one row alone comes into question, a table with the same rows of the guest shows
another address. -/
theorem exists_ip_ne (hids : ipam.IdsUnique) (hvmid : vm.vmid ≠ 0)
    (hsole : ¬(vm.serverId ≠ 0 ∧ SoleMain ipam vm.serverId vm.vmid)) :
    ∃ ipam' : Ipam, ipam'.IdsUnique ∧
      (recorded ipam' vm.serverId vm.vmid).Perm (recorded ipam vm.serverId vm.vmid) ∧
        (guestEntry networks ipam' vm).ip ≠ (guestEntry networks ipam vm).ip := by
  by_cases hown : vm.serverId ≠ 0 ∧
      ∃ a ∈ ipam.allocations.rows, ownFor a vm.serverId vm.vmid = true
  · obtain ⟨hsid, hown⟩ := hown
    obtain ⟨c, hc, hlookup, hownc, hflag⟩ := exists_cacheLookup hsid hvmid hown
    have hother : ∃ b ∈ ipam.allocations.rows, ownFor b vm.serverId vm.vmid = true ∧ b ≠ c ∧
        (c.isPrimary = true → b.isPrimary = true) := by
      by_contra hno
      refine hsole ⟨hsid, c, hc, hownc, fun b hb hownb hne => ?_⟩
      by_contra hnot
      refine hno ⟨b, hb, hownb, hne, fun hcp => ?_⟩
      by_contra hbp
      exact hnot ⟨hcp, Bool.eq_false_iff.mpr hbp⟩
    obtain ⟨b, hb, hownb, hne, himp⟩ := hother
    have hperm : (ipam.withFront b hb).allocations.rows.Perm ipam.allocations.rows :=
      (List.perm_cons_erase hb).symm
    have hfront : (ipam.withFront b hb).cacheLookup (vm.serverId, vm.vmid) = some b := by
      rw [cacheLookup_eq hsid hvmid]
      cases hbp : b.isPrimary with
      | true =>
        have hfirst : ((ipam.withFront b hb).allocations.rows.find? fun a =>
            ownFor a vm.serverId vm.vmid && a.isPrimary) = some b :=
          List.find?_cons_of_pos (by rw [hownb, hbp]; rfl)
        rw [hfirst]
        rfl
      | false =>
        have hnone : ((ipam.withFront b hb).allocations.rows.find? fun a =>
            ownFor a vm.serverId vm.vmid && a.isPrimary) = none := by
          rw [List.find?_eq_none]
          intro a ha hflagged
          rw [Bool.and_eq_true] at hflagged
          rcases hflag with hcp | hall
          · rw [himp hcp] at hbp
            cases hbp
          · rw [hall a (hperm.mem_iff.mp ha) hflagged.1] at hflagged
            cases hflagged.2
        rw [hnone, Option.none_or]
        exact List.find?_cons_of_pos hownb
    refine ⟨ipam.withFront b hb, fun x hx y hy => ?_, hperm.filter _, ?_⟩
    · exact hids x (hperm.mem_iff.mp hx) y (hperm.mem_iff.mp hy)
    · rw [ip_guestEntry, ip_guestEntry, hfront, hlookup]
      exact fun h => hne (ipam.allocations.eq_of_key_eq hb hc h)
  · obtain ⟨ip, hip⟩ := Infinite.exists_notMem_finset
      (insert (guestEntry networks ipam vm).ip
        (ipam.allocations.rows.map IPAMAllocation.ipAddress).toFinset)
    obtain ⟨id, hid⟩ := Infinite.exists_notMem_finset
      (ipam.allocations.rows.map IPAMAllocation.id).toFinset
    rw [Finset.mem_insert, not_or, List.mem_toFinset] at hip
    rw [List.mem_toFinset] at hid
    have hnew : ∀ b ∈ ipam.allocations.rows, b.ipAddress ≠ (foreignRow id ip vm.vmid).ipAddress :=
      fun b hb h => hip.2 (List.mem_map.mpr ⟨b, hb, h⟩)
    refine ⟨ipam.withFirst _ hnew, ?_, ?_, ?_⟩
    · intro b hb c hc hbc
      rcases List.mem_cons.mp hb with rfl | hb <;> rcases List.mem_cons.mp hc with rfl | hc
      · rfl
      · exact absurd (List.mem_map.mpr ⟨c, hc, hbc.symm⟩) hid
      · exact absurd (List.mem_map.mpr ⟨b, hb, hbc⟩) hid
      · exact hids b hb c hc hbc
    · exact List.Perm.refl _
    · have hnone : (ipam.withFirst _ hnew).cacheLookup (vm.serverId, vm.vmid) = none := by
        refine (Readings.lookups_eq_none ?_).1
        by_cases hsid : vm.serverId ≠ 0
        · right
          intro b hb
          rcases List.mem_cons.mp hb with rfl | hb
          · rfl
          · rw [Bool.eq_false_iff]
            exact fun h => hown ⟨hsid, b, hb, h⟩
        · exact Or.inl fun h => hsid h.1
      have hfirst : ((ipam.withFirst _ hnew).allocations.rows.find? fun a =>
          foreignFor a vm.vmid) = some (foreignRow id ip vm.vmid) := by
        refine List.find?_cons_of_pos ?_
        rw [foreignFor, Bool.and_eq_true, decide_eq_true_eq]
        exact ⟨⟨hvmid, rfl, rfl⟩, rfl⟩
      rw [ip_guestEntry, hnone, hfirst]
      exact hip.1

end Entry

/-! ### The list -/

namespace GuestListing

variable {r r' : GuestListing} {vm : VMInstance} {e : GuestEntry}

/-- What the list shows for a guest depends on its cached row and on the rows recorded for it,
and its first address is the main one. -/
structure ShowsOwn (r : GuestListing) (vm : VMInstance) : Prop where
  own : ∀ r' : GuestListing, vm ∈ r'.vms.rows →
    (recorded r'.ipam vm.serverId vm.vmid).Perm (recorded r.ipam vm.serverId vm.vmid) →
      ∀ e ∈ r.getAllVirtualMachines, ∀ e' ∈ r'.getAllVirtualMachines,
        e.key = vm.key → e'.key = vm.key → e'.ip = e.ip ∧ e'.ips = e.ips
  main : ∀ e ∈ r.getAllVirtualMachines, e.key = vm.key → e.ips ≠ [] →
    ∃ a, IsMain r.ipam vm.serverId vm.vmid a ∧ e.ip = a.ipAddress

/-- The entry of a guest is made from its cached row. -/
theorem eq_guestEntry (hvm : vm ∈ r.vms.rows) (he : e ∈ r.getAllVirtualMachines)
    (hkey : e.key = vm.key) : e = guestEntry r.networks r.ipam vm := by
  obtain ⟨vm', hvm', rfl⟩ := List.mem_map.mp he
  have hrow := (List.mem_filter.mp (List.mem_mergeSort.mp hvm')).1
  rw [r.vms.eq_of_key_eq hrow hvm hkey]

theorem guestEntry_mem (hvm : vm ∈ r.vms.rows) (hlists : r.lists vm = true) :
    guestEntry r.networks r.ipam vm ∈ r.getAllVirtualMachines :=
  List.mem_map_of_mem (List.mem_mergeSort.mpr (List.mem_filter.mpr ⟨hvm, hlists⟩))

/-- A number zero is shown with its cached address alone. -/
theorem ShowsOwn.of_zero (hvm : vm ∈ r.vms.rows) (hzero : vm.vmid = 0) : r.ShowsOwn vm := by
  refine ⟨fun r' hvm' _ e he e' he' hkey hkey' => ?_, fun e he hkey hips => ?_⟩
  · rw [eq_guestEntry hvm he hkey, eq_guestEntry hvm' he' hkey', (guestEntry_zero hzero).1,
      (guestEntry_zero hzero).2, (guestEntry_zero hzero).1, (guestEntry_zero hzero).2]
    exact ⟨rfl, rfl⟩
  · rw [eq_guestEntry hvm he hkey, (guestEntry_zero hzero).2] at hips
    exact absurd rfl hips

/-- An address that alone can be the main one is shown, whatever else is recorded. -/
theorem ShowsOwn.of_soleMain (hvm : vm ∈ r.vms.rows) (hsid : vm.serverId ≠ 0) (hvmid : vm.vmid ≠ 0)
    (hsole : SoleMain r.ipam vm.serverId vm.vmid) : r.ShowsOwn vm := by
  obtain ⟨a, ha, hown, hsole⟩ := hsole
  have hip : ∀ networks (ipam : Ipam),
      (recorded ipam vm.serverId vm.vmid).Perm (recorded r.ipam vm.serverId vm.vmid) →
        (guestEntry networks ipam vm).ip = a.ipAddress := by
    intro networks ipam hperm
    have hmem : ∀ b, b ∈ ipam.allocations.rows ∧ ownFor b vm.serverId vm.vmid = true ↔
        b ∈ r.ipam.allocations.rows ∧ ownFor b vm.serverId vm.vmid = true := by
      intro b
      rw [ownFor_iff_mem_recorded, ownFor_iff_mem_recorded, hperm.mem_iff]
    have hlookup := cacheLookup_of_soleMain hsid hvmid ((hmem a).mpr ⟨ha, hown⟩).1 hown
      fun b hb hownb => hsole b ((hmem b).mp ⟨hb, hownb⟩).1 hownb
    rw [ip_guestEntry, hlookup]
    rfl
  refine ⟨fun r' hvm' hperm e he e' he' hkey hkey' => ?_, fun e he hkey _ => ⟨a, ?_, ?_⟩⟩
  · rw [eq_guestEntry hvm he hkey, eq_guestEntry hvm' he' hkey', hip _ _ hperm,
      hip _ _ (List.Perm.refl _), ips_guestEntry hsid hvmid, ips_guestEntry hsid hvmid,
      findAllocationsByResource_of_perm r.ids_unique hperm]
    exact ⟨rfl, rfl⟩
  · refine ⟨ha, hown, fun b hb hownb => ?_⟩
    by_cases hba : b = a
    · exact Or.inr ⟨by rw [hba], by rw [hba]⟩
    · exact Or.inl (hsole b hb hownb hba)
  · rw [eq_guestEntry hvm he hkey]
    exact hip _ _ (List.Perm.refl _)

/-- The list shows a guest's own addresses exactly when one of them alone can be the main one. -/
theorem showsOwn_iff (hvm : vm ∈ r.vms.rows) (hlists : r.lists vm = true) :
    r.ShowsOwn vm ↔
      vm.vmid = 0 ∨ vm.serverId ≠ 0 ∧ SoleMain r.ipam vm.serverId vm.vmid := by
  constructor
  · intro h
    by_contra hnot
    rw [not_or] at hnot
    obtain ⟨ipam', hids, hperm, hne⟩ : ∃ ipam' : Ipam, ipam'.IdsUnique ∧
        (recorded ipam' vm.serverId vm.vmid).Perm (recorded r.ipam vm.serverId vm.vmid) ∧
          (guestEntry r.networks ipam' vm).ip ≠ (guestEntry r.networks r.ipam vm).ip :=
      exists_ip_ne r.ids_unique hnot.1 hnot.2
    let r' : GuestListing := { r with ipam := ipam', ids_unique := hids }
    exact hne (h.own r' hvm hperm _ (guestEntry_mem hvm hlists) _
      (guestEntry_mem (r := r') hvm hlists) rfl rfl).1
  · intro h
    by_cases hzero : vm.vmid = 0
    · exact ShowsOwn.of_zero hvm hzero
    · obtain ⟨hsid, hsole⟩ := h.resolve_left hzero
      exact ShowsOwn.of_soleMain hvm hsid hzero hsole

/-! ### A guest without an address -/

/-- A machine without a cached address. -/
def listedGuest : VMInstance :=
  ⟨1, 100, "pve1", .qemu, "web", none, "running", false, none, none, none, none, none, none, none,
    none, none, none, none, none, none, none, none, none, none⟩

/-- An administrator lists the machine beside one recorded address. -/
def listedWith (a : IPAMAllocation) : GuestListing where
  vms := ⟨[listedGuest], by decide⟩
  ipam := ⟨⟨[a], List.nodup_singleton _⟩, []⟩
  ids_unique := by
    intro b hb c hc _
    rw [List.mem_singleton.mp hb, List.mem_singleton.mp hc]
  networks := []
  user := ⟨1, "root", true, none, []⟩
  workspaceServerIds := none

/-- Two tables that differ in a row of a physical server, recorded under the number 7 and 100. -/
theorem foreign_address_shown :
    ¬∀ (r : GuestListing) (vm : VMInstance), vm ∈ r.vms.rows → r.lists vm = true →
      r.ShowsOwn vm := by
  intro h
  let r := listedWith (foreignRow 1 "10.0.0.9" 7)
  let r' := listedWith (foreignRow 1 "10.0.0.9" 100)
  have hvm : listedGuest ∈ [listedGuest] := List.mem_singleton_self _
  have hown := (h r listedGuest hvm (by decide)).own r' hvm (List.Perm.refl _)
    _ (guestEntry_mem (r := r) hvm (by decide)) _ (guestEntry_mem (r := r') hvm (by decide)) rfl rfl
  have hshown : (guestEntry r'.networks r'.ipam listedGuest).ip = "10.0.0.9" := by decide
  have hblank : (guestEntry r.networks r.ipam listedGuest).ip = "" := by decide
  rw [hshown, hblank] at hown
  exact absurd hown.1 (by decide)

/-- The machine with an address of its own. -/
theorem showsOwn_iff_own :
    let r := listedWith { foreignRow 1 "10.0.0.9" 100 with
      proxmoxServerId := some 1
      proxmoxVmid := some 100 }
    r.ShowsOwn listedGuest ↔ listedGuest.vmid = 0 ∨
      listedGuest.serverId ≠ 0 ∧ SoleMain r.ipam listedGuest.serverId listedGuest.vmid :=
  showsOwn_iff (List.mem_singleton_self _) (by decide)

end GuestListing

end PveManager.Ipam
