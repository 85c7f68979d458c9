import PveManager.Core.Run
import PveManager.Ipam.Service

/-!
# The main address of a guest

At most one allocation of a guest is marked as its main address. Allocating,
linking a new address, marking and releasing keep this; an edit or a link that
moves a main address to another guest keeps it exactly where that guest has none.
-/

namespace PveManager.Ipam

open PveManager.Core

/-- Two rows of one guest. -/
def SameGuest (a b : IPAMAllocation) : Prop :=
  a.proxmoxVmid.isSome = true ∧ a.proxmoxServerId = b.proxmoxServerId ∧ a.proxmoxVmid = b.proxmoxVmid

/-- A guest has at most one main address. -/
def OnePrimary (ipam : Ipam) : Prop :=
  ∀ a ∈ ipam.allocations.rows, ∀ b ∈ ipam.allocations.rows,
    a.isPrimary = true → b.isPrimary = true → SameGuest a b → a = b

/-- The primary key of the rows. -/
def IdsUnique (ipam : Ipam) : Prop :=
  ∀ a ∈ ipam.allocations.rows, ∀ b ∈ ipam.allocations.rows, a.id = b.id → a = b

/-- The row would be a second main address of its guest. -/
def Second (ipam : Ipam) (a : IPAMAllocation) : Prop :=
  a.isPrimary = true ∧ ∃ b ∈ ipam.allocations.rows,
    b.ipAddress ≠ a.ipAddress ∧ b.isPrimary = true ∧ SameGuest a b

theorem SameGuest.symm {a b : IPAMAllocation} (h : SameGuest a b) : SameGuest b a :=
  ⟨by rw [← h.2.2]; exact h.1, h.2.1.symm, h.2.2.symm⟩

section Rows

variable {ipam ipam' : Ipam} {a : IPAMAllocation}

/-- Storing a row keeps one main address exactly when it is no second one. -/
theorem onePrimary_save_iff (h : ipam.OnePrimary)
    (hsave : ipam'.allocations = ipam.allocations.save a) : ipam'.OnePrimary ↔ ¬ipam.Second a := by
  unfold OnePrimary
  simp only [hsave, KeyedTable.mem_rows_save]
  constructor
  · rintro hone ⟨ha, b, hb, hne, hbp, hsame⟩
    have hab := hone a (Or.inl rfl) b (Or.inr ⟨hb, hne⟩) ha hbp hsame
    exact hne (hab ▸ rfl)
  · intro hsecond b hb c hc hbp hcp hsame
    rcases hb with rfl | ⟨hb, hbne⟩
    · rcases hc with rfl | ⟨hc, hcne⟩
      · rfl
      · exact absurd ⟨hbp, c, hc, hcne, hcp, hsame⟩ hsecond
    · rcases hc with rfl | ⟨hc, hcne⟩
      · exact absurd ⟨hcp, b, hb, hbne, hbp, hsame.symm⟩ hsecond
      · exact h b hb c hc hbp hcp hsame

theorem OnePrimary.mono (h : ipam.OnePrimary)
    (hle : ∀ b ∈ ipam'.allocations.rows, b ∈ ipam.allocations.rows) : ipam'.OnePrimary :=
  fun a ha b hb => h a (hle a ha) b (hle b hb)

theorem IdsUnique.mono (h : ipam.IdsUnique)
    (hle : ∀ b ∈ ipam'.allocations.rows, b ∈ ipam.allocations.rows) : ipam'.IdsUnique :=
  fun a ha b hb => h a (hle a ha) b (hle b hb)

/-- A row that keeps the id of the row it replaces, or has a new one. -/
theorem IdsUnique.save (h : ipam.IdsUnique)
    (hsave : ipam'.allocations = ipam.allocations.save a)
    (hid : ∀ b ∈ ipam.allocations.rows, b.id = a.id → b.ipAddress = a.ipAddress) :
    ipam'.IdsUnique := by
  unfold IdsUnique
  simp only [hsave, KeyedTable.mem_rows_save]
  intro b hb c hc hbc
  rcases hb with rfl | ⟨hb, hbne⟩
  · rcases hc with rfl | ⟨hc, hcne⟩
    · rfl
    · exact absurd (hid c hc hbc.symm) hcne
  · rcases hc with rfl | ⟨hc, hcne⟩
    · exact absurd (hid b hb hbc) hbne
    · exact h b hb c hc hbc

theorem hasPrimary_eq_true_iff {sid : Option ServerId} {vmid : Option Vmid} :
    ipam.hasPrimary sid vmid = true ↔ vmid.isSome = true ∧ ∃ b ∈ ipam.allocations.rows,
      b.proxmoxServerId = sid ∧ b.proxmoxVmid = vmid ∧ b.isPrimary = true := by
  simp only [hasPrimary, Bool.and_eq_true, List.any_eq_true, decide_eq_true_eq, and_assoc]

/-- Without a main address of the guest a row is no second one. -/
theorem not_second_of_hasPrimary
    (h : a.isPrimary = true → ipam.hasPrimary a.proxmoxServerId a.proxmoxVmid = false) :
    ¬ipam.Second a := by
  rintro ⟨ha, b, hb, -, hbp, hsome, hs, hv⟩
  have hhas : ipam.hasPrimary a.proxmoxServerId a.proxmoxVmid = true :=
    hasPrimary_eq_true_iff.mpr ⟨hsome, b, hb, hs.symm, hv.symm, hbp⟩
  rw [h ha] at hhas
  cases hhas

end Rows

/-! ### The calls -/

section Calls

variable {sur : Surroundings} {ipam : Ipam}

/-- The new row is a main address only of a guest without one. -/
theorem OnePrimary.allocateIp (h : ipam.OnePrimary) {req : AllocationRequest}
    (hreq : req.isPrimary = some true →
      ipam.hasPrimary req.proxmoxServerId req.proxmoxVmid = false) :
    (Ipam.allocateIp sur ipam req).1.OnePrimary := by
  rcases allocateIp_cases sur ipam req with ⟨network, poolId, -, -, -, -, he⟩ | ⟨e, he⟩ | ⟨e, he⟩
  · rw [he]
    refine (onePrimary_save_iff h rfl).mpr (not_second_of_hasPrimary fun hp => ?_)
    have hflag : req.isPrimary.getD (decide (req.assignmentKind = "primary") &&
        req.proxmoxVmid.isSome && !ipam.hasPrimary req.proxmoxServerId req.proxmoxVmid) = true := hp
    cases hr : req.isPrimary with
    | none =>
      rw [hr, Option.getD_none, Bool.and_eq_true, Bool.not_eq_true'] at hflag
      exact hflag.2
    | some flag =>
      rw [hr, Option.getD_some] at hflag
      exact hreq (hr.trans (congrArg some hflag))
  · rw [he]
    exact h
  · rw [he]
    exact h

theorem IdsUnique.allocateIp (h : ipam.IdsUnique) {req : AllocationRequest} :
    (Ipam.allocateIp sur ipam req).1.IdsUnique := by
  rcases allocateIp_cases sur ipam req with
    ⟨network, poolId, -, -, -, hid, he⟩ | ⟨e, he⟩ | ⟨e, he⟩
  · rw [he]
    exact h.save rfl fun b hb hbid => absurd hbid (hid b hb)
  · rw [he]
    exact h
  · rw [he]
    exact h

theorem OnePrimary.autoAllocateIp (h : ipam.OnePrimary) {req : AllocationRequest} :
    (Ipam.autoAllocateIp sur ipam req).1.OnePrimary := by
  unfold Ipam.autoAllocateIp
  split
  · exact h
  · exact h.allocateIp fun hr => by cases hr

theorem IdsUnique.autoAllocateIp (h : ipam.IdsUnique) {req : AllocationRequest} :
    (Ipam.autoAllocateIp sur ipam req).1.IdsUnique := by
  unfold Ipam.autoAllocateIp
  split
  · exact h
  · exact h.allocateIp

/-- An edit that is carried out gives a guest a second main address. -/
def SecondByUpdate (sur : Surroundings) (ipam : Ipam) (ip : String) (u : AllocationUpdate) : Prop :=
  u.valid = true ∧ sur.commits = true ∧
    ∃ a, ipam.allocations.find? ip = some a ∧ ipam.Second (u.apply a)

theorem onePrimary_updateAllocation_iff (h : ipam.OnePrimary) {ip : String}
    {updatedBy : Option String} {u : AllocationUpdate} :
    (Ipam.updateAllocation sur ipam ip updatedBy u).1.OnePrimary ↔
      ¬SecondByUpdate sur ipam ip u := by
  rcases updateAllocation_cases sur ipam ip updatedBy u with
    ⟨a, hf, hvalid, hcommit, hsave⟩ | ⟨he, hno⟩
  · rw [onePrimary_save_iff h hsave]
    constructor
    · rintro hn ⟨-, -, b, hb, hsecond⟩
      rw [hf] at hb
      cases hb
      exact hn hsecond
    · exact fun hn hsecond => hn ⟨hvalid, hcommit, a, hf, hsecond⟩
  · rw [he]
    refine iff_of_true h ?_
    rintro ⟨hvalid, hcommit, a, hf, -⟩
    exact hno ⟨by rw [hf]; rfl, hvalid, hcommit⟩

theorem IdsUnique.updateAllocation (h : ipam.IdsUnique) {ip : String}
    {updatedBy : Option String} {u : AllocationUpdate} :
    (Ipam.updateAllocation sur ipam ip updatedBy u).1.IdsUnique := by
  rcases updateAllocation_cases sur ipam ip updatedBy u with ⟨a, hf, -, -, hsave⟩ | ⟨he, -⟩
  · refine h.save hsave fun b hb hid => ?_
    have hab : b = a := h b hb a (ipam.allocations.mem_of_find? hf) hid
    exact hab ▸ rfl
  · rw [he]
    exact h

theorem setPrimary_cases (sur : Surroundings) (ipam : Ipam) (sid : ServerId) (vmid : Vmid)
    (allocationId : Nat) (changedBy : Option String) :
    (Ipam.setPrimary sur ipam sid vmid allocationId changedBy).1.allocations.rows =
        ipam.allocations.rows.map (markPrimary sid vmid allocationId) ∨
      (Ipam.setPrimary sur ipam sid vmid allocationId changedBy).1 = ipam := by
  unfold Ipam.setPrimary
  split
  · exact Or.inr rfl
  · split
    · exact Or.inl rfl
    · exact Or.inr rfl

theorem id_markPrimary (sid : ServerId) (vmid : Vmid) (allocationId : Nat) (a : IPAMAllocation) :
    (markPrimary sid vmid allocationId a).id = a.id := by
  unfold markPrimary
  split
  · rfl
  · rfl

theorem guest_markPrimary (sid : ServerId) (vmid : Vmid) (allocationId : Nat)
    (a : IPAMAllocation) :
    (markPrimary sid vmid allocationId a).proxmoxServerId = a.proxmoxServerId ∧
      (markPrimary sid vmid allocationId a).proxmoxVmid = a.proxmoxVmid := by
  unfold markPrimary
  split
  · exact ⟨rfl, rfl⟩
  · exact ⟨rfl, rfl⟩

/-- Only the chosen row of the guest keeps the flag. -/
theorem OnePrimary.setPrimary (h : ipam.OnePrimary) (hids : ipam.IdsUnique) {sid : ServerId}
    {vmid : Vmid} {allocationId : Nat} {changedBy : Option String} :
    (Ipam.setPrimary sur ipam sid vmid allocationId changedBy).1.OnePrimary := by
  rcases setPrimary_cases sur ipam sid vmid allocationId changedBy with hrows | he
  · unfold OnePrimary
    rw [hrows]
    intro a' ha' b' hb' hap hbp hsame
    obtain ⟨a, ha, rfl⟩ := List.mem_map.mp ha'
    obtain ⟨b, hb, rfl⟩ := List.mem_map.mp hb'
    obtain ⟨has, hav⟩ := guest_markPrimary sid vmid allocationId a
    obtain ⟨hbs, hbv⟩ := guest_markPrimary sid vmid allocationId b
    have hguest : SameGuest a b := by
      unfold SameGuest at hsame ⊢
      rwa [has, hav, hbs, hbv] at hsame
    have hkeyed : a.keyedTo sid vmid = b.keyedTo sid vmid := by
      unfold IPAMAllocation.keyedTo
      rw [hguest.2.1, hguest.2.2]
    cases hk : a.keyedTo sid vmid with
    | true =>
      -- both rows are the guest's, and the flag says that both have the chosen id
      have hkb := hkeyed ▸ hk
      have hida : a.id = allocationId := by
        rw [markPrimary, if_pos hk] at hap
        exact of_decide_eq_true hap
      have hidb : b.id = allocationId := by
        rw [markPrimary, if_pos hkb] at hbp
        exact of_decide_eq_true hbp
      rw [hids a ha b hb (hida.trans hidb.symm)]
    | false =>
      have hkb := hkeyed ▸ hk
      have hna : markPrimary sid vmid allocationId a = a := by
        rw [markPrimary, if_neg (by simp [hk])]
      have hnb : markPrimary sid vmid allocationId b = b := by
        rw [markPrimary, if_neg (by simp [hkb])]
      rw [hna] at hap ⊢
      rw [hnb] at hbp ⊢
      exact h a ha b hb hap hbp hguest
  · rw [he]
    exact h

theorem IdsUnique.setPrimary (h : ipam.IdsUnique) {sid : ServerId} {vmid : Vmid}
    {allocationId : Nat} {changedBy : Option String} :
    (Ipam.setPrimary sur ipam sid vmid allocationId changedBy).1.IdsUnique := by
  rcases setPrimary_cases sur ipam sid vmid allocationId changedBy with hrows | he
  · unfold IdsUnique
    rw [hrows]
    intro a' ha' b' hb' hid
    obtain ⟨a, ha, rfl⟩ := List.mem_map.mp ha'
    obtain ⟨b, hb, rfl⟩ := List.mem_map.mp hb'
    rw [id_markPrimary, id_markPrimary] at hid
    rw [h a ha b hb hid]
  · rw [he]
    exact h

/-- A link takes the main address of a guest that is gone to a guest that has one. -/
def SecondBySync (sur : Surroundings) (ipam : Ipam) (req : SyncRequest) : Prop :=
  (∃ existing, ipam.allocations.find? req.ipAddress = some existing ∧
    existing.keyedTo req.proxmoxServerId req.vmid = false ∧
    guestExists sur existing.proxmoxServerId existing.proxmoxVmid = false) ∧
  SecondByUpdate sur ipam req.ipAddress (linkUpdate sur req)

theorem isSome_of_guestExists {sid : Option ServerId} {vmid : Option Vmid}
    (h : guestExists sur sid vmid = true) : vmid.isSome = true := by
  cases vmid with
  | some v => rfl
  | none =>
    unfold guestExists at h
    simp at h

/-- Refreshing a row of the guest keeps the flag where it was. -/
theorem not_second_of_mem (h : ipam.OnePrimary) {a b : IPAMAllocation}
    (hb : b ∈ ipam.allocations.rows) (hip : a.ipAddress = b.ipAddress)
    (hflag : a.isPrimary = b.isPrimary) (hs : a.proxmoxServerId = b.proxmoxServerId)
    (hv : a.proxmoxVmid = b.proxmoxVmid) : ¬ipam.Second a := by
  rintro ⟨hap, c, hc, hne, hcp, hsame⟩
  have hbc : SameGuest b c := by
    unfold SameGuest at hsame ⊢
    rwa [hs, hv] at hsame
  have he := h b hb c hc (hflag ▸ hap) hcp hbc
  exact hne (by rw [← he, hip])

theorem onePrimary_syncFromProxmoxVm_iff (h : ipam.OnePrimary) {req : SyncRequest} :
    (Ipam.syncFromProxmoxVm sur ipam req).1.OnePrimary ↔ ¬SecondBySync sur ipam req := by
  unfold Ipam.syncFromProxmoxVm
  cases hf : ipam.allocations.find? req.ipAddress with
  | none =>
    have hno : ¬SecondBySync sur ipam req := by
      rintro ⟨⟨existing, he, -⟩, -⟩
      rw [hf] at he
      cases he
    refine iff_of_true (h.allocateIp fun hr => ?_) hno
    exact (Bool.not_eq_true' _).mp (Option.some.inj hr)
  | some existing =>
    dsimp only
    have hex : ∀ {P : IPAMAllocation → Prop},
        (∃ a, ipam.allocations.find? req.ipAddress = some a ∧ P a) ↔ P existing := by
      intro P
      rw [hf]
      constructor
      · rintro ⟨a, ha, hp⟩
        cases ha
        exact hp
      · exact fun hp => ⟨existing, rfl, hp⟩
    unfold SecondBySync
    rw [hex]
    split
    · rename_i hother
      exact iff_of_true h fun hs => by simp [hother.2.2] at hs
    · rename_i hother
      split
      · rename_i hkeyed
        have hgone : guestExists sur existing.proxmoxServerId existing.proxmoxVmid = false := by
          by_contra hlive
          rw [Bool.not_eq_false] at hlive
          exact hother ⟨isSome_of_guestExists hlive, hkeyed, hlive⟩
        rw [onePrimary_updateAllocation_iff h]
        have hfree : existing.keyedTo req.proxmoxServerId req.vmid = false ∧
            guestExists sur existing.proxmoxServerId existing.proxmoxVmid = false :=
          ⟨hkeyed, hgone⟩
        exact not_congr (and_iff_right hfree).symm
      · rename_i hkeyed
        have hno : ¬((existing.keyedTo req.proxmoxServerId req.vmid = false ∧
            guestExists sur existing.proxmoxServerId existing.proxmoxVmid = false) ∧
            SecondByUpdate sur ipam req.ipAddress (linkUpdate sur req)) :=
          fun hs => hkeyed hs.1.1
        split
        · refine iff_of_true ((onePrimary_save_iff h rfl).mpr ?_) hno
          exact not_second_of_mem h (ipam.allocations.mem_of_find? hf) rfl rfl rfl rfl
        · exact iff_of_true h hno

theorem IdsUnique.syncFromProxmoxVm (h : ipam.IdsUnique) {req : SyncRequest} :
    (Ipam.syncFromProxmoxVm sur ipam req).1.IdsUnique := by
  unfold Ipam.syncFromProxmoxVm
  split
  · rename_i existing hf
    split
    · exact h
    · split
      · exact h.updateAllocation
      · split
        · refine h.save rfl fun b hb hid => ?_
          have hab : b = existing := h b hb existing (ipam.allocations.mem_of_find? hf) hid
          exact hab ▸ rfl
        · exact h
  · exact h.allocateIp

theorem mem_of_mem_releaseIp {ip : String} {releasedBy reason : Option String}
    {a : IPAMAllocation} (ha : a ∈ (ipam.releaseIp ip releasedBy reason).1.allocations.rows) :
    a ∈ ipam.allocations.rows :=
  ((mem_releaseIp ipam ip releasedBy reason a).mp ha).1

theorem mem_of_mem_releaseIpByVmid {sid : ServerId} {vmid : Vmid}
    {releasedBy reason : Option String} {a : IPAMAllocation}
    (ha : a ∈ (ipam.releaseIpByVmid sid vmid releasedBy reason).1.allocations.rows) :
    a ∈ ipam.allocations.rows :=
  ((mem_releaseIpByVmid ipam sid vmid releasedBy reason a).mp ha).1

end Calls

/-! ### Sequences of calls -/

/-- A call of the service. -/
inductive Call
  | allocateIp (req : AllocationRequest)
  | autoAllocateIp (req : AllocationRequest)
  | syncFromProxmoxVm (req : SyncRequest)
  | updateAllocation (ip : String) (updatedBy : Option String) (u : AllocationUpdate)
  | setPrimary (sid : ServerId) (vmid : Vmid) (allocationId : Nat) (changedBy : Option String)
  | releaseIp (ip : String) (releasedBy reason : Option String)
  | releaseIpByVmid (sid : ServerId) (vmid : Vmid) (releasedBy reason : Option String)

/-- The tables after a call; no caller of `allocate_ip` passes `is_primary`. -/
def callStep (ipam : Ipam) (e : Surroundings × Call) : Ipam :=
  match e.2 with
  | .allocateIp req => (Ipam.allocateIp e.1 ipam { req with isPrimary := none }).1
  | .autoAllocateIp req => (Ipam.autoAllocateIp e.1 ipam req).1
  | .syncFromProxmoxVm req => (Ipam.syncFromProxmoxVm e.1 ipam req).1
  | .updateAllocation ip updatedBy u => (Ipam.updateAllocation e.1 ipam ip updatedBy u).1
  | .setPrimary sid vmid allocationId changedBy =>
    (Ipam.setPrimary e.1 ipam sid vmid allocationId changedBy).1
  | .releaseIp ip releasedBy reason => (ipam.releaseIp ip releasedBy reason).1
  | .releaseIpByVmid sid vmid releasedBy reason =>
    (ipam.releaseIpByVmid sid vmid releasedBy reason).1

/-- The call gives no guest a second main address. -/
def Harmless (ipam : Ipam) (e : Surroundings × Call) : Prop :=
  match e.2 with
  | .updateAllocation ip _ u => ¬SecondByUpdate e.1 ipam ip u
  | .syncFromProxmoxVm req => ¬SecondBySync e.1 ipam req
  | _ => True

theorem IdsUnique.callStep {ipam : Ipam} (h : ipam.IdsUnique) (e : Surroundings × Call) :
    (Ipam.callStep ipam e).IdsUnique := by
  obtain ⟨sur, call⟩ := e
  cases call with
  | allocateIp req => exact h.allocateIp
  | autoAllocateIp req => exact h.autoAllocateIp
  | syncFromProxmoxVm req => exact h.syncFromProxmoxVm
  | updateAllocation ip updatedBy u => exact h.updateAllocation
  | setPrimary sid vmid allocationId changedBy => exact h.setPrimary
  | releaseIp ip releasedBy reason => exact h.mono fun _ => mem_of_mem_releaseIp
  | releaseIpByVmid sid vmid releasedBy reason => exact h.mono fun _ => mem_of_mem_releaseIpByVmid

/-- A call keeps one main address exactly when it is harmless. -/
theorem onePrimary_callStep_iff {ipam : Ipam} (hids : ipam.IdsUnique) (h : ipam.OnePrimary)
    (e : Surroundings × Call) : (callStep ipam e).OnePrimary ↔ Harmless ipam e := by
  obtain ⟨sur, call⟩ := e
  cases call with
  | allocateIp req => exact iff_of_true (h.allocateIp fun hr => by cases hr) trivial
  | autoAllocateIp req => exact iff_of_true h.autoAllocateIp trivial
  | syncFromProxmoxVm req => exact onePrimary_syncFromProxmoxVm_iff h
  | updateAllocation ip updatedBy u => exact onePrimary_updateAllocation_iff h
  | setPrimary sid vmid allocationId changedBy => exact iff_of_true (h.setPrimary hids) trivial
  | releaseIp ip releasedBy reason =>
    exact iff_of_true (h.mono fun _ => mem_of_mem_releaseIp) trivial
  | releaseIpByVmid sid vmid releasedBy reason =>
    exact iff_of_true (h.mono fun _ => mem_of_mem_releaseIpByVmid) trivial

/-- Calls that start from tables with at most one main address for each guest. -/
structure Session where
  start : Ipam
  ids_unique : start.IdsUnique
  one_primary : start.OnePrimary
  calls : List (Surroundings × Call)

namespace Session

variable (c : Session)

/-- Every state of a session has at most one main address for each guest exactly when all its
calls are harmless. -/
theorem onePrimary_iff :
    (∀ ipam ∈ visited callStep c.start c.calls, ipam.OnePrimary) ↔
      Guarded callStep Harmless c.start c.calls := by
  have hids : ∀ ipam ∈ visited callStep c.start c.calls, ipam.IdsUnique :=
    invariant_of_step (fun _ e h => h.callStep e) c.ids_unique c.calls
  rw [← forall_visited_iff_guarded (P := fun ipam => ipam.IdsUnique ∧ ipam.OnePrimary)
    (fun ipam e _ h => ?_) ⟨c.ids_unique, c.one_primary⟩]
  · exact forall₂_congr fun ipam hm => (and_iff_right (hids ipam hm)).symm
  · rw [and_iff_right (h.1.callStep e)]
    exact onePrimary_callStep_iff h.1 h.2 e

/-! ### Moving a main address -/

/-- An address for a guest of the first server. -/
def requestFor (ip : String) (vmid : Vmid) : AllocationRequest where
  ipAddress := ip
  networkId := 1
  proxmoxServerId := some 1
  proxmoxVmid := some vmid

/-- Two guests get an address each, and the second address is moved to the first guest. -/
def moved : Session where
  start := ⟨.empty, []⟩
  ids_unique := by
    intro a ha
    cases ha
  one_primary := by
    intro a ha
    cases ha
  calls :=
    [(Surroundings.office 1, .allocateIp (requestFor "10.0.0.5" 100)),
      (Surroundings.office 2, .allocateIp (requestFor "10.0.0.6" 101)),
      (Surroundings.office 3, .updateAllocation "10.0.0.6" none { proxmoxVmid := some (some 100) })]

/-- The first guest then has two main addresses. -/
theorem moved_not_onePrimary :
    ¬∀ ipam ∈ visited callStep moved.start moved.calls, ipam.OnePrimary := by
  intro h
  have hone := h _ (foldl_mem_visited _ _ _)
  have hrows : (moved.calls.foldl callStep moved.start).allocations.rows.map
      (fun a => (a.ipAddress, a.proxmoxServerId, a.proxmoxVmid, a.isPrimary)) =
      [("10.0.0.5", some 1, some 100, true), ("10.0.0.6", some 1, some 100, true)] := by
    decide
  have hmem : ∀ {x : String × Option ServerId × Option Vmid × Bool},
      x ∈ [("10.0.0.5", some 1, some 100, true), ("10.0.0.6", some 1, some 100, true)] →
      ∃ a ∈ (moved.calls.foldl callStep moved.start).allocations.rows,
        (a.ipAddress, a.proxmoxServerId, a.proxmoxVmid, a.isPrimary) = x := by
    intro x hx
    rw [← hrows] at hx
    exact List.mem_map.mp hx
  obtain ⟨a, ha, hax⟩ := hmem (List.mem_cons_self)
  obtain ⟨b, hb, hbx⟩ := hmem (List.mem_cons_of_mem _ (List.mem_cons_self))
  simp only [Prod.mk.injEq] at hax hbx
  obtain ⟨haip, has, hav, hap⟩ := hax
  obtain ⟨hbip, hbs, hbv, hbp⟩ := hbx
  have hab := hone a ha b hb hap hbp ⟨by rw [hav]; rfl, has.trans hbs.symm, hav.trans hbv.symm⟩
  rw [hab, hbip] at haip
  exact absurd haip (by decide)

end Session

end PveManager.Ipam
