import PveManager.Ipam.MainAddress

/-!
# One row for a number

An allocation compares texts with the rows and with the gateway and numbers with the
network. A number of the sixth version has many texts, so the calls keep the numbers
apart exactly when none of them stores a number that is there under another text.
-/

namespace PveManager.Ipam

open PveManager.Core PveManager.Net

/-- Two texts of one address. -/
def Variant (s t : String) : Prop :=
  s ≠ t ∧ ∃ n, IpAddress.numeric s = some n ∧ IpAddress.numeric t = some n

/-- The address of a row is inside its network and is not the gateway. -/
def Placed (networks : KeyedTable IPAMNetwork.id) (a : IPAMAllocation) : Prop :=
  ∃ network net ip, networks.find? a.networkId = some network ∧
    IpNetwork.parse network.network = some net ∧ IpAddress.parse a.ipAddress = some ip ∧
    net.contains ip = true ∧
    ∀ g, network.gateway = some g → IpAddress.numeric g ≠ IpAddress.numeric a.ipAddress

/-- Every row is in its place and no two rows denote one address. -/
structure Numbered (networks : KeyedTable IPAMNetwork.id) (ipam : Ipam) : Prop where
  placed : ∀ a ∈ ipam.allocations.rows, Placed networks a
  apart : ∀ a ∈ ipam.allocations.rows, ∀ b ∈ ipam.allocations.rows,
    IpAddress.numeric a.ipAddress = IpAddress.numeric b.ipAddress → a = b

/-- The request passes every check with this network and address, and the database takes it. -/
def Accepts (sur : Surroundings) (ipam : Ipam) (req : AllocationRequest) (network : IPAMNetwork)
    (ip : IpAddress) : Prop :=
  checkAllocation sur ipam req = .ok (network, ip) ∧ (∃ poolId, detectPool sur req ip = .ok poolId) ∧
    sur.commits = true ∧ ∀ b ∈ ipam.allocations.rows, b.id ≠ sur.newId

/-- A request that passes asks for an address that a row or the gateway has under another text. -/
def Clash (sur : Surroundings) (ipam : Ipam) (req : AllocationRequest) : Prop :=
  ∃ network ip, Accepts sur ipam req network ip ∧
    ((∃ b ∈ ipam.allocations.rows, Variant b.ipAddress req.ipAddress) ∨
      ∃ g, network.gateway = some g ∧ Variant g req.ipAddress)

section Rows

variable {networks : KeyedTable IPAMNetwork.id} {ipam ipam' : Ipam}

theorem Placed.congr {a b : IPAMAllocation} (h : Placed networks a)
    (hip : a.ipAddress = b.ipAddress) (hnet : a.networkId = b.networkId) : Placed networks b := by
  unfold Placed at h ⊢
  rwa [hip, hnet] at h

/-- Rows that keep the address and the network of an old one. -/
theorem Numbered.of_same (h : Numbered networks ipam)
    (hrows : ∀ b ∈ ipam'.allocations.rows, ∃ a ∈ ipam.allocations.rows,
      a.ipAddress = b.ipAddress ∧ a.networkId = b.networkId) : Numbered networks ipam' where
  placed b hb := by
    obtain ⟨a, ha, hip, hnet⟩ := hrows b hb
    exact (h.placed a ha).congr hip hnet
  apart b hb c hc hbc := by
    obtain ⟨a, ha, hab, -⟩ := hrows b hb
    obtain ⟨d, hd, hdc, -⟩ := hrows c hc
    have had : a = d := h.apart a ha d hd (by rw [hab, hdc, hbc])
    exact ipam'.allocations.eq_of_key_eq hb hc (by rw [← hab, ← hdc, had])

theorem Numbered.mono (h : Numbered networks ipam)
    (hle : ∀ b ∈ ipam'.allocations.rows, b ∈ ipam.allocations.rows) : Numbered networks ipam' :=
  h.of_same fun b hb => ⟨b, hle b hb, rfl, rfl⟩

/-- Storing a row again with its address and network. -/
theorem Numbered.save (h : Numbered networks ipam) {a b : IPAMAllocation}
    (hsave : ipam'.allocations = ipam.allocations.save b) (ha : a ∈ ipam.allocations.rows)
    (hip : a.ipAddress = b.ipAddress) (hnet : a.networkId = b.networkId) :
    Numbered networks ipam' := by
  refine h.of_same fun c hc => ?_
  rw [hsave, KeyedTable.mem_rows_save] at hc
  rcases hc with rfl | ⟨hc, -⟩
  · exact ⟨a, ha, hip, hnet⟩
  · exact ⟨c, hc, rfl, rfl⟩

end Rows

/-! ### The calls -/

section Calls

variable {sur : Surroundings} {ipam : Ipam} {req : AllocationRequest}

/-- What the checks found out: a new text inside the network that is not the gateway's. -/
theorem checkAllocation_within {network : IPAMNetwork} {ip : IpAddress}
    (h : checkAllocation sur ipam req = .ok (network, ip)) :
    (∃ net, IpNetwork.parse network.network = some net ∧ net.contains ip = true) ∧
      network.gateway ≠ some req.ipAddress := by
  obtain ⟨hnew, hnet, hip⟩ := checkAllocation_ok h
  unfold checkAllocation at h
  rw [hnew, hnet, hip] at h
  cases hp : IpNetwork.parse network.network with
  | none => simp [hp] at h
  | some net =>
    simp only [hp] at h
    split at h
    · cases h
    · rename_i hcontains
      split at h
      · cases h
      · rename_i hgateway
        exact ⟨⟨net, rfl, by simpa using hcontains⟩, hgateway⟩

/-- An accepted request adds a row for its address, and another one changes nothing. -/
theorem rows_allocateIp (sur : Surroundings) (ipam : Ipam) (req : AllocationRequest) :
    (∃ network ip a, Accepts sur ipam req network ip ∧ a.ipAddress = req.ipAddress ∧
      a.networkId = req.networkId ∧
      (allocateIp sur ipam req).1.allocations.rows = ipam.allocations.rows ++ [a]) ∨
    (∀ network ip, ¬Accepts sur ipam req network ip) ∧ (allocateIp sur ipam req).1 = ipam := by
  unfold allocateIp
  cases hc : checkAllocation sur ipam req with
  | error e =>
    refine Or.inr ⟨fun network ip hacc => ?_, rfl⟩
    rw [hacc.1] at hc
    cases hc
  | ok found =>
    obtain ⟨network, ip⟩ := found
    dsimp only
    cases hp : detectPool sur req ip with
    | error e =>
      refine Or.inr ⟨fun network' ip' hacc => ?_, rfl⟩
      obtain ⟨hcheck, ⟨poolId, hpool⟩, -⟩ := hacc
      rw [hc] at hcheck
      cases hcheck
      rw [hp] at hpool
      cases hpool
    | ok poolId =>
      dsimp only
      split
      · rename_i hcommit
        rw [Bool.and_eq_true, List.all_eq_true] at hcommit
        have hfresh : ∀ b ∈ ipam.allocations.rows, b.id ≠ sur.newId :=
          fun b hb => of_decide_eq_true (hcommit.2 b hb)
        exact Or.inl ⟨network, ip, newAllocation sur ipam req network poolId,
          ⟨hc, ⟨poolId, hp⟩, hcommit.1, hfresh⟩, rfl, rfl,
          rows_record_of_new (checkAllocation_ok hc).1⟩
      · rename_i hcommit
        refine Or.inr ⟨fun network' ip' hacc => hcommit ?_, rfl⟩
        rw [Bool.and_eq_true, List.all_eq_true]
        exact ⟨hacc.2.2.1, fun b hb => decide_eq_true (hacc.2.2.2 b hb)⟩

/-- An allocation keeps the numbers apart exactly where it does not clash. -/
theorem numbered_allocateIp_iff (h : Numbered sur.networks ipam) :
    Numbered sur.networks (allocateIp sur ipam req).1 ↔ ¬Clash sur ipam req := by
  rcases rows_allocateIp sur ipam req with ⟨network, ip, a, hacc, hip, hnet, hrows⟩ | ⟨hno, he⟩
  · obtain ⟨hnew, hfind, hparse⟩ := checkAllocation_ok hacc.1
    obtain ⟨⟨net, hpnet, hcontains⟩, hgateway⟩ := checkAllocation_within hacc.1
    have hnumeric : IpAddress.numeric req.ipAddress = some (ip.width, ip.toNat) := by
      rw [IpAddress.numeric, hparse]
      rfl
    have hold : ∀ b ∈ ipam.allocations.rows, b.ipAddress ≠ req.ipAddress :=
      ipam.allocations.find?_eq_none_iff.mp hnew
    constructor
    · rintro hnum ⟨network', ip', hacc', hvariant⟩
      have hsame := hacc.1.symm.trans hacc'.1
      cases hsame
      have ha : a ∈ (allocateIp sur ipam req).1.allocations.rows := by
        rw [hrows]
        exact List.mem_append_right _ (List.mem_singleton_self a)
      rcases hvariant with ⟨b, hb, hne, n, hbn, hrn⟩ | ⟨g, hg, -, n, hgn, hrn⟩
      · have hb' : b ∈ (allocateIp sur ipam req).1.allocations.rows := by
          rw [hrows]
          exact List.mem_append_left _ hb
        have hba := hnum.apart b hb' a ha (by rw [hip, hbn, hrn])
        exact hne (by rw [hba, hip])
      · obtain ⟨network', -, -, hfind', -, -, -, hgate⟩ := hnum.placed a ha
        rw [hnet, hfind] at hfind'
        cases hfind'
        exact hgate g hg (by rw [hip, hgn, hrn])
    · intro hclash
      have hrow : ∀ b ∈ ipam.allocations.rows,
          IpAddress.numeric b.ipAddress ≠ IpAddress.numeric req.ipAddress := by
        intro b hb he
        exact hclash ⟨network, ip, hacc, Or.inl ⟨b, hb, hold b hb, _, he.trans hnumeric, hnumeric⟩⟩
      constructor
      · intro b hb
        rw [hrows, List.mem_append, List.mem_singleton] at hb
        rcases hb with hb | rfl
        · exact h.placed b hb
        · refine ⟨network, net, ip, by rw [hnet, hfind], hpnet, by rw [hip, hparse], hcontains, ?_⟩
          intro g hg he
          rw [hip] at he
          have hne : g ≠ req.ipAddress := fun hge => hgateway (hge ▸ hg)
          exact hclash ⟨network, ip, hacc, Or.inr ⟨g, hg, hne, _, he.trans hnumeric, hnumeric⟩⟩
      · intro b hb c hc hbc
        rw [hrows, List.mem_append, List.mem_singleton] at hb hc
        rcases hb with hb | rfl
        · rcases hc with hc | rfl
          · exact h.apart b hb c hc hbc
          · exact absurd (by rw [hbc, hip]) (hrow b hb)
        · rcases hc with hc | rfl
          · exact absurd (by rw [← hbc, hip]) (hrow c hc)
          · rfl
  · rw [he]
    exact iff_of_true h fun ⟨network, ip, hacc, _⟩ => hno network ip hacc

/-- A number of the fourth version has one text, so a request for one does not clash. -/
theorem not_clash_of_v4 (hv4 : ∀ network ∈ sur.networks.rows, ∀ net,
    IpNetwork.parse network.network = some net → net.address.width = 32) :
    ¬Clash sur ipam req := by
  rintro ⟨network, ip, hacc, hvariant⟩
  obtain ⟨-, hfind, hparse⟩ := checkAllocation_ok hacc.1
  obtain ⟨⟨net, hnet, hcontains⟩, -⟩ := checkAllocation_within hacc.1
  have hwidth : ip.width = 32 := by
    rw [IpNetwork.contains, decide_eq_true_eq] at hcontains
    exact hcontains.1.trans (hv4 network (sur.networks.mem_of_find? hfind) net hnet)
  have hno : ∀ s, ¬Variant s req.ipAddress := by
    rintro s ⟨hne, n, hs, hreq⟩
    have hn : n = (32, ip.toNat) := by
      rw [IpAddress.numeric, hparse, Option.map_some, hwidth] at hreq
      exact (Option.some.inj hreq).symm
    subst hn
    exact hne (IpAddress.eq_of_numeric_v4 hs hreq)
  rcases hvariant with ⟨b, -, hb⟩ | ⟨g, -, hg⟩
  · exact hno _ hb
  · exact hno _ hg

theorem Numbered.updateAllocation (h : Numbered sur.networks ipam) {ip : String}
    {updatedBy : Option String} {u : AllocationUpdate} :
    Numbered sur.networks (Ipam.updateAllocation sur ipam ip updatedBy u).1 := by
  rcases updateAllocation_cases sur ipam ip updatedBy u with ⟨a, hf, -, -, hsave⟩ | ⟨he, -⟩
  · exact h.save hsave (ipam.allocations.mem_of_find? hf) rfl rfl
  · rw [he]
    exact h

theorem networkId_markPrimary (sid : ServerId) (vmid : Vmid) (allocationId : Nat)
    (a : IPAMAllocation) : (markPrimary sid vmid allocationId a).networkId = a.networkId := by
  unfold markPrimary
  split
  · rfl
  · rfl

theorem Numbered.setPrimary (h : Numbered sur.networks ipam) {sid : ServerId} {vmid : Vmid}
    {allocationId : Nat} {changedBy : Option String} :
    Numbered sur.networks (Ipam.setPrimary sur ipam sid vmid allocationId changedBy).1 := by
  rcases setPrimary_cases sur ipam sid vmid allocationId changedBy with hrows | he
  · refine h.of_same fun b hb => ?_
    rw [hrows] at hb
    obtain ⟨a, ha, rfl⟩ := List.mem_map.mp hb
    exact ⟨a, ha, (ipAddress_markPrimary sid vmid allocationId a).symm,
      (networkId_markPrimary sid vmid allocationId a).symm⟩
  · rw [he]
    exact h

/-- A link of an address that has a row leaves every address alone. -/
theorem numbered_syncFromProxmoxVm_iff (h : Numbered sur.networks ipam) {req : SyncRequest} :
    Numbered sur.networks (Ipam.syncFromProxmoxVm sur ipam req).1 ↔
      ¬Clash sur ipam { ipAddress := req.ipAddress, networkId := req.networkId } := by
  unfold Ipam.syncFromProxmoxVm
  cases hf : ipam.allocations.find? req.ipAddress with
  | none => exact numbered_allocateIp_iff h
  | some existing =>
    have hmem := ipam.allocations.mem_of_find? hf
    have hno : ¬Clash sur ipam { ipAddress := req.ipAddress, networkId := req.networkId } := by
      rintro ⟨network, ip, hacc, -⟩
      have hnone := (checkAllocation_ok hacc.1).1
      rw [hf] at hnone
      cases hnone
    dsimp only
    refine iff_of_true ?_ hno
    split
    · exact h
    · split
      · exact h.updateAllocation
      · split
        · exact h.save rfl hmem rfl rfl
        · exact h

end Calls

/-! ### Sequences of calls -/

/-- The address that a call stores a row for when it has none. -/
def wanted (ipam : Ipam) (e : Surroundings × Call) : Option AllocationRequest :=
  match e.2 with
  | .allocateIp req => some { req with isPrimary := none }
  | .autoAllocateIp req =>
    (getNextAvailableIp e.1 ipam req.networkId req.poolId false).map fun ip =>
      { ipAddress := ip, networkId := req.networkId, poolId := req.poolId }
  | .syncFromProxmoxVm req => some { ipAddress := req.ipAddress, networkId := req.networkId }
  | _ => none

/-- The call stores no address that is there under another text. -/
def Unvaried (ipam : Ipam) (e : Surroundings × Call) : Prop :=
  ∀ req, wanted ipam e = some req → ¬Clash e.1 ipam req

/-- A call keeps the numbers apart exactly when it stores none under a second text. -/
theorem numbered_callStep_iff {ipam : Ipam} {e : Surroundings × Call}
    (h : Numbered e.1.networks ipam) :
    Numbered e.1.networks (callStep ipam e) ↔ Unvaried ipam e := by
  obtain ⟨sur, call⟩ := e
  have hnothing : ∀ {call : Call}, wanted ipam (sur, call) = none → Unvaried ipam (sur, call) := by
    intro call hnone req hreq
    rw [hnone] at hreq
    cases hreq
  have hsome : ∀ {call : Call} {req : AllocationRequest}, wanted ipam (sur, call) = some req →
      (Unvaried ipam (sur, call) ↔ ¬Clash sur ipam req) := by
    intro call req hreq
    constructor
    · exact fun hunvaried => hunvaried req hreq
    · intro hclash req' hreq'
      rw [hreq] at hreq'
      cases hreq'
      exact hclash
  cases call with
  | allocateIp req => exact (numbered_allocateIp_iff h).trans (hsome rfl).symm
  | autoAllocateIp req =>
    change Numbered sur.networks (Ipam.autoAllocateIp sur ipam req).1 ↔ _
    unfold Ipam.autoAllocateIp
    cases hnext : getNextAvailableIp sur ipam req.networkId req.poolId false with
    | none => exact iff_of_true h (hnothing (by simp [wanted, hnext]))
    | some ip =>
      have hwanted : wanted ipam (sur, .autoAllocateIp req) =
          some { ipAddress := ip, networkId := req.networkId, poolId := req.poolId } := by
        simp [wanted, hnext]
      exact (numbered_allocateIp_iff h).trans (hsome hwanted).symm
  | syncFromProxmoxVm req => exact (numbered_syncFromProxmoxVm_iff h).trans (hsome rfl).symm
  | updateAllocation ip updatedBy u => exact iff_of_true h.updateAllocation (hnothing rfl)
  | setPrimary sid vmid allocationId changedBy => exact iff_of_true h.setPrimary (hnothing rfl)
  | releaseIp ip releasedBy reason =>
    exact iff_of_true (h.mono fun _ => mem_of_mem_releaseIp) (hnothing rfl)
  | releaseIpByVmid sid vmid releasedBy reason =>
    exact iff_of_true (h.mono fun _ => mem_of_mem_releaseIpByVmid) (hnothing rfl)

/-- Calls on networks that do not change, from tables whose numbers are apart. -/
structure Numbering where
  networks : KeyedTable IPAMNetwork.id
  start : Ipam
  start_numbered : Numbered networks start
  calls : List (Surroundings × Call)
  same_networks : ∀ e ∈ calls, e.1.networks = networks

namespace Numbering

variable (c : Numbering)

/-- In networks of the fourth version no number has a second text. -/
theorem numbered_of_v4 (hv4 : ∀ network ∈ c.networks.rows, ∀ net,
    IpNetwork.parse network.network = some net → net.address.width = 32) :
    ∀ ipam ∈ visited callStep c.start c.calls, Numbered c.networks ipam := by
  refine (forall_visited_iff_guarded (fun ipam e he h => ?_) c.start_numbered).mpr
    (guarded_true callStep c.start c.calls)
  have hnetworks := c.same_networks e he
  rw [← hnetworks] at h hv4 ⊢
  exact iff_of_true ((numbered_callStep_iff h).mpr fun req _ => not_clash_of_v4 hv4) trivial

/-! ### A number with two texts -/

/-- A network of the sixth version and no pool. -/
def sixth (newId : Nat) : Surroundings :=
  { Surroundings.office newId with
    networks := ⟨[⟨1, "lab", "fd00::/64", some "fd00::ffff", none, true⟩], by decide⟩ }

/-- One address is allocated to two guests, with the zero groups left out and written. -/
def twice : Numbering where
  networks := (sixth 0).networks
  start := ⟨.empty, []⟩
  start_numbered := ⟨fun a ha => (by cases ha), fun a ha => (by cases ha)⟩
  calls :=
    [(sixth 1, .allocateIp (Session.requestFor "fd00::1" 100)),
      (sixth 2, .allocateIp (Session.requestFor "fd00:0:0:0:0:0:0:1" 101))]
  same_networks := by
    intro e he
    simp only [List.mem_cons, List.not_mem_nil, or_false] at he
    rcases he with rfl | rfl
    · rfl
    · rfl

end Numbering

end PveManager.Ipam
