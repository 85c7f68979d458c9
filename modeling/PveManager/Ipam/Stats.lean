import Mathlib.Algebra.Order.Field.Rat
import Mathlib.Order.Interval.Finset.Nat
import Mathlib.Tactic.Linarith
import PveManager.Core.Counted
import PveManager.Core.IpHosts
import PveManager.Ipam.Pools
import PveManager.Ipam.Uniqueness

/-!
# Address statistics

`get_network_stats` and `get_pool_stats` count rows by foreign key and take totals from the range.
Rows may be on the network and broadcast addresses, which are left out of the total, two rows may
have one address, and the pool of a row need not be the one around its address; the numbers fit
exactly when such rows do not tip the balance.
-/

namespace PveManager.Ipam

open PveManager.Core PveManager.Net

/-! ### What the service counts -/

/-- The result of `get_network_stats`. -/
structure NetworkStats where
  networkId : Nat
  networkName : String
  networkCidr : String
  totalIps : Nat
  allocatedIps : Nat
  reservedIps : Nat
  availableIps : Int
  utilizationPercent : ℚ
  poolsCount : Nat
  vmsCount : Nat
  lxcCount : Nat
  physicalCount : Nat
  otherCount : Nat

/-- The addresses of a network without the network and broadcast addresses. -/
def usableIps (net : IpNetwork) : Nat := if 2 < net.size then net.size - 2 else net.size

/-- `get_network_stats`; nothing for an unknown network. -/
def getNetworkStats (t : IpamTables) (networkId : Nat) : Option NetworkStats :=
  (t.networks.find? networkId).map fun network =>
    let totalIps := ((IpNetwork.parse network.network).map usableIps).getD 0
    let allocations := t.ipam.allocations.rows.filter fun a => decide (a.networkId = networkId)
    let allocatedIps := allocations.countP fun a => decide (a.status = "allocated")
    let reservedIps := allocations.countP fun a => decide (a.status = "reserved")
    { networkId := networkId
      networkName := network.name
      networkCidr := network.network
      totalIps := totalIps
      allocatedIps := allocatedIps
      reservedIps := reservedIps
      availableIps := totalIps - allocatedIps - reservedIps
      utilizationPercent :=
        if 0 < totalIps then ((allocatedIps + reservedIps : Nat) : ℚ) / totalIps * 100 else 0
      poolsCount := t.pools.rows.countP fun p => decide (p.networkId = networkId) && p.isActive
      vmsCount := allocations.countP fun a => decide (a.resourceType = some "vm")
      lxcCount := allocations.countP fun a => decide (a.resourceType = some "lxc")
      physicalCount := allocations.countP fun a => decide (a.resourceType = some "physical")
      otherCount := allocations.countP fun a =>
        decide (a.resourceType ∉ [some "vm", some "lxc", some "physical", none]) }

/-- The result of `get_pool_stats`. -/
structure PoolStats where
  poolId : Nat
  poolName : String
  totalIps : Int
  usedIps : Nat
  availableIps : Int

/-- `get_pool_stats`. -/
def getPoolStats (t : IpamTables) (poolId : Nat) : Option PoolStats :=
  (t.pools.find? poolId).map fun pool =>
    let totalIps : Int :=
      match IpAddress.parse pool.rangeStart, IpAddress.parse pool.rangeEnd with
      | some start, some stop => stop.toNat - start.toNat + 1
      | _, _ => 0
    let usedIps := t.ipam.allocations.rows.countP fun a =>
      decide (a.poolId = some poolId) && a.active
    { poolId := poolId
      poolName := pool.name
      totalIps := totalIps
      usedIps := usedIps
      availableIps := totalIps - usedIps }

/-! ### What there is -/

/-- The number of a row's address, with its version. -/
def number (a : IPAMAllocation) : Option (Nat × Nat) := IpAddress.numeric a.ipAddress

/-- Numbers of one version. -/
def numbersOf (width : Nat) (s : Finset Nat) : Finset (Nat × Nat) := s.image fun n => (width, n)

/-- The addresses of a network. -/
def networkNumbers (net : IpNetwork) : Finset (Nat × Nat) :=
  numbersOf net.address.width (Finset.Ico net.first (net.first + net.size))

/-- The addresses of a range. -/
def poolNumbers (p : IPAMPool) : Finset (Nat × Nat) :=
  match IpAddress.parse p.rangeStart, IpAddress.parse p.rangeEnd with
  | some start, some stop =>
    if start.width = stop.width then numbersOf start.width (Finset.Icc start.toNat stop.toNat)
    else ∅
  | _, _ => ∅

/-- The row is allocated or reserved in the network. -/
def inNetwork (networkId : Nat) (a : IPAMAllocation) : Bool :=
  decide (a.networkId = networkId) && a.active

/-- The row is allocated or reserved and filed under the pool. -/
def filedUnder (poolId : Nat) (a : IPAMAllocation) : Bool :=
  decide (a.poolId = some poolId) && a.active

/-- The addresses of a range that are neither allocated nor reserved. -/
def freeInRange (t : IpamTables) (p : IPAMPool) : Nat :=
  ((poolNumbers p).filter fun n =>
    hasKey t.ipam.allocations.rows number IPAMAllocation.active n = false).card

/-- The statistics fit what there is. -/
structure Consistent (t : IpamTables) : Prop where
  network : ∀ networkId stats, getNetworkStats t networkId = some stats →
    stats.allocatedIps + stats.reservedIps ≤ stats.totalIps ∧ 0 ≤ stats.availableIps ∧
      stats.utilizationPercent ≤ 100
  pool : ∀ pool ∈ t.pools.rows, ∀ stats, getPoolStats t pool.id = some stats →
    stats.availableIps = freeInRange t pool

/-! ### What tips the balance -/

/-- The rows of a network that repeat an address leave two of its addresses without a row, for the
two that are left out of the total. -/
def RoomLeft (t : IpamTables) (networkId : Nat) (net : IpNetwork) : Prop :=
  (t.ipam.allocations.rows.countP fun a => inNetwork networkId a &&
      !isFirst t.ipam.allocations.rows number (inNetwork networkId) a) +
    (if 2 < net.size then 2 else 0) ≤
  ((networkNumbers net).filter fun n =>
    hasKey t.ipam.allocations.rows number (inNetwork networkId) n = false).card

/-- The row is the first one for an address of the range. -/
def standsIn (t : IpamTables) (p : IPAMPool) (a : IPAMAllocation) : Bool :=
  isFirst t.ipam.allocations.rows number IPAMAllocation.active a && keyIn number (poolNumbers p) a

/-- As many rows are filed under the pool without standing for an address of its range as rows
that stand for one are not filed under it. -/
def Balanced (t : IpamTables) (p : IPAMPool) : Prop :=
  (t.ipam.allocations.rows.countP fun a => filedUnder p.id a && !standsIn t p a) =
    t.ipam.allocations.rows.countP fun a => standsIn t p a && !filedUnder p.id a

/-- The address of every row is in its network. -/
def Housed (t : IpamTables) : Prop :=
  ∀ a ∈ t.ipam.allocations.rows, ∃ network net ip, t.networks.find? a.networkId = some network ∧
    IpNetwork.parse network.network = some net ∧ IpAddress.parse a.ipAddress = some ip ∧
    net.contains ip = true

section Numbers

variable {t : IpamTables} {p : IPAMPool} {net : IpNetwork}

theorem card_numbersOf (width : Nat) (s : Finset Nat) : (numbersOf width s).card = s.card :=
  Finset.card_image_of_injective s fun _ _ h => (Prod.mk.inj h).2

theorem card_networkNumbers (net : IpNetwork) : (networkNumbers net).card = net.size := by
  rw [networkNumbers, card_numbersOf, Nat.card_Ico]
  omega

/-- An address of a network has a number of it. -/
theorem keyIn_networkNumbers {a : IPAMAllocation} {ip : IpAddress}
    (hip : IpAddress.parse a.ipAddress = some ip) (h : net.contains ip = true) :
    keyIn number (networkNumbers net) a = true := by
  obtain ⟨hwidth, hge, hlt⟩ := net.contains_iff.mp h
  unfold keyIn number IpAddress.numeric
  rw [hip, Option.map_some, Option.any_some, decide_eq_true_eq]
  refine Finset.mem_image.mpr ⟨ip.toNat, Finset.mem_Ico.mpr ⟨hge, hlt⟩, ?_⟩
  rw [hwidth]

/-- Keys with and without a row. -/
theorem card_split {κ : Type} [DecidableEq κ] (S : Finset κ) (f : κ → Bool) :
    (S.filter fun k => f k = true).card + (S.filter fun k => f k = false).card = S.card := by
  have h := Finset.card_filter_add_card_filter_not (s := S) fun k => f k = true
  simpa only [Bool.not_eq_true] using h

/-- The rows of a network are the first ones for its addresses and those that repeat one. -/
theorem countP_inNetwork (h : Housed t) {networkId : Nat} {network : IPAMNetwork}
    (hfind : t.networks.find? networkId = some network)
    (hnet : IpNetwork.parse network.network = some net) :
    t.ipam.allocations.rows.countP (inNetwork networkId) =
      ((networkNumbers net).filter fun n =>
        hasKey t.ipam.allocations.rows number (inNetwork networkId) n = true).card +
      t.ipam.allocations.rows.countP fun a => inNetwork networkId a &&
        !isFirst t.ipam.allocations.rows number (inNetwork networkId) a := by
  have hnodup : t.ipam.allocations.rows.Nodup := t.ipam.allocations.keys_nodup.of_map _
  rw [card_hasKey number (inNetwork networkId) hnodup]
  have hfirst : (t.ipam.allocations.rows.countP fun a =>
        isFirst t.ipam.allocations.rows number (inNetwork networkId) a &&
          keyIn number (networkNumbers net) a) =
      t.ipam.allocations.rows.countP fun a => inNetwork networkId a &&
        isFirst t.ipam.allocations.rows number (inNetwork networkId) a := by
    refine List.countP_congr fun a ha => ?_
    rw [Bool.and_eq_true, Bool.and_eq_true]
    constructor
    · rintro ⟨hfirst, -⟩
      exact ⟨(of_isFirst hfirst).2, hfirst⟩
    · rintro ⟨hin, hfirst⟩
      refine ⟨hfirst, ?_⟩
      obtain ⟨network', net', ip, hfind', hnet', hip, hcontains⟩ := h a ha
      unfold inNetwork at hin
      rw [Bool.and_eq_true, decide_eq_true_eq] at hin
      rw [hin.1, hfind] at hfind'
      obtain rfl := Option.some.inj hfind'
      obtain rfl := Option.some.inj (hnet.symm.trans hnet')
      exact keyIn_networkNumbers hip hcontains
  rw [hfirst]
  exact countP_split _ _ _

/-- Filtering by network first or counting both at once. -/
theorem countP_filter_network (l : List IPAMAllocation) (networkId : Nat) :
    ((l.filter fun a => decide (a.networkId = networkId)).countP fun a =>
        decide (a.status = "allocated")) +
      ((l.filter fun a => decide (a.networkId = networkId)).countP fun a =>
        decide (a.status = "reserved")) = l.countP (inNetwork networkId) := by
  induction l with
  | nil => rfl
  | cons a l ih =>
    have hne : ¬(a.status = "allocated" ∧ a.status = "reserved") := fun h =>
      absurd (h.1.symm.trans h.2) (by decide)
    rw [List.filter_cons, List.countP_cons, ← ih]
    unfold inNetwork IPAMAllocation.active
    by_cases hid : a.networkId = networkId
    · rw [if_pos (decide_eq_true hid), List.countP_cons, List.countP_cons]
      by_cases hallocated : a.status = "allocated"
      · simp [hid, hallocated]
        omega
      · by_cases hreserved : a.status = "reserved"
        · simp [hid, hreserved]
          omega
        · simp [hid, hallocated, hreserved]
    · rw [if_neg (by simp [hid])]
      simp [hid]

/-- The numbers of a network fit exactly when the rows leave room. -/
theorem networkStats_iff (h : Housed t) {networkId : Nat} {network : IPAMNetwork}
    {stats : NetworkStats} (hfind : t.networks.find? networkId = some network)
    (hstats : getNetworkStats t networkId = some stats) :
    (stats.allocatedIps + stats.reservedIps ≤ stats.totalIps ∧ 0 ≤ stats.availableIps ∧
        stats.utilizationPercent ≤ 100) ↔
      ∀ net, IpNetwork.parse network.network = some net → RoomLeft t networkId net := by
  unfold getNetworkStats at hstats
  rw [hfind, Option.map_some] at hstats
  obtain rfl := Option.some.inj hstats
  have hcount := countP_filter_network t.ipam.allocations.rows networkId
  dsimp only
  generalize (t.ipam.allocations.rows.filter fun a => decide (a.networkId = networkId)).countP
    (fun a => decide (a.status = "allocated")) = allocated at hcount ⊢
  generalize (t.ipam.allocations.rows.filter fun a => decide (a.networkId = networkId)).countP
    (fun a => decide (a.status = "reserved")) = reserved at hcount ⊢
  have hall : ∀ total : Nat, (allocated + reserved ≤ total ∧
      0 ≤ (total : Int) - allocated - reserved ∧
        (if 0 < total then ((allocated + reserved : Nat) : ℚ) / total * 100 else 0) ≤ 100) ↔
      t.ipam.allocations.rows.countP (inNetwork networkId) ≤ total := by
    intro total
    rw [← hcount]
    constructor
    · exact fun h => h.1
    · intro hle
      refine ⟨hle, by omega, ?_⟩
      split
      · rename_i hpos
        have hpos' : (0 : ℚ) < total := Nat.cast_pos.mpr hpos
        have hle' : ((allocated + reserved : Nat) : ℚ) ≤ total := Nat.cast_le.mpr hle
        have hone := div_le_one_of_le₀ hle' hpos'.le
        linarith
      · norm_num
  rw [hall]
  cases hnet : IpNetwork.parse network.network with
  | none =>
    have hzero : t.ipam.allocations.rows.countP (inNetwork networkId) = 0 := by
      refine List.countP_eq_zero.mpr fun a ha hin => ?_
      obtain ⟨network', net', -, hfind', hnet', -⟩ := h a ha
      unfold inNetwork at hin
      rw [Bool.and_eq_true, decide_eq_true_eq] at hin
      rw [hin.1, hfind] at hfind'
      obtain rfl := Option.some.inj hfind'
      rw [hnet] at hnet'
      cases hnet'
    rw [hzero]
    exact iff_of_true (Nat.zero_le _) fun net h => nomatch h
  | some net =>
    have hrows := countP_inNetwork h hfind hnet
    have hsplit := card_split (networkNumbers net)
      (hasKey t.ipam.allocations.rows number (inNetwork networkId))
    rw [card_networkNumbers] at hsplit
    have hroom : RoomLeft t networkId net ↔
        t.ipam.allocations.rows.countP (inNetwork networkId) ≤ usableIps net := by
      unfold RoomLeft usableIps
      rw [hrows]
      split
      · omega
      · omega
    rw [Option.map_some, Option.getD_some, ← hroom]
    constructor
    · intro hleft net' hsame
      obtain rfl := Option.some.inj hsame
      exact hleft
    · exact fun hleft => hleft net rfl

/-- The numbers of a pool inside its network fit exactly when the pool is balanced. -/
theorem poolStats_iff (hinside : Inside t.networks p) (hp : p ∈ t.pools.rows) {stats : PoolStats}
    (hstats : getPoolStats t p.id = some stats) :
    stats.availableIps = freeInRange t p ↔ Balanced t p := by
  have hnodup : t.ipam.allocations.rows.Nodup := t.ipam.allocations.keys_nodup.of_map _
  obtain ⟨network, net, start, stop, -, -, hs, hs', hle, hin, hin'⟩ := hinside
  have hwidth : start.width = stop.width :=
    (net.contains_iff.mp hin).1.trans (net.contains_iff.mp hin').1.symm
  have horder : start.toNat ≤ stop.toNat := by
    unfold IpAddress.le? at hle
    rw [if_pos hwidth, Option.some.injEq, decide_eq_true_eq] at hle
    rcases hle with hlt | rfl
    · exact hlt.le
    · exact Nat.le_refl _
  have hcard : (poolNumbers p).card = stop.toNat + 1 - start.toNat := by
    unfold poolNumbers
    rw [hs, hs']
    dsimp only
    rw [if_pos hwidth, card_numbersOf, Nat.card_Icc]
  have hsplit := card_split (poolNumbers p)
    (hasKey t.ipam.allocations.rows number IPAMAllocation.active)
  have hfirst := card_hasKey number IPAMAllocation.active hnodup (poolNumbers p)
  have hbalance := countP_eq_iff_alone t.ipam.allocations.rows (filedUnder p.id) (standsIn t p)
  unfold getPoolStats at hstats
  rw [t.pools.find?_key hp, Option.map_some] at hstats
  obtain rfl := Option.some.inj hstats
  dsimp only
  rw [hs, hs']
  dsimp only
  unfold Balanced freeInRange
  rw [← hbalance]
  have hused : (t.ipam.allocations.rows.countP fun a => decide (a.poolId = some p.id) && a.active) =
      t.ipam.allocations.rows.countP (filedUnder p.id) := rfl
  have hstands : (t.ipam.allocations.rows.countP fun a =>
      isFirst t.ipam.allocations.rows number IPAMAllocation.active a &&
        keyIn number (poolNumbers p) a) = t.ipam.allocations.rows.countP (standsIn t p) := rfl
  rw [hused]
  rw [hstands] at hfirst
  omega

end Numbers

/-! ### Every row stays in its network -/

/-- What a call does to the allocations, with the networks it leaves. -/
inductive RowChanges (t t' : IpamTables) : Prop
  | kept (hrows : t'.ipam.allocations = t.ipam.allocations)
      (hkeep : ∀ id network, t.networks.find? id = some network →
        ∃ network', t'.networks.find? id = some network' ∧ network'.network = network.network)
  | networkRemoved (id : Nat) (hn : t'.networks = t.networks.erase id)
      (hrows : t'.ipam.allocations =
        t.ipam.allocations.filter fun a => decide (a.networkId ≠ id))
  | poolDropped (poolId : Nat) (hn : t'.networks = t.networks)
      (hrows : t'.ipam.allocations = t.ipam.allocations.mapRows (dropPool poolId)
        (ipAddress_dropPool poolId))
  | called (sur : Surroundings) (call : Call) (hsur : sur.networks = t.networks)
      (hn : t'.networks = t.networks) (hrows : t'.ipam = callStep t.ipam (sur, call))

section Housed

variable {t t' : IpamTables} {newId : Nat} {commits : Bool}

/-- A stored network with the addresses of the old one, if there is one. -/
theorem RowChanges.saved {n : IPAMNetwork}
    (hcidr : ∀ old, t.networks.find? n.id = some old → n.network = old.network)
    (hn : t'.networks = t.networks.save n) (hrows : t'.ipam.allocations = t.ipam.allocations) :
    RowChanges t t' := by
  refine .kept hrows fun id network hold => ?_
  rw [hn, KeyedTable.find?_save]
  by_cases hid : n.id = id
  · subst hid
    exact ⟨n, if_pos rfl, hcidr network hold⟩
  · exact ⟨network, (if_neg hid).trans hold, rfl⟩

/-- Pools do not concern the allocations. -/
theorem RowChanges.of_same (hn : t'.networks = t.networks)
    (hrows : t'.ipam.allocations = t.ipam.allocations) : RowChanges t t' :=
  .kept hrows fun _ network h => ⟨network, hn ▸ h, rfl⟩

/-- What the writes come to for the allocations. -/
theorem Writes.rowChanges (h : Writes t t') : RowChanges t t' := by
  cases h with
  | nothing => exact .of_same rfl rfl
  | networkAdded n hnew =>
    refine .saved (fun old hold => ?_) rfl rfl
    cases hnew.symm.trans hold
  | networkEdited n n' hfind hsame =>
    refine .saved (fun old hold => ?_) rfl rfl
    rw [hsame, Option.some.inj (hfind.symm.trans hold)]
  | networkRemoved id => exact .networkRemoved id rfl rfl
  | poolAdded p hnew hvalid => exact .of_same rfl rfl
  | poolEdited p p' hfind hnetwork hvalid => exact .of_same rfl rfl
  | poolRemoved id => exact .poolDropped id rfl rfl
  | served sur call hsur => exact .called sur call hsur rfl rfl

theorem rowChanges_step (t : IpamTables) (r : IpamRequest) : RowChanges t (t.step r) :=
  (writes_step t r).rowChanges

/-- A row after a call of the service is an old one, perhaps edited, or was accepted. -/
theorem mem_rows_callStep {ipam : Ipam} {sur : Surroundings} {call : Call} {b : IPAMAllocation}
    (hb : b ∈ (callStep ipam (sur, call)).allocations.rows) :
    (∃ a ∈ ipam.allocations.rows, a.ipAddress = b.ipAddress ∧ a.networkId = b.networkId) ∨
      ∃ network net ip, sur.networks.find? b.networkId = some network ∧
        IpNetwork.parse network.network = some net ∧ IpAddress.parse b.ipAddress = some ip ∧
        net.contains ip = true := by
  have hsame : b ∈ ipam.allocations.rows → (∃ a ∈ ipam.allocations.rows,
      a.ipAddress = b.ipAddress ∧ a.networkId = b.networkId) := fun h => ⟨b, h, rfl, rfl⟩
  have hallocate : ∀ req, b ∈ (Ipam.allocateIp sur ipam req).1.allocations.rows →
      (∃ a ∈ ipam.allocations.rows, a.ipAddress = b.ipAddress ∧ a.networkId = b.networkId) ∨
        ∃ network net ip, sur.networks.find? b.networkId = some network ∧
          IpNetwork.parse network.network = some net ∧ IpAddress.parse b.ipAddress = some ip ∧
          net.contains ip = true := by
    intro req hb
    rcases rows_allocateIp sur ipam req with ⟨network, ip, a, hacc, hip, hnet, hrows⟩ | ⟨-, he⟩
    · rw [hrows, List.mem_append, List.mem_singleton] at hb
      rcases hb with hb | rfl
      · exact Or.inl (hsame hb)
      · obtain ⟨-, hfind, hparse⟩ := checkAllocation_ok hacc.1
        obtain ⟨⟨net, hpnet, hcontains⟩, -⟩ := checkAllocation_within hacc.1
        exact Or.inr ⟨network, net, ip, by rw [hnet, hfind], hpnet, by rw [hip, hparse], hcontains⟩
    · rw [he] at hb
      exact Or.inl (hsame hb)
  have hsave : ∀ {a a' : IPAMAllocation}, a ∈ ipam.allocations.rows →
      b ∈ (ipam.allocations.save a').rows → a.ipAddress = a'.ipAddress →
      a.networkId = a'.networkId →
      (∃ a ∈ ipam.allocations.rows, a.ipAddress = b.ipAddress ∧ a.networkId = b.networkId) := by
    intro a a' ha hb hip hnet
    rw [KeyedTable.mem_rows_save] at hb
    rcases hb with rfl | ⟨hb, -⟩
    · exact ⟨a, ha, hip, hnet⟩
    · exact hsame hb
  have hupdate : ∀ ip updatedBy u,
      b ∈ (Ipam.updateAllocation sur ipam ip updatedBy u).1.allocations.rows →
      (∃ a ∈ ipam.allocations.rows, a.ipAddress = b.ipAddress ∧ a.networkId = b.networkId) := by
    intro ip updatedBy u hb
    rcases updateAllocation_cases sur ipam ip updatedBy u with ⟨a, hf, -, -, hrows⟩ | ⟨he, -⟩
    · rw [hrows] at hb
      exact hsave (ipam.allocations.mem_of_find? hf) hb rfl rfl
    · rw [he] at hb
      exact hsame hb
  cases call with
  | allocateIp req => exact hallocate _ hb
  | autoAllocateIp req =>
    change b ∈ (Ipam.autoAllocateIp sur ipam req).1.allocations.rows at hb
    unfold Ipam.autoAllocateIp at hb
    split at hb
    · exact Or.inl (hsame hb)
    · exact hallocate _ hb
  | syncFromProxmoxVm req =>
    change b ∈ (Ipam.syncFromProxmoxVm sur ipam req).1.allocations.rows at hb
    unfold Ipam.syncFromProxmoxVm at hb
    split at hb
    · rename_i existing hf
      refine Or.inl ?_
      split at hb
      · exact hsame hb
      · split at hb
        · exact hupdate _ _ _ hb
        · split at hb
          · dsimp only at hb
            exact hsave (ipam.allocations.mem_of_find? hf) hb rfl rfl
          · exact hsame hb
    · exact hallocate _ hb
  | updateAllocation ip updatedBy u => exact Or.inl (hupdate ip updatedBy u hb)
  | setPrimary sid vmid allocationId changedBy =>
    refine Or.inl ?_
    change b ∈ (Ipam.setPrimary sur ipam sid vmid allocationId changedBy).1.allocations.rows at hb
    rcases setPrimary_cases sur ipam sid vmid allocationId changedBy with hrows | he
    · rw [hrows] at hb
      obtain ⟨a, ha, rfl⟩ := List.mem_map.mp hb
      exact ⟨a, ha, (ipAddress_markPrimary sid vmid allocationId a).symm,
        (networkId_markPrimary sid vmid allocationId a).symm⟩
    · rw [he] at hb
      exact hsame hb
  | releaseIp ip releasedBy reason => exact Or.inl (hsame (mem_of_mem_releaseIp hb))
  | releaseIpByVmid sid vmid releasedBy reason =>
    exact Or.inl (hsame (mem_of_mem_releaseIpByVmid hb))

/-- Every call leaves the rows in their networks. -/
theorem Housed.changes (h : Housed t) (hchanges : RowChanges t t') : Housed t' := by
  have hsame : ∀ {a b : IPAMAllocation}, a ∈ t.ipam.allocations.rows →
      a.ipAddress = b.ipAddress → a.networkId = b.networkId → t'.networks = t.networks →
      ∃ network net ip, t'.networks.find? b.networkId = some network ∧
        IpNetwork.parse network.network = some net ∧ IpAddress.parse b.ipAddress = some ip ∧
        net.contains ip = true := by
    intro a b ha hip hnet hn
    rw [hn, ← hip, ← hnet]
    exact h a ha
  intro b hb
  cases hchanges with
  | kept hrows hkeep =>
    rw [hrows] at hb
    obtain ⟨network, net, ip, hfind, hnet, hip, hcontains⟩ := h b hb
    obtain ⟨network', hfind', hcidr⟩ := hkeep _ network hfind
    exact ⟨network', net, ip, hfind', hcidr ▸ hnet, hip, hcontains⟩
  | networkRemoved id hn hrows =>
    rw [hrows, KeyedTable.rows_filter, List.mem_filter, decide_eq_true_eq] at hb
    obtain ⟨network, net, ip, hfind, hrest⟩ := h b hb.1
    refine ⟨network, net, ip, ?_, hrest⟩
    rw [hn, KeyedTable.find?_erase, if_neg hb.2, hfind]
  | poolDropped poolId hn hrows =>
    rw [hrows, KeyedTable.rows_mapRows] at hb
    obtain ⟨a, ha, rfl⟩ := List.mem_map.mp hb
    exact hsame ha rfl rfl hn
  | called sur call hsur hn hrows =>
    rw [hrows] at hb
    rcases mem_rows_callStep hb with ⟨a, ha, hip, hnet⟩ | haccepted
    · exact hsame ha hip hnet hn
    · rw [hn, ← hsur]
      exact haccepted

end Housed

/-- No row is misplaced where there is none. -/
theorem housed_of_empty : Housed ⟨.empty, .empty, ⟨.empty, []⟩⟩ :=
  fun _ h => absurd h List.not_mem_nil

/-! ### When the statistics fit -/

/-- In order, with rows in their networks. -/
theorem consistent_iff {t : IpamTables} (horderly : Orderly t) (hhoused : Housed t) :
    Consistent t ↔
      (∀ network ∈ t.networks.rows, ∀ net, IpNetwork.parse network.network = some net →
        RoomLeft t network.id net) ∧ ∀ pool ∈ t.pools.rows, Balanced t pool := by
  constructor
  · intro h
    refine ⟨fun network hrow => ?_, fun pool hp => ?_⟩
    · have hfind := t.networks.find?_key hrow
      have hstats : ∃ stats, getNetworkStats t network.id = some stats := by
        unfold getNetworkStats
        rw [hfind]
        exact ⟨_, rfl⟩
      obtain ⟨stats, hstats⟩ := hstats
      exact (networkStats_iff hhoused hfind hstats).mp (h.network _ stats hstats)
    · have hstats : ∃ stats, getPoolStats t pool.id = some stats := by
        unfold getPoolStats
        rw [t.pools.find?_key hp]
        exact ⟨_, rfl⟩
      obtain ⟨stats, hstats⟩ := hstats
      exact (poolStats_iff (horderly.inside pool hp) hp hstats).mp (h.pool pool hp stats hstats)
  · rintro ⟨hroom, hbalanced⟩
    refine ⟨fun networkId stats hstats => ?_, fun pool hp stats hstats => ?_⟩
    · cases hfind : t.networks.find? networkId with
      | none =>
        unfold getNetworkStats at hstats
        rw [hfind] at hstats
        cases hstats
      | some network =>
        have hid : network.id = networkId := t.networks.key_of_find? hfind
        refine (networkStats_iff hhoused hfind hstats).mpr fun net hnet => ?_
        rw [← hid]
        exact hroom network (t.networks.mem_of_find? hfind) net hnet
    · exact (poolStats_iff (horderly.inside pool hp) hp hstats).mpr (hbalanced pool hp)

/-- In every state that the calls reach the statistics fit exactly when each network has room left
and each pool is balanced. -/
theorem consistent_iff_of_calls (requests : List IpamRequest) :
    ∀ t ∈ visited IpamTables.step ⟨.empty, .empty, ⟨.empty, []⟩⟩ requests,
      (Consistent t ↔
        (∀ network ∈ t.networks.rows, ∀ net, IpNetwork.parse network.network = some net →
          RoomLeft t network.id net) ∧ ∀ pool ∈ t.pools.rows, Balanced t pool) := by
  intro t ht
  have horderly : Orderly t := invariant_of_step (fun t r h => h.changes (changes_step t r))
    orderly_of_empty requests t ht
  have hhoused : Housed t := invariant_of_step (fun t r h => h.changes (rowChanges_step t r))
    housed_of_empty requests t ht
  exact consistent_iff horderly hhoused

/-- An address behind the pool is filed under it. -/
def strayCalls : List IpamRequest :=
  officeCalls ++ [⟨⟨1, "admin", true, none, []⟩, 1, true,
    .service (Surroundings.office 1)
      (.allocateIp { ipAddress := "10.0.0.50", networkId := 1, poolId := some 1 })⟩]

/-- The pool then counts an address as used that is not in its range. -/
theorem strayCalls_not_consistent :
    ¬∀ t ∈ visited IpamTables.step ⟨.empty, .empty, ⟨.empty, []⟩⟩ strayCalls, Consistent t := by
  intro h
  have hlast := h _ (foldl_mem_visited _ _ _)
  have hpool : (strayCalls.foldl IpamTables.step ⟨.empty, .empty, ⟨.empty, []⟩⟩).pools.find? 1 =
      some ⟨1, 1, "desks", "10.0.0.10", "10.0.0.19", true, true⟩ := by decide +kernel
  have hstats : (getPoolStats (strayCalls.foldl IpamTables.step
      ⟨.empty, .empty, ⟨.empty, []⟩⟩) 1).map PoolStats.availableIps = some 9 := by decide +kernel
  have hfree : freeInRange (strayCalls.foldl IpamTables.step ⟨.empty, .empty, ⟨.empty, []⟩⟩)
      ⟨1, 1, "desks", "10.0.0.10", "10.0.0.19", true, true⟩ = 10 := by decide +kernel
  obtain ⟨stats, hstats, havailable⟩ := Option.map_eq_some_iff.mp hstats
  have hmem := KeyedTable.mem_of_find? _ hpool
  have hfits := hlast.pool _ hmem stats hstats
  rw [havailable, hfree] at hfits
  exact absurd hfits (by decide)

theorem consistent_iff_strayCalls :
    Consistent (strayCalls.foldl IpamTables.step ⟨.empty, .empty, ⟨.empty, []⟩⟩) ↔
      (∀ network ∈ (strayCalls.foldl IpamTables.step
          ⟨.empty, .empty, ⟨.empty, []⟩⟩).networks.rows,
        ∀ net, IpNetwork.parse network.network = some net →
          RoomLeft (strayCalls.foldl IpamTables.step ⟨.empty, .empty, ⟨.empty, []⟩⟩)
            network.id net) ∧
        ∀ pool ∈ (strayCalls.foldl IpamTables.step ⟨.empty, .empty, ⟨.empty, []⟩⟩).pools.rows,
          Balanced (strayCalls.foldl IpamTables.step ⟨.empty, .empty, ⟨.empty, []⟩⟩) pool :=
  consistent_iff_of_calls strayCalls _ (foldl_mem_visited _ _ _)

end PveManager.Ipam
