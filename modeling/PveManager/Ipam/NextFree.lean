import PveManager.Core.FirstFrom
import PveManager.Core.IpHosts
import PveManager.Core.Listed
import PveManager.Ipam.Service

/-!
# The next free address

`get_next_available_ip` against what it is for: the lowest free address of the first pool that has
one, and with a scan the first free host. The search compares texts and makes addresses of numbers,
so it meets this where, up to the first free address, the numbers stand for the addresses of the
range and each taken address is recorded in the text that is made for it.
-/

namespace PveManager.Ipam

open PveManager.Core PveManager.Net

/-! ### Free addresses -/

/-- The text is one of the address. -/
def denotes (ip : String) (a : IpAddress) : Bool := decide (IpAddress.parse ip = some a)

/-- Allocated anywhere, or the gateway. -/
def taken (ipam : Ipam) (network : IPAMNetwork) (a : IpAddress) : Bool :=
  (ipam.allocations.rows.any fun row => denotes row.ipAddress a) ||
    network.gateway.any fun ip => denotes ip a

/-- The address of a live guest or of a server. -/
def used (sur : Surroundings) (a : IpAddress) : Bool :=
  (sur.vms.rows.any fun r => r.live && r.ipAddress.any fun ip => denotes ip a) ||
    sur.servers.rows.any fun s => denotes s.ipAddress a

/-- A recorded text is one of its address. -/
theorem taken_of_occupied {ipam : Ipam} {network : IPAMNetwork} {a : IpAddress}
    (ha : a.wellScoped = true) (h : ipam.occupied network a.text = true) :
    taken ipam network a = true := by
  have hden : ∀ {ip : String}, ip = a.text → denotes ip a = true := by
    rintro ip rfl
    exact decide_eq_true (IpAddress.parse_text ha)
  unfold occupied at h
  unfold taken
  rw [Bool.or_eq_true, List.any_eq_true, Bool.and_eq_true, decide_eq_true_eq] at h
  rw [Bool.or_eq_true, List.any_eq_true]
  rcases h with ⟨row, hrow, hip⟩ | ⟨-, hgateway⟩
  · exact Or.inl ⟨row, hrow, hden (of_decide_eq_true hip)⟩
  · rw [hgateway]
    exact Or.inr (hden rfl)

/-! ### What the search is for -/

/-- The pools that a call searches. -/
def Searched (sur : Surroundings) (networkId : Nat) (poolId : Option Nat) (p : IPAMPool) : Prop :=
  p ∈ sur.pools.rows ∧ p.networkId = networkId ∧ p.isActive = true ∧ p.autoAssign = true ∧
    ∀ id, poolId.filter (· ≠ 0) = some id → p.id = id

/-- The address is in the range by its number; an invalid range has none. -/
def InRange (p : IPAMPool) (a : IpAddress) : Prop :=
  a.plain = true ∧ ∃ start stop, IpAddress.parse p.rangeStart = some start ∧
    IpAddress.parse p.rangeEnd = some stop ∧ start.width = a.width ∧ stop.width = a.width ∧
    start.toNat ≤ a.toNat ∧ a.toNat ≤ stop.toNat

/-- No address of the range is free. -/
def Exhausted (ipam : Ipam) (network : IPAMNetwork) (p : IPAMPool) : Prop :=
  ∀ a, InRange p a → taken ipam network a = true

/-- The answer that a call owes. -/
inductive NextFree (sur : Surroundings) (ipam : Ipam) (networkId : Nat) (poolId : Option Nat)
    (allowNetworkScan : Bool) : Option IpAddress → Prop
  /-- There is no active network. -/
  | inactive (h : ∀ network, sur.networks.find? networkId = some network →
      network.isActive = false) : NextFree sur ipam networkId poolId allowNetworkScan none
  /-- The lowest free address of the first pool that is not exhausted. -/
  | inPool {network : IPAMNetwork} (hfind : sur.networks.find? networkId = some network)
      (hactive : network.isActive = true) {p : IPAMPool} (hp : Searched sur networkId poolId p)
      {a : IpAddress} (ha : InRange p a) (hfree : taken ipam network a = false)
      (hfirst : ∀ b, InRange p b → b.toNat < a.toNat → taken ipam network b = true)
      (hbefore : ∀ q, Searched sur networkId poolId q → q.id < p.id → Exhausted ipam network q) :
      NextFree sur ipam networkId poolId allowNetworkScan (some a)
  /-- With a scan, the first host that is neither taken nor used. -/
  | host {network : IPAMNetwork} (hfind : sur.networks.find? networkId = some network)
      (hactive : network.isActive = true) (hscan : allowNetworkScan = true)
      (hpool : poolId.filter (· ≠ 0) = none)
      (hpools : ∀ q, Searched sur networkId poolId q → Exhausted ipam network q)
      {net : IpNetwork} (hnet : IpNetwork.parse network.network = some net) {a : IpAddress}
      (ha : net.IsHost a) (hfree : taken ipam network a = false) (hunused : used sur a = false)
      (hfirst : ∀ b, net.IsHost b → b.toNat < a.toNat →
        taken ipam network b = true ∨ used sur b = true) :
      NextFree sur ipam networkId poolId allowNetworkScan (some a)
  /-- Nothing is left. -/
  | exhausted {network : IPAMNetwork} (hfind : sur.networks.find? networkId = some network)
      (hactive : network.isActive = true)
      (hpools : ∀ q, Searched sur networkId poolId q → Exhausted ipam network q)
      (hhosts : allowNetworkScan = true → poolId.filter (· ≠ 0) = none →
        ∀ net, IpNetwork.parse network.network = some net →
          ∀ a, net.IsHost a → taken ipam network a = true ∨ used sur a = true) :
      NextFree sur ipam networkId poolId allowNetworkScan none

/-- Every call on the network gives the answer that it owes. -/
def Specified (sur : Surroundings) (ipam : Ipam) (networkId : Nat) : Prop :=
  ∀ poolId allowNetworkScan, ∃ answer,
    NextFree sur ipam networkId poolId allowNetworkScan answer ∧
      getNextAvailableIp sur ipam networkId poolId allowNetworkScan = answer.map IpAddress.text

/-! ### Where the texts are clear -/

/-- The address that the service takes for free at a number. -/
def offered (ipam : Ipam) (network : IPAMNetwork) (n : Nat) : Option IpAddress :=
  (IpAddress.ofNat? n).filter fun a => !ipam.occupied network a.text

/-- The free address of a range at a number. -/
def due (ipam : Ipam) (network : IPAMNetwork) (start stop : IpAddress) (n : Nat) :
    Option IpAddress :=
  if start.width = stop.width then (start.renumbered n).filter fun a => !taken ipam network a
  else none

def offeredHost (sur : Surroundings) (ipam : Ipam) (network : IPAMNetwork) (net : IpNetwork)
    (n : Nat) : Option IpAddress :=
  (net.hostAt n).filter fun a => !(ipam.occupied network a.text || known sur a.text)

def dueHost (sur : Surroundings) (ipam : Ipam) (network : IPAMNetwork) (net : IpNetwork)
    (n : Nat) : Option IpAddress :=
  (net.hostAt n).filter fun a => !(taken ipam network a || used sur a)

/-- Up to the first free address of the range its numbers offer what is free. -/
def PoolClear (ipam : Ipam) (network : IPAMNetwork) (p : IPAMPool) : Prop :=
  ∀ start stop, IpAddress.parse p.rangeStart = some start →
    IpAddress.parse p.rangeEnd = some stop →
    AgreeToFirst (offered ipam network) (due ipam network start stop) start.toNat
      (stop.toNat + 1 - start.toNat)

/-- The same for the hosts. -/
def HostsClear (sur : Surroundings) (ipam : Ipam) (network : IPAMNetwork) : Prop :=
  ∀ net, IpNetwork.parse network.network = some net →
    AgreeToFirst (offeredHost sur ipam network net) (dueHost sur ipam network net) net.hosts.1
      net.hosts.2

/-- The pools of an active network are clear, and so are its hosts when all pools are exhausted. -/
def Clear (sur : Surroundings) (ipam : Ipam) (networkId : Nat) : Prop :=
  ∀ network, sur.networks.find? networkId = some network → network.isActive = true →
    (∀ p, Searched sur networkId none p → PoolClear ipam network p) ∧
      ((∀ p, Searched sur networkId none p → Exhausted ipam network p) →
        HostsClear sur ipam network)

/-! ### The search of a pool -/

/-- The first answer among the numbers of a range. -/
def firstInPool (answer : IpAddress → IpAddress → Nat → Option IpAddress) (p : IPAMPool) :
    Option IpAddress :=
  match IpAddress.parse p.rangeStart, IpAddress.parse p.rangeEnd with
  | some start, some stop =>
    firstFrom (answer start stop) start.toNat (stop.toNat + 1 - start.toNat)
  | _, _ => none

section Search

variable {sur : Surroundings} {ipam : Ipam} {network : IPAMNetwork} {networkId : Nat}
  {poolId : Option Nat} {allowNetworkScan : Bool} {p : IPAMPool} {a : IpAddress}

theorem firstFree_eq {address : Nat → Option IpAddress} {occupied : String → Bool}
    {start count : Nat} (h : ∀ n, n < start + count → ∃ a, address n = some a) :
    firstFree address occupied start count =
      (firstFrom (fun n => (address n).filter fun a => !occupied a.text) start count).map
        IpAddress.text := by
  induction count generalizing start with
  | zero => rfl
  | succ count ih =>
    obtain ⟨a, ha⟩ := h start (by omega)
    rw [firstFree, firstFrom, ha, Option.map_some, ih fun n hn => h n (by omega),
      Option.filter_some]
    dsimp only
    cases hoccupied : occupied a.text with
    | true => rfl
    | false => rfl

theorem freeInPool_eq : freeInPool (ipam.occupied network) p =
    (firstInPool (fun _ _ => offered ipam network) p).map IpAddress.text := by
  unfold freeInPool firstInPool
  cases IpAddress.parse p.rangeStart with
  | none => rfl
  | some start =>
    cases IpAddress.parse p.rangeEnd with
    | none => rfl
    | some stop =>
      refine firstFree_eq fun n hn => IpAddress.exists_ofNat? ?_
      have hstart := start.toNat_lt
      have hstop := stop.toNat_lt
      have hwidth : ∀ a : IpAddress, 2 ^ a.width ≤ 2 ^ 128 := by
        intro a
        cases a with
        | v4 m => exact Nat.pow_le_pow_right (by decide) (show 32 ≤ 128 by decide)
        | v6 m scope => exact Nat.le_refl _
      have hstart' := hwidth start
      have hstop' := hwidth stop
      omega

theorem offered_eq_some {n : Nat} (h : offered ipam network n = some a) :
    a.plain = true ∧ a.toNat = n := by
  have hof := IpAddress.ofNat?_eq_some_iff.mp (Option.filter_eq_some_iff.mp h).1
  exact ⟨hof.1, hof.2.1⟩

theorem due_eq_some_iff {start stop : IpAddress} {n : Nat} :
    due ipam network start stop n = some a ↔ a.plain = true ∧ start.width = a.width ∧
      stop.width = a.width ∧ a.toNat = n ∧ taken ipam network a = false := by
  unfold due
  constructor
  · intro h
    split at h
    · rename_i hwidth
      rw [Option.filter_eq_some_iff, IpAddress.renumbered_eq_some_iff, Bool.not_eq_true'] at h
      obtain ⟨⟨hplain, hversion, hn⟩, hfree⟩ := h
      exact ⟨hplain, hversion.symm, hwidth.symm.trans hversion.symm, hn, hfree⟩
    · cases h
  · rintro ⟨hplain, hstart, hstop, hn, hfree⟩
    rw [if_pos (hstart.trans hstop.symm), Option.filter_eq_some_iff,
      IpAddress.renumbered_eq_some_iff, Bool.not_eq_true']
    exact ⟨⟨hplain, hstart.symm, hn⟩, hfree⟩

/-- The lowest free address of a range. -/
theorem firstInPool_due_eq_some_iff : firstInPool (due ipam network) p = some a ↔
    InRange p a ∧ taken ipam network a = false ∧
      ∀ b, InRange p b → b.toNat < a.toNat → taken ipam network b = true := by
  unfold firstInPool InRange
  cases IpAddress.parse p.rangeStart with
  | none => simp
  | some start =>
    cases IpAddress.parse p.rangeEnd with
    | none => simp
    | some stop =>
      dsimp only
      rw [firstFrom_eq_some_iff]
      constructor
      · rintro ⟨n, hge, hlt, hn, hbefore⟩
        obtain ⟨hplain, hstart, hstop, rfl, hfree⟩ := due_eq_some_iff.mp hn
        refine ⟨⟨hplain, start, stop, rfl, rfl, hstart, hstop, hge, by omega⟩, hfree, ?_⟩
        rintro b ⟨hplain', start', stop', hs, hs', hstart', hstop', hge', hle'⟩ hba
        obtain rfl := Option.some.inj hs
        obtain rfl := Option.some.inj hs'
        by_contra htaken
        rw [Bool.not_eq_true] at htaken
        have hdue := due_eq_some_iff.mpr ⟨hplain', hstart', hstop', rfl, htaken⟩
        rw [hbefore b.toNat hge' hba] at hdue
        cases hdue
      · rintro ⟨⟨hplain, start', stop', hs, hs', hstart, hstop, hge, hle⟩, hfree, hfirst⟩
        obtain rfl := Option.some.inj hs
        obtain rfl := Option.some.inj hs'
        refine ⟨a.toNat, hge, by omega, due_eq_some_iff.mpr ⟨hplain, hstart, hstop, rfl, hfree⟩,
          fun m hm hma => ?_⟩
        rw [Option.eq_none_iff_forall_ne_some]
        intro b hb
        obtain ⟨hplain', hstart', hstop', rfl, hfree'⟩ := due_eq_some_iff.mp hb
        have htaken := hfirst b ⟨hplain', start, stop, rfl, rfl, hstart', hstop', hm, by omega⟩ hma
        rw [hfree'] at htaken
        cases htaken

theorem firstInPool_due_eq_none_iff :
    firstInPool (due ipam network) p = none ↔ Exhausted ipam network p := by
  unfold firstInPool Exhausted InRange
  cases IpAddress.parse p.rangeStart with
  | none => simp
  | some start =>
    cases IpAddress.parse p.rangeEnd with
    | none => simp
    | some stop =>
      dsimp only
      rw [firstFrom_eq_none_iff]
      constructor
      · rintro hnone b ⟨hplain, start', stop', hs, hs', hstart, hstop, hge, hle⟩
        obtain rfl := Option.some.inj hs
        obtain rfl := Option.some.inj hs'
        by_contra htaken
        rw [Bool.not_eq_true] at htaken
        have hdue := due_eq_some_iff.mpr ⟨hplain, hstart, hstop, rfl, htaken⟩
        rw [hnone b.toNat hge (by omega)] at hdue
        cases hdue
      · intro htaken n hge hlt
        rw [Option.eq_none_iff_forall_ne_some]
        intro b hb
        obtain ⟨hplain, hstart, hstop, rfl, hfree⟩ := due_eq_some_iff.mp hb
        have hb' := htaken b ⟨hplain, start, stop, rfl, rfl, hstart, hstop, hge, by omega⟩
        rw [hfree] at hb'
        cases hb'

/-- The service finds what is free in a pool exactly when the pool is clear. -/
theorem firstInPool_eq_iff :
    firstInPool (fun _ _ => offered ipam network) p = firstInPool (due ipam network) p ↔
      PoolClear ipam network p := by
  unfold firstInPool PoolClear
  cases IpAddress.parse p.rangeStart with
  | none => simp
  | some start =>
    cases IpAddress.parse p.rangeEnd with
    | none => simp
    | some stop =>
      constructor
      · intro hsame start' stop' hs hs'
        obtain rfl := Option.some.inj hs
        obtain rfl := Option.some.inj hs'
        refine agree_of_firstFrom_eq hsame fun n m b _ _ _ _ hoffered hdue => ?_
        exact (offered_eq_some hoffered).2.symm.trans (due_eq_some_iff.mp hdue).2.2.2.1
      · exact fun h => firstFrom_eq_of_agree (h start stop rfl rfl)

/-! ### The pools and the hosts -/

theorem mem_assignPools :
    p ∈ assignPools sur networkId poolId ↔ Searched sur networkId poolId p := by
  unfold assignPools Searched
  cases poolId.filter (· ≠ 0) with
  | none =>
    dsimp only
    rw [List.mem_insertionSort, List.mem_filter]
    simp [and_assoc]
  | some id =>
    dsimp only
    rw [List.mem_filter, List.mem_filter]
    simp [and_assoc]

/-- Pools are searched in the order of their identifiers. -/
theorem pairwise_assignPools :
    (assignPools sur networkId poolId).Pairwise fun a b => a.id < b.id := by
  have hids : ∀ {l : List IPAMPool}, l.Sublist sur.pools.rows → l.Pairwise fun a b => a.id ≠ b.id :=
    fun h => List.pairwise_map.mp (sur.pools.keys_nodup.sublist (h.map _))
  unfold assignPools
  cases poolId.filter (· ≠ 0) with
  | none =>
    dsimp only
    have : Std.Total fun a b : IPAMPool => a.id ≤ b.id := ⟨fun a b => le_total a.id b.id⟩
    have : IsTrans IPAMPool fun a b => a.id ≤ b.id := ⟨fun _ _ _ => le_trans⟩
    have hle := List.pairwise_insertionSort (fun a b : IPAMPool => a.id ≤ b.id)
      (sur.pools.rows.filter fun pool =>
        decide (pool.networkId = networkId) && pool.isActive && pool.autoAssign)
    have hne := (List.perm_insertionSort (fun a b : IPAMPool => a.id ≤ b.id)
      (sur.pools.rows.filter fun pool =>
        decide (pool.networkId = networkId) && pool.isActive && pool.autoAssign)).symm.pairwise
      (hids List.filter_sublist) fun h => h.symm
    exact (hle.and hne).imp fun h => lt_of_le_of_ne h.1 h.2
  | some id =>
    dsimp only
    refine (hids (List.filter_sublist.trans List.filter_sublist)).imp_of_mem fun ha hb hne => ?_
    have ha' := of_decide_eq_true (List.mem_filter.mp ha).2
    have hb' := of_decide_eq_true (List.mem_filter.mp hb).2
    exact absurd (ha'.trans hb'.symm) hne

theorem dueHost_eq_some_iff {net : IpNetwork} {n : Nat} :
    dueHost sur ipam network net n = some a ↔ net.hostAt n = some a ∧
      taken ipam network a = false ∧ used sur a = false := by
  unfold dueHost
  rw [Option.filter_eq_some_iff, Bool.not_eq_true', Bool.or_eq_false_iff]

/-- The first host that is neither taken nor used. -/
theorem firstHost_eq_some_iff {net : IpNetwork} :
    firstFrom (dueHost sur ipam network net) net.hosts.1 net.hosts.2 = some a ↔
      net.IsHost a ∧ taken ipam network a = false ∧ used sur a = false ∧
        ∀ b, net.IsHost b → b.toNat < a.toNat →
          taken ipam network b = true ∨ used sur b = true := by
  rw [firstFrom_eq_some_iff]
  constructor
  · rintro ⟨n, hge, hlt, hn, hbefore⟩
    obtain ⟨hhost, hfree, hunused⟩ := dueHost_eq_some_iff.mp hn
    refine ⟨net.isHost_iff.mpr ⟨n, hge, hlt, hhost⟩, hfree, hunused, fun b hb hba => ?_⟩
    obtain ⟨m, hm, hm', hhost'⟩ := net.isHost_iff.mp hb
    have hmn : m < n := by
      rw [net.toNat_of_hostAt hge hlt hhost, net.toNat_of_hostAt hm hm' hhost'] at hba
      exact hba
    by_contra hnot
    rw [not_or, Bool.not_eq_true, Bool.not_eq_true] at hnot
    have hdue := dueHost_eq_some_iff.mpr ⟨hhost', hnot⟩
    rw [hbefore m hm hmn] at hdue
    cases hdue
  · rintro ⟨ha, hfree, hunused, hfirst⟩
    obtain ⟨n, hge, hlt, hhost⟩ := net.isHost_iff.mp ha
    refine ⟨n, hge, hlt, dueHost_eq_some_iff.mpr ⟨hhost, hfree, hunused⟩, fun m hm hmn => ?_⟩
    rw [Option.eq_none_iff_forall_ne_some]
    intro b hb
    obtain ⟨hhost', hfree', hunused'⟩ := dueHost_eq_some_iff.mp hb
    have hba : b.toNat < a.toNat := by
      rw [net.toNat_of_hostAt hge hlt hhost, net.toNat_of_hostAt hm (by omega) hhost']
      exact hmn
    rcases hfirst b (net.isHost_iff.mpr ⟨m, hm, by omega, hhost'⟩) hba with h | h
    · rw [hfree'] at h
      cases h
    · rw [hunused'] at h
      cases h

theorem firstHost_eq_none_iff {net : IpNetwork} :
    firstFrom (dueHost sur ipam network net) net.hosts.1 net.hosts.2 = none ↔
      ∀ a, net.IsHost a → taken ipam network a = true ∨ used sur a = true := by
  rw [firstFrom_eq_none_iff]
  constructor
  · intro hnone a ha
    obtain ⟨n, hge, hlt, hhost⟩ := net.isHost_iff.mp ha
    by_contra hnot
    rw [not_or, Bool.not_eq_true, Bool.not_eq_true] at hnot
    have hdue := dueHost_eq_some_iff.mpr ⟨hhost, hnot⟩
    rw [hnone n hge hlt] at hdue
    cases hdue
  · intro htaken n hge hlt
    rw [Option.eq_none_iff_forall_ne_some]
    intro a ha
    obtain ⟨hhost, hfree, hunused⟩ := dueHost_eq_some_iff.mp ha
    rcases htaken a (net.isHost_iff.mpr ⟨n, hge, hlt, hhost⟩) with h | h
    · rw [hfree] at h
      cases h
    · rw [hunused] at h
      cases h

/-! ### The whole search -/

/-- The search, by what is found in a pool and among the hosts. -/
def searchWith (inPool : IPAMNetwork → IPAMPool → Option IpAddress)
    (inNetwork : IPAMNetwork → IpNetwork → Option IpAddress) (sur : Surroundings) (networkId : Nat)
    (poolId : Option Nat) (allowNetworkScan : Bool) : Option IpAddress :=
  ((sur.networks.find? networkId).filter IPAMNetwork.isActive).bind fun network =>
    let inPools := (assignPools sur networkId poolId).findSome? (inPool network)
    if allowNetworkScan ∧ (poolId.filter (· ≠ 0)).isNone then
      inPools.or ((IpNetwork.parse network.network).bind (inNetwork network))
    else inPools

/-- What the service finds. -/
def found (ipam : Ipam) : Surroundings → Nat → Option Nat → Bool → Option IpAddress :=
  fun sur => searchWith (fun network => firstInPool fun _ _ => offered ipam network)
    (fun network net => firstFrom (offeredHost sur ipam network net) net.hosts.1 net.hosts.2) sur

/-- What is free. -/
def free (ipam : Ipam) : Surroundings → Nat → Option Nat → Bool → Option IpAddress :=
  fun sur => searchWith (fun network => firstInPool (due ipam network))
    (fun network net => firstFrom (dueHost sur ipam network net) net.hosts.1 net.hosts.2) sur

theorem getNextAvailableIp_eq : getNextAvailableIp sur ipam networkId poolId allowNetworkScan =
    (found ipam sur networkId poolId allowNetworkScan).map IpAddress.text := by
  unfold getNextAvailableIp found searchWith
  cases (sur.networks.find? networkId).filter IPAMNetwork.isActive with
  | none => rfl
  | some network =>
    have hpools : (assignPools sur networkId poolId).findSome?
          (freeInPool (ipam.occupied network)) =
        ((assignPools sur networkId poolId).findSome?
          (firstInPool fun _ _ => offered ipam network)).map IpAddress.text := by
      rw [List.map_findSome?]
      exact findSome?_congr fun p _ => freeInPool_eq
    have hhosts : ((IpNetwork.parse network.network).bind fun net =>
          firstFree net.hostAt (fun ip => ipam.occupied network ip || known sur ip) net.hosts.1
            net.hosts.2) =
        ((IpNetwork.parse network.network).bind fun net =>
          firstFrom (offeredHost sur ipam network net) net.hosts.1 net.hosts.2).map
            IpAddress.text := by
      cases IpNetwork.parse network.network with
      | none => rfl
      | some net => exact firstFree_eq fun n hn => net.exists_hostAt hn
    dsimp only [Option.bind_some]
    rw [hpools, hhosts]
    split
    · rw [Option.map_or]
    · rfl

/-- Two searches that find the same in pools and among hosts are the same. -/
theorem found_eq_free {network : IPAMNetwork}
    (hfind : sur.networks.find? networkId = some network) (hactive : network.isActive = true)
    (hpools : ∀ p, Searched sur networkId poolId p → PoolClear ipam network p)
    (hhosts : (∀ p, Searched sur networkId poolId p → Exhausted ipam network p) →
      poolId.filter (· ≠ 0) = none → HostsClear sur ipam network) :
    found ipam sur networkId poolId allowNetworkScan =
      free ipam sur networkId poolId allowNetworkScan := by
  have hsame : (assignPools sur networkId poolId).findSome?
        (firstInPool fun _ _ => offered ipam network) =
      (assignPools sur networkId poolId).findSome? (firstInPool (due ipam network)) :=
    findSome?_congr fun p hp => firstInPool_eq_iff.mpr (hpools p (mem_assignPools.mp hp))
  unfold found free searchWith
  rw [hfind, Option.filter_some_pos hactive]
  dsimp only [Option.bind_some]
  rw [hsame]
  split
  · rename_i hscan
    cases hfree : (assignPools sur networkId poolId).findSome? (firstInPool (due ipam network)) with
    | some a => rfl
    | none =>
      have hexhausted : ∀ p, Searched sur networkId poolId p → Exhausted ipam network p :=
        fun p hp => firstInPool_due_eq_none_iff.mp
          (List.findSome?_eq_none_iff.mp hfree p (mem_assignPools.mpr hp))
      have hclear := hhosts hexhausted (Option.isNone_iff_eq_none.mp hscan.2)
      rw [Option.none_or, Option.none_or]
      cases hnet : IpNetwork.parse network.network with
      | none => rfl
      | some net => exact firstFrom_eq_of_agree (hclear net hnet)
  · rfl

theorem poolsFree_eq_some_iff :
    (assignPools sur networkId poolId).findSome? (firstInPool (due ipam network)) = some a ↔
      ∃ p, Searched sur networkId poolId p ∧ (InRange p a ∧ taken ipam network a = false ∧
        ∀ b, InRange p b → b.toNat < a.toNat → taken ipam network b = true) ∧
          ∀ q, Searched sur networkId poolId q → q.id < p.id → Exhausted ipam network q := by
  rw [findSome?_eq_some_iff_least pairwise_assignPools]
  simp only [mem_assignPools, firstInPool_due_eq_some_iff, firstInPool_due_eq_none_iff]

theorem poolsFree_eq_none_iff :
    (assignPools sur networkId poolId).findSome? (firstInPool (due ipam network)) = none ↔
      ∀ q, Searched sur networkId poolId q → Exhausted ipam network q := by
  simp only [List.findSome?_eq_none_iff, mem_assignPools, firstInPool_due_eq_none_iff]

/-- The answer that a call owes is the one of the search for what is free. -/
theorem nextFree_iff {answer : Option IpAddress} :
    NextFree sur ipam networkId poolId allowNetworkScan answer ↔
      free ipam sur networkId poolId allowNetworkScan = answer := by
  unfold free searchWith
  constructor
  · intro h
    cases h with
    | inactive h =>
      have hnone : (sur.networks.find? networkId).filter IPAMNetwork.isActive = none := by
        rw [Option.filter_eq_none_iff]
        intro network hfind
        rw [h network hfind]
        exact Bool.false_ne_true
      rw [hnone]
      rfl
    | inPool hfind hactive hp ha hfree hfirst hbefore =>
      have hpools := poolsFree_eq_some_iff.mpr ⟨_, hp, ⟨ha, hfree, hfirst⟩, hbefore⟩
      rw [hfind, Option.filter_some_pos hactive, Option.bind_some, hpools]
      dsimp only
      split
      · rfl
      · rfl
    | host hfind hactive hscan hpool hpools hnet ha hfree hunused hfirst =>
      rw [hfind, Option.filter_some_pos hactive, Option.bind_some,
        poolsFree_eq_none_iff.mpr hpools, if_pos ⟨hscan, Option.isNone_iff_eq_none.mpr hpool⟩,
        Option.none_or, hnet, Option.bind_some]
      exact firstHost_eq_some_iff.mpr ⟨ha, hfree, hunused, hfirst⟩
    | @exhausted network hfind hactive hpools hhosts =>
      rw [hfind, Option.filter_some_pos hactive, Option.bind_some,
        poolsFree_eq_none_iff.mpr hpools]
      dsimp only
      split
      · rename_i hscan
        rw [Option.none_or]
        cases hnet : IpNetwork.parse network.network with
        | none => rfl
        | some net =>
          exact firstHost_eq_none_iff.mpr
            (hhosts hscan.1 (Option.isNone_iff_eq_none.mp hscan.2) net hnet)
      · rfl
  · rintro rfl
    cases hfind : sur.networks.find? networkId with
    | none => exact .inactive fun network h => by cases hfind.symm.trans h
    | some network =>
      cases hactive : network.isActive with
      | false =>
        rw [Option.filter_some_neg (by simp [hactive])]
        refine .inactive fun network' h => ?_
        obtain rfl := Option.some.inj (hfind.symm.trans h)
        exact hactive
      | true =>
        rw [Option.filter_some_pos hactive, Option.bind_some]
        cases hpools : (assignPools sur networkId poolId).findSome?
            (firstInPool (due ipam network)) with
        | some a =>
          obtain ⟨p, hp, ⟨ha, hfree, hfirst⟩, hbefore⟩ := poolsFree_eq_some_iff.mp hpools
          have hanswer : NextFree sur ipam networkId poolId allowNetworkScan (some a) :=
            .inPool hfind hactive hp ha hfree hfirst hbefore
          dsimp only
          split
          · exact hanswer
          · exact hanswer
        | none =>
          have hexhausted := poolsFree_eq_none_iff.mp hpools
          dsimp only
          split
          · rename_i hscan
            have hpool := Option.isNone_iff_eq_none.mp hscan.2
            rw [Option.none_or]
            cases hnet : IpNetwork.parse network.network with
            | none =>
              refine .exhausted hfind hactive hexhausted fun _ _ net h => ?_
              cases hnet.symm.trans h
            | some net =>
              rw [Option.bind_some]
              cases hhost : firstFrom (dueHost sur ipam network net) net.hosts.1 net.hosts.2 with
              | some a =>
                obtain ⟨ha, hfree, hunused, hfirst⟩ := firstHost_eq_some_iff.mp hhost
                exact .host hfind hactive hscan.1 hpool hexhausted hnet ha hfree hunused hfirst
              | none =>
                refine .exhausted hfind hactive hexhausted fun _ _ net' h => ?_
                obtain rfl := Option.some.inj (hnet.symm.trans h)
                exact firstHost_eq_none_iff.mp hhost
          · rename_i hscan
            refine .exhausted hfind hactive hexhausted fun h hpool => absurd ?_ hscan
            exact ⟨h, Option.isNone_iff_eq_none.mpr hpool⟩

/-! ### When the search is right -/

/-- What a search answers has a scope that can be read. -/
theorem wellScoped_of_searchWith {inPool : IPAMNetwork → IPAMPool → Option IpAddress}
    {inNetwork : IPAMNetwork → IpNetwork → Option IpAddress}
    (hpool : ∀ network p a, inPool network p = some a → a.plain = true)
    (hnetwork : ∀ network net a, inNetwork network net = some a → ∃ n, net.hostAt n = some a)
    (h : searchWith inPool inNetwork sur networkId poolId allowNetworkScan = some a) :
    a.wellScoped = true := by
  obtain ⟨network, -, h⟩ := Option.bind_eq_some_iff.mp h
  have hpools : (assignPools sur networkId poolId).findSome? (inPool network) = some a →
      a.wellScoped = true := by
    intro h
    obtain ⟨p, -, hp⟩ := List.exists_of_findSome?_eq_some h
    exact IpAddress.wellScoped_of_plain (hpool network p a hp)
  dsimp only at h
  split at h
  · rcases Option.or_eq_some_iff.mp h with h | ⟨-, h⟩
    · exact hpools h
    · obtain ⟨net, hnet, h⟩ := Option.bind_eq_some_iff.mp h
      obtain ⟨n, hn⟩ := hnetwork network net a h
      exact net.wellScoped_of_hostAt hnet hn
  · exact hpools h

/-- Answers of a pool have no scope when those at its numbers have none. -/
theorem plain_of_firstInPool {answer : IpAddress → IpAddress → Nat → Option IpAddress}
    (hanswer : ∀ start stop n, answer start stop n = some a → a.plain = true)
    (h : firstInPool answer p = some a) : a.plain = true := by
  unfold firstInPool at h
  split at h
  · obtain ⟨n, -, -, hn, -⟩ := firstFrom_eq_some_iff.mp h
    exact hanswer _ _ n hn
  · cases h

theorem wellScoped_found (h : found ipam sur networkId poolId allowNetworkScan = some a) :
    a.wellScoped = true := by
  refine wellScoped_of_searchWith (fun network p a hp => ?_) (fun network net a hn => ?_) h
  · exact plain_of_firstInPool (fun _ _ n hn => (offered_eq_some hn).1) hp
  · obtain ⟨n, -, -, hn, -⟩ := firstFrom_eq_some_iff.mp hn
    exact ⟨n, (Option.filter_eq_some_iff.mp hn).1⟩

theorem wellScoped_free (h : free ipam sur networkId poolId allowNetworkScan = some a) :
    a.wellScoped = true := by
  refine wellScoped_of_searchWith (fun network p a hp => ?_) (fun network net a hn => ?_) h
  · exact plain_of_firstInPool (fun _ _ n hn => (due_eq_some_iff.mp hn).1) hp
  · obtain ⟨n, -, -, hn, -⟩ := firstFrom_eq_some_iff.mp hn
    exact ⟨n, (dueHost_eq_some_iff.mp hn).1⟩

/-- A call gives the answer that it owes exactly when the service finds what is free. -/
theorem answers_iff : (∃ answer, NextFree sur ipam networkId poolId allowNetworkScan answer ∧
      getNextAvailableIp sur ipam networkId poolId allowNetworkScan =
        answer.map IpAddress.text) ↔
    found ipam sur networkId poolId allowNetworkScan =
      free ipam sur networkId poolId allowNetworkScan := by
  rw [getNextAvailableIp_eq]
  constructor
  · rintro ⟨answer, hnext, htext⟩
    obtain rfl := nextFree_iff.mp hnext
    cases hfound : found ipam sur networkId poolId allowNetworkScan with
    | none =>
      rw [hfound] at htext
      exact (Option.map_eq_none_iff.mp htext.symm).symm
    | some a =>
      rw [hfound, Option.map_some] at htext
      obtain ⟨b, hb, hab⟩ := Option.map_eq_some_iff.mp htext.symm
      rw [hb, IpAddress.text_injective (wellScoped_free hb) (wellScoped_found hfound) hab]
  · intro h
    exact ⟨_, nextFree_iff.mpr rfl, congrArg _ h⟩

/-- A search of one pool by its identifier. -/
theorem findSome?_assignPools (hp : Searched sur networkId none p) (hid : p.id ≠ 0)
    {β : Type} (f : IPAMPool → Option β) :
    (assignPools sur networkId (some p.id)).findSome? f = f p := by
  have hone : ∀ q ∈ assignPools sur networkId (some p.id), q = p := by
    intro q hq
    obtain ⟨hq, -, -, -, hid'⟩ := mem_assignPools.mp hq
    exact sur.pools.eq_of_key_eq hq hp.1 (hid' p.id (Option.filter_some_pos (by simpa using hid)))
  have hmem : p ∈ assignPools sur networkId (some p.id) := by
    obtain ⟨hrow, hnetwork, hactive, hauto, -⟩ := hp
    refine mem_assignPools.mpr ⟨hrow, hnetwork, hactive, hauto, fun id h => ?_⟩
    exact Option.some.inj (Option.filter_eq_some_iff.mp h).1
  cases hf : f p with
  | none => exact List.findSome?_eq_none_iff.mpr fun q hq => hone q hq ▸ hf
  | some b =>
    refine (findSome?_eq_some_iff_least pairwise_assignPools).mpr ⟨p, hmem, hf, fun q hq hlt => ?_⟩
    rw [hone q hq] at hlt
    exact absurd hlt (Nat.lt_irrefl _)

end Search

/-- A network of the sixth version from zero on, with a pool of its first addresses. -/
def Surroundings.lowest : Surroundings :=
  { Surroundings.office 1 with
    networks := ⟨[⟨1, "lab", "::/96", none, none, true⟩], by decide⟩
    pools := ⟨[⟨1, 1, "first", "::1", "::5", true, true⟩], by decide⟩ }

/-- One address of the office is given by a pool. -/
def Surroundings.pooled : Surroundings :=
  { Surroundings.office 1 with
    pools := ⟨[⟨1, 1, "guests", "10.0.0.10", "10.0.0.10", true, true⟩], by decide⟩ }

end PveManager.Ipam
