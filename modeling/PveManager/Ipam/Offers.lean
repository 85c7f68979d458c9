import Mathlib.Data.Fintype.EquivFin
import PveManager.Core.FirstKept
import PveManager.Ipam.NextFree
import PveManager.Ipam.Pools
import PveManager.Ipam.Uniqueness

/-!
# Offered addresses

What becomes of the address that `get_next_available_ip` offers: `allocate_ip` takes it unless it
stands for a low number of the sixth version, and in networks of the fourth version it may be the
first or the last address of the network.
-/

namespace PveManager.Ipam

open PveManager.Core PveManager.Net

section Accept

variable {sur : Surroundings} {ipam : Ipam} {networkId : Nat} {network : IPAMNetwork}
  {net : IpNetwork} {a : IpAddress} {req : AllocationRequest} {p : IPAMPool}
  {poolId : Option Nat} {allowNetworkScan : Bool}

/-! ### What is accepted -/

theorem text_ne_empty (ha : a.wellScoped = true) : a.text ≠ "" := by
  intro h
  have hread := IpAddress.parse_text ha
  rw [h, IpAddress.parse_eq_none (by decide) (by decide) (by decide)] at hread
  cases hread

/-- An unrecorded text is neither allocated nor the gateway. -/
theorem of_not_occupied (ha : a.wellScoped = true) (h : ipam.occupied network a.text = false) :
    ipam.allocations.find? a.text = none ∧ network.gateway ≠ some a.text := by
  unfold occupied at h
  rw [Bool.or_eq_false_iff, List.any_eq_false, Bool.and_eq_false_iff] at h
  refine ⟨(ipam.allocations.find?_eq_none_iff).mpr fun row hrow hip => ?_, fun hgateway => ?_⟩
  · exact h.1 row hrow (decide_eq_true hip)
  · rw [hgateway] at h
    rcases h.2 with h | h
    · exact text_ne_empty ha (by simpa [truthy] using h)
    · simp at h

/-- Ranges of the version of the address are compared with it. -/
theorem poolOf_ok (pools : List IPAMPool) (h : ∀ p ∈ pools, ∀ start stop,
    IpAddress.parse p.rangeStart = some start → IpAddress.parse p.rangeEnd = some stop →
      start.width = a.width ∧ stop.width = a.width) : ∃ found, poolOf a pools = .ok found := by
  induction pools with
  | nil => exact ⟨none, rfl⟩
  | cons pool pools ih =>
    have hrest := ih fun p hp => h p (List.mem_cons_of_mem _ hp)
    have hpool := h pool List.mem_cons_self
    unfold poolOf
    cases hs : IpAddress.parse pool.rangeStart with
    | none => exact hrest
    | some start =>
      cases hs' : IpAddress.parse pool.rangeEnd with
      | none => exact hrest
      | some stop =>
        obtain ⟨hstart, hstop⟩ := hpool start stop hs hs'
        have hle : start.le? a = some (decide (start.toNat < a.toNat ∨ start = a)) := if_pos hstart
        have hle' : a.le? stop = some (decide (a.toNat < stop.toNat ∨ a = stop)) :=
          if_pos hstop.symm
        simp only [hle, hle']
        cases decide (start.toNat < a.toNat ∨ start = a) with
        | false => exact hrest
        | true =>
          cases decide (a.toNat < stop.toNat ∨ a = stop) with
          | false => exact hrest
          | true => exact ⟨_, rfl⟩

/-- Pools inside a network have its version. -/
theorem width_of_inside (hfind : sur.networks.find? networkId = some network)
    (hnet : IpNetwork.parse network.network = some net) (hp : p.networkId = networkId)
    (hinside : Inside sur.networks p) {start stop : IpAddress}
    (hstart : IpAddress.parse p.rangeStart = some start)
    (hstop : IpAddress.parse p.rangeEnd = some stop) :
    start.width = net.address.width ∧ stop.width = net.address.width ∧ net.first ≤ start.toNat ∧
      stop.toNat < net.first + net.size := by
  obtain ⟨network', net', start', stop', hfind', hnet', hs, hs', -, hin, hin'⟩ := hinside
  rw [hp, hfind] at hfind'
  obtain rfl := Option.some.inj hfind'
  obtain rfl := Option.some.inj (hnet.symm.trans hnet')
  obtain rfl := Option.some.inj (hstart.symm.trans hs)
  obtain rfl := Option.some.inj (hstop.symm.trans hs')
  obtain ⟨hwidth, hge, -⟩ := net.contains_iff.mp hin
  obtain ⟨hwidth', -, hlt⟩ := net.contains_iff.mp hin'
  exact ⟨hwidth, hwidth', hge, hlt⟩

/-- An address of the network with an unrecorded text is accepted. -/
theorem allocateIp_done (hfind : sur.networks.find? networkId = some network)
    (hnet : IpNetwork.parse network.network = some net)
    (hinside : ∀ p ∈ sur.pools.rows, p.networkId = networkId → Inside sur.networks p)
    (ha : a.wellScoped = true) (hcontains : net.contains a = true)
    (hfree : ipam.occupied network a.text = false) (hip : req.ipAddress = a.text)
    (hreq : req.networkId = networkId) (hcommits : sur.commits = true)
    (hnew : ∀ b ∈ ipam.allocations.rows, b.id ≠ sur.newId) :
    ∃ row, (allocateIp sur ipam req).2 = .done row ∧ row.ipAddress = a.text := by
  obtain ⟨hnone, hgateway⟩ := of_not_occupied ha hfree
  have hcheck : checkAllocation sur ipam req = .ok (network, a) := by
    unfold checkAllocation
    rw [hip, hnone, hreq, hfind]
    dsimp only
    rw [hnet, IpAddress.parse_text ha]
    dsimp only
    rw [if_neg (by simp [hcontains]), if_neg hgateway]
  have hpool : ∃ poolId, detectPool sur req a = .ok poolId := by
    unfold detectPool
    cases req.poolId.filter (· ≠ 0) with
    | some id => exact ⟨_, rfl⟩
    | none =>
      have hversion : a.width = net.address.width := (net.contains_iff.mp hcontains).1
      obtain ⟨found, hfound⟩ := poolOf_ok (a := a) (sur.pools.rows.filter fun pool =>
          decide (pool.networkId = req.networkId) && pool.isActive) fun p hp start stop hs hs' => by
        obtain ⟨hrow, hmine⟩ := List.mem_filter.mp hp
        rw [Bool.and_eq_true, decide_eq_true_eq, hreq] at hmine
        obtain ⟨hstart, hstop, -⟩ :=
          width_of_inside hfind hnet hmine.1 (hinside p hrow hmine.1) hs hs'
        exact ⟨hstart.trans hversion.symm, hstop.trans hversion.symm⟩
      dsimp only
      rw [hfound]
      exact ⟨_, rfl⟩
  obtain ⟨poolId, hpool⟩ := hpool
  have hall : (ipam.allocations.rows.all fun b => decide (b.id ≠ sur.newId)) = true :=
    List.all_eq_true.mpr fun b hb => decide_eq_true (hnew b hb)
  refine ⟨newAllocation sur ipam req network poolId, ?_, hip⟩
  unfold allocateIp
  rw [hcheck]
  dsimp only
  rw [hpool]
  dsimp only
  rw [hcommits, hall]
  rfl

/-- What is accepted is in its network. -/
theorem contains_of_done {row : IPAMAllocation} (h : (allocateIp sur ipam req).2 = .done row) :
    row.ipAddress = req.ipAddress ∧ ∃ network net ip,
      sur.networks.find? req.networkId = some network ∧
        IpNetwork.parse network.network = some net ∧
        IpAddress.parse req.ipAddress = some ip ∧ net.contains ip = true := by
  unfold allocateIp at h
  cases hc : checkAllocation sur ipam req with
  | error e => rw [hc] at h; cases h
  | ok found =>
    obtain ⟨network, ip⟩ := found
    obtain ⟨-, hfind, hip⟩ := checkAllocation_ok hc
    obtain ⟨⟨net, hnet, hcontains⟩, -⟩ := checkAllocation_within hc
    refine ⟨?_, network, net, ip, hfind, hnet, hip, hcontains⟩
    rw [hc] at h
    dsimp only at h
    split at h
    · cases h
    · split at h
      · cases h
        rfl
      · cases h

/-! ### What is offered -/

/-- What the service finds in the pools it offers, also in a call that names one of them. -/
theorem exists_offer (hfind : sur.networks.find? networkId = some network)
    (hactive : network.isActive = true) (hp : Searched sur networkId none p)
    (h : firstInPool (fun _ _ => offered ipam network) p = some a) :
    ∃ poolId, getNextAvailableIp sur ipam networkId poolId false = some a.text := by
  have hoffer : ∀ poolId, (assignPools sur networkId poolId).findSome?
        (firstInPool fun _ _ => offered ipam network) = some a →
      getNextAvailableIp sur ipam networkId poolId false = some a.text := by
    intro poolId hpools
    rw [getNextAvailableIp_eq]
    unfold found searchWith
    rw [hfind, Option.filter_some_pos hactive, Option.bind_some, hpools, if_neg (by simp)]
    rfl
  by_cases hid : p.id = 0
  · refine ⟨none, hoffer none ((findSome?_eq_some_iff_least pairwise_assignPools).mpr ?_)⟩
    exact ⟨p, mem_assignPools.mpr hp, h, fun q _ hlt => absurd hlt (by omega)⟩
  · exact ⟨some p.id, hoffer _ ((findSome?_assignPools hp hid _).trans h)⟩

/-- An offer comes from a pool or is a host. -/
theorem of_offer {ip : String}
    (h : getNextAvailableIp sur ipam networkId poolId allowNetworkScan = some ip) :
    ∃ network a, sur.networks.find? networkId = some network ∧ network.isActive = true ∧
      ip = a.text ∧ a.wellScoped = true ∧ ipam.occupied network a.text = false ∧
        ((∃ p, Searched sur networkId poolId p ∧
            firstInPool (fun _ _ => offered ipam network) p = some a) ∨
          allowNetworkScan = true ∧
            ∃ net, IpNetwork.parse network.network = some net ∧ net.IsHost a) := by
  rw [getNextAvailableIp_eq] at h
  obtain ⟨a, ha, rfl⟩ := Option.map_eq_some_iff.mp h
  have hscope := wellScoped_found ha
  unfold found searchWith at ha
  obtain ⟨network, hfind, ha⟩ := Option.bind_eq_some_iff.mp ha
  obtain ⟨hfind, hactive⟩ := Option.filter_eq_some_iff.mp hfind
  refine ⟨network, a, hfind, hactive, rfl, hscope, ?_⟩
  have hpools : (assignPools sur networkId poolId).findSome?
        (firstInPool fun _ _ => offered ipam network) = some a →
      ipam.occupied network a.text = false ∧ ∃ p, Searched sur networkId poolId p ∧
        firstInPool (fun _ _ => offered ipam network) p = some a := by
    intro h
    obtain ⟨p, hp, hpa⟩ := List.exists_of_findSome?_eq_some h
    refine ⟨?_, p, mem_assignPools.mp hp, hpa⟩
    unfold firstInPool at hpa
    split at hpa
    · obtain ⟨n, -, -, hn, -⟩ := firstFrom_eq_some_iff.mp hpa
      simpa using (Option.filter_eq_some_iff.mp hn).2
    · cases hpa
  dsimp only at ha
  split at ha
  · rename_i hscan
    rcases Option.or_eq_some_iff.mp ha with h | ⟨-, h⟩
    · exact ⟨(hpools h).1, Or.inl (hpools h).2⟩
    · obtain ⟨net, hnet, h⟩ := Option.bind_eq_some_iff.mp h
      obtain ⟨n, hge, hlt, hn, -⟩ := firstFrom_eq_some_iff.mp h
      obtain ⟨hhost, hfree⟩ := Option.filter_eq_some_iff.mp hn
      rw [Bool.not_eq_true', Bool.or_eq_false_iff] at hfree
      exact ⟨hfree.1, Or.inr ⟨hscan.1, net, hnet, net.isHost_iff.mpr ⟨n, hge, hlt, hhost⟩⟩⟩
  · exact ⟨(hpools ha).1, Or.inl (hpools ha).2⟩

/-- What is offered from a pool has a number of its range. -/
theorem number_of_firstInPool (h : firstInPool (fun _ _ => offered ipam network) p = some a) :
    ∃ start stop, IpAddress.parse p.rangeStart = some start ∧
      IpAddress.parse p.rangeEnd = some stop ∧ start.toNat ≤ a.toNat ∧ a.toNat ≤ stop.toNat ∧
      (a.width = 32 ∨ 2 ^ 32 ≤ a.toNat) := by
  unfold firstInPool at h
  split at h
  · rename_i start stop hs hs'
    obtain ⟨n, hge, hlt, hn, -⟩ := firstFrom_eq_some_iff.mp h
    obtain ⟨-, rfl, hversion⟩ :=
      IpAddress.ofNat?_eq_some_iff.mp (Option.filter_eq_some_iff.mp hn).1
    exact ⟨start, stop, hs, hs', hge, by omega, hversion⟩
  · cases h

/-- What is free for the service at a number of the range, or something lower, is offered. -/
theorem exists_firstInPool_le {start stop : IpAddress} {n : Nat}
    (hs : IpAddress.parse p.rangeStart = some start) (hs' : IpAddress.parse p.rangeEnd = some stop)
    (hge : start.toNat ≤ n) (hle : n ≤ stop.toNat) (hn : offered ipam network n = some a) :
    ∃ b, firstInPool (fun _ _ => offered ipam network) p = some b ∧ b.toNat ≤ n := by
  have hsearch : firstInPool (fun _ _ => offered ipam network) p =
      firstFrom (offered ipam network) start.toNat (stop.toNat + 1 - start.toNat) := by
    unfold firstInPool
    rw [hs, hs']
  rw [hsearch]
  cases hfirst : firstFrom (offered ipam network) start.toNat
      (stop.toNat + 1 - start.toNat) with
  | none =>
    rw [firstFrom_eq_none_iff.mp hfirst n hge (by omega)] at hn
    cases hn
  | some b =>
    refine ⟨b, rfl, ?_⟩
    obtain ⟨m, -, -, hm, hbefore⟩ := firstFrom_eq_some_iff.mp hfirst
    rw [(offered_eq_some hm).2]
    by_contra hlater
    rw [hbefore n hge (by omega)] at hn
    cases hn

/-- A host is an address of its network. -/
theorem contains_of_isHost (h : net.IsHost a) : net.contains a = true := by
  unfold IpNetwork.IsHost at h
  split at h
  · rw [h]
    unfold IpNetwork.contains
    exact decide_eq_true ⟨rfl, rfl⟩
  · exact h.2.1

end Accept

/-! ### Offers that are accepted -/

/-- Each offered address is accepted in the same state. -/
def OffersAccepted (t : IpamTables) : Prop :=
  ∀ (sur : Surroundings) (networkId : Nat) (poolId : Option Nat) (allowNetworkScan : Bool)
    (ip : String) (req : AllocationRequest),
    sur.networks = t.networks → sur.pools = t.pools → sur.commits = true →
    (∀ b ∈ t.ipam.allocations.rows, b.id ≠ sur.newId) →
    getNextAvailableIp sur t.ipam networkId poolId allowNetworkScan = some ip →
    req.ipAddress = ip → req.networkId = networkId →
    ∃ row, (allocateIp sur t.ipam req).2 = .done row

/-- The numbers below `2 ^ 32` of each searched range of the sixth version are recorded as
addresses of the fourth. -/
def LowNumbersRecorded (t : IpamTables) : Prop :=
  ∀ network ∈ t.networks.rows, network.isActive = true → ∀ p ∈ t.pools.rows,
    p.networkId = network.id → p.isActive = true → p.autoAssign = true →
    ∀ first scope stop, IpAddress.parse p.rangeStart = some (.v6 first scope) →
      IpAddress.parse p.rangeEnd = some stop →
      ∀ n : Fin (2 ^ 32), first.val ≤ n.val → n.val ≤ stop.toNat →
        t.ipam.occupied network (IpAddress.v4 n).text = true

/-- There is always an identifier for a new row. -/
theorem exists_newId (ipam : Ipam) : ∃ newId, ∀ b ∈ ipam.allocations.rows, b.id ≠ newId := by
  obtain ⟨newId, hnew⟩ :=
    Infinite.exists_notMem_finset (ipam.allocations.rows.map fun b => b.id).toFinset
  refine ⟨newId, fun b hb hid => hnew ?_⟩
  rw [List.mem_toFinset]
  exact hid ▸ List.mem_map_of_mem hb

/-- Where the pools are in order, offers are accepted exactly when the low numbers are recorded. -/
theorem Orderly.accepts_iff {t : IpamTables} (h : Orderly t) :
    OffersAccepted t ↔ LowNumbersRecorded t := by
  constructor
  · intro hoffers network hrow hactive p hp hmine hpactive hauto first scope stop hs hs' n hge hle
    by_contra hfree
    rw [Bool.not_eq_true] at hfree
    obtain ⟨newId, hnew⟩ := exists_newId t.ipam
    have hfind : t.networks.find? network.id = some network := t.networks.find?_key hrow
    obtain ⟨network', net, start', stop', hfind', hnet, hs₁, hs₁', -, hin, -⟩ := h.inside p hp
    rw [hmine, hfind] at hfind'
    obtain rfl := Option.some.inj hfind'
    obtain rfl := Option.some.inj (hs.symm.trans hs₁)
    obtain rfl := Option.some.inj (hs'.symm.trans hs₁')
    obtain ⟨hwidth, -, -⟩ := net.contains_iff.mp hin
    let sur : Surroundings := { Surroundings.office newId with
      networks := t.networks
      pools := t.pools }
    have hsearched : Searched sur network.id none p :=
      ⟨hp, hmine, hpactive, hauto, fun id hid => nomatch hid⟩
    have hoffered : offered t.ipam network n.val = some (.v4 n) := by
      have hof : IpAddress.ofNat? n.val = some (.v4 n) := dif_pos n.isLt
      unfold offered
      rw [hof, Option.filter_some_pos (by simpa using hfree)]
    obtain ⟨a, ha, hlow⟩ := exists_firstInPool_le hs hs' hge hle hoffered
    have hoffers' : ∃ poolId, getNextAvailableIp sur t.ipam network.id poolId false = some a.text :=
      exists_offer hfind hactive hsearched ha
    obtain ⟨poolId, hoffer⟩ := hoffers'
    obtain ⟨row, hdone⟩ := hoffers sur network.id poolId false a.text
      { ipAddress := a.text, networkId := network.id } rfl rfl rfl hnew hoffer rfl rfl
    obtain ⟨-, network', net', ip, hfind', hnet', hip, hcontains⟩ := contains_of_done hdone
    obtain rfl := Option.some.inj (hfind.symm.trans hfind')
    obtain rfl := Option.some.inj (hnet.symm.trans hnet')
    have hplain : a.plain = true := plain_of_firstInPool (fun _ _ n hn => (offered_eq_some hn).1) ha
    obtain rfl := Option.some.inj
      ((IpAddress.parse_text (IpAddress.wellScoped_of_plain hplain)).symm.trans hip)
    obtain ⟨-, -, -, -, -, -, hversion⟩ := number_of_firstInPool ha
    have hwidth' := (net.contains_iff.mp hcontains).1
    rw [← hwidth] at hwidth'
    have hsix : (IpAddress.v6 first scope).width = 128 := rfl
    have hlt := n.isLt
    rcases hversion with hversion | hversion
    · omega
    · omega
  · intro hrecorded sur networkId poolId allowNetworkScan ip req hnetworks hpools hcommits hnew
      hoffer hip hreq
    obtain ⟨network, a, hfind, hactive, rfl, hscope, hfree, hwhere⟩ := of_offer hoffer
    have hinside : ∀ p ∈ sur.pools.rows, p.networkId = networkId → Inside sur.networks p := by
      intro p hp _
      rw [hnetworks]
      exact h.inside p (hpools ▸ hp)
    have hcontains : ∃ net, IpNetwork.parse network.network = some net ∧
        net.contains a = true := by
      rcases hwhere with ⟨p, hp, ha⟩ | ⟨-, net, hnet, hhost⟩
      · obtain ⟨hrow, hmine, hpactive, hauto, -⟩ := hp
        obtain ⟨start, stop, hs, hs', hge, hle, hversion⟩ := number_of_firstInPool ha
        obtain ⟨network', net, start', stop', hfind', hnet, hs₁, hs₁', -, hin, hin'⟩ :=
          hinside p hrow hmine
        rw [hmine, hfind] at hfind'
        obtain rfl := Option.some.inj hfind'
        obtain rfl := Option.some.inj (hs.symm.trans hs₁)
        obtain rfl := Option.some.inj (hs'.symm.trans hs₁')
        obtain ⟨hwidth, hfirst, -⟩ := net.contains_iff.mp hin
        obtain ⟨-, -, hlast⟩ := net.contains_iff.mp hin'
        refine ⟨net, hnet, net.contains_iff.mpr ⟨?_, by omega, by omega⟩⟩
        rw [← hwidth]
        cases start with
        | v4 m =>
          rcases hversion with hversion | hversion
          · exact hversion
          · have hstop := net.first_add_size_le
            rw [← hwidth] at hstop
            have hfour : (IpAddress.v4 m).width = 32 := rfl
            rw [hfour] at hstop
            omega
        | v6 m scope =>
          cases a with
          | v6 k scope' => rfl
          | v4 k =>
            have hid : network.id = networkId := sur.networks.key_of_find? hfind
            have hrow' : network ∈ t.networks.rows := hnetworks ▸ sur.networks.mem_of_find? hfind
            have htaken := hrecorded network hrow' hactive p (hpools ▸ hrow)
              (hmine.trans hid.symm) hpactive hauto m scope stop hs hs' k hge hle
            rw [hfree] at htaken
            cases htaken
      · exact ⟨net, hnet, contains_of_isHost hhost⟩
    obtain ⟨net, hnet, hcontains⟩ := hcontains
    obtain ⟨row, hdone, -⟩ :=
      allocateIp_done hfind hnet hinside hscope hcontains hfree hip hreq hcommits hnew
    exact ⟨row, hdone⟩

/-- In every state that the calls reach, offers are accepted exactly when the low numbers of the
searched ranges of the sixth version are recorded as addresses of the fourth. -/
theorem offersAccepted_iff (networks : KeyedTable IPAMNetwork.id) (ipam : Ipam)
    (requests : List IpamRequest) :
    ∀ t ∈ visited IpamTables.step ⟨networks, .empty, ipam⟩ requests,
      (OffersAccepted t ↔ LowNumbersRecorded t) :=
  fun t ht => Orderly.accepts_iff (invariant_of_step
    (fun t r h => h.changes (changes_step t r)) orderly_of_empty requests t ht)

/-- A network of the sixth version from zero on gets a pool of its first addresses. -/
def lowestCalls : List IpamRequest :=
  let admin : User := ⟨1, "admin", true, none, []⟩
  [⟨admin, 1, true, .createNetwork ⟨"lab", "::/96", none, none, true⟩⟩,
    ⟨admin, 1, true, .createPool ⟨1, "first", "::1", "::5", true, true⟩⟩]

/-- The pool then offers an address of the fourth version. -/
theorem lowestCalls_not_accepted :
    ¬∀ t ∈ visited IpamTables.step ⟨.empty, .empty, ⟨.empty, []⟩⟩ lowestCalls,
      OffersAccepted t := by
  intro h
  have hlast := h _ (foldl_mem_visited _ _ _)
  have hnetworks : (lowestCalls.foldl IpamTables.step
      ⟨.empty, .empty, ⟨.empty, []⟩⟩).networks.rows = Surroundings.lowest.networks.rows := by
    decide +kernel
  have hpools : (lowestCalls.foldl IpamTables.step
      ⟨.empty, .empty, ⟨.empty, []⟩⟩).pools.rows = Surroundings.lowest.pools.rows := by
    decide +kernel
  have hipam : (lowestCalls.foldl IpamTables.step
      ⟨.empty, .empty, ⟨.empty, []⟩⟩).ipam = ⟨.empty, []⟩ := rfl
  have hoffer : getNextAvailableIp Surroundings.lowest ⟨.empty, []⟩ 1 none false =
      some "0.0.0.1" := by decide +kernel
  have hnew : ∀ b ∈ (⟨.empty, []⟩ : Ipam).allocations.rows, b.id ≠ Surroundings.lowest.newId :=
    fun b hb => absurd hb List.not_mem_nil
  rw [← hipam] at hoffer hnew
  obtain ⟨row, hdone⟩ := hlast Surroundings.lowest 1 none false "0.0.0.1"
    { ipAddress := "0.0.0.1", networkId := 1 } (KeyedTable.eq_of_rows_eq hnetworks.symm)
    (KeyedTable.eq_of_rows_eq hpools.symm) rfl hnew hoffer rfl rfl
  obtain ⟨-, network, net, ip, hfind, hnet, hip, hcontains⟩ := contains_of_done hdone
  have hnetwork : Surroundings.lowest.networks.find? 1 =
      some ⟨1, "lab", "::/96", none, none, true⟩ := by decide +kernel
  obtain rfl := Option.some.inj (hnetwork.symm.trans hfind)
  have hversions : (IpNetwork.parse "::/96").map (fun net => net.address.width) = some 128 ∧
      (IpAddress.parse "0.0.0.1").map IpAddress.width = some 32 := by decide +kernel
  rw [hnet, hip] at hversions
  have hwidth := (net.contains_iff.mp hcontains).1
  have hnetWidth : net.address.width = 128 := Option.some.inj hversions.1
  have hipWidth : ip.width = 32 := Option.some.inj hversions.2
  omega

theorem offersAccepted_iff_lowestCalls :
    OffersAccepted (lowestCalls.foldl IpamTables.step ⟨.empty, .empty, ⟨.empty, []⟩⟩) ↔
      LowNumbersRecorded (lowestCalls.foldl IpamTables.step ⟨.empty, .empty, ⟨.empty, []⟩⟩) :=
  offersAccepted_iff .empty ⟨.empty, []⟩ lowestCalls _ (foldl_mem_visited _ _ _)

/-! ### Usable hosts -/

namespace Outcome

variable {α : Type}

/-- The result of a call that ends with one. -/
def done? : Outcome α → Option α
  | .done a => some a
  | _ => none

theorem done?_eq_some_iff {o : Outcome α} {a : α} : o.done? = some a ↔ o = .done a := by
  cases o with
  | done b => simp [done?]
  | refused e => simp [done?]
  | raised e => simp [done?]

end Outcome

/-- What is assigned is not the network address, the broadcast address or the gateway. -/
def Usable (sur : Surroundings) (ipam : Ipam) (networkId : Nat) : Prop :=
  ∀ newId commits (req : AllocationRequest) (row : IPAMAllocation),
    req.networkId = networkId →
    (autoAllocateIp { sur with newId := newId, commits := commits } ipam req).2 = .done row →
    ∀ network net a, sur.networks.find? networkId = some network →
      IpNetwork.parse network.network = some net → IpAddress.parse row.ipAddress = some a →
      a.toNat ≠ net.first ∧ a.toNat ≠ net.last ∧
        ∀ ip, network.gateway = some ip → IpAddress.parse ip ≠ some a

/-- In each searched pool the network address is taken, and the broadcast address is taken or not
the only free address. -/
def EndsSpared (sur : Surroundings) (ipam : Ipam) (network : IPAMNetwork) (net : IpNetwork) : Prop :=
  network.isActive = true → ∀ p, Searched sur network.id none p → ∀ a, InRange p a →
    (a.toNat = net.first → taken ipam network a = true) ∧
      (a.toNat = net.last → taken ipam network a = true ∨
        ∃ b, InRange p b ∧ b.toNat < a.toNat ∧ taken ipam network b = false)

section Usable

variable {sur : Surroundings} {ipam : Ipam} {networkId : Nat} {network : IPAMNetwork}
  {net : IpNetwork} {a : IpAddress} {p : IPAMPool}

/-- A taken address of the fourth version is recorded in its one text. -/
theorem occupied_of_taken {n : Fin (2 ^ 32)} (h : taken ipam network (.v4 n) = true) :
    ipam.occupied network (IpAddress.v4 n).text = true := by
  have htext : ∀ {ip : String}, denotes ip (.v4 n) = true → ip = (IpAddress.v4 n).text :=
    fun h => IpAddress.parse_v4_unique (of_decide_eq_true h) (IpAddress.parse_text rfl)
  unfold taken at h
  unfold occupied
  rw [Bool.or_eq_true, List.any_eq_true] at h ⊢
  rcases h with ⟨row, hrow, hip⟩ | hgateway
  · exact Or.inl ⟨row, hrow, decide_eq_true (htext hip)⟩
  · cases hip : network.gateway with
    | none => rw [hip] at hgateway; cases hgateway
    | some ip =>
      rw [hip] at hgateway
      obtain rfl := htext hgateway
      have hne : (IpAddress.v4 n).text ≠ "" := text_ne_empty rfl
      exact Or.inr (by simp [truthy, hne])

/-- Ranges of the fourth version are clear. -/
theorem poolClear_of_v4 (hv4 : ∀ start, IpAddress.parse p.rangeStart = some start →
      start.width = 32) (hv4' : ∀ stop, IpAddress.parse p.rangeEnd = some stop → stop.width = 32) :
    PoolClear ipam network p := by
  intro start stop hs hs' n hge hlt _
  have hstart := hv4 start hs
  have hstop := hv4' stop hs'
  have hstopLt := stop.toNat_lt
  rw [hstop] at hstopLt
  have hn : n < 2 ^ 32 := by omega
  have hof : IpAddress.ofNat? n = some (.v4 ⟨n, hn⟩) := dif_pos hn
  have hrenumbered : start.renumbered n = some (.v4 ⟨n, hn⟩) :=
    IpAddress.renumbered_eq_some_iff.mpr ⟨rfl, hstart.symm, rfl⟩
  unfold offered due
  rw [if_pos (hstart.trans hstop.symm), hof, hrenumbered, Option.filter_some, Option.filter_some]
  cases htaken : taken ipam network (.v4 ⟨n, hn⟩) with
  | true => rw [occupied_of_taken htaken]
  | false =>
    cases hoccupied : ipam.occupied network (IpAddress.v4 ⟨n, hn⟩).text with
    | false => rfl
    | true =>
      rw [taken_of_occupied rfl hoccupied] at htaken
      cases htaken

/-- In a network of the fourth version the lowest free address of a pool is offered. -/
theorem offer_iff_of_v4 (hfind : sur.networks.find? networkId = some network)
    (hnet : IpNetwork.parse network.network = some net) (hv4 : net.address.width = 32)
    (hp : p.networkId = networkId) (hinside : Inside sur.networks p) :
    firstInPool (fun _ _ => offered ipam network) p = some a ↔
      InRange p a ∧ taken ipam network a = false ∧
        ∀ b, InRange p b → b.toNat < a.toNat → taken ipam network b = true := by
  rw [← firstInPool_due_eq_some_iff, firstInPool_eq_iff.mpr]
  obtain ⟨network', net', start, stop, hfind', hnet', hs, hs', hle, hin, hin'⟩ := hinside
  rw [hp, hfind] at hfind'
  obtain rfl := Option.some.inj hfind'
  obtain rfl := Option.some.inj (hnet.symm.trans hnet')
  have hwidth := (net.contains_iff.mp hin).1
  have hwidth' := (net.contains_iff.mp hin').1
  refine poolClear_of_v4 (fun start₁ h => ?_) fun stop₁ h => ?_
  · obtain rfl := Option.some.inj (hs.symm.trans h)
    exact hwidth.trans hv4
  · obtain rfl := Option.some.inj (hs'.symm.trans h)
    exact hwidth'.trans hv4

/-- The addresses of a pool are addresses of its network. -/
theorem contains_of_inRange (hfind : sur.networks.find? networkId = some network)
    (hnet : IpNetwork.parse network.network = some net) (hp : p.networkId = networkId)
    (hinside : Inside sur.networks p) (h : InRange p a) : net.contains a = true := by
  obtain ⟨-, start, stop, hs, hs', hstart, -, hge, hle⟩ := h
  obtain ⟨hwidth, -, hfirst, hlast⟩ := width_of_inside hfind hnet hp hinside hs hs'
  exact net.contains_iff.mpr ⟨hstart.symm.trans hwidth, by omega, by omega⟩

/-- The lowest free address of a searched pool is assigned by some request. -/
theorem assigned_of_lowest (hfind : sur.networks.find? networkId = some network)
    (hnet : IpNetwork.parse network.network = some net) (hv4 : net.address.width = 32)
    (hinside : ∀ p ∈ sur.pools.rows, p.networkId = networkId → Inside sur.networks p)
    (hactive : network.isActive = true) (hp : Searched sur networkId none p) (ha : InRange p a)
    (hfree : taken ipam network a = false)
    (hlowest : ∀ b, InRange p b → b.toNat < a.toNat → taken ipam network b = true) :
    ∃ newId req row, req.networkId = networkId ∧ row.ipAddress = a.text ∧
      (autoAllocateIp { sur with newId := newId, commits := true } ipam req).2 = .done row := by
  have hrow : p ∈ sur.pools.rows := hp.1
  have hmine : p.networkId = networkId := hp.2.1
  have hpool := (offer_iff_of_v4 hfind hnet hv4 hmine (hinside p hrow hmine)).mpr
    ⟨ha, hfree, hlowest⟩
  obtain ⟨poolId, hoffer⟩ := exists_offer hfind hactive hp hpool
  obtain ⟨newId, hnew⟩ := exists_newId ipam
  have hscope := IpAddress.wellScoped_of_plain ha.1
  have hunrecorded : ipam.occupied network a.text = false := by
    cases hoccupied : ipam.occupied network a.text with
    | false => rfl
    | true =>
      rw [taken_of_occupied hscope hoccupied] at hfree
      cases hfree
  let sur' : Surroundings := { sur with newId := newId, commits := true }
  let req : AllocationRequest := { ipAddress := "", networkId := networkId, poolId := poolId }
  have hnext : getNextAvailableIp sur' ipam req.networkId req.poolId false = some a.text := hoffer
  have hcontains := contains_of_inRange hfind hnet hmine (hinside p hrow hmine) ha
  have haccepted : ∃ row, (allocateIp sur' ipam
      { ipAddress := a.text, networkId := networkId, poolId := poolId }).2 = .done row ∧
        row.ipAddress = a.text :=
    allocateIp_done hfind hnet hinside hscope hcontains hunrecorded rfl rfl rfl hnew
  obtain ⟨row, hdone, hip⟩ := haccepted
  refine ⟨newId, req, row, rfl, hip, ?_⟩
  unfold autoAllocateIp
  rw [hnext]
  exact hdone

/-- In a network of the fourth version with valid pools, what is assigned is a usable host exactly
when the ends of the network are spared. -/
theorem usable_iff (hfind : sur.networks.find? networkId = some network)
    (hnet : IpNetwork.parse network.network = some net) (hv4 : net.address.width = 32)
    (hinside : ∀ p ∈ sur.pools.rows, p.networkId = networkId → Inside sur.networks p) :
    Usable sur ipam networkId ↔ EndsSpared sur ipam network net := by
  have hid : network.id = networkId := sur.networks.key_of_find? hfind
  constructor
  · intro husable hactive p hp a ha
    rw [hid] at hp
    have hcontains : ∀ {b}, InRange p b → net.contains b = true :=
      contains_of_inRange hfind hnet hp.2.1 (hinside p hp.1 hp.2.1)
    have hassigned : taken ipam network a = false →
        (∀ b, InRange p b → b.toNat < a.toNat → taken ipam network b = true) →
          a.toNat ≠ net.first ∧ a.toNat ≠ net.last := by
      intro hfree hlowest
      obtain ⟨newId, req, row, hreq, hip, hdone⟩ :=
        assigned_of_lowest hfind hnet hv4 hinside hactive hp ha hfree hlowest
      obtain ⟨hfirst, hlast, -⟩ := husable newId true req row hreq hdone network net a hfind hnet
        (hip ▸ IpAddress.parse_text (IpAddress.wellScoped_of_plain ha.1))
      exact ⟨hfirst, hlast⟩
    constructor
    · intro hfirst
      by_contra hfree
      rw [Bool.not_eq_true] at hfree
      refine (hassigned hfree fun b hb hba => ?_).1 hfirst
      have hge := (net.contains_iff.mp (hcontains hb)).2.1
      omega
    · intro hlast
      by_contra hnot
      rw [not_or, Bool.not_eq_true] at hnot
      refine (hassigned hnot.1 fun b hb hba => ?_).2 hlast
      by_contra hfree
      rw [Bool.not_eq_true] at hfree
      exact hnot.2 ⟨b, hb, hba, hfree⟩
  · intro hspared newId commits req row hreq hdone network' net' a hfind' hnet' hip
    obtain rfl := Option.some.inj (hfind.symm.trans hfind')
    obtain rfl := Option.some.inj (hnet.symm.trans hnet')
    unfold autoAllocateIp at hdone
    split at hdone
    · cases hdone
    · rename_i ip hoffer
      obtain ⟨hrow, -⟩ := contains_of_done hdone
      obtain ⟨network₁, b, hfind₁, hactive, rfl, hscope, -, hwhere⟩ := of_offer hoffer
      rw [hreq] at hfind₁
      obtain rfl := Option.some.inj (hfind.symm.trans hfind₁)
      have hread : IpAddress.parse row.ipAddress = some b := by
        rw [hrow]
        exact IpAddress.parse_text hscope
      obtain rfl := Option.some.inj (hread.symm.trans hip)
      rcases hwhere with ⟨p, ⟨hprow, hmine, hpactive, hauto, -⟩, hp⟩ | ⟨hscan, -⟩
      · rw [hreq] at hmine
        obtain ⟨hrange, hfree, hlowest⟩ :=
          (offer_iff_of_v4 hfind hnet hv4 hmine (hinside p hprow hmine)).mp hp
        have hsearched : Searched sur network.id none p :=
          ⟨hprow, hmine.trans hid.symm, hpactive, hauto, fun id h => nomatch h⟩
        obtain ⟨hfirst, hlast⟩ := hspared hactive p hsearched b hrange
        refine ⟨fun h => ?_, fun h => ?_, fun ip hgateway hden => ?_⟩
        · rw [hfirst h] at hfree
          cases hfree
        · rcases hlast h with htaken | ⟨c, hc, hcb, hcfree⟩
          · rw [htaken] at hfree
            cases hfree
          · rw [hlowest c hc hcb] at hcfree
            cases hcfree
        · have htaken : taken ipam network b = true := by
            unfold taken
            rw [hgateway, Bool.or_eq_true]
            exact Or.inr (decide_eq_true hden)
          rw [htaken] at hfree
          cases hfree
      · cases hscan

/-- The whole office network is one pool. -/
def Surroundings.whole : Surroundings :=
  { Surroundings.office 1 with
    pools := ⟨[⟨1, 1, "all", "10.0.0.0", "10.0.0.255", true, true⟩], by decide⟩ }

/-- The office network, with its first and last address. -/
theorem parse_office : ∃ net, IpNetwork.parse "10.0.0.0/24" = some net ∧ net.address.width = 32 ∧
    net.first = 167772160 ∧ net.contains (.v4 167772160) = true ∧
      net.contains (.v4 167772415) = true := by
  have hread : ((IpNetwork.parse "10.0.0.0/24").map fun net => (net.address.width, net.first,
      net.contains (.v4 167772160), net.contains (.v4 167772415))) =
        some (32, 167772160, true, true) := by decide +kernel
  obtain ⟨net, hnet, h⟩ := Option.map_eq_some_iff.mp hread
  simp only [Prod.mk.injEq] at h
  exact ⟨net, hnet, h⟩

/-- The pool is inside its network, as those that are accepted are. -/
theorem inside_whole : ∀ p ∈ Surroundings.whole.pools.rows, p.networkId = 1 →
    Inside Surroundings.whole.networks p := by
  intro p hp _
  obtain rfl := List.mem_singleton.mp hp
  obtain ⟨net, hnet, -, -, hstart, hstop⟩ := parse_office
  have hread : IpAddress.parse "10.0.0.0" = some (.v4 167772160) ∧
      IpAddress.parse "10.0.0.255" = some (.v4 167772415) := by decide +kernel
  exact ⟨_, net, .v4 167772160, .v4 167772415, rfl, hnet, hread.1, hread.2, by decide, hstart,
    hstop⟩

/-- The first address of the network is then assigned. -/
theorem whole_not_usable : ¬Usable Surroundings.whole ⟨.empty, []⟩ 1 := by
  intro h
  obtain ⟨net, hnet, -, hfirst, -⟩ := parse_office
  have hread : IpAddress.parse "10.0.0.0" = some (.v4 167772160) := by decide +kernel
  have hassigned : ((autoAllocateIp Surroundings.whole ⟨.empty, []⟩
      { ipAddress := "", networkId := 1 }).2.done?.map IPAMAllocation.ipAddress) =
        some "10.0.0.0" := by decide +kernel
  obtain ⟨row, hrow, hip⟩ := Option.map_eq_some_iff.mp hassigned
  have hdone := Outcome.done?_eq_some_iff.mp hrow
  have hne := (h 1 true { ipAddress := "", networkId := 1 } row rfl hdone _ net
    (.v4 167772160) rfl hnet (hip ▸ hread)).1
  exact hne hfirst.symm

theorem usable_iff_whole :
    ∃ net, IpNetwork.parse "10.0.0.0/24" = some net ∧
      (Usable Surroundings.whole ⟨.empty, []⟩ 1 ↔
        EndsSpared Surroundings.whole ⟨.empty, []⟩
          ⟨1, "office", "10.0.0.0/24", some "10.0.0.1", none, true⟩ net) := by
  obtain ⟨net, hnet, hv4, -⟩ := parse_office
  exact ⟨net, hnet, usable_iff rfl hnet hv4 inside_whole⟩

end Usable

end PveManager.Ipam
