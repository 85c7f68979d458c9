import PveManager.Api.Handler
import PveManager.Ipam.MainAddress

/-!
# Networks and pools

`validate_pool_range` and the calls that create, change and delete networks and pools. In every
state the pools of a network lie inside it and no address is in the ranges of two of them.
-/

namespace PveManager.Net.IpAddress

/-- `a < b`, undefined for two versions. -/
def lt? (a b : IpAddress) : Option Bool :=
  if a.width = b.width then some (decide (a.toNat < b.toNat)) else none

/-- `a > b`: neither less nor equal. -/
def gt? (a b : IpAddress) : Option Bool :=
  (a.lt? b).map fun less => !less && decide (a ≠ b)

end PveManager.Net.IpAddress

namespace PveManager.Ipam

open PveManager.Core PveManager.Net PveManager.Rbac
open PveManager.Api (Exc)

/-- The tables of the address management. -/
structure IpamTables where
  networks : KeyedTable IPAMNetwork.id
  pools : KeyedTable IPAMPool.id
  ipam : Ipam

/-! ### Ranges -/

/-- `repr` of a text or of `None`. -/
def pyRepr : Option String → String
  | none => "None"
  | some t => s!"'{t}'"

/-- The overlap check against the other pools; an invalid range is passed over. -/
def checkOverlaps (start stop : IpAddress) : List IPAMPool → Outcome Unit
  | [] => .done ()
  | pool :: rest =>
    match IpAddress.parse pool.rangeStart, IpAddress.parse pool.rangeEnd with
    | some poolStart, some poolStop =>
      match stop.lt? poolStart with
      | none => .raised "TypeError"
      | some true => checkOverlaps start stop rest
      | some false =>
        match start.gt? poolStop with
        | none => .raised "TypeError"
        | some true => checkOverlaps start stop rest
        | some false => .refused (s!"Range overlaps with existing pool '{pool.name}' " ++
            s!"({pool.rangeStart}-{pool.rangeEnd})")
    | _, _ => checkOverlaps start stop rest

/-- `validate_pool_range`. -/
def validatePoolRange (t : IpamTables) (networkId : Nat) (rangeStart rangeEnd : Option String)
    (excludePoolId : Option Nat) : Outcome Unit :=
  match t.networks.find? networkId with
  | none => .refused "Network not found"
  | some network =>
    match IpNetwork.parse network.network with
    | none => .refused (s!"Invalid IP format: '{network.network}' does not appear to be an " ++
        "IPv4 or IPv6 network")
    | some net =>
      match rangeStart.bind IpAddress.parse with
      | none => .refused (s!"Invalid IP format: {pyRepr rangeStart} does not appear to be an " ++
          "IPv4 or IPv6 address")
      | some start =>
        match rangeEnd.bind IpAddress.parse with
        | none => .refused (s!"Invalid IP format: {pyRepr rangeEnd} does not appear to be an " ++
            "IPv4 or IPv6 address")
        | some stop =>
          if !net.contains start || !net.contains stop then
            .refused s!"Range must be within network {network.network}"
          else
            match start.gt? stop with
            | none => .raised "TypeError"
            | some true => .refused "Range start must be less than or equal to range end"
            | some false => checkOverlaps start stop (t.pools.rows.filter fun pool =>
                decide (pool.networkId = networkId) &&
                  (excludePoolId.filter (· ≠ 0)).all fun id => decide (pool.id ≠ id))

/-! ### Calls -/

structure IPAMNetworkCreate where
  name : String
  network : String
  gateway : Option String
  dnsDomain : Option String
  isActive : Bool

/-- The sent fields; a sent null is `some none`. -/
structure IPAMNetworkUpdate where
  name : Option (Option String)
  gateway : Option (Option String)
  dnsDomain : Option (Option String)
  isActive : Option (Option Bool)

structure IPAMPoolCreate where
  networkId : Nat
  name : String
  rangeStart : String
  rangeEnd : String
  autoAssign : Bool
  isActive : Bool

structure IPAMPoolUpdate where
  name : Option (Option String)
  rangeStart : Option (Option String)
  rangeEnd : Option (Option String)
  autoAssign : Option (Option Bool)
  isActive : Option (Option Bool)

/-- The row with the sent fields, unless a null goes to a column that has none. -/
def IPAMNetworkUpdate.apply (data : IPAMNetworkUpdate) (network : IPAMNetwork) :
    Option IPAMNetwork := do
  let name ← data.name.getD (some network.name)
  let isActive ← data.isActive.getD (some network.isActive)
  pure { network with
    name := name
    gateway := data.gateway.getD network.gateway
    dnsDomain := data.dnsDomain.getD network.dnsDomain
    isActive := isActive }

def IPAMPoolUpdate.apply (data : IPAMPoolUpdate) (pool : IPAMPool) : Option IPAMPool := do
  let name ← data.name.getD (some pool.name)
  let rangeStart ← data.rangeStart.getD (some pool.rangeStart)
  let rangeEnd ← data.rangeEnd.getD (some pool.rangeEnd)
  let autoAssign ← data.autoAssign.getD (some pool.autoAssign)
  let isActive ← data.isActive.getD (some pool.isActive)
  pure { pool with
    name := name
    rangeStart := rangeStart
    rangeEnd := rangeEnd
    autoAssign := autoAssign
    isActive := isActive }

/-- A call on the tables. -/
inductive IpamCall
  | createNetwork (data : IPAMNetworkCreate)
  | updateNetwork (networkId : Nat) (data : IPAMNetworkUpdate)
  | deleteNetwork (networkId : Nat) (force : Bool)
  /-- The network that comes with a subnet of the software-defined network. -/
  | createSdnSubnet (vnet subnet : String) (gateway : Option String)
  | createPool (data : IPAMPoolCreate)
  | updatePool (poolId : Nat) (data : IPAMPoolUpdate)
  | deletePool (poolId : Nat)
  | service (sur : Surroundings) (call : Call)

structure IpamRequest where
  user : User
  /-- The identifier the database gives to a new row. -/
  newId : Nat
  /-- Whether the database takes the commit. -/
  commits : Bool
  call : IpamCall

section Calls

variable (t : IpamTables) (newId : Nat) (commits : Bool)

/-- Commit new tables, or fail and keep the old ones. -/
def commit (t' : IpamTables) : IpamTables × Except Exc Unit :=
  if commits then (t', .ok ()) else (t, .error (.other "IntegrityError"))

def createNetwork (data : IPAMNetworkCreate) : IpamTables × Except Exc Unit :=
  if (IpNetwork.parse data.network).isNone ||
      data.gateway.any fun ip => (IpAddress.parse ip).isNone then
    (t, .error (.http 422 "Unprocessable Entity"))
  else if t.networks.rows.any fun n => decide (n.network = data.network) then
    (t, .error (.http 400 s!"Network {data.network} already exists"))
  else
    let network : IPAMNetwork :=
      ⟨newId, data.name, data.network, data.gateway, data.dnsDomain, data.isActive⟩
    commit t (commits && (t.networks.find? newId).isNone)
      { t with networks := t.networks.save network }

def updateNetwork (networkId : Nat) (data : IPAMNetworkUpdate) : IpamTables × Except Exc Unit :=
  match t.networks.find? networkId with
  | none => (t, .error (.http 404 "Network not found"))
  | some network =>
    match data.apply network with
    | none => (t, .error (.other "IntegrityError"))
    | some network' => commit t commits { t with networks := t.networks.save network' }

def deleteNetwork (networkId : Nat) (force : Bool) : IpamTables × Except Exc Unit :=
  match t.networks.find? networkId with
  | none => (t, .error (.http 404 "Network not found"))
  | some _ =>
    let count := t.ipam.allocations.rows.countP fun a => decide (a.networkId = networkId)
    if decide (0 < count) && !force then
      (t, .error (.http 400
        s!"Network has {count} allocations. Use force=true to delete anyway."))
    else
      commit t commits
        { networks := t.networks.erase networkId
          pools := t.pools.filter fun p => decide (p.networkId ≠ networkId)
          ipam :=
            { allocations := t.ipam.allocations.filter fun a => decide (a.networkId ≠ networkId)
              history := t.ipam.history.filter fun h => decide (h.networkId ≠ networkId) } }

def createSdnSubnet (vnet subnet : String) (gateway : Option String) :
    IpamTables × Except Exc Unit :=
  if t.networks.rows.any fun n => decide (n.network = subnet) then (t, .ok ())
  else
    let network : IPAMNetwork := ⟨newId, s!"{vnet} — {subnet}", subnet,
      if truthy gateway then gateway else none, none, true⟩
    commit t (commits && (t.networks.find? newId).isNone)
      { t with networks := t.networks.save network }

def createPool (data : IPAMPoolCreate) : IpamTables × Except Exc Unit :=
  match t.networks.find? data.networkId with
  | none => (t, .error (.http 404 "Network not found"))
  | some _ =>
    match validatePoolRange t data.networkId (some data.rangeStart) (some data.rangeEnd) none with
    | .refused e => (t, .error (.http 400 e))
    | .raised e => (t, .error (.other e))
    | .done _ =>
      let pool : IPAMPool := ⟨newId, data.networkId, data.name, data.rangeStart, data.rangeEnd,
        data.autoAssign, data.isActive⟩
      commit t (commits && (t.pools.find? newId).isNone) { t with pools := t.pools.save pool }

/-- The range is validated where one of its ends is sent. -/
def validateUpdate (pool : IPAMPool) (data : IPAMPoolUpdate) : Outcome Unit :=
  if data.rangeStart.isSome || data.rangeEnd.isSome then
    validatePoolRange t pool.networkId (data.rangeStart.getD (some pool.rangeStart))
      (data.rangeEnd.getD (some pool.rangeEnd)) (some pool.id)
  else .done ()

def updatePool (poolId : Nat) (data : IPAMPoolUpdate) : IpamTables × Except Exc Unit :=
  match t.pools.find? poolId with
  | none => (t, .error (.http 404 "Pool not found"))
  | some pool =>
    match validateUpdate t pool data with
    | .refused e => (t, .error (.http 400 e))
    | .raised e => (t, .error (.other e))
    | .done _ =>
      match data.apply pool with
      | none => (t, .error (.other "IntegrityError"))
      | some pool' => commit t commits { t with pools := t.pools.save pool' }

/-- An allocation without the pool. -/
def dropPool (poolId : Nat) (a : IPAMAllocation) : IPAMAllocation :=
  { a with poolId := if a.poolId = some poolId then none else a.poolId }

theorem ipAddress_dropPool (poolId : Nat) (a : IPAMAllocation) :
    (dropPool poolId a).ipAddress = a.ipAddress := rfl

def deletePool (poolId : Nat) : IpamTables × Except Exc Unit :=
  match t.pools.find? poolId with
  | none => (t, .error (.http 404 "Pool not found"))
  | some _ =>
    commit t commits
      { t with
        pools := t.pools.erase poolId
        ipam := { t.ipam with
          allocations := t.ipam.allocations.mapRows (dropPool poolId) (ipAddress_dropPool poolId) } }

/-- A call of a user who may manage addresses. -/
def handle : IpamCall → IpamTables × Except Exc Unit
  | .createNetwork data => createNetwork t newId commits data
  | .updateNetwork networkId data => updateNetwork t commits networkId data
  | .deleteNetwork networkId force => deleteNetwork t commits networkId force
  | .createSdnSubnet vnet subnet gateway => createSdnSubnet t newId commits vnet subnet gateway
  | .createPool data => createPool t newId commits data
  | .updatePool poolId data => updatePool t commits poolId data
  | .deletePool poolId => deletePool t commits poolId
  | .service sur call => ({ t with
      ipam := callStep t.ipam ({ sur with networks := t.networks, pools := t.pools }, call) }, .ok ())

end Calls

/-- `ipam:manage` is asked for by the calls on networks and pools. -/
def IpamCall.managed : IpamCall → Bool
  | .createSdnSubnet .. | .service .. => false
  | _ => true

namespace IpamTables

def step (t : IpamTables) (r : IpamRequest) : IpamTables :=
  if r.call.managed && !hasPermission r.user "ipam:manage" then t
  else (handle t r.newId r.commits r.call).1

/-- Networks and pools before the first call. -/
def start (ipam : Ipam) : IpamTables := ⟨.empty, .empty, ipam⟩

end IpamTables

/-! ### What a call changes -/

/-- What a call writes to the tables. -/
inductive Writes (t : IpamTables) : IpamTables → Prop
  | nothing : Writes t t
  | networkAdded (n : IPAMNetwork) (hnew : t.networks.find? n.id = none) :
      Writes t { t with networks := t.networks.save n }
  | networkEdited (n n' : IPAMNetwork) (hfind : t.networks.find? n'.id = some n)
      (hsame : n'.network = n.network) : Writes t { t with networks := t.networks.save n' }
  | networkRemoved (id : Nat) :
      Writes t
        { networks := t.networks.erase id
          pools := t.pools.filter fun p => decide (p.networkId ≠ id)
          ipam :=
            { allocations := t.ipam.allocations.filter fun a => decide (a.networkId ≠ id)
              history := t.ipam.history.filter fun h => decide (h.networkId ≠ id) } }
  | poolAdded (p : IPAMPool) (hnew : t.pools.find? p.id = none)
      (hvalid : validatePoolRange t p.networkId (some p.rangeStart) (some p.rangeEnd) none =
        .done ()) : Writes t { t with pools := t.pools.save p }
  | poolEdited (p p' : IPAMPool) (hfind : t.pools.find? p'.id = some p)
      (hnetwork : p'.networkId = p.networkId)
      (hvalid : (p'.rangeStart = p.rangeStart ∧ p'.rangeEnd = p.rangeEnd) ∨
        validatePoolRange t p'.networkId (some p'.rangeStart) (some p'.rangeEnd) (some p'.id) =
          .done ()) : Writes t { t with pools := t.pools.save p' }
  | poolRemoved (id : Nat) :
      Writes t
        { t with
          pools := t.pools.erase id
          ipam := { t.ipam with
            allocations := t.ipam.allocations.mapRows (dropPool id) (ipAddress_dropPool id) } }
  | served (sur : Surroundings) (call : Call) (hsur : sur.networks = t.networks) :
      Writes t { t with ipam := callStep t.ipam (sur, call) }

/-- What a call does to networks and pools. -/
inductive Changes (t t' : IpamTables) : Prop
  | kept (hn : t'.networks = t.networks) (hp : t'.pools = t.pools)
  | networkAdded (n : IPAMNetwork) (hnew : t.networks.find? n.id = none)
      (hn : t'.networks = t.networks.save n) (hp : t'.pools = t.pools)
  | networkEdited (n n' : IPAMNetwork) (hfind : t.networks.find? n'.id = some n)
      (hsame : n'.network = n.network) (hn : t'.networks = t.networks.save n')
      (hp : t'.pools = t.pools)
  | networkRemoved (id : Nat) (hn : t'.networks = t.networks.erase id)
      (hp : t'.pools = t.pools.filter fun p => decide (p.networkId ≠ id))
  | poolAdded (p : IPAMPool) (hnew : t.pools.find? p.id = none)
      (hvalid : validatePoolRange t p.networkId (some p.rangeStart) (some p.rangeEnd) none =
        .done ()) (hn : t'.networks = t.networks) (hp : t'.pools = t.pools.save p)
  | poolEdited (p p' : IPAMPool) (hfind : t.pools.find? p'.id = some p)
      (hnetwork : p'.networkId = p.networkId)
      (hvalid : (p'.rangeStart = p.rangeStart ∧ p'.rangeEnd = p.rangeEnd) ∨
        validatePoolRange t p'.networkId (some p'.rangeStart) (some p'.rangeEnd) (some p'.id) =
          .done ()) (hn : t'.networks = t.networks) (hp : t'.pools = t.pools.save p')
  | poolRemoved (id : Nat) (hn : t'.networks = t.networks) (hp : t'.pools = t.pools.erase id)

section Changes

variable {t t' : IpamTables} {newId : Nat} {commits : Bool}

theorem Writes.commit (h : commits = true → Writes t t') :
    Writes t (Ipam.commit t commits t').1 := by
  unfold Ipam.commit
  split
  · rename_i hcommits
    exact h hcommits
  · exact .nothing

theorem writes_createNetwork (data : IPAMNetworkCreate) :
    Writes t (createNetwork t newId commits data).1 := by
  unfold createNetwork
  split
  · exact .nothing
  · split
    · exact .nothing
    · refine .commit fun hcommits => ?_
      rw [Bool.and_eq_true, Option.isNone_iff_eq_none] at hcommits
      exact .networkAdded _ hcommits.2

/-- An update leaves the identifier and the addresses of a network. -/
theorem of_networkApply {network network' : IPAMNetwork} {data : IPAMNetworkUpdate}
    (h : data.apply network = some network') :
    network'.id = network.id ∧ network'.network = network.network := by
  obtain ⟨name, -, h⟩ := Option.bind_eq_some_iff.mp h
  obtain ⟨isActive, -, h⟩ := Option.bind_eq_some_iff.mp h
  obtain rfl := Option.some.inj h
  exact ⟨rfl, rfl⟩

theorem writes_updateNetwork (networkId : Nat) (data : IPAMNetworkUpdate) :
    Writes t (updateNetwork t commits networkId data).1 := by
  unfold updateNetwork
  cases hfind : t.networks.find? networkId with
  | none => exact .nothing
  | some network =>
    dsimp only
    cases happly : data.apply network with
    | none => exact .nothing
    | some network' =>
      have hid : network.id = networkId := t.networks.key_of_find? hfind
      have hid' := of_networkApply happly
      have hold : t.networks.find? network'.id = some network := by rw [hid'.1, hid, hfind]
      exact .commit fun _ => .networkEdited network network' hold hid'.2

theorem writes_deleteNetwork (networkId : Nat) (force : Bool) :
    Writes t (deleteNetwork t commits networkId force).1 := by
  unfold deleteNetwork
  cases t.networks.find? networkId with
  | none => exact .nothing
  | some network =>
    dsimp only
    split
    · exact .nothing
    · exact .commit fun _ => .networkRemoved networkId

theorem writes_createSdnSubnet (vnet subnet : String) (gateway : Option String) :
    Writes t (createSdnSubnet t newId commits vnet subnet gateway).1 := by
  unfold createSdnSubnet
  split
  · exact .nothing
  · refine .commit fun hcommits => ?_
    rw [Bool.and_eq_true, Option.isNone_iff_eq_none] at hcommits
    exact .networkAdded _ hcommits.2

theorem writes_createPool (data : IPAMPoolCreate) :
    Writes t (createPool t newId commits data).1 := by
  unfold createPool
  cases t.networks.find? data.networkId with
  | none => exact .nothing
  | some network =>
    dsimp only
    cases hvalid : validatePoolRange t data.networkId (some data.rangeStart) (some data.rangeEnd)
        none with
    | refused e => exact .nothing
    | raised e => exact .nothing
    | done a =>
      refine .commit fun hcommits => ?_
      rw [Bool.and_eq_true, Option.isNone_iff_eq_none] at hcommits
      exact .poolAdded _ hcommits.2 hvalid

/-- A changed range has been validated. -/
theorem validated_of_apply {pool pool' : IPAMPool} {data : IPAMPoolUpdate}
    (hvalid : validateUpdate t pool data = .done ()) (happly : data.apply pool = some pool') :
    pool'.id = pool.id ∧ pool'.networkId = pool.networkId ∧
      ((pool'.rangeStart = pool.rangeStart ∧ pool'.rangeEnd = pool.rangeEnd) ∨
        validatePoolRange t pool'.networkId (some pool'.rangeStart) (some pool'.rangeEnd)
          (some pool'.id) = .done ()) := by
  obtain ⟨name, -, h⟩ := Option.bind_eq_some_iff.mp happly
  obtain ⟨rangeStart, hstart, h⟩ := Option.bind_eq_some_iff.mp h
  obtain ⟨rangeEnd, hstop, h⟩ := Option.bind_eq_some_iff.mp h
  obtain ⟨autoAssign, -, h⟩ := Option.bind_eq_some_iff.mp h
  obtain ⟨isActive, -, h⟩ := Option.bind_eq_some_iff.mp h
  obtain rfl := Option.some.inj h
  refine ⟨rfl, rfl, ?_⟩
  unfold validateUpdate at hvalid
  split at hvalid
  · rw [hstart, hstop] at hvalid
    exact Or.inr hvalid
  · rename_i hnone
    rw [Bool.or_eq_true, not_or, Option.not_isSome_iff_eq_none,
      Option.not_isSome_iff_eq_none] at hnone
    rw [hnone.1] at hstart
    rw [hnone.2] at hstop
    exact Or.inl ⟨(Option.some.inj hstart).symm, (Option.some.inj hstop).symm⟩

theorem writes_updatePool (poolId : Nat) (data : IPAMPoolUpdate) :
    Writes t (updatePool t commits poolId data).1 := by
  unfold updatePool
  cases hfind : t.pools.find? poolId with
  | none => exact .nothing
  | some pool =>
    dsimp only
    cases hvalid : validateUpdate t pool data with
    | refused e => exact .nothing
    | raised e => exact .nothing
    | done a =>
      dsimp only
      cases happly : data.apply pool with
      | none => exact .nothing
      | some pool' =>
        obtain ⟨hid, hnetwork, hrange⟩ := validated_of_apply hvalid happly
        have hpool : pool.id = poolId := t.pools.key_of_find? hfind
        have hold : t.pools.find? pool'.id = some pool := by rw [hid, hpool, hfind]
        exact .commit fun _ => .poolEdited pool pool' hold hnetwork hrange

theorem writes_deletePool (poolId : Nat) : Writes t (deletePool t commits poolId).1 := by
  unfold deletePool
  cases t.pools.find? poolId with
  | none => exact .nothing
  | some pool => exact .commit fun _ => .poolRemoved poolId

theorem writes_step (t : IpamTables) (r : IpamRequest) : Writes t (t.step r) := by
  unfold IpamTables.step
  split
  · exact .nothing
  · unfold handle
    cases r.call with
    | createNetwork data => exact writes_createNetwork data
    | updateNetwork networkId data => exact writes_updateNetwork networkId data
    | deleteNetwork networkId force => exact writes_deleteNetwork networkId force
    | createSdnSubnet vnet subnet gateway => exact writes_createSdnSubnet vnet subnet gateway
    | createPool data => exact writes_createPool data
    | updatePool poolId data => exact writes_updatePool poolId data
    | deletePool poolId => exact writes_deletePool poolId
    | service sur call =>
      exact .served { sur with networks := t.networks, pools := t.pools } call rfl

/-- What the writes come to for networks and pools. -/
theorem Writes.changes (h : Writes t t') : Changes t t' := by
  cases h with
  | nothing => exact .kept rfl rfl
  | networkAdded n hnew => exact .networkAdded n hnew rfl rfl
  | networkEdited n n' hfind hsame => exact .networkEdited n n' hfind hsame rfl rfl
  | networkRemoved id => exact .networkRemoved id rfl rfl
  | poolAdded p hnew hvalid => exact .poolAdded p hnew hvalid rfl rfl
  | poolEdited p p' hfind hnetwork hvalid => exact .poolEdited p p' hfind hnetwork hvalid rfl rfl
  | poolRemoved id => exact .poolRemoved id rfl rfl
  | served sur call hsur => exact .kept rfl rfl

/-- One step. -/
theorem changes_step (t : IpamTables) (r : IpamRequest) : Changes t (t.step r) :=
  (writes_step t r).changes

end Changes

/-! ### Validated ranges -/

/-- The address is in the range of the pool: `start <= ip <= end`. -/
def Holds (p : IPAMPool) (a : IpAddress) : Prop :=
  ∃ start stop, IpAddress.parse p.rangeStart = some start ∧
    IpAddress.parse p.rangeEnd = some stop ∧ start.le? a = some true ∧ a.le? stop = some true

/-- The range is one of addresses of its network, from a lower to a higher one. -/
def Inside (networks : KeyedTable IPAMNetwork.id) (p : IPAMPool) : Prop :=
  ∃ network net start stop, networks.find? p.networkId = some network ∧
    IpNetwork.parse network.network = some net ∧ IpAddress.parse p.rangeStart = some start ∧
    IpAddress.parse p.rangeEnd = some stop ∧ start.le? stop = some true ∧
    net.contains start = true ∧ net.contains stop = true

/-- Pools are inside their networks, and those of one network have no address in common. -/
structure Orderly (t : IpamTables) : Prop where
  inside : ∀ p ∈ t.pools.rows, Inside t.networks p
  disjoint : ∀ p ∈ t.pools.rows, ∀ q ∈ t.pools.rows, p.networkId = q.networkId → p ≠ q →
    ∀ a, ¬(Holds p a ∧ Holds q a)

section Orderly

variable {t t' : IpamTables} {p q : IPAMPool}

/-- A range that passes the check against other pools is before or behind each of them. -/
theorem of_checkOverlaps {start stop : IpAddress} {pools : List IPAMPool}
    (h : checkOverlaps start stop pools = .done ()) (hq : q ∈ pools) {start' stop' : IpAddress}
    (hstart : IpAddress.parse q.rangeStart = some start')
    (hstop : IpAddress.parse q.rangeEnd = some stop') :
    stop.lt? start' = some true ∨ start.gt? stop' = some true := by
  induction pools with
  | nil => exact absurd hq List.not_mem_nil
  | cons pool rest ih =>
    rw [checkOverlaps] at h
    rcases List.mem_cons.mp hq with rfl | hq
    · rw [hstart, hstop] at h
      dsimp only at h
      cases hlt : stop.lt? start' with
      | none => rw [hlt] at h; cases h
      | some less =>
        cases less with
        | true => exact Or.inl rfl
        | false =>
          cases hgt : start.gt? stop' with
          | none => rw [hlt, hgt] at h; cases h
          | some greater =>
            cases greater with
            | true => exact Or.inr rfl
            | false => rw [hlt, hgt] at h; cases h
    · refine ih ?_ hq
      split at h
      · split at h
        · cases h
        · exact h
        · split at h
          · cases h
          · exact h
          · cases h
      · exact h

/-- What a valid range is. -/
theorem of_validatePoolRange {networkId : Nat} {rangeStart rangeEnd : String}
    {excluded : Option Nat}
    (h : validatePoolRange t networkId (some rangeStart) (some rangeEnd) excluded = .done ()) :
    ∃ network net start stop, t.networks.find? networkId = some network ∧
      IpNetwork.parse network.network = some net ∧ IpAddress.parse rangeStart = some start ∧
      IpAddress.parse rangeEnd = some stop ∧ start.gt? stop = some false ∧
      net.contains start = true ∧ net.contains stop = true ∧
      checkOverlaps start stop (t.pools.rows.filter fun pool =>
        decide (pool.networkId = networkId) &&
          (excluded.filter (· ≠ 0)).all fun id => decide (pool.id ≠ id)) = .done () := by
  unfold validatePoolRange at h
  split at h
  · cases h
  · rename_i network hnetwork
    split at h
    · cases h
    · rename_i net hnet
      split at h
      · cases h
      · rename_i start hstart
        split at h
        · cases h
        · rename_i stop hstop
          split at h
          · cases h
          · rename_i hcontains
            rw [Bool.or_eq_true, not_or, Bool.not_eq_true, Bool.not_eq_true,
              Bool.not_eq_false', Bool.not_eq_false'] at hcontains
            split at h
            · cases h
            · cases h
            · rename_i hgt
              exact ⟨network, net, start, stop, hnetwork, hnet, hstart, hstop, hgt, hcontains.1,
                hcontains.2, h⟩

/-- Not greater is less or equal. -/
theorem le?_of_gt? {a b : IpAddress} (h : a.gt? b = some false) : a.le? b = some true := by
  unfold IpAddress.gt? IpAddress.lt? at h
  unfold IpAddress.le?
  split at h
  · rename_i hwidth
    rw [if_pos hwidth]
    simp only [Option.map_some, Option.some.injEq, Bool.and_eq_false_iff, Bool.not_eq_false',
      decide_eq_true_eq, decide_eq_false_iff_not, not_not] at h
    exact congrArg some (decide_eq_true h)
  · cases h

/-- Before or behind a range there is none of its addresses. -/
theorem not_between {start stop start' stop' a : IpAddress}
    (h : stop.lt? start' = some true ∨ start.gt? stop' = some true)
    (hstart : start.le? a = some true) (hstop : a.le? stop = some true)
    (hstart' : start'.le? a = some true) (hstop' : a.le? stop' = some true) : False := by
  have hle : ∀ {a b : IpAddress}, a.le? b = some true → a.toNat < b.toNat ∨ a = b := by
    intro a b hab
    unfold IpAddress.le? at hab
    split at hab
    · simpa using hab
    · cases hab
  rcases h with h | h
  · unfold IpAddress.lt? at h
    split at h
    · have hlt : stop.toNat < start'.toNat := by simpa using h
      rcases hle hstop with h1 | rfl
      · rcases hle hstart' with h2 | rfl
        · omega
        · omega
      · rcases hle hstart' with h2 | rfl
        · omega
        · omega
    · cases h
  · unfold IpAddress.gt? IpAddress.lt? at h
    split at h
    · have hgt : ¬start.toNat < stop'.toNat ∧ start ≠ stop' := by simpa using h
      rcases hle hstart with h1 | rfl
      · rcases hle hstop' with h2 | rfl
        · omega
        · omega
      · rcases hle hstop' with h2 | rfl
        · omega
        · exact hgt.2 rfl
    · cases h

/-- A valid range has no address in common with the other pools of the network. -/
theorem not_holds_of_valid {excluded : Option Nat}
    (h : validatePoolRange t p.networkId (some p.rangeStart) (some p.rangeEnd) excluded = .done ())
    (hq : q ∈ t.pools.rows) (hnetwork : q.networkId = p.networkId)
    (hother : ∀ id, excluded = some id → q.id ≠ id) (a : IpAddress) :
    ¬(Holds p a ∧ Holds q a) := by
  rintro ⟨⟨start, stop, hstart, hstop, hpa, hap⟩, ⟨start', stop', hstart', hstop', hqa, haq⟩⟩
  obtain ⟨-, -, start₁, stop₁, -, -, hp, hp', -, -, -, hoverlaps⟩ := of_validatePoolRange h
  obtain rfl : start = start₁ := Option.some.inj (hstart.symm.trans hp)
  obtain rfl : stop = stop₁ := Option.some.inj (hstop.symm.trans hp')
  have hmem : q ∈ t.pools.rows.filter fun pool => decide (pool.networkId = p.networkId) &&
      (excluded.filter (· ≠ 0)).all fun id => decide (pool.id ≠ id) := by
    refine List.mem_filter.mpr ⟨hq, ?_⟩
    rw [decide_eq_true hnetwork, Bool.true_and, Option.all_eq_true_iff_get]
    intro hsome
    have hid := (Option.filter_eq_some_iff.mp (Option.some_get hsome).symm).1
    exact decide_eq_true (hother _ hid)
  exact not_between (of_checkOverlaps hoverlaps hmem hstart' hstop') hpa hap hqa haq

theorem inside_of_valid {excluded : Option Nat}
    (h : validatePoolRange t p.networkId (some p.rangeStart) (some p.rangeEnd) excluded =
      .done ()) : Inside t.networks p := by
  obtain ⟨network, net, start, stop, hnetwork, hnet, hstart, hstop, hgt, hin, hin', -⟩ :=
    of_validatePoolRange h
  exact ⟨network, net, start, stop, hnetwork, hnet, hstart, hstop, le?_of_gt? hgt, hin, hin'⟩

/-- A pool that stays keeps its network. -/
theorem Inside.mono {networks networks' : KeyedTable IPAMNetwork.id} (h : Inside networks p)
    (hkeep : ∀ network, networks.find? p.networkId = some network →
      ∃ network', networks'.find? p.networkId = some network' ∧
        network'.network = network.network) : Inside networks' p := by
  obtain ⟨network, net, start, stop, hnetwork, hnet, hrest⟩ := h
  obtain ⟨network', hnetwork', hsame⟩ := hkeep network hnetwork
  exact ⟨network', net, start, stop, hnetwork', hsame ▸ hnet, hrest⟩

/-- What a pool holds depends on its range. -/
theorem holds_congr {p' : IPAMPool} (hstart : p'.rangeStart = p.rangeStart)
    (hstop : p'.rangeEnd = p.rangeEnd) (a : IpAddress) : Holds p' a ↔ Holds p a := by
  unfold Holds
  rw [hstart, hstop]

/-- A stored pool that is inside and apart from the others leaves the pools in order. -/
theorem Orderly.save (h : Orderly t) (hn : t'.networks = t.networks)
    (hp : t'.pools = t.pools.save p) (hinside : Inside t.networks p)
    (hdisjoint : ∀ q ∈ t.pools.rows, q.id ≠ p.id → q.networkId = p.networkId →
      ∀ a, ¬(Holds p a ∧ Holds q a)) : Orderly t' := by
  constructor
  · intro q hq
    rw [hp, KeyedTable.mem_rows_save] at hq
    rw [hn]
    rcases hq with rfl | ⟨hq, -⟩
    · exact hinside
    · exact h.inside q hq
  · intro q hq q' hq' hnetwork hne a
    rw [hp, KeyedTable.mem_rows_save] at hq hq'
    rcases hq with rfl | ⟨hq, hid⟩
    · rcases hq' with rfl | ⟨hq', hid'⟩
      · exact absurd rfl hne
      · exact hdisjoint q' hq' hid' hnetwork.symm a
    · rcases hq' with rfl | ⟨hq', hid'⟩
      · exact fun hboth => hdisjoint q hq hid hnetwork a hboth.symm
      · exact h.disjoint q hq q' hq' hnetwork hne a

/-- Every call keeps the pools in order. -/
theorem Orderly.changes (h : Orderly t) (hchanges : Changes t t') : Orderly t' := by
  cases hchanges with
  | kept hn hp => exact ⟨hn ▸ hp ▸ h.inside, hp ▸ h.disjoint⟩
  | networkAdded n hnew hn hp =>
    refine ⟨fun p hmem => ?_, hp ▸ h.disjoint⟩
    rw [hp] at hmem
    refine (h.inside p hmem).mono fun network hnetwork => ⟨network, ?_, rfl⟩
    rw [hn, KeyedTable.find?_save, if_neg, hnetwork]
    intro hid
    rw [← hid, hnew] at hnetwork
    cases hnetwork
  | networkEdited n n' hfind hsame hn hp =>
    refine ⟨fun p hmem => ?_, hp ▸ h.disjoint⟩
    rw [hp] at hmem
    refine (h.inside p hmem).mono fun network hnetwork => ?_
    rw [hn, KeyedTable.find?_save]
    by_cases hid : n'.id = p.networkId
    · rw [← hid, hfind] at hnetwork
      obtain rfl := Option.some.inj hnetwork
      exact ⟨n', if_pos hid, hsame⟩
    · exact ⟨network, (if_neg hid).trans hnetwork, rfl⟩
  | networkRemoved id hn hp =>
    have hmem : ∀ {p : IPAMPool}, p ∈ t'.pools.rows → p ∈ t.pools.rows ∧ p.networkId ≠ id := by
      intro p hmem
      rw [hp, KeyedTable.rows_filter, List.mem_filter, decide_eq_true_eq] at hmem
      exact hmem
    refine ⟨fun p hp' => ?_, fun p hp' q hq' => h.disjoint p (hmem hp').1 q (hmem hq').1⟩
    refine (h.inside p (hmem hp').1).mono fun network hnetwork => ⟨network, ?_, rfl⟩
    rw [hn, KeyedTable.find?_erase, if_neg (hmem hp').2, hnetwork]
  | poolAdded p hnew hvalid hn hp =>
    refine h.save hn hp (inside_of_valid hvalid) fun q hq _ hnetwork a => ?_
    exact not_holds_of_valid hvalid hq hnetwork (fun _ hnone => nomatch hnone) a
  | poolEdited p p' hfind hnetwork hvalid hn hp =>
    have hold := t.pools.mem_of_find? hfind
    rcases hvalid with ⟨hstart, hstop⟩ | hvalid
    · refine h.save hn hp ?_ fun q hq hid hsame a hboth => ?_
      · obtain ⟨network, net, start, stop, hrest⟩ := h.inside p hold
        refine ⟨network, net, start, stop, ?_⟩
        rw [hnetwork, hstart, hstop]
        exact hrest
      · have hpid : p.id = p'.id := t.pools.key_of_find? hfind
        refine h.disjoint p hold q hq (hnetwork.symm.trans hsame.symm) ?_ a
          ⟨(holds_congr hstart hstop a).mp hboth.1, hboth.2⟩
        rintro rfl
        exact hid hpid
    · refine h.save hn hp (inside_of_valid hvalid) fun q hq hid hsame a => ?_
      exact not_holds_of_valid hvalid hq hsame (fun id hsome => Option.some.inj hsome ▸ hid) a
  | poolRemoved id hn hp =>
    have hmem : ∀ {p : IPAMPool}, p ∈ t'.pools.rows → p ∈ t.pools.rows := by
      intro p hmem
      rw [hp, KeyedTable.mem_rows_erase] at hmem
      exact hmem.1
    exact ⟨fun p hp' => hn ▸ h.inside p (hmem hp'),
      fun p hp' q hq' => h.disjoint p (hmem hp') q (hmem hq')⟩

/-- Without pools there is nothing to be in order. -/
theorem orderly_of_empty {networks : KeyedTable IPAMNetwork.id} {ipam : Ipam} :
    Orderly ⟨networks, .empty, ipam⟩ :=
  ⟨fun _ h => absurd h List.not_mem_nil, fun _ h => absurd h List.not_mem_nil⟩

end Orderly

/-- A network gets two pools, one behind the other. -/
def officeCalls : List IpamRequest :=
  let admin : User := ⟨1, "admin", true, none, []⟩
  [⟨admin, 1, true, .createNetwork ⟨"office", "10.0.0.0/24", some "10.0.0.1", none, true⟩⟩,
    ⟨admin, 1, true, .createPool ⟨1, "desks", "10.0.0.10", "10.0.0.19", true, true⟩⟩,
    ⟨admin, 2, true, .createPool ⟨1, "guests", "10.0.0.20", "10.0.0.29", true, true⟩⟩]

end PveManager.Ipam
