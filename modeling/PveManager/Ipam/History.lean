import PveManager.Api.Handler
import PveManager.Core.Holding
import PveManager.Ipam.MainAddress

/-!
# The history of the addresses

Every call that allocates or releases an address writes a line of history with it. Replaying the
lines of an address gives its allocation, also after a network was deleted with its lines. The
cleanup releases the addresses of guests that are gone, one by one and with their lines.
-/

namespace PveManager.Ipam

open PveManager.Core PveManager.Api

/-! ### Orphans -/

/-- An entry of `get_orphan_allocations`. -/
structure Orphan where
  id : Nat
  ipAddress : String
  resourceName : Option String
  resourceType : Option String
  proxmoxVmid : Option Vmid
  proxmoxServerId : Option ServerId
  reason : String

/-- The entry of an allocation. -/
def orphanEntry (a : IPAMAllocation) (reason : String) : Orphan where
  id := a.id
  ipAddress := a.ipAddress
  resourceName := a.resourceName
  resourceType := a.resourceType
  proxmoxVmid := a.proxmoxVmid
  proxmoxServerId := a.proxmoxServerId
  reason := reason

section Orphans

variable (sur : Surroundings) (ipam : Ipam)

/-- The guest of the allocation is gone. -/
def lacksGuest (a : IPAMAllocation) : Bool :=
  match a.proxmoxServerId, a.proxmoxVmid with
  | some sid, some vmid => a.active && !(sur.vms.find? (sid, vmid)).any VMInstance.live
  | _, _ => false

/-- The server of the allocation is gone. -/
def lacksServer (a : IPAMAllocation) : Bool :=
  match a.proxmoxServerId with
  | some sid => a.active && (sur.servers.find? sid).isNone
  | none => false

/-- `get_orphan_allocations`. -/
def getOrphanAllocations : List Orphan :=
  let guestless := (ipam.allocations.rows.filter (lacksGuest sur)).map fun a =>
    orphanEntry a "VM/LXC not found or deleted"
  guestless ++ ((ipam.allocations.rows.filter (lacksServer sur)).filter fun a =>
    !(guestless.any fun o => decide (o.id = a.id))).map fun a =>
      orphanEntry a s!"Server {a.proxmoxServerId.getD 0} not found"

/-- What the cleanup has done. -/
structure CleanupResult where
  ipam : Ipam
  released : List String
  errors : List (String × String)

/-- The cleanup at one orphan. -/
def cleanupOrphan (username : String) (r : CleanupResult) (o : Orphan) : CleanupResult :=
  match r.ipam.releaseIp o.ipAddress (some username) (some s!"Orphan cleanup: {o.reason}") with
  | (ipam, .ok ()) => { r with ipam := ipam, released := r.released ++ [o.ipAddress] }
  | (ipam, .error e) => { r with ipam := ipam, errors := r.errors ++ [(o.ipAddress, e)] }

/-- `cleanup_orphan_allocations`. -/
def cleanupOrphanAllocations (username : String) : CleanupResult :=
  (getOrphanAllocations sur ipam).foldl (cleanupOrphan username) ⟨ipam, [], []⟩

/-! ### Networks -/

/-- `delete_network` at the allocations and the history. -/
def deleteNetworkRows (networkId : Nat) (force : Bool) : Ipam × Except Exc String :=
  match sur.networks.find? networkId with
  | none => (ipam, .error (.http 404 "Network not found"))
  | some network =>
    let count := (ipam.allocations.rows.filter fun a => decide (a.networkId = networkId)).length
    if 0 < count ∧ force = false then
      (ipam, .error (.http 400
        s!"Network has {count} allocations. Use force=true to delete anyway."))
    else if sur.commits then
      ({ allocations := ipam.allocations.filter fun a => decide (a.networkId ≠ networkId)
         history := ipam.history.filter fun h => decide (h.networkId ≠ networkId) },
        .ok s!"Network {network.name} deleted")
    else (ipam, .error (.other "IntegrityError"))

end Orphans

/-! ### Runs -/

/-- What other code writes to a row: no address, no network and no key. -/
structure Annotation where
  apply : IPAMAllocation → IPAMAllocation
  ipAddress : ∀ a, (apply a).ipAddress = a.ipAddress
  networkId : ∀ a, (apply a).networkId = a.networkId
  id : ∀ a, (apply a).id = a.id

/-- A call that changes the allocations. -/
inductive BookCall
  | service (call : Call)
  | releaseAllByServer (sid : ServerId) (releasedBy : Option String)
  | deleteNetwork (networkId : Nat) (force : Bool)
  | cleanupOrphans (username : String)
  /-- The delivery of an address to a guest notes how it went. -/
  | annotate (u : Annotation)

/-- The tables after a call. -/
def bookStep (ipam : Ipam) (e : Surroundings × BookCall) : Ipam :=
  match e.2 with
  | .service call => callStep ipam (e.1, call)
  | .releaseAllByServer sid releasedBy => (ipam.releaseAllByServer sid releasedBy).1
  | .deleteNetwork networkId force => (Ipam.deleteNetworkRows e.1 ipam networkId force).1
  | .cleanupOrphans username => (cleanupOrphanAllocations e.1 ipam username).ipam
  | .annotate u => { ipam with allocations := ipam.allocations.mapRows u.apply u.ipAddress }

/-! ### Lines about an address -/

/-- What a line of history says about who holds the address. -/
def holding (h : IPAMHistory) : Option (Holding Nat) :=
  if h.action = "allocated" then some (.taken h.networkId)
  else if h.action = "released" then some (.returned h.networkId)
  else none

/-- The takings and returns of an address, oldest first; the mark is the network. -/
def linesOf (history : List IPAMHistory) (ip : String) : List (Holding Nat) :=
  (history.filter fun h => decide (h.ipAddress = ip)).filterMap holding

/-- The network that an address is allocated in. -/
def networkOf (ipam : Ipam) (ip : String) : Option Nat :=
  (ipam.allocations.find? ip).map IPAMAllocation.networkId

/-- The history tells the allocations: its replay gives the network of every address. -/
def Told (ipam : Ipam) : Prop :=
  ∀ ip, Holding.replay none (linesOf ipam.history ip) = some (ipam.networkOf ip)

theorem linesOf_append (history history' : List IPAMHistory) (ip : String) :
    linesOf (history ++ history') ip = linesOf history ip ++ linesOf history' ip := by
  simp [linesOf]

section Told

variable {ipam ipam' : Ipam} {sur : Surroundings}

/-- Lines are added that tell the change of every address. -/
theorem Told.append (h : ipam.Told) (entries : List IPAMHistory)
    (hhistory : ipam'.history = ipam.history ++ entries)
    (hentries : ∀ ip, Holding.replay (ipam.networkOf ip) (linesOf entries ip) =
      some (ipam'.networkOf ip)) : ipam'.Told := by
  intro ip
  rw [hhistory, linesOf_append, Holding.replay_append, h ip]
  exact hentries ip

/-- Nothing is taken or returned. -/
theorem Told.quiet (h : ipam.Told) (entries : List IPAMHistory)
    (hhistory : ipam'.history = ipam.history ++ entries)
    (hsilent : ∀ e ∈ entries, holding e = none)
    (hsame : ∀ ip, ipam'.networkOf ip = ipam.networkOf ip) : ipam'.Told := by
  refine h.append _ hhistory fun ip => ?_
  have hnil : linesOf entries ip = [] := by
    refine List.filterMap_eq_nil_iff.mpr fun e he => ?_
    exact hsilent e (List.mem_of_mem_filter he)
  rw [hnil, hsame]
  rfl

theorem networkOf_record (a : IPAMAllocation) (entry : IPAMHistory) (ip : String) :
    (ipam.record a entry).networkOf ip =
      if a.ipAddress = ip then some a.networkId else ipam.networkOf ip := by
  unfold networkOf record
  rw [KeyedTable.find?_save]
  split <;> rfl

/-- A new address with its line. -/
theorem Told.take (h : ipam.Told) {a : IPAMAllocation} {entry : IPAMHistory}
    (hnew : ipam.allocations.find? a.ipAddress = none) (hip : entry.ipAddress = a.ipAddress)
    (hline : holding entry = some (.taken a.networkId)) : (ipam.record a entry).Told := by
  refine h.append _ rfl fun ip => ?_
  rw [networkOf_record]
  by_cases ha : a.ipAddress = ip
  · subst ha
    simp [linesOf, hip, hline, networkOf, hnew, Holding.replay, Holding.next]
  · simp [linesOf, hip, ha, Holding.replay]

theorem Told.releaseIp (h : ipam.Told) (ip : String) (releasedBy reason : Option String) :
    (ipam.releaseIp ip releasedBy reason).1.Told := by
  unfold Ipam.releaseIp
  cases hfind : ipam.allocations.find? ip with
  | none => exact h
  | some a =>
    have hip : a.ipAddress = ip := ipam.allocations.key_of_find? hfind
    refine h.append _ rfl fun ip' => ?_
    unfold networkOf
    rw [KeyedTable.find?_erase]
    by_cases hsame : ip' = ip
    · subst hsame
      simp [linesOf, releasedEntry, hip, holding, hfind, Holding.replay, Holding.next]
    · simp [linesOf, releasedEntry, hip, hsame, Ne.symm hsame, Holding.replay]

theorem Told.allocateIp (h : ipam.Told) (req : AllocationRequest) :
    (Ipam.allocateIp sur ipam req).1.Told := by
  rcases allocateIp_cases sur ipam req with
    ⟨network, poolId, -, hnew, -, -, heq⟩ | ⟨e, heq⟩ | ⟨e, heq⟩
  · rw [heq]
    exact h.take hnew rfl rfl
  · rwa [heq]
  · rwa [heq]

/-- A row is replaced by one in the same network. -/
theorem networkOf_save {a b : IPAMAllocation} {ip : String}
    (hfind : ipam.allocations.find? ip = some a) (hip : b.ipAddress = ip)
    (hnet : b.networkId = a.networkId) (history : List IPAMHistory) (ip' : String) :
    networkOf ⟨ipam.allocations.save b, history⟩ ip' = ipam.networkOf ip' := by
  unfold networkOf
  rw [KeyedTable.find?_save]
  split
  · rename_i hsame
    rw [← hsame, hip, hfind]
    exact congrArg some hnet
  · rfl

theorem Told.updateAllocation (h : ipam.Told) (ip : String) (updatedBy : Option String)
    (u : AllocationUpdate) : (Ipam.updateAllocation sur ipam ip updatedBy u).1.Told := by
  unfold Ipam.updateAllocation
  cases hfind : ipam.allocations.find? ip with
  | none => exact h
  | some a =>
    have hip : a.ipAddress = ip := ipam.allocations.key_of_find? hfind
    dsimp only
    split
    · split
      · exact h
      · refine h.quiet _ rfl (fun e he => ?_) fun ip' =>
          networkOf_save (b := u.apply a) hfind hip rfl _ ip'
        rw [List.mem_singleton.mp he]
        rfl
    · exact h

theorem networkOf_mapRows (f : IPAMAllocation → IPAMAllocation)
    (hip : ∀ a, (f a).ipAddress = a.ipAddress) (hnet : ∀ a, (f a).networkId = a.networkId)
    (history : List IPAMHistory) (ip : String) :
    networkOf ⟨ipam.allocations.mapRows f hip, history⟩ ip = ipam.networkOf ip := by
  unfold networkOf
  rw [KeyedTable.find?_mapRows, Option.map_map]
  exact congrArg (fun g => Option.map g _) (funext hnet)

theorem Told.mapRows (h : ipam.Told) {f : IPAMAllocation → IPAMAllocation}
    (hip : ∀ a, (f a).ipAddress = a.ipAddress) (hnet : ∀ a, (f a).networkId = a.networkId)
    (entries : List IPAMHistory) (hsilent : ∀ e ∈ entries, holding e = none) :
    Told ⟨ipam.allocations.mapRows f hip, ipam.history ++ entries⟩ :=
  h.quiet _ rfl hsilent fun ip => networkOf_mapRows f hip hnet _ ip

theorem Told.setPrimary (h : ipam.Told) (sid : ServerId) (vmid : Vmid) (allocationId : Nat)
    (changedBy : Option String) :
    (Ipam.setPrimary sur ipam sid vmid allocationId changedBy).1.Told := by
  unfold Ipam.setPrimary
  split
  · exact h
  · split
    · refine h.mapRows _ (fun a => ?_) _ fun e he => ?_
      · unfold markPrimary
        split <;> rfl
      · rw [List.mem_singleton.mp he]
        rfl
    · exact h

theorem Told.syncFromProxmoxVm (h : ipam.Told) (req : SyncRequest) :
    (Ipam.syncFromProxmoxVm sur ipam req).1.Told := by
  unfold Ipam.syncFromProxmoxVm
  cases hfind : ipam.allocations.find? req.ipAddress with
  | none => exact h.allocateIp _
  | some existing =>
    dsimp only
    split
    · exact h
    · split
      · exact h.updateAllocation _ _ _
      · split
        · refine h.quiet [] (List.append_nil _).symm (fun e he => by cases he) fun ip' => ?_
          refine networkOf_save hfind ?_ ?_ _ ip'
          · have hip : existing.ipAddress = req.ipAddress := ipam.allocations.key_of_find? hfind
            exact hip
          · rfl
        · exact h

theorem Told.releaseLoop (h : ipam.Told) (releasedBy reason : Option String)
    (targets : List IPAMAllocation) (released errors : List String) :
    (Ipam.releaseLoop releasedBy reason targets ipam released errors).1.Told := by
  induction targets generalizing ipam released errors with
  | nil => exact h
  | cons a rest ih =>
    have hrelease := h.releaseIp a.ipAddress releasedBy reason
    unfold Ipam.releaseLoop
    split
    · rename_i heq
      rw [heq] at hrelease
      exact ih hrelease _ _
    · rename_i heq
      rw [heq] at hrelease
      exact ih hrelease _ _

/-- The rows with a key are the one that a lookup finds. -/
private theorem filter_key {α κ : Type} [DecidableEq κ] {key : α → κ} (t : KeyedTable key) (k : κ) :
    (t.rows.filter fun a => decide (key a = k)) = (t.find? k).toList := by
  obtain ⟨rows, hnodup⟩ := t
  unfold KeyedTable.find?
  induction rows with
  | nil => rfl
  | cons a rows ih =>
    obtain ⟨hnew, hrest⟩ := List.nodup_cons.mp hnodup
    by_cases hk : key a = k
    · have hnone : rows.filter (fun b => decide (key b = k)) = [] := by
        refine List.filter_eq_nil_iff.mpr fun b hb hkb => hnew ?_
        rw [hk, ← of_decide_eq_true hkb]
        exact List.mem_map_of_mem hb
      simp [hk, hnone]
    · simpa [hk] using ih hrest

/-- Lines for the release of some rows: an address has one where its row is among them. -/
theorem linesOf_released {entry : IPAMAllocation → IPAMHistory}
    (hip : ∀ a, (entry a).ipAddress = a.ipAddress)
    (hline : ∀ a, holding (entry a) = some (.returned a.networkId)) (p : IPAMAllocation → Bool)
    (ip : String) : linesOf ((ipam.allocations.rows.filter p).map entry) ip =
      ((ipam.allocations.find? ip).filter p).toList.map fun a => .returned a.networkId := by
  have hrows : (ipam.allocations.rows.filter p).filter (fun a => decide (a.ipAddress = ip)) =
      ((ipam.allocations.find? ip).filter p).toList := by
    rw [List.filter_comm, filter_key]
    cases ipam.allocations.find? ip with
    | none => rfl
    | some a => by_cases ha : p a = true <;> simp [Option.filter, ha]
  have hcomp : ((fun h : IPAMHistory => decide (h.ipAddress = ip)) ∘ entry) =
      fun a => decide (a.ipAddress = ip) := by
    funext a
    simp [hip]
  rw [linesOf, List.filter_map, hcomp, hrows, List.filterMap_map]
  simp [hline]

theorem Told.releaseAllByServer (h : ipam.Told) (sid : ServerId) (releasedBy : Option String) :
    (ipam.releaseAllByServer sid releasedBy).1.Told := by
  refine h.append _ rfl fun ip => ?_
  rw [linesOf_released (fun _ => rfl) (fun _ => rfl)]
  unfold Ipam.releaseAllByServer networkOf
  dsimp only
  rw [KeyedTable.find?_filter]
  cases ipam.allocations.find? ip with
  | none => rfl
  | some a =>
    by_cases hgone : (decide (a.proxmoxServerId = some sid) && a.active) = true
    · simp [Option.filter, hgone, Holding.replay, Holding.next]
    · simp [Option.filter, hgone, Holding.replay]

/-- Deleting the lines of a network deletes the takings and returns in it. -/
theorem linesOf_deleteNetwork (history : List IPAMHistory) (networkId : Nat) (ip : String) :
    linesOf (history.filter fun h => decide (h.networkId ≠ networkId)) ip =
      (linesOf history ip).filter fun e => decide (e.mark ≠ networkId) := by
  unfold linesOf
  induction history with
  | nil => rfl
  | cons e history ih =>
    by_cases hip : e.ipAddress = ip <;> by_cases hnet : e.networkId = networkId <;>
      by_cases htaken : e.action = "allocated" <;> by_cases hreturned : e.action = "released" <;>
      simp_all [holding, Holding.mark]

theorem Told.deleteNetwork (h : ipam.Told) (networkId : Nat) (force : Bool) :
    (Ipam.deleteNetworkRows sur ipam networkId force).1.Told := by
  unfold Ipam.deleteNetworkRows
  split
  · exact h
  · dsimp only
    split
    · exact h
    · split
      · intro ip
        have hkept := Holding.replay_filter networkId (h ip)
        rw [linesOf_deleteNetwork]
        refine hkept.trans (congrArg some ?_)
        unfold networkOf
        dsimp only
        rw [KeyedTable.find?_filter]
        cases ipam.allocations.find? ip with
        | none => rfl
        | some a => by_cases hnet : a.networkId = networkId <;> simp [Option.filter, hnet]
      · exact h

theorem ipam_cleanupOrphan (username : String) (r : CleanupResult) (o : Orphan) :
    (cleanupOrphan username r o).ipam = (r.ipam.releaseIp o.ipAddress (some username)
      (some s!"Orphan cleanup: {o.reason}")).1 := by
  unfold cleanupOrphan
  split <;> simp_all

theorem Told.cleanupOrphans (h : ipam.Told) (username : String) :
    (cleanupOrphanAllocations sur ipam username).ipam.Told := by
  unfold cleanupOrphanAllocations
  generalize getOrphanAllocations sur ipam = orphans
  have hfold : ∀ (r : CleanupResult), r.ipam.Told →
      (orphans.foldl (cleanupOrphan username) r).ipam.Told := by
    induction orphans with
    | nil => exact fun r hr => hr
    | cons o orphans ih =>
      refine fun r hr => ih _ ?_
      rw [ipam_cleanupOrphan]
      exact hr.releaseIp _ _ _
  exact hfold _ h

/-- Every call keeps the history true. -/
theorem Told.bookStep (h : ipam.Told) (e : Surroundings × BookCall) :
    (Ipam.bookStep ipam e).Told := by
  obtain ⟨sur, call⟩ := e
  cases call with
  | service call =>
    cases call with
    | allocateIp req => exact h.allocateIp _
    | autoAllocateIp req =>
      simp only [Ipam.bookStep, callStep, autoAllocateIp]
      split
      · exact h
      · exact h.allocateIp _
    | syncFromProxmoxVm req => exact h.syncFromProxmoxVm req
    | updateAllocation ip updatedBy u => exact h.updateAllocation ip updatedBy u
    | setPrimary sid vmid allocationId changedBy => exact h.setPrimary sid vmid allocationId changedBy
    | releaseIp ip releasedBy reason => exact h.releaseIp ip releasedBy reason
    | releaseIpByVmid sid vmid releasedBy reason =>
      simp only [Ipam.bookStep, callStep, releaseIpByVmid_fst]
      exact h.releaseLoop _ _ _ _ _
  | releaseAllByServer sid releasedBy => exact h.releaseAllByServer sid releasedBy
  | deleteNetwork networkId force => exact h.deleteNetwork networkId force
  | cleanupOrphans username => exact h.cleanupOrphans username
  | annotate u =>
    have hmap := h.mapRows u.ipAddress u.networkId [] (fun e he => by cases he)
    simpa [Ipam.bookStep] using hmap

end Told

/-! ### What the cleanup releases -/

section Cleanup

variable {sur : Surroundings} {ipam : Ipam} {username : String}

/-- The allocation belongs to a guest or a server that is gone. -/
def orphaned (sur : Surroundings) (a : IPAMAllocation) : Bool := lacksGuest sur a || lacksServer sur a

theorem mem_orphans_map (hids : ipam.IdsUnique) {ip : String} :
    ip ∈ (getOrphanAllocations sur ipam).map Orphan.ipAddress ↔
      ∃ a ∈ ipam.allocations.rows, a.ipAddress = ip ∧ orphaned sur a = true := by
  simp only [getOrphanAllocations, List.map_append, List.map_map, List.mem_append, List.mem_map,
    List.mem_filter, orphaned, Bool.or_eq_true]
  constructor
  · rintro (⟨a, ⟨ha, hguest⟩, rfl⟩ | ⟨a, ⟨⟨ha, hserver⟩, -⟩, rfl⟩)
    · exact ⟨a, ha, rfl, Or.inl hguest⟩
    · exact ⟨a, ha, rfl, Or.inr hserver⟩
  · rintro ⟨a, ha, rfl, horphan⟩
    by_cases hguest : lacksGuest sur a = true
    · exact Or.inl ⟨a, ⟨ha, hguest⟩, rfl⟩
    · refine Or.inr ⟨a, ⟨⟨ha, horphan.resolve_left hguest⟩, ?_⟩, rfl⟩
      -- An entry with the same id would be of the same row.
      simp only [Bool.not_eq_true', List.any_eq_false, List.mem_map, List.mem_filter,
        decide_eq_true_eq]
      rintro o ⟨b, ⟨hb, hbguest⟩, rfl⟩ hid
      exact hguest (hids b hb a ha hid ▸ hbguest)

/-- No address has two entries. -/
theorem orphans_nodup :
    ((getOrphanAllocations sur ipam).map Orphan.ipAddress).Nodup := by
  have hkeys : ∀ p : IPAMAllocation → Bool,
      ((ipam.allocations.rows.filter p).map IPAMAllocation.ipAddress).Nodup :=
    fun p => ipam.allocations.keys_nodup.sublist (List.filter_sublist.map _)
  simp only [getOrphanAllocations, List.map_append, List.map_map, List.filter_filter]
  refine List.nodup_append.mpr ⟨hkeys _, hkeys _, ?_⟩
  intro ip hip ip' hip' hsame
  obtain ⟨a, ha, rfl⟩ := List.mem_map.mp hip
  obtain ⟨b, hb, rfl⟩ := List.mem_map.mp hip'
  obtain ⟨harow, hguest⟩ := List.mem_filter.mp ha
  obtain ⟨hbrow, hbserver⟩ := List.mem_filter.mp hb
  have hab : a = b := ipam.allocations.eq_of_key_eq harow hbrow hsame
  subst hab
  simp only [Bool.and_eq_true, Bool.not_eq_true', List.any_eq_false, List.mem_map,
    decide_eq_true_eq] at hbserver
  exact hbserver.1 _ ⟨a, ha, rfl⟩ rfl

/-- The cleanup goes through entries whose addresses are allocated. -/
theorem foldl_cleanupOrphan (username : String) {orphans : List Orphan}
    (hnodup : (orphans.map Orphan.ipAddress).Nodup) {r : CleanupResult}
    (hrows : ∀ o ∈ orphans, (r.ipam.allocations.find? o.ipAddress).isSome = true) :
    let r' := orphans.foldl (cleanupOrphan username) r
    r'.errors = r.errors ∧ r'.released = r.released ++ orphans.map Orphan.ipAddress ∧
      ∀ a, a ∈ r'.ipam.allocations.rows ↔
        a ∈ r.ipam.allocations.rows ∧ a.ipAddress ∉ orphans.map Orphan.ipAddress := by
  induction orphans generalizing r with
  | nil => simp
  | cons o orphans ih =>
    obtain ⟨hnew, hrest⟩ := List.nodup_cons.mp hnodup
    obtain ⟨a, hfind⟩ := Option.isSome_iff_exists.mp (hrows o List.mem_cons_self)
    have hstep : cleanupOrphan username r o =
        { r with
          ipam :=
            { allocations := r.ipam.allocations.erase o.ipAddress
              history := r.ipam.history ++ [releasedEntry a (some username)
                (some s!"Orphan cleanup: {o.reason}")] }
          released := r.released ++ [o.ipAddress] } := by
      unfold cleanupOrphan releaseIp
      rw [hfind]
    have hrows' : ∀ o' ∈ orphans, ((cleanupOrphan username r o).ipam.allocations.find?
        o'.ipAddress).isSome = true := by
      intro o' ho'
      have hne : o'.ipAddress ≠ o.ipAddress := fun h => hnew (h ▸ List.mem_map_of_mem ho')
      rw [hstep]
      dsimp only
      rw [KeyedTable.find?_erase, if_neg hne]
      exact hrows o' (List.mem_cons_of_mem _ ho')
    obtain ⟨herrors, hreleased, hmem⟩ := ih hrest hrows'
    rw [hstep] at herrors hreleased hmem
    rw [List.foldl_cons, hstep]
    refine ⟨herrors, hreleased.trans (by simp), fun b => (hmem b).trans ?_⟩
    rw [KeyedTable.mem_rows_erase, List.map_cons, List.mem_cons, not_or, and_assoc]

/-- What a cleanup leaves and reports. -/
structure Cleaned (sur : Surroundings) (ipam : Ipam) (r : CleanupResult) : Prop where
  /-- Exactly the orphans are gone. -/
  kept : ∀ a, a ∈ r.ipam.allocations.rows ↔ a ∈ ipam.allocations.rows ∧ orphaned sur a = false
  /-- It reports what it has released, and every release succeeds. -/
  released : ∀ ip, ip ∈ r.released ↔
    ∃ a ∈ ipam.allocations.rows, a.ipAddress = ip ∧ orphaned sur a = true
  errors : r.errors = []
  /-- Another one finds nothing to do. -/
  settled : getOrphanAllocations sur r.ipam = []

theorem cleaned (hids : ipam.IdsUnique) :
    Cleaned sur ipam (cleanupOrphanAllocations sur ipam username) := by
  have hrows : ∀ o ∈ getOrphanAllocations sur ipam,
      (ipam.allocations.find? o.ipAddress).isSome = true := by
    intro o ho
    obtain ⟨a, ha, hip, -⟩ := (mem_orphans_map hids).mp (List.mem_map_of_mem ho)
    rw [← hip, ipam.allocations.find?_key ha]
    rfl
  obtain ⟨herrors, hreleased, hmem⟩ := foldl_cleanupOrphan username orphans_nodup
    (r := ⟨ipam, [], []⟩) hrows
  have hkept : ∀ a, a ∈ (cleanupOrphanAllocations sur ipam username).ipam.allocations.rows ↔
      a ∈ ipam.allocations.rows ∧ orphaned sur a = false := by
    refine fun a => (hmem a).trans (and_congr_right fun ha => ?_)
    rw [mem_orphans_map hids, ← Bool.not_eq_true]
    refine not_congr ⟨?_, fun horphan => ⟨a, ha, rfl, horphan⟩⟩
    rintro ⟨b, hb, hip, horphan⟩
    exact ipam.allocations.eq_of_key_eq hb ha hip ▸ horphan
  refine ⟨hkept, fun ip => ?_, herrors, ?_⟩
  · have hlist : (cleanupOrphanAllocations sur ipam username).released =
        (getOrphanAllocations sur ipam).map Orphan.ipAddress := hreleased.trans (by simp)
    rw [hlist, mem_orphans_map hids]
  · have hnone : ∀ p : IPAMAllocation → Bool, (∀ a, p a = true → orphaned sur a = true) →
        (cleanupOrphanAllocations sur ipam username).ipam.allocations.rows.filter p = [] :=
      fun p hp => List.filter_eq_nil_iff.mpr fun a ha hpa => by
        have hkeep := ((hkept a).mp ha).2
        rw [hp a hpa] at hkeep
        cases hkeep
    unfold getOrphanAllocations
    rw [hnone (lacksGuest sur) fun a h => by simp [orphaned, h],
      hnone (lacksServer sur) fun a h => by simp [orphaned, h]]
    rfl

end Cleanup

/-! ### Every run -/

theorem IdsUnique.bookStep {ipam : Ipam} (h : ipam.IdsUnique) (e : Surroundings × BookCall) :
    (Ipam.bookStep ipam e).IdsUnique := by
  obtain ⟨sur, call⟩ := e
  cases call with
  | service call => exact h.callStep (sur, call)
  | releaseAllByServer sid releasedBy => exact h.mono fun a ha => List.mem_of_mem_filter ha
  | deleteNetwork networkId force =>
    simp only [Ipam.bookStep, Ipam.deleteNetworkRows]
    split
    · exact h
    · split
      · exact h
      · split
        · exact h.mono fun a ha => List.mem_of_mem_filter ha
        · exact h
  | cleanupOrphans username =>
    exact h.mono fun a ha => ((cleaned h).kept a |>.mp ha).1
  | annotate u =>
    intro a ha b hb hid
    obtain ⟨a', ha', rfl⟩ := List.mem_map.mp ha
    obtain ⟨b', hb', rfl⟩ := List.mem_map.mp hb
    rw [u.id, u.id] at hid
    rw [h a' ha' b' hb' hid]

/-- Tables before the first call. -/
def blank : Ipam := ⟨.empty, []⟩

theorem book_of_run (calls : List (Surroundings × BookCall)) :
    ∀ ipam ∈ visited bookStep blank calls, ipam.Told ∧ ipam.IdsUnique :=
  invariant_of_step (fun _ e h => ⟨h.1.bookStep e, h.2.bookStep e⟩)
    ⟨fun _ => rfl, fun _ h => by cases h⟩ calls

/-- In every state the history of an address replays to its allocation, and its last line tells
whether the address is allocated and in which network. -/
theorem history_tells (calls : List (Surroundings × BookCall)) :
    ∀ ipam ∈ visited bookStep blank calls, ∀ ip,
      Holding.replay none (linesOf ipam.history ip) = some (ipam.networkOf ip) ∧
      ipam.networkOf ip = match (linesOf ipam.history ip).getLast? with
        | some (.taken networkId) => some networkId
        | _ => none := by
  intro ipam hipam ip
  have htold := (book_of_run calls ipam hipam).1 ip
  refine ⟨htold, (Holding.replay_eq_getLast htold).trans ?_⟩
  split <;> simp_all

/-- An address is allocated to a guest that has no row yet, and cleaned up. -/
def earlyCleanup : List (Surroundings × BookCall) :=
  [(Surroundings.office 1, .service (.allocateIp (Session.requestFor "10.0.0.5" 100))),
    (Surroundings.office 2, .cleanupOrphans "admin")]

theorem history_tells_earlyCleanup :
    Holding.replay none (linesOf (earlyCleanup.foldl bookStep blank).history "10.0.0.5") =
        some ((earlyCleanup.foldl bookStep blank).networkOf "10.0.0.5") ∧
      (earlyCleanup.foldl bookStep blank).networkOf "10.0.0.5" =
        match (linesOf (earlyCleanup.foldl bookStep blank).history "10.0.0.5").getLast? with
        | some (.taken networkId) => some networkId
        | _ => none :=
  history_tells earlyCleanup _ (foldl_mem_visited _ _ _) "10.0.0.5"

/-- In every state a cleanup releases exactly the orphans. -/
theorem cleanup_exact (calls : List (Surroundings × BookCall)) :
    ∀ ipam ∈ visited bookStep blank calls, ∀ sur username,
      Cleaned sur ipam (cleanupOrphanAllocations sur ipam username) :=
  fun ipam hipam _ _ => cleaned (book_of_run calls ipam hipam).2

theorem cleanup_exact_earlyCleanup :
    Cleaned (Surroundings.office 3) (earlyCleanup.foldl bookStep blank)
      (cleanupOrphanAllocations (Surroundings.office 3) (earlyCleanup.foldl bookStep blank)
        "admin") :=
  cleanup_exact earlyCleanup _ (foldl_mem_visited _ _ _) _ _

end PveManager.Ipam
