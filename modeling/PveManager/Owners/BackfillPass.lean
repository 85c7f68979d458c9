import PveManager.Core.FirstKept
import PveManager.Core.Grouped
import PveManager.Owners.Backfill

/-!
# One run of the owner backfill

The migration as the database sees it: three queries whose rows come in any
order, two dictionaries of candidates filled from the history, and one `UPDATE`
for each guest on whose owner they agree. A run comes to the same as giving
every ownerless row the owner that the tables settle on.
-/

namespace PveManager.Owners

open PveManager.Core PveManager.Api

/-- What a run writes to the log at its end. -/
structure Counts where
  assigned : Nat
  ambiguous : Nat
  unmatched : Nat
  deriving DecidableEq

/-- The state of the loop over the ownerless guests. -/
structure Progress where
  vms : KeyedTable VMInstance.key
  counts : Counts

/-- The loop over the sources of one guest: the owner, and whether there was evidence. -/
def searchSources (sid : ServerId) :
    List (List (Option ServerId × UserId)) → Bool → Option UserId × Bool
  | [], hadEvidence => (none, hadEvidence)
  | source :: sources, hadEvidence =>
    if (applicable sid source).isEmpty then searchSources sid sources hadEvidence
    else
      match pickBackfillOwner (applicable sid source) with
      | some owner => (some owner, true)
      | none => searchSources sid sources true

/-- `UPDATE vm_instances SET owner_id = :owner_id WHERE id = :id AND owner_id IS NULL`. -/
def updateOwner (key : ServerId × Vmid) (owner : UserId) (row : VMInstance) : VMInstance :=
  if row.key = key ∧ row.ownerId = none then { row with ownerId := some owner } else row

theorem key_updateOwner (key : ServerId × Vmid) (owner : UserId) (row : VMInstance) :
    (updateOwner key owner row).key = row.key := by
  unfold updateOwner
  split <;> rfl

/-- The body of the loop, with the sources of each number. -/
def Progress.settle (sources : Vmid → List (List (Option ServerId × UserId))) (p : Progress)
    (orphan : VMInstance) : Progress :=
  match searchSources orphan.serverId (sources orphan.vmid) false with
  | (some owner, _) =>
    { vms := p.vms.mapRows (updateOwner orphan.key owner) (key_updateOwner orphan.key owner)
      counts := { p.counts with assigned := p.counts.assigned + 1 } }
  | (none, true) => { p with counts := { p.counts with ambiguous := p.counts.ambiguous + 1 } }
  | (none, false) => { p with counts := { p.counts with unmatched := p.counts.unmatched + 1 } }

namespace Books

variable (b : Books)

/-- The candidate that a row of `deploy_tasks` adds to `from_deploys`. -/
def deployCandidate (t : DeployTask) : Option (Int × Option ServerId × UserId) :=
  t.vmid.bind fun vmid =>
    if b.knowsUser t.userId then some ((vmid : Int), t.serverId, t.userId) else none

/-- The candidate that a row of `audit_logs` adds to `from_logs`. -/
def logCandidate (l : AuditLog) : Option (Int × Option ServerId × UserId) := do
  let name ← l.username
  let resource ← l.resourceId
  if l.action ∈ creationActions ∧ l.success = true then
    let user ← b.userIdByName name
    let vmid ← parseInt resource
    some (vmid, l.serverId, user)
  else none

/-- `WHERE owner_id IS NULL AND deleted_at IS NULL`. -/
def orphans : List VMInstance :=
  b.vms.rows.filter fun row => decide (row.ownerId = none) && row.live

/-- The rows that the queries of one run return, each query in an order of its own. -/
structure Returned where
  orphans : List VMInstance
  deployTasks : List DeployTask
  auditLogs : List AuditLog
  orphans_perm : orphans.Perm b.orphans
  deployTasks_perm : deployTasks.Perm b.deployTasks
  auditLogs_perm : auditLogs.Perm b.auditLogs

/-- The rows in the order in which they are stored. -/
def stored : b.Returned where
  orphans := b.orphans
  deployTasks := b.deployTasks
  auditLogs := b.auditLogs
  orphans_perm := .refl _
  deployTasks_perm := .refl _
  auditLogs_perm := .refl _

namespace Returned

variable {b} (r : b.Returned)

/-- `from_deploys.get(vmid, [])` and `from_logs.get(vmid, [])`. -/
def sources (vmid : Vmid) : List (List (Option ServerId × UserId)) :=
  [(KeyedTable.group b.deployCandidate r.deployTasks).group? (vmid : Int),
    (KeyedTable.group b.logCandidate r.auditLogs).group? (vmid : Int)]

/-- `migrate_backfill_instance_owner` on the rows returned: the tables afterwards, with the
counts unless there is nothing to do. -/
def run : Books × Option Counts :=
  if r.orphans.isEmpty then (b, none)
  else
    let done := r.orphans.foldl (Progress.settle r.sources) ⟨b.vms, ⟨0, 0, 0⟩⟩
    ({ b with vms := done.vms }, some done.counts)

end Returned

end Books

/-! ### Evidence without its order -/

/-- The pick goes by who is among the candidates. -/
theorem pickBackfillOwner_congr {xs ys : List (Option ServerId × UserId)}
    (h : ∀ c, c ∈ xs ↔ c ∈ ys) : pickBackfillOwner xs = pickBackfillOwner ys := by
  have hne : xs ≠ [] ↔ ys ≠ [] := by
    rw [ne_eq, ne_eq, List.eq_nil_iff_forall_not_mem, List.eq_nil_iff_forall_not_mem]
    exact not_congr (forall_congr' fun c => not_congr (h c))
  apply Option.ext
  intro user
  rw [pickBackfillOwner_eq_some_iff, pickBackfillOwner_eq_some_iff]
  exact and_congr hne (forall_congr' fun c => imp_congr_left (h c))

theorem mem_applicable {sid : ServerId} {source : List (Option ServerId × UserId)}
    {c : Option ServerId × UserId} :
    c ∈ applicable sid source ↔ c ∈ source ∧ (c.1 = none ∨ c.1 = some sid) := by
  unfold applicable
  rw [List.mem_filter, decide_eq_true_iff]

/-- So does the loop over the sources. -/
theorem searchSources_congr {sid : ServerId} {xs ys : List (List (Option ServerId × UserId))}
    (h : List.Forall₂ (fun x y => ∀ c, c ∈ x ↔ c ∈ y) xs ys) (had : Bool) :
    searchSources sid xs had = searchSources sid ys had := by
  induction h generalizing had with
  | nil => rfl
  | @cons x y xs ys hxy _ ih =>
    have happ : ∀ c, c ∈ applicable sid x ↔ c ∈ applicable sid y := by
      intro c
      rw [mem_applicable, mem_applicable, hxy c]
    have hempty : (applicable sid x).isEmpty = (applicable sid y).isEmpty := by
      rw [Bool.eq_iff_iff, List.isEmpty_iff, List.isEmpty_iff, List.eq_nil_iff_forall_not_mem,
        List.eq_nil_iff_forall_not_mem]
      exact forall_congr' fun c => not_congr (happ c)
    unfold searchSources
    rw [hempty, pickBackfillOwner_congr happ, ih, ih]

/-- The owner is the pick of the first source that has one. -/
theorem searchSources_fst (sid : ServerId) (sources : List (List (Option ServerId × UserId)))
    (had : Bool) : (searchSources sid sources had).1 =
      sources.findSome? fun source => pickBackfillOwner (applicable sid source) := by
  induction sources generalizing had with
  | nil => rfl
  | cons source sources ih =>
    unfold searchSources
    rw [List.findSome?_cons]
    by_cases hempty : (applicable sid source).isEmpty = true
    · rw [if_pos hempty, ih, List.isEmpty_iff.mp hempty]
      rfl
    · rw [if_neg hempty]
      cases pickBackfillOwner (applicable sid source) with
      | some owner => rfl
      | none => exact ih true

namespace Books

variable (b : Books)

theorem mem_fromDeploys {vmid : Vmid} {c : Option ServerId × UserId} :
    c ∈ b.fromDeploys vmid ↔ ∃ t ∈ b.deployTasks, b.deployCandidate t = some ((vmid : Int), c) := by
  unfold fromDeploys
  rw [List.mem_map]
  refine exists_congr fun t => ?_
  rw [List.mem_filter, and_assoc]
  refine and_congr_right fun _ => ?_
  unfold deployCandidate
  cases t.vmid with
  | none => simp
  | some v =>
    by_cases hknown : b.knowsUser t.userId = true
    · simp [hknown, Prod.ext_iff, Int.natCast_inj, and_comm]
    · simp [hknown]

theorem logCandidate_eq_some_iff {l : AuditLog} {vmid : Int} {c : Option ServerId × UserId} :
    b.logCandidate l = some (vmid, c) ↔
      (l.action ∈ creationActions ∧ l.success = true) ∧ l.serverId = c.1 ∧
        (∃ name, l.username = some name ∧ b.userIdByName name = some c.2) ∧
        ∃ resource, l.resourceId = some resource ∧ parseInt resource = some vmid := by
  obtain ⟨sid, user⟩ := c
  unfold logCandidate
  by_cases hcreation : l.action ∈ creationActions ∧ l.success = true
  · simp only [if_pos hcreation, Option.bind_eq_bind, Option.bind_eq_some_iff, Option.some.injEq,
      Prod.mk.injEq]
    constructor
    · rintro ⟨name, hname, resource, hresource, user, huser, vmid, hvmid, rfl, hsid, rfl⟩
      exact ⟨hcreation, hsid, ⟨name, hname, huser⟩, resource, hresource, hvmid⟩
    · rintro ⟨-, hsid, ⟨name, hname, huser⟩, resource, hresource, hvmid⟩
      exact ⟨name, hname, resource, hresource, user, huser, vmid, hvmid, rfl, hsid, rfl⟩
  · simp [hcreation]

theorem mem_fromLogs {vmid : Vmid} {c : Option ServerId × UserId} :
    c ∈ b.fromLogs vmid ↔ ∃ l ∈ b.auditLogs, b.logCandidate l = some ((vmid : Int), c) := by
  obtain ⟨sid, user⟩ := c
  unfold fromLogs
  rw [List.mem_filterMap]
  refine exists_congr fun l => and_congr_right fun _ => ?_
  rw [logCandidate_eq_some_iff]
  unfold loggedUser
  by_cases hcreation : l.action ∈ creationActions ∧ l.success = true
  · simp only [if_pos hcreation, Option.bind_eq_bind, Option.bind_eq_some_iff,
      Option.map_eq_some_iff, Option.ite_none_right_eq_some, Option.some.injEq, Prod.mk.injEq]
    constructor
    · rintro ⟨user, ⟨name, hname, resource, hresource, _, huser, hvmid, rfl⟩, hsid, rfl⟩
      exact ⟨hcreation, hsid, ⟨name, hname, huser⟩, resource, hresource, hvmid⟩
    · rintro ⟨-, hsid, ⟨name, hname, huser⟩, resource, hresource, hvmid⟩
      exact ⟨user, ⟨name, hname, resource, hresource, user, huser, hvmid, rfl⟩, hsid, rfl⟩
  · simp [hcreation]

/-- What the loop finds for a guest. -/
def search (row : VMInstance) : Option UserId × Bool :=
  searchSources row.serverId [b.fromDeploys row.vmid, b.fromLogs row.vmid] false

theorem search_fst (row : VMInstance) : (b.search row).1 = b.backfillOwner row := by
  unfold search backfillOwner
  rw [searchSources_fst, List.findSome?_cons, List.findSome?_cons, List.findSome?_nil]
  cases pickBackfillOwner (applicable row.serverId (b.fromDeploys row.vmid)) with
  | some owner => rfl
  | none => cases pickBackfillOwner (applicable row.serverId (b.fromLogs row.vmid)) <;> rfl

/-- The order in which the history is returned is of no account. -/
theorem Returned.searchSources_sources {b : Books} (r : b.Returned) (row : VMInstance) :
    searchSources row.serverId (r.sources row.vmid) false = b.search row := by
  refine searchSources_congr (.cons (fun c => ?_) (.cons (fun c => ?_) .nil)) false
  · rw [KeyedTable.mem_group, mem_fromDeploys]
    exact exists_congr fun t => and_congr_left fun _ => r.deployTasks_perm.mem_iff
  · rw [KeyedTable.mem_group, mem_fromLogs]
    exact exists_congr fun l => and_congr_left fun _ => r.auditLogs_perm.mem_iff

/-! ### The loop over the guests -/

/-- One guest of the loop at a row of the table. -/
def assigned (row orphan : VMInstance) : VMInstance :=
  if row.key = orphan.key ∧ row.ownerId = none then
    { row with ownerId := b.backfillOwner orphan }
  else row

/-- A row with an owner stays as it is. -/
theorem foldl_assigned_of_owned {row : VMInstance} (h : row.ownerId ≠ none)
    (guests : List VMInstance) : guests.foldl b.assigned row = row := by
  induction guests with
  | nil => rfl
  | cons guest guests ih =>
    have hguest : b.assigned row guest = row := if_neg fun hand => h hand.2
    rw [List.foldl_cons, hguest, ih]

/-- A row that is not among the guests stays as it is. -/
theorem foldl_assigned_of_not_mem {row : VMInstance} {guests : List VMInstance}
    (h : ∀ guest ∈ guests, guest.key ≠ row.key) : guests.foldl b.assigned row = row := by
  induction guests with
  | nil => rfl
  | cons guest guests ih =>
    have hguest : b.assigned row guest = row :=
      if_neg fun hand => h guest List.mem_cons_self hand.1.symm
    rw [List.foldl_cons, hguest, ih fun g hg => h g (List.mem_cons_of_mem _ hg)]

/-- A guest of the loop gets its owner. -/
theorem foldl_assigned_of_mem {row : VMInstance} (hless : row.ownerId = none)
    {guests : List VMInstance} (hkeys : ∀ guest ∈ guests, guest.key = row.key → guest = row)
    (hmem : row ∈ guests) :
    guests.foldl b.assigned row = { row with ownerId := b.backfillOwner row } := by
  induction guests with
  | nil => cases hmem
  | cons guest guests ih =>
    rw [List.foldl_cons]
    by_cases hkey : guest.key = row.key
    · obtain rfl := hkeys guest List.mem_cons_self hkey
      have hguest : b.assigned guest guest = { guest with ownerId := b.backfillOwner guest } :=
        if_pos ⟨rfl, hless⟩
      rw [hguest]
      cases howner : b.backfillOwner guest with
      | some owner => exact b.foldl_assigned_of_owned (Option.some_ne_none owner) guests
      | none =>
        -- the row has no owner still, and a later copy of it finds none either
        have hself : { guest with ownerId := none } = guest := by rw [← hless]
        rw [hself]
        by_cases hlater : guest ∈ guests
        · rw [ih (fun g hg => hkeys g (List.mem_cons_of_mem _ hg)) hlater, howner, hself]
        · refine b.foldl_assigned_of_not_mem fun g hg hk => hlater ?_
          rw [← hkeys g (List.mem_cons_of_mem _ hg) hk]
          exact hg
    · have hguest : b.assigned row guest = row := if_neg fun hand => hkey hand.1.symm
      rw [hguest]
      refine ih (fun g hg => hkeys g (List.mem_cons_of_mem _ hg)) ?_
      rcases List.mem_cons.mp hmem with rfl | hmem
      · exact absurd rfl hkey
      · exact hmem

/-- The counts of a loop over guests. -/
def countsOf (guests : List VMInstance) : Counts where
  assigned := guests.countP fun guest => (b.search guest).1.isSome
  ambiguous := guests.countP fun guest => (b.search guest).1.isNone && (b.search guest).2
  unmatched := guests.countP fun guest => (b.search guest).1.isNone && !(b.search guest).2

theorem countsOf_perm {guests guests' : List VMInstance} (h : guests.Perm guests') :
    b.countsOf guests = b.countsOf guests' := by
  unfold countsOf
  rw [h.countP_eq, h.countP_eq, h.countP_eq]

namespace Returned

variable {b} (r : b.Returned)

/-- One guest of the loop: the rows afterwards and the counts. -/
theorem settle_eq (p : Progress) (orphan : VMInstance) :
    (p.settle r.sources orphan).vms.rows = p.vms.rows.map (b.assigned · orphan) ∧
      (p.settle r.sources orphan).counts =
        ⟨p.counts.assigned + (b.countsOf [orphan]).assigned,
          p.counts.ambiguous + (b.countsOf [orphan]).ambiguous,
          p.counts.unmatched + (b.countsOf [orphan]).unmatched⟩ := by
  have howner := b.search_fst orphan
  unfold Progress.settle countsOf
  rw [r.searchSources_sources orphan]
  rcases hsearch : b.search orphan with ⟨_ | owner, had⟩
  · rw [hsearch] at howner
    have hsame : ∀ row, b.assigned row orphan = row := by
      intro row
      unfold assigned
      split
      · rename_i hand
        rw [← howner, ← hand.2]
      · rfl
    cases had with
    | true => simp [hsame, hsearch]
    | false => simp [hsame, hsearch]
  · rw [hsearch] at howner
    refine ⟨?_, by simp [hsearch]⟩
    refine List.map_congr_left fun row _ => ?_
    unfold updateOwner assigned
    rw [← howner]

/-- The loop over the guests, row by row. -/
theorem foldl_settle (guests : List VMInstance) (p : Progress) :
    (guests.foldl (Progress.settle r.sources) p).vms.rows =
        p.vms.rows.map (fun row => guests.foldl b.assigned row) ∧
      (guests.foldl (Progress.settle r.sources) p).counts =
        ⟨p.counts.assigned + (b.countsOf guests).assigned,
          p.counts.ambiguous + (b.countsOf guests).ambiguous,
          p.counts.unmatched + (b.countsOf guests).unmatched⟩ := by
  induction guests generalizing p with
  | nil => simp [countsOf]
  | cons guest guests ih =>
    obtain ⟨hrows, hcounts⟩ := r.settle_eq p guest
    obtain ⟨ihrows, ihcounts⟩ := ih (p.settle r.sources guest)
    rw [List.foldl_cons, ihrows, ihcounts, hrows, hcounts, List.map_map]
    refine ⟨rfl, ?_⟩
    have happend : guest :: guests = [guest] ++ guests := rfl
    simp only [happend, countsOf, List.countP_append, Nat.add_assoc]

/-- The guests of the loop are the ownerless live rows. -/
theorem mem_orphans {row : VMInstance} :
    row ∈ r.orphans ↔ b.Ownerless row := by
  rw [r.orphans_perm.mem_iff]
  unfold Books.orphans Ownerless
  rw [List.mem_filter, Bool.and_eq_true, decide_eq_true_iff]

/-- At each row of the table the loop does what the tables say. -/
theorem foldl_assigned {row : VMInstance} (hrow : row ∈ b.vms.rows) :
    r.orphans.foldl b.assigned row = b.backfillRow row := by
  have hkeys : ∀ guest ∈ r.orphans, guest.key = row.key → guest = row := fun guest hguest =>
    b.vms.eq_of_key_eq (r.mem_orphans.mp hguest).1 hrow
  by_cases hless : row.ownerId = none ∧ row.live = true
  · rw [b.foldl_assigned_of_mem hless.1 hkeys (r.mem_orphans.mpr ⟨hrow, hless⟩)]
    exact (if_pos hless).symm
  · rw [b.backfillRow_of_not hless]
    refine b.foldl_assigned_of_not_mem fun guest hguest hkey => hless ?_
    rw [← hkeys guest hguest hkey]
    exact (r.mem_orphans.mp hguest).2

/-- The loop ends with the rows and the counts that the tables determine. -/
theorem run_eq : r.run = (b.migrateBackfillInstanceOwner,
    if b.orphans.isEmpty then none else some (b.countsOf b.orphans)) := by
  have hempty : r.orphans.isEmpty = b.orphans.isEmpty := r.orphans_perm.isEmpty_eq
  obtain ⟨hrows, hcounts⟩ := r.foldl_settle r.orphans ⟨b.vms, ⟨0, 0, 0⟩⟩
  have hvms : (r.orphans.foldl (Progress.settle r.sources) ⟨b.vms, ⟨0, 0, 0⟩⟩).vms =
      b.vms.mapRows b.backfillRow b.key_backfillRow :=
    KeyedTable.eq_of_rows_eq (hrows.trans (List.map_congr_left fun _ => r.foldl_assigned))
  simp only [Nat.zero_add] at hcounts
  unfold run
  rw [hempty]
  split
  · rename_i hnone
    rw [← hempty, List.isEmpty_iff] at hnone
    rw [hnone] at hvms
    exact Prod.ext (congrArg (fun vms => { b with vms := vms }) hvms) rfl
  · dsimp only
    rw [hvms, hcounts, b.countsOf_perm r.orphans_perm]
    rfl

end Returned

/-! ### What a run promises -/

/-- A row afterwards: as it was, or with an owner where a live row had none. -/
def OwnerAlone (row row' : VMInstance) : Prop :=
  row' = row ∨ row.ownerId = none ∧ row.live = true ∧ row' = { row with ownerId := row'.ownerId }

/-- A run respects everything but the owners of live rows without one, does not depend on the
order in which rows are returned, and leaves nothing to do for the next run. -/
structure Tidy : Prop where
  otherTables : ∀ r : b.Returned, r.run.1 = { b with vms := r.run.1.vms }
  ownersAlone : ∀ r : b.Returned, List.Forall₂ OwnerAlone b.vms.rows r.run.1.vms.rows
  anyOrder : ∀ r r' : b.Returned, r.run = r'.run
  settled : ∀ (r : b.Returned) (again : r.run.1.Returned), again.run.1 = r.run.1

/-- A deploy task of the guest's number, for its server or for none, is of this existing user. -/
def DeploysName (row : VMInstance) (user : UserId) : Prop :=
  ∃ t ∈ b.deployTasks, t.vmid = some row.vmid ∧
    (t.serverId = none ∨ t.serverId = some row.serverId) ∧ t.userId = user ∧
    b.knowsUser user = true

/-- The audit log has a successful creation of the guest's number, on its server or on none, by
this existing user. -/
def LogsName (row : VMInstance) (user : UserId) : Prop :=
  ∃ l ∈ b.auditLogs, l.action ∈ creationActions ∧ l.success = true ∧
    (l.serverId = none ∨ l.serverId = some row.serverId) ∧
    (∃ name, l.username = some name ∧ b.userIdByName name = some user) ∧
    ∃ resource, l.resourceId = some resource ∧ parseInt resource = some (row.vmid : Int)

end Books

/-- A source names several users. -/
def Several (names : UserId → Prop) : Prop := ∃ u v, names u ∧ names v ∧ u ≠ v

/-- A source names exactly one user. -/
def Sole (names : UserId → Prop) (user : UserId) : Prop := ∀ v, names v ↔ v = user

namespace Books

variable (b : Books)

/-- A guest for which one of the sources names several users gets no owner. -/
def Cautious : Prop :=
  ∀ (r : b.Returned) row, b.Ownerless row →
    Several (b.DeploysName row) ∨ Several (b.LogsName row) →
      ∀ row', r.run.1.vms.find? row.key = some row' → row'.ownerId = none

/-- A guest gets the only user that the deploy tasks name; where these name nobody or several,
the only user that the audit log names; and otherwise nobody. -/
def Weighed : Prop :=
  ∀ (r : b.Returned) row, b.Ownerless row →
    ∃ row', r.run.1.vms.find? row.key = some row' ∧ ∀ user, row'.ownerId = some user ↔
      Sole (b.DeploysName row) user ∨
        (∀ v, ¬Sole (b.DeploysName row) v) ∧ Sole (b.LogsName row) user

theorem deploysName_iff {row : VMInstance} {user : UserId} :
    b.DeploysName row user ↔
      ∃ c ∈ applicable row.serverId (b.fromDeploys row.vmid), c.2 = user := by
  unfold DeploysName
  simp only [mem_applicable, fromDeploys, List.mem_map, List.mem_filter, Bool.and_eq_true,
    decide_eq_true_iff]
  constructor
  · rintro ⟨t, ht, hvmid, hserver, rfl, hknown⟩
    exact ⟨_, ⟨⟨t, ⟨ht, hvmid, hknown⟩, rfl⟩, hserver⟩, rfl⟩
  · rintro ⟨_, ⟨⟨t, ⟨ht, hvmid, hknown⟩, rfl⟩, hserver⟩, rfl⟩
    exact ⟨t, ht, hvmid, hserver, rfl, hknown⟩

theorem logsName_iff {row : VMInstance} {user : UserId} :
    b.LogsName row user ↔ ∃ c ∈ applicable row.serverId (b.fromLogs row.vmid), c.2 = user := by
  unfold LogsName
  simp only [mem_applicable, mem_fromLogs, logCandidate_eq_some_iff]
  constructor
  · rintro ⟨l, hl, haction, hsuccess, hserver, hname, hresource⟩
    exact ⟨(l.serverId, user), ⟨⟨l, hl, ⟨haction, hsuccess⟩, rfl, hname, hresource⟩, hserver⟩, rfl⟩
  · rintro ⟨⟨sid, _⟩, ⟨⟨l, hl, ⟨haction, hsuccess⟩, rfl, hname, hresource⟩, hserver⟩, rfl⟩
    exact ⟨l, hl, haction, hsuccess, hserver, hname, hresource⟩

/-- A unanimous source is one that names a single user. -/
theorem unanimous_iff_sole {candidates : List (Option ServerId × UserId)} {user : UserId}
    (names : UserId → Prop) (h : ∀ v, names v ↔ ∃ c ∈ candidates, c.2 = v) :
    Unanimous candidates user ↔ Sole names user := by
  constructor
  · rintro ⟨hne, hall⟩ v
    rw [h]
    constructor
    · rintro ⟨c, hc, rfl⟩
      exact hall c hc
    · rintro rfl
      obtain ⟨c, hc⟩ := List.exists_mem_of_ne_nil _ hne
      exact ⟨c, hc, hall c hc⟩
  · intro hsole
    obtain ⟨c, hc, -⟩ := (h user).mp ((hsole user).mpr rfl)
    exact ⟨List.ne_nil_of_mem hc, fun c' hc' => (hsole c'.2).mp ((h c'.2).mpr ⟨c', hc', rfl⟩)⟩

theorem named_iff {row : VMInstance} {user : UserId} :
    b.Named row user ↔ Sole (b.DeploysName row) user ∨
      (∀ v, ¬Sole (b.DeploysName row) v) ∧ Sole (b.LogsName row) user := by
  unfold Named
  simp only [unanimous_iff_sole (b.DeploysName row) fun v => b.deploysName_iff,
    unanimous_iff_sole (b.LogsName row) fun v => b.logsName_iff]

theorem tidy : b.Tidy where
  otherTables r := by
    rw [r.run_eq]
    rfl
  ownersAlone r := by
    rw [r.run_eq]
    refine List.forall₂_map_right_iff.mpr (List.forall₂_same.mpr fun row _ => ?_)
    unfold OwnerAlone backfillRow
    split
    · rename_i hless
      exact Or.inr ⟨hless.1, hless.2, rfl⟩
    · exact Or.inl rfl
  anyOrder r r' := by rw [r.run_eq, r'.run_eq]
  settled r again := by
    rw [again.run_eq, r.run_eq]
    exact b.migrate_migrate

theorem weighed : b.Weighed := by
  rintro r row ⟨hrow, hless⟩
  refine ⟨{ row with ownerId := b.backfillOwner row }, ?_, fun user => ?_⟩
  · rw [r.run_eq, find?_migrate, b.vms.find?_key hrow, Option.map_some]
    exact congrArg some (if_pos hless)
  · rw [← named_iff]
    exact b.backfillOwner_eq_some_iff

/-- Every run is tidy and weighs the sources. -/
theorem backfill_tidy_weighed : b.Tidy ∧ b.Weighed := ⟨b.tidy, b.weighed⟩

end Books

/-- An ownerless guest that was deployed twice, while the log has one creation of it. -/
def redeployed : Books where
  users := [root, alice]
  deployTasks := [⟨"deploy", "completed", some 1, 1, some 100, 7⟩,
    ⟨"deploy", "completed", some 1, 2, some 100, 7⟩]
  auditLogs := [⟨"vm_create", some "alice", some 1, some "100", true, 2, 7⟩]
  vms := KeyedTable.empty.save (ownerlessGuest 100)
  guestAt := fun _ => 7
  cleared := []

/-- A guest for which the deploy tasks name two users gets the one the log names. -/
theorem redeployed_not_cautious : ¬(redeployed.Tidy ∧ redeployed.Cautious) := by
  rintro ⟨-, hcautious⟩
  have hseveral : Several (redeployed.DeploysName (ownerlessGuest 100)) :=
    ⟨1, 2, ⟨_, List.mem_cons_self, rfl, Or.inr rfl, rfl, rfl⟩,
      ⟨_, List.mem_cons_of_mem _ List.mem_cons_self, rfl, Or.inr rfl, rfl, rfl⟩, by decide⟩
  have hnone := hcautious redeployed.stored (ownerlessGuest 100)
    ⟨List.mem_singleton_self _, rfl, rfl⟩ (Or.inl hseveral)
    { ownerlessGuest 100 with ownerId := some 2 } (by decide)
  cases hnone

end PveManager.Owners
