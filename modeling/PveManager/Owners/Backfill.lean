import Mathlib.Data.List.Dedup
import PveManager.Api.Visibility
import PveManager.Core.Run
import PveManager.Owners.Instances

/-!
# The owner backfill

Every start of the panel gives ownerless guests an owner recovered from the
deploy tasks and the audit log. The migration goes by the number of a guest: it
takes the user that every row of that number names. The rows are kept together
with the guest each of them is really about, which no table records.
-/

namespace PveManager.Owners

open PveManager.Core PveManager.Api

/-- The columns of `users` the migration and `set_vm_owner` read. -/
structure UserRow where
  id : UserId
  username : String
  isAdmin : Bool
  isActive : Bool

/-- A row of `deploy_tasks`. -/
structure DeployTask where
  kind : String
  status : String
  /-- Not set for containers. -/
  serverId : Option ServerId
  userId : UserId
  vmid : Option Vmid
  /-- The guest the task worked on. -/
  guest : GuestId

/-- A row of `audit_logs`. -/
structure AuditLog where
  action : String
  username : Option String
  serverId : Option ServerId
  resourceId : Option String
  success : Bool
  /-- The account that acted, under whatever name it had. -/
  actor : UserId
  /-- The guest the line is about. -/
  guest : GuestId

/-- The tables the migration reads, with what really happened beside them. -/
structure Books where
  users : List UserRow
  deployTasks : List DeployTask
  auditLogs : List AuditLog
  vms : KeyedTable VMInstance.key
  /-- The guest that a row of `vm_instances` stands for. -/
  guestAt : ServerId × Vmid → GuestId
  /-- The guests whose owner an administrator has cleared. -/
  cleared : List GuestId

/-- The actions of the audit log the migration selects. -/
def creationActions : List String := ["vm_create", "ct_create", "lxc_create", "container_create"]

/-- The kinds of deploy task whose worker makes a new guest. -/
def creationKinds : List String := ["deploy", "vm_iso", "clone", "image_template"]

/-- `pick_backfill_owner`: the only user among the candidates. -/
def pickBackfillOwner (candidates : List (Option ServerId × UserId)) : Option UserId :=
  match (candidates.map Prod.snd).dedup with
  | [user] => some user
  | _ => none

/-- The candidates of a server; one without a server applies to every server. -/
def applicable (sid : ServerId) (source : List (Option ServerId × UserId)) :
    List (Option ServerId × UserId) :=
  source.filter fun c => decide (c.1 = none ∨ c.1 = some sid)

namespace Books

variable (b : Books)

/-- `user_id in known_user_ids`. -/
def knowsUser (id : UserId) : Bool := b.users.any fun u => decide (u.id = id)

/-- `user_id_by_name.get(username)`: a later row of the same name wins. -/
def userIdByName (name : String) : Option UserId :=
  (b.users.reverse.find? fun u => decide (u.username = name ∧ u.username ≠ "")).map UserRow.id

/-- `from_deploys.get(vmid, [])`. -/
def fromDeploys (vmid : Vmid) : List (Option ServerId × UserId) :=
  (b.deployTasks.filter fun t => decide (t.vmid = some vmid) && b.knowsUser t.userId).map
    fun t => (t.serverId, t.userId)

/-- The user a line of the audit log counts for, if it is a creation of this number. -/
def loggedUser (vmid : Vmid) (l : AuditLog) : Option UserId := do
  let name ← l.username
  let resource ← l.resourceId
  if l.action ∈ creationActions ∧ l.success = true then
    let user ← b.userIdByName name
    if parseInt resource = some (vmid : Int) then some user else none
  else none

/-- `from_logs.get(vmid, [])`. -/
def fromLogs (vmid : Vmid) : List (Option ServerId × UserId) :=
  b.auditLogs.filterMap fun l => (b.loggedUser vmid l).map fun user => (l.serverId, user)

/-- The owner the migration settles on: the deploy tasks come before the audit log. -/
def backfillOwner (row : VMInstance) : Option UserId :=
  (pickBackfillOwner (applicable row.serverId (b.fromDeploys row.vmid))).or
    (pickBackfillOwner (applicable row.serverId (b.fromLogs row.vmid)))

/-- `UPDATE vm_instances SET owner_id … WHERE … owner_id IS NULL`, on the selected rows. -/
def backfillRow (row : VMInstance) : VMInstance :=
  if row.ownerId = none ∧ row.live = true then { row with ownerId := b.backfillOwner row } else row

theorem key_backfillRow (row : VMInstance) : (b.backfillRow row).key = row.key := by
  unfold backfillRow
  split <;> rfl

/-- `migrate_backfill_instance_owner`, which every start runs. -/
def migrateBackfillInstanceOwner : Books :=
  { b with vms := b.vms.mapRows b.backfillRow b.key_backfillRow }

/-- `set_vm_owner`. -/
def setVmOwner (caller : UserRow) (sid : ServerId) (vmid : Vmid) (userId : Option UserId)
    (newKeys : String) : Except Exc Books :=
  if caller.isAdmin = false then .error (.http 403 "Admin required")
  else
    match (b.vms.find? (sid, vmid)).filter VMInstance.live with
    | none => .error (.http 404 "VM not found in cache")
    | some row =>
      if userId.any fun u => !b.users.any fun v => decide (v.id = u) && v.isActive then
        .error (.http 404 "User not found")
      else
        let guest := b.guestAt row.key
        .ok { b with
          vms := b.vms.save (reassigned row userId newKeys)
          cleared := if userId = none then guest :: b.cleared
            else b.cleared.filter fun g => decide (g ≠ guest) }

end Books

/-- Whatever else goes on between two starts: guests come and go, tasks and logs are
written. Only an administrator clears an owner. -/
structure Activity where
  change : Books → Books
  keepsCleared : ∀ b, (change b).cleared = b.cleared

/-- What happens to the tables. -/
inductive Event
  | startUp
  | setOwner (caller : UserRow) (sid : ServerId) (vmid : Vmid) (userId : Option UserId)
      (newKeys : String)
  | other (activity : Activity)

/-- One event; a refused request changes nothing. -/
def step (b : Books) : Event → Books
  | .startUp => b.migrateBackfillInstanceOwner
  | .setOwner caller sid vmid userId newKeys =>
    match b.setVmOwner caller sid vmid userId newKeys with
    | .ok b' => b'
    | .error _ => b
  | .other activity => activity.change b

/-! ### What the migration decides -/

/-- There are candidates, and all of them are of one user. -/
def Unanimous (candidates : List (Option ServerId × UserId)) (user : UserId) : Prop :=
  candidates ≠ [] ∧ ∀ c ∈ candidates, c.2 = user

/-- The pick is the user all candidates are of. -/
theorem pickBackfillOwner_eq_some_iff {candidates : List (Option ServerId × UserId)}
    {user : UserId} : pickBackfillOwner candidates = some user ↔ Unanimous candidates user := by
  have hmem : ∀ v, v ∈ (candidates.map Prod.snd).dedup ↔ ∃ c ∈ candidates, c.2 = v := by
    intro v
    rw [List.mem_dedup, List.mem_map]
  have hnodup := (candidates.map Prod.snd).nodup_dedup
  unfold pickBackfillOwner
  cases hd : (candidates.map Prod.snd).dedup with
  | nil =>
    refine iff_of_false (fun h => by cases h) fun h => ?_
    obtain ⟨c, hc⟩ := List.exists_mem_of_ne_nil _ h.1
    have hin := (hmem c.2).mpr ⟨c, hc, rfl⟩
    rw [hd] at hin
    cases hin
  | cons v rest =>
    rw [hd] at hmem hnodup
    cases rest with
    | nil =>
      constructor
      · intro h
        obtain ⟨c, hc, -⟩ := (hmem v).mp List.mem_cons_self
        refine ⟨List.ne_nil_of_mem hc, fun c' hc' => ?_⟩
        rw [← Option.some.inj h]
        exact List.mem_singleton.mp ((hmem c'.2).mpr ⟨c', hc', rfl⟩)
      · intro h
        obtain ⟨c, hc, hv⟩ := (hmem v).mp List.mem_cons_self
        exact congrArg some (hv.symm.trans (h.2 c hc))
    | cons w rest =>
      refine iff_of_false (fun h => by cases h) fun h => ?_
      have hone : ∀ x ∈ v :: w :: rest, x = user := by
        intro x hx
        obtain ⟨c, hc, rfl⟩ := (hmem x).mp hx
        exact h.2 c hc
      have hv := hone v List.mem_cons_self
      have hw := hone w (List.mem_cons_of_mem v List.mem_cons_self)
      exact (List.nodup_cons.mp hnodup).1 (hv.trans hw.symm ▸ List.mem_cons_self)

namespace Books

variable (b : Books)

/-- The deploy tasks of the row's number name the user, or they name nobody and the audit
log does. -/
def Named (row : VMInstance) (user : UserId) : Prop :=
  Unanimous (applicable row.serverId (b.fromDeploys row.vmid)) user ∨
    (∀ v, ¬Unanimous (applicable row.serverId (b.fromDeploys row.vmid)) v) ∧
      Unanimous (applicable row.serverId (b.fromLogs row.vmid)) user

/-- The migration settles on the user whom the rows name. -/
theorem backfillOwner_eq_some_iff {row : VMInstance} {user : UserId} :
    b.backfillOwner row = some user ↔ b.Named row user := by
  unfold backfillOwner Named
  rw [Option.or_eq_some_iff, pickBackfillOwner_eq_some_iff, pickBackfillOwner_eq_some_iff,
    Option.eq_none_iff_forall_ne_some]
  simp only [ne_eq, pickBackfillOwner_eq_some_iff]

/-- A row after the migration is the row that the migration saw, with the owner it chose. -/
theorem find?_migrate (key : ServerId × Vmid) :
    b.migrateBackfillInstanceOwner.vms.find? key = (b.vms.find? key).map b.backfillRow :=
  b.vms.find?_mapRows b.backfillRow b.key_backfillRow key

/-- A row with an owner and a deleted row are left alone. -/
theorem backfillRow_of_not {row : VMInstance} (h : ¬(row.ownerId = none ∧ row.live = true)) :
    b.backfillRow row = row := if_neg h

/-- A second start finds nothing to do. -/
theorem migrate_migrate :
    b.migrateBackfillInstanceOwner.migrateBackfillInstanceOwner =
      b.migrateBackfillInstanceOwner := by
  have hrow : ∀ row, b.backfillRow (b.backfillRow row) = b.backfillRow row := by
    intro row
    by_cases h : row.ownerId = none ∧ row.live = true
    · have he : b.backfillRow row = { row with ownerId := b.backfillOwner row } := if_pos h
      rw [he]
      unfold backfillRow
      split
      · rfl
      · rfl
    · rw [b.backfillRow_of_not h, b.backfillRow_of_not h]
  have hvms : (b.vms.mapRows b.backfillRow b.key_backfillRow).mapRows b.backfillRow
      b.key_backfillRow = b.vms.mapRows b.backfillRow b.key_backfillRow := by
    unfold KeyedTable.mapRows
    simp only [List.map_map, Function.comp_def, hrow]
  exact congrArg (fun vms => { b with vms := vms }) hvms

end Books

/-! ### Owners and creators -/

/-- The task brought this guest into being. -/
def DeployTask.Creates (t : DeployTask) (user : UserId) (guest : GuestId) : Prop :=
  t.userId = user ∧ t.guest = guest ∧ t.kind ∈ creationKinds ∧ t.status = "completed"

/-- The line records that the account brought this guest into being. -/
def AuditLog.Creates (l : AuditLog) (user : UserId) (guest : GuestId) : Prop :=
  l.actor = user ∧ l.guest = guest ∧ l.action ∈ creationActions ∧ l.success = true

namespace Books

variable (b : Books)

/-- The user created the guest: a creation of this very guest by the user is on record. -/
def CreatedBy (user : UserId) (guest : GuestId) : Prop :=
  (∃ t ∈ b.deployTasks, t.Creates user guest) ∨ ∃ l ∈ b.auditLogs, l.Creates user guest

/-- The row is one the migration looks at. -/
def Ownerless (row : VMInstance) : Prop :=
  row ∈ b.vms.rows ∧ row.ownerId = none ∧ row.live = true

/-- A start gives ownerless guests to their creators alone, and no cleared guest to anybody. -/
def Rightful : Prop :=
  ∀ row, b.Ownerless row → ∀ row',
    b.migrateBackfillInstanceOwner.vms.find? row.key = some row' → ∀ user,
      row'.ownerId = some user →
        b.CreatedBy user (b.guestAt row.key) ∧ b.guestAt row.key ∉ b.cleared

/-- The rows that name a user for the number of an ownerless guest do not mislead: the user
made that guest, and its owner has not been cleared. -/
def Reliable : Prop :=
  ∀ row, b.Ownerless row → ∀ user, b.Named row user →
    b.CreatedBy user (b.guestAt row.key) ∧ b.guestAt row.key ∉ b.cleared

/-- A start is rightful exactly when the rows it goes by do not mislead. -/
theorem rightful_migrate_iff : b.Rightful ↔ b.Reliable := by
  have hfind : ∀ row, b.Ownerless row → b.migrateBackfillInstanceOwner.vms.find? row.key =
      some { row with ownerId := b.backfillOwner row } := by
    rintro row ⟨hrow, hless⟩
    rw [find?_migrate, b.vms.find?_key hrow, Option.map_some]
    exact congrArg some (if_pos hless)
  constructor
  · intro h row hrow user hnamed
    exact h row hrow _ (hfind row hrow) user (b.backfillOwner_eq_some_iff.mpr hnamed)
  · intro h row hrow row' hrow' user huser
    rw [hfind row hrow] at hrow'
    cases hrow'
    exact h row hrow user (b.backfillOwner_eq_some_iff.mp huser)

end Books

/-- Every start of the run is rightful. -/
def RightfulRun : Books → List Event → Prop :=
  Guarded step fun b e => e = .startUp → b.Rightful

/-- Whatever happens between them, every start is rightful exactly when at every start the
rows do not mislead. -/
theorem rightfulRun_iff (b : Books) (es : List Event) :
    RightfulRun b es ↔ Guarded step (fun b e => e = .startUp → b.Reliable) b es :=
  guarded_congr fun b _ => imp_congr_right fun _ => b.rightful_migrate_iff

/-- A running guest of the first server without an owner. -/
def ownerlessGuest (vmid : Vmid) : VMInstance where
  serverId := 1
  vmid := vmid
  node := "pve"
  vmType := .qemu
  name := "web"
  ownerId := none
  status := "running"
  isTemplate := false
  cores := none
  memory := none
  diskSize := none
  osType := none
  ipAddress := none
  ipPrefix := none
  gateway := none
  nameserver := none
  cloudInitUser := none
  cloudInitPassword := none
  sshKeys := none
  templateId := none
  templateName := none
  description := none
  deletedAt := none
  lastSyncAt := none

def root : UserRow := ⟨1, "root", true, true⟩

def alice : UserRow := ⟨2, "alice", false, true⟩

/-- The guest 100 of the first server, with one task of alice's on record. -/
def oneTask (kind : String) (owner : Option UserId) : Books where
  users := [root, alice]
  deployTasks := [⟨kind, "completed", some 1, 2, some 100, 7⟩]
  auditLogs := []
  vms := KeyedTable.empty.save { ownerlessGuest 100 with ownerId := owner }
  guestAt := fun _ => 7
  cleared := []

/-- Somebody who changed the password of an ownerless guest becomes its owner, and a creator
whose ownership an administrator has cleared is its owner again after the next start. -/
theorem backfill_not_rightful :
    ¬RightfulRun (oneTask "change_password" none) [.startUp] ∧
      ¬RightfulRun (oneTask "deploy" (some 2)) [.setOwner root 1 100 none "", .startUp] := by
  constructor
  · rintro ⟨h, -⟩
    obtain ⟨hcreated, -⟩ := h rfl (ownerlessGuest 100) ⟨List.mem_singleton_self _, rfl, rfl⟩
      { ownerlessGuest 100 with ownerId := some 2 } rfl 2 rfl
    rcases hcreated with ⟨t, ht, -, -, hkind, -⟩ | ⟨l, hl, -⟩
    · rw [List.mem_singleton.mp ht] at hkind
      revert hkind
      decide
    · cases hl
  · rintro ⟨-, h, -⟩
    obtain ⟨-, hcleared⟩ := h rfl (ownerlessGuest 100) ⟨List.mem_singleton_self _, rfl, rfl⟩
      { ownerlessGuest 100 with ownerId := some 2 } rfl 2 rfl
    exact hcleared (List.mem_singleton_self _)

end PveManager.Owners
