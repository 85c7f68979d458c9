import PveManager.Backups.Router
import PveManager.Backups.Schedule

/-!
# Tenants and backups

The backup router asks for permissions but hardly ever whose guest it is about. A user without the
global view keeps to its own guests and jobs as long as its requests name nothing else; what its
jobs back up later follows from what they were stored with.
-/

namespace PveManager.Backups

open PveManager.Core PveManager.Rbac PveManager.Api

/-! ### Guests -/

/-- Proxmox's side of an event. -/
structure Cluster where
  answers : Environment BackupRouter.interface
  /-- The node of a guest, where there is one. -/
  nodeOf : ServerId → Vmid → Option String
  /-- The guest that a backup was made of. -/
  backupOf : ServerId → Json → Option Vmid

/-- The guest is on the node. -/
def Cluster.On (c : Cluster) (serverId : ServerId) (node : Json) (v : Vmid) : Prop :=
  ∃ name, node = .text name ∧ c.nodeOf serverId v = some name

/-- The guest is among the ones that a backup is asked for. -/
def DumpTarget.Selects : DumpTarget → Vmid → Prop
  | .all, _ => True
  | .vmid n, v => n = v

/-- The request overwrites the guest, backs it up or deletes a backup of it. A restore without
`force` leaves the guests that there are. -/
def Cluster.Reaches (c : Cluster) : RouterCall BackupRouter → ServerId → Vmid → Prop
  | .request server (.vzdump params), serverId, v =>
    serverId = server.id ∧ params.target.Selects v ∧ c.On serverId params.node v
  | .request server (.restore params), serverId, v =>
    serverId = server.id ∧ params.force = true ∧ params.vmid = v ∧ c.On serverId params.node v
  | .request server (.deleteContent _ _ volid), serverId, v =>
    serverId = server.id ∧ c.backupOf serverId volid = some v
  | _, _, _ => False

/-- A user that is no administrator and does not see all instances. -/
structure Tenant where
  user : User
  restricted : canViewAllInstances user = false

/-- The user has a live row of the guest. -/
def Owns (db : Db) (user : User) (serverId : ServerId) (v : Vmid) : Prop :=
  ∃ row, getVmInstance db serverId v = some row ∧ row.ownerId = some user.id

/-- The request reaches guests of the user only. -/
def OwnCall (c : Cluster) (db : Db) (user : User) (call : RouterCall BackupRouter) : Prop :=
  ∀ serverId v, c.Reaches call serverId v → Owns db user serverId v

/-! ### What is asked of an event -/

/-- The event is a request of the user, or a trigger of one of its jobs. -/
def Attributed (tenant : Tenant) (p : Panel) : PanelEvent → Prop
  | .request user _ => user = tenant.user
  | .fires jobId _ => ∃ job, p.jobs.find? jobId = some job ∧ job.ownerId = some tenant.user.id
  | .restart | .database _ => False

/-- The event respects the other tenants. -/
structure Respects (aps : CronTrigger) (tenant : Tenant) (p : Panel) (e : PanelEvent × Cluster) :
    Prop where
  /-- Its requests, and the runs of its jobs, reach no other guests. -/
  calls : Attributed tenant p e.1 → ∀ call ∈ (outcome aps e.2.answers p e.1).calls,
    OwnCall e.2 p.db tenant.user call
  /-- Its requests leave the jobs of others, and their triggers, as they are. -/
  jobs : ∀ r, e.1 = .request tenant.user r → ∀ job ∈ p.jobs.rows,
    job.ownerId ≠ some tenant.user.id →
      job ∈ (outcome aps e.2.answers p e.1).panel.jobs.rows ∧
      (outcome aps e.2.answers p e.1).panel.scheduler (jobIdStr job.id) =
        p.scheduler (jobIdStr job.id)
  /-- Its requests run no job of others. -/
  runs : ∀ r, e.1 = .request tenant.user r → ∀ job ∈ p.jobs.rows,
    (outcome aps e.2.answers p e.1).ran = some job.id → job.ownerId = some tenant.user.id

/-- The list names single guests of the user. -/
def NamesOwn (db : Db) (user : User) (serverId : ServerId) (vmids : Json) : Prop :=
  ∀ targets, jobTargets vmids = some targets → ∀ target ∈ targets,
    ∃ v : Vmid, target.param = .vmid v ∧ Owns db user serverId v

/-- The item of a bulk restore in place names a guest of the user, or none that there is. -/
def OwnItem (c : Cluster) (db : Db) (user : User) (serverId : ServerId) (item : Json) : Prop :=
  ∀ fields, item = .dict fields → ∀ v : Vmid, pythonInt (get fields "vmid") = some (v : Int) →
    c.On serverId (get fields "node") v → Owns db user serverId v

/-- The server of a body that is answered for the user. -/
structure Answers (db : Db) (user : User) (permission : String) (server : ProxmoxServer) :
    Prop where
  permitted : hasPermission user permission = true
  registered : db.servers.find? server.id = some server
  credentials : hasCredentials server = true

/-- What a request of the user names is its own. -/
def OwnRequest (c : Cluster) (p : Panel) (user : User) : BackupRequest → Prop
  | .createBackup body =>
    ∀ fields server n, body = some (.dict fields) →
      integerColumn (get fields "server_id") = some (server.id : Int) →
      Answers p.db user "backup:create" server → pythonInt (get fields "vmid") = some n →
      ∀ v, (DumpTarget.vmid n).param.Selects v → c.On server.id (get fields "node") v →
        Owns p.db user server.id v
  | .restore _ => True
  | .restoreBulk body =>
    ∀ fields server items, body = some (.dict fields) →
      getOr fields "mode" (.text "in_place") = .text "in_place" →
      integerColumn (get fields "server_id") = some (server.id : Int) →
      Answers p.db user "backup:restore" server → get fields "items" = .list items →
      ∀ item ∈ items, OwnItem c p.db user server.id item
  | .deleteBackup serverId body =>
    ∀ fields server, body = some (.dict fields) → server.id = serverId →
      Answers p.db user "backup:delete" server →
      ∀ v, c.backupOf serverId (get fields "volid") = some v → Owns p.db user serverId v
  | .job (.toggle jobId) true =>
    hasPermission user "backup:manage" = true →
      ∀ job, p.jobs.find? jobId = some job → job.ownerId = some user.id
  | .job _ _ => True
  | .runNow jobId =>
    hasPermission user "backup:create" = true →
      ∀ job, p.jobs.find? jobId = some job → job.ownerId = some user.id

/-- A job of the user is stored, by whomever, with guests of the user. -/
def StoresOwn (p : Panel) (tenant : Tenant) (user : User) : BackupRequest → Prop
  | .job (.create data) true =>
    user.id = tenant.user.id → ∀ fields (serverId : ServerId), data = .dict fields →
      integerColumn (get fields "server_id") = some (serverId : Int) →
      NamesOwn p.db tenant.user serverId (get fields "vmids")
  | .job (.update jobId data) true =>
    ∀ job fields vmids, p.jobs.find? jobId = some job → job.ownerId = some tenant.user.id →
      data = .dict fields → fields.lookup "vmids" = some vmids →
      NamesOwn p.db tenant.user job.serverId vmids
  | _ => True

/-- The guests of the user's jobs stay the user's. -/
def KeepsOwn (p : Panel) (tenant : Tenant) (db : Db) : Prop :=
  ∀ job ∈ p.jobs.rows, job.ownerId = some tenant.user.id →
    NamesOwn db tenant.user job.serverId job.vmids

/-- The event names nothing of others for the user. -/
def Meets (tenant : Tenant) (p : Panel) (e : PanelEvent × Cluster) : Prop :=
  match e.1 with
  | .request user r =>
    (user = tenant.user → OwnRequest e.2 p user r) ∧ StoresOwn p tenant user r
  | .database db => KeepsOwn p tenant db
  | .fires _ _ | .restart => True

/-- The jobs of the user name single guests of the user. -/
def JobsOwn (tenant : Tenant) (p : Panel) : Prop := KeepsOwn p tenant p.db

/-! ### The calls of the handlers -/

section Only

variable {P : RouterCall BackupRouter → Prop} {α β : Type}

theorem only_bodyFields_bind {body : Option Json} {f : List (String × Json) → BackupHandler β}
    (hf : ∀ fields, body = some (.dict fields) → (f fields).Only P) :
    (bodyFields body >>= f).Only P := by
  cases body with
  | none => trivial
  | some data =>
    cases data with
    | dict fields => exact hf fields rfl
    | _ => trivial

theorem only_intOrRaise_bind {value : Json} {f : Int → BackupHandler β}
    (hf : ∀ n, pythonInt value = some n → (f n).Only P) : (intOrRaise value >>= f).Only P := by
  unfold intOrRaise
  cases h : pythonInt value with
  | none => trivial
  | some n => exact hf n h

theorem only_resolveServer_bind {db : Db} {serverId : ServerId} {detail : String}
    {f : ProxmoxServer → BackupHandler β}
    (hf : ∀ server, server.id = serverId → db.servers.find? server.id = some server →
      (f server).Only P) : (resolveServer db serverId detail >>= f).Only P := by
  unfold resolveServer
  cases h : db.servers.find? serverId with
  | none => trivial
  | some server =>
    have hid : server.id = serverId := db.servers.key_of_find? h
    exact hf server hid (hid ▸ h)

theorem only_namedServer_bind {db : Db} {value : Json} {f : ProxmoxServer → BackupHandler β}
    (hf : ∀ server : ProxmoxServer, integerColumn value = some (server.id : Int) →
      db.servers.find? server.id = some server → (f server).Only P) :
    (namedServer db value >>= f).Only P := by
  unfold namedServer
  cases h : integerColumn value with
  | none => trivial
  | some n =>
    by_cases hn : n < 0
    · simp only [if_pos hn]
      trivial
    · simp only [if_neg hn]
      refine only_resolveServer_bind fun server hid hserver => hf server ?_ hserver
      rw [h, hid, Int.toNat_of_nonneg (Int.not_lt.mp hn)]

theorem only_bulkMode_bind {fields : List (String × Json)} {f : BulkMode → BackupHandler β}
    (hf : ∀ mode, (mode = .inPlace → getOr fields "mode" (.text "in_place") = .text "in_place") →
      (f mode).Only P) : (bulkMode fields >>= f).Only P := by
  unfold bulkMode
  split
  · rename_i hmode
    exact hf .inPlace fun _ => hmode
  · exact hf .newVmid fun heq => BulkMode.noConfusion heq
  · trivial

theorem only_bulkItems_bind {value : Json} {f : List Json → BackupHandler β}
    (hf : ∀ items, value = .list items → (f items).Only P) : (bulkItems value >>= f).Only P := by
  cases value with
  | list items => exact hf items rfl
  | _ => trivial

theorem only_orFailed (result : Except String α) :
    (orFailed result : BackupHandler α).Only P := by
  cases result with
  | ok a => trivial
  | error e => trivial

theorem only_orServerErrorKeepHttp {p : BackupHandler α} (hp : p.Only P) :
    (orServerErrorKeepHttp p).Only P := by
  refine Proc.only_tryCatch hp fun e => ?_
  cases e with
  | http status detail => trivial
  | other text => trivial

theorem only_clientCreateBackup {server : ProxmoxServer} {node : Json} {vmid : DumpTarget}
    {storage mode compress : Json} {remove : Bool} {keepLast notes : Json}
    (h : ∀ params : DumpParams, params.node = node → params.target = vmid.param →
      P (.request server (.vzdump params))) :
    (clientCreateBackup server node vmid storage mode compress remove keepLast notes).Only P := by
  unfold clientCreateBackup
  cases keepLastParam keepLast with
  | none => trivial
  | some keep => exact Proc.only_ask (h _ rfl rfl)

theorem only_clientRestore {server : ProxmoxServer} {vmType : VmType} {node : Json} {vmid : Int}
    {archive : Json} {storage : Option Json} {newVmid : Option Int} {start unique force : Bool}
    (h : ∀ params : RestoreParams, params.node = node → params.force = force →
      (newVmid = none → params.vmid = vmid) → P (.request server (.restore params))) :
    (clientRestore server vmType node vmid archive storage newVmid start unique force).Only P := by
  refine Proc.only_ask (h _ rfl rfl ?_)
  rintro rfl
  rfl

end Only

section Requests

variable {c : Cluster} {p : Panel} {user : User}

/-- A restore without `force` reaches no guest that there is. -/
theorem ownCall_restore {db : Db} {server : ProxmoxServer} {params : RestoreParams}
    (h : params.force = false) : OwnCall c db user (.request server (.restore params)) := by
  rintro serverId v ⟨-, hforce, -⟩
  rw [h] at hforce
  cases hforce

theorem ownCall_nextId {db : Db} {server : ProxmoxServer} {candidate : Option Int} :
    OwnCall c db user (.request server (.nextId candidate)) := fun _ _ h => h.elim

theorem only_createBackup {body : Option Json} (h : OwnRequest c p user (.createBackup body)) :
    (createBackup p.db user body).Only (OwnCall c p.db user) := by
  refine Proc.only_ensure_bind fun hpermission => only_bodyFields_bind fun fields hbody =>
    Proc.only_ensure_bind fun _ => only_namedServer_bind fun server hname hserver =>
    only_intOrRaise_bind fun _ _ => only_orServerErrorKeepHttp ?_
  refine Proc.only_ensure_bind fun hcredentials => only_intOrRaise_bind fun n hn => ?_
  refine Proc.only_bind (only_clientCreateBackup ?_) fun result =>
    Proc.only_bind (only_orFailed _) fun _ => trivial
  rintro params hnode htarget serverId v ⟨rfl, hselects, hon⟩
  rw [htarget] at hselects
  rw [hnode] at hon
  exact h fields server n hbody hname ⟨hpermission, hserver, hcredentials⟩ hn v hselects hon

theorem only_deleteBackup {serverId : ServerId} {body : Option Json}
    (h : OwnRequest c p user (.deleteBackup serverId body)) :
    (deleteBackup p.db user serverId body).Only (OwnCall c p.db user) := by
  refine Proc.only_ensure_bind fun hpermission => only_resolveServer_bind fun server hid hserver =>
    only_bodyFields_bind fun fields hbody => Proc.only_ensure_bind fun _ =>
    only_orServerErrorKeepHttp ?_
  refine Proc.only_ensure_bind fun hcredentials => Proc.only_bind (Proc.only_ask ?_) fun result =>
    Proc.only_bind (only_orFailed _) fun _ => trivial
  rintro other v ⟨rfl, hbackup⟩
  subst hid
  exact h fields server hbody rfl ⟨hpermission, hserver, hcredentials⟩ v hbackup

theorem only_restoreBackup {body : Option Json} :
    (restoreBackup p.db user body).Only (OwnCall c p.db user) := by
  refine Proc.only_ensure_bind fun _ => only_bodyFields_bind fun fields _ =>
    Proc.only_ensure_bind fun _ => only_namedServer_bind fun server _ _ =>
    only_orServerErrorKeepHttp ?_
  refine Proc.only_ensure_bind fun _ => only_intOrRaise_bind fun n _ => ?_
  refine Proc.only_bind ?_ fun newVmid => ?_
  · unfold optionalInt
    split
    · exact only_intOrRaise_bind fun _ _ => trivial
    · trivial
  · exact Proc.only_bind (only_clientRestore fun params _ hforce _ => ownCall_restore hforce)
      fun result => Proc.only_bind (only_orFailed _) fun _ => trivial

/-! ### Bulk restores -/

theorem only_allocVmid {server : ProxmoxServer} {allocated : List Int} (tries : Nat)
    (candidate : Int) :
    (allocVmid server allocated tries candidate).Only (OwnCall c p.db user) := by
  induction tries generalizing candidate with
  | zero => trivial
  | succ tries ih =>
    unfold allocVmid
    split
    · exact ih _
    · refine Proc.only_bind (Proc.only_ask ownCall_nextId) fun answer => ?_
      cases answer with
      | none => exact ih _
      | some free => trivial

/-- Where a bulk restore works in place, its items name guests of the user. -/
def OwnItems (c : Cluster) (db : Db) (user : User) (spec : BulkSpec) (item : Json) : Prop :=
  spec.mode = .inPlace → OwnItem c db user spec.server.id item

theorem only_restoreTo {spec : BulkSpec} {fields : List (String × Json)} {newVmid : Option Int}
    (h : OwnItems c p.db user spec (.dict fields)) (hnew : spec.mode = .inPlace → newVmid = none) :
    (restoreTo spec fields newVmid).Only (OwnCall c p.db user) := by
  unfold restoreTo
  cases hvmid : pythonInt (get fields "vmid") with
  | none => trivial
  | some vmid =>
    refine Proc.only_bind (only_clientRestore fun params hnode hforce hparam => ?_) fun _ => trivial
    rintro serverId v ⟨rfl, hforced, hv, hon⟩
    rw [hforce, decide_eq_true_iff] at hforced
    rw [hparam (hnew hforced)] at hv
    rw [hnode] at hon
    exact h hforced fields rfl v (hv ▸ hvmid) hon

theorem only_restoreItem {spec : BulkSpec} {st : BulkState} {item : Json}
    (h : OwnItems c p.db user spec item) :
    (restoreItem spec st item).Only (OwnCall c p.db user) := by
  cases item with
  | dict fields =>
    unfold restoreItem
    simp only
    split
    · trivial
    · unfold chosenVmid
      cases hmode : spec.mode with
      | inPlace =>
        simp only [pure_bind]
        exact Proc.only_bind (only_restoreTo h fun _ => rfl) fun _ => trivial
      | newVmid =>
        have hne : spec.mode ≠ .inPlace := by
          rw [hmode]
          exact BulkMode.noConfusion
        refine Proc.only_bind (Proc.only_bind (only_allocVmid _ _) fun answer => ?_)
          fun newVmid => ?_
        · cases answer with
          | none => trivial
          | some n => trivial
        · cases newVmid with
          | none => trivial
          | some newVmid =>
            exact Proc.only_bind (only_restoreTo h fun heq => absurd heq hne) fun _ => trivial
  | _ => trivial

theorem only_restoreItems {spec : BulkSpec} {items : List Json} {st : BulkState}
    (h : ∀ item ∈ items, OwnItems c p.db user spec item) :
    (restoreItems spec st items).Only (OwnCall c p.db user) := by
  induction items generalizing st with
  | nil => trivial
  | cons item items ih =>
    obtain ⟨hitem, hitems⟩ := List.forall_mem_cons.mp h
    exact Proc.only_bind (only_restoreItem hitem) fun _ => ih hitems

theorem only_restoreBackupBulk {body : Option Json}
    (h : OwnRequest c p user (.restoreBulk body)) :
    (restoreBackupBulk p.db user body).Only (OwnCall c p.db user) := by
  refine Proc.only_ensure_bind fun hpermission => only_bodyFields_bind fun fields hbody =>
    Proc.only_ensure_bind fun _ => only_bulkMode_bind fun mode hmode =>
    only_namedServer_bind fun server hname hserver => Proc.only_ensure_bind fun hcredentials => ?_
  refine Proc.only_bind ?_ fun first => ?_
  · cases mode with
    | inPlace => trivial
    | newVmid => exact Proc.only_bind (Proc.only_ask ownCall_nextId) fun _ => trivial
  · refine only_bulkItems_bind fun items hitems => Proc.only_bind ?_ fun st => trivial
    refine only_restoreItems fun item hitem hinPlace => ?_
    exact h fields server items hbody (hmode hinPlace) hname
      ⟨hpermission, hserver, hcredentials⟩ hitems item hitem

end Requests

/-! ### The rows that are stored -/

section Rows

variable {p : Panel} {user : User} {jobId : Nat} {job row : BackupJob}

/-- The row is about the same guests, for the same owner. -/
structure SameGuests (job row : BackupJob) : Prop where
  id : job.id = row.id
  owner : job.ownerId = row.ownerId
  server : job.serverId = row.serverId
  vmids : job.vmids = row.vmids

theorem permitted_ok {permission : String} {u : Unit} (h : permitted user permission = .ok u) :
    hasPermission user permission = true := by
  unfold permitted at h
  split at h
  · assumption
  · cases h

/-- A new row is the caller's, for the server and the guests of the body. -/
theorem newJob_spec {data : Json} (h : newJob p user data = .ok job) :
    job.ownerId = some user.id ∧ ∃ fields, data = .dict fields ∧
      integerColumn (get fields "server_id") = some (job.serverId : Int) ∧
      job.vmids = get fields "vmids" := by
  unfold newJob at h
  obtain ⟨-, -, h⟩ := bind_ok h
  cases data with
  | dict fields =>
    dsimp only at h
    split at h
    · cases h
    · obtain ⟨serverId, hserverId, h⟩ := bind_ok h
      split at h
      · rename_i server hserver
        split at h
        · cases h
        · rename_i hnonneg
          iterate 10 obtain ⟨_, -, h⟩ := bind_ok h
          cases h
          refine ⟨rfl, fields, rfl, ?_, rfl⟩
          have hid : server.id = serverId.toNat := p.db.servers.key_of_find? hserver
          have hcolumn : integerColumn (get fields "server_id") = some serverId := by
            unfold accepted at hserverId
            unfold get
            split at hserverId
            · cases hserverId
              assumption
            · cases hserverId
          rw [hcolumn, hid, Int.toNat_of_nonneg (Int.not_lt.mp hnonneg)]
      · cases h
  | _ => cases h

theorem replaced_vmids {fields : List (String × Json)} {old vmids : Json}
    (h : replaced fields "vmids" some old = .ok vmids) :
    vmids = (fields.lookup "vmids").getD old := by
  unfold replaced at h
  split at h
  · rename_i value hvalue
    cases h
    rw [hvalue]
    rfl
  · rename_i hnone
    cases h
    rw [hnone]
    rfl

/-- Only the list of guests of a body can change what a row is about. -/
theorem setFields_spec {fields : List (String × Json)} (h : setFields row fields = .ok job) :
    SameGuests job { row with vmids := (fields.lookup "vmids").getD row.vmids } := by
  unfold setFields at h
  obtain ⟨node, -, h⟩ := bind_ok h
  obtain ⟨vmids, hvmids, h⟩ := bind_ok h
  iterate 10 obtain ⟨_, -, h⟩ := bind_ok h
  cases h
  exact ⟨rfl, rfl, rfl, replaced_vmids hvmids⟩

/-- An updated row: the caller may change it, and its guests are as before or from the body. -/
theorem updatedJob_spec {data : Json} (h : updatedJob p user jobId data = .ok job) :
    ∃ row, p.jobs.find? jobId = some row ∧ mayChange user row = true ∧
      (SameGuests job row ∨ ∃ fields vmids, data = .dict fields ∧
        fields.lookup "vmids" = some vmids ∧ SameGuests job { row with vmids := vmids }) := by
  unfold updatedJob at h
  obtain ⟨-, -, h⟩ := bind_ok h
  obtain ⟨row, hrow, h⟩ := bind_ok h
  split at h
  · cases h
  · rename_i hmay
    refine ⟨row, findJob_ok hrow, by simpa using hmay, ?_⟩
    have hsame : SameGuests row row := ⟨rfl, rfl, rfl, rfl⟩
    cases data with
    | dict fields =>
      have hset := setFields_spec h
      cases hlookup : fields.lookup "vmids" with
      | none =>
        rw [hlookup] at hset
        exact Or.inl hset
      | some vmids =>
        rw [hlookup] at hset
        exact Or.inr ⟨fields, vmids, rfl, hlookup, hset⟩
    | list items =>
      dsimp only at h
      split at h
      · cases h
      · cases h
        exact Or.inl hsame
    | text s =>
      dsimp only at h
      split at h
      · cases h
      · cases h
        exact Or.inl hsame
    | null => cases h
    | bool b => cases h
    | number n => cases h

theorem toggledJob_permitted (h : toggledJob p user jobId = .ok job) :
    hasPermission user "backup:manage" = true := by
  unfold toggledJob at h
  obtain ⟨u, hpermitted, -⟩ := bind_ok h
  exact permitted_ok hpermitted

theorem deletedJob_mayChange (h : deletedJob p user jobId = .ok job) :
    mayChange user job = true := by
  unfold deletedJob at h
  obtain ⟨-, -, h⟩ := bind_ok h
  obtain ⟨row, hrow, h⟩ := bind_ok h
  split at h
  · cases h
  · rename_i hmay
    cases h
    simpa using hmay

/-- A tenant may change its own jobs only. -/
theorem Tenant.owner_of_mayChange (tenant : Tenant) (h : mayChange tenant.user job = true) :
    job.ownerId = some tenant.user.id := by
  have hrole : isAdminOrRole tenant.user = false := by
    have hview := tenant.restricted
    unfold canViewAllInstances at hview
    unfold isAdminOrRole
    exact (Bool.or_eq_false_iff.mp hview).1
  unfold mayChange at h
  rw [hrole, Bool.false_or] at h
  exact of_decide_eq_true h

/-- What a run stores is the row of the job with another status. -/
theorem running_row (env : Environment BackupRouter.interface)
    {calls : List (RouterCall BackupRouter)}
    (h : (runBackupJob p jobId).run env [] = (calls, .ok (some row))) :
    ∃ job, p.jobs.find? jobId = some job ∧ SameGuests row job := by
  have hstatus : ∀ (job : BackupJob) status error upid,
      SameGuests (job.withStatus status error upid) job := fun _ _ _ _ => ⟨rfl, rfl, rfl, rfl⟩
  unfold runBackupJob at h
  cases hjob : p.jobs.find? jobId with
  | none =>
    rw [hjob] at h
    cases h
  | some job =>
    refine ⟨job, rfl, ?_⟩
    rw [hjob] at h
    dsimp only at h
    split at h
    · cases h
      exact hstatus job _ _ _
    · split at h
      · cases h
        exact hstatus job _ _ _
      · rw [Proc.run_bind] at h
        split at h
        · split at h
          · cases h
            exact hstatus job _ _ _
          · cases h
            exact hstatus job _ _ _
        · cases h

end Rows

/-! ### The jobs of a tenant -/

section Invariant

variable {aps : CronTrigger} {env : Environment BackupRouter.interface} {p : Panel}
  {tenant : Tenant} {user : User} {jobId : Nat} {job row : BackupJob}

/-- No request to the job endpoints touches the other tables. -/
theorem db_handleJobs (r : JobRequest) (commits : Bool) :
    (handleJobs aps p user r commits).1.db = p.db := by
  cases r with
  | create data =>
    change (createBackupJob aps p user data commits).1.db = p.db
    unfold createBackupJob
    split
    · rfl
    · split <;> rfl
  | update jobId data =>
    change (updateBackupJob aps p user jobId data commits).1.db = p.db
    unfold updateBackupJob
    split
    · rfl
    · split <;> rfl
  | toggle jobId =>
    change (toggleBackupJob aps p user jobId commits).1.db = p.db
    unfold toggleBackupJob
    split
    · rfl
    · split <;> rfl
  | delete jobId =>
    change (deleteBackupJob p user jobId commits).1.db = p.db
    unfold deleteBackupJob
    split
    · rfl
    · split <;> rfl

/-- A row with the guests of an own job names own guests. -/
theorem JobsOwn.of_sameGuests (h : JobsOwn tenant p) (hjob : job ∈ p.jobs.rows)
    (hsame : SameGuests row job) (howner : row.ownerId = some tenant.user.id) :
    NamesOwn p.db tenant.user row.serverId row.vmids := by
  rw [hsame.server, hsame.vmids]
  exact h job hjob (hsame.owner.symm.trans howner)

/-- A stored row of the tenant names own guests. -/
theorem JobsOwn.stored (h : JobsOwn tenant p) {r : JobRequest} {commits : Bool}
    (hstores : StoresOwn p tenant user (.job r commits))
    (hrow : stored p (.request user r commits) = some row)
    (howner : row.ownerId = some tenant.user.id) :
    NamesOwn p.db tenant.user row.serverId row.vmids := by
  cases commits with
  | false => cases r <;> cases hrow
  | true =>
    cases r with
    | create data =>
      change (newJob p user data).toOption = some row at hrow
      cases hnew : newJob p user data with
      | error e =>
        rw [hnew] at hrow
        cases hrow
      | ok new =>
        rw [hnew] at hrow
        cases hrow
        obtain ⟨hid, fields, hdata, hserver, hvmids⟩ := newJob_spec hnew
        rw [hvmids]
        exact hstores (Option.some.inj (hid.symm.trans howner)) fields row.serverId hdata hserver
    | update jobId data =>
      change (updatedJob p user jobId data).toOption = some row at hrow
      cases hupd : updatedJob p user jobId data with
      | error e =>
        rw [hupd] at hrow
        cases hrow
      | ok new =>
        rw [hupd] at hrow
        cases hrow
        obtain ⟨job, hjob, -, hsame | ⟨fields, vmids, hdata, hlookup, hsame⟩⟩ :=
          updatedJob_spec hupd
        · exact h.of_sameGuests (p.jobs.mem_of_find? hjob) hsame howner
        · rw [hsame.server, hsame.vmids]
          exact hstores job fields vmids hjob (hsame.owner.symm.trans howner) hdata hlookup
    | toggle jobId =>
      change (toggledJob p user jobId).toOption = some row at hrow
      cases htog : toggledJob p user jobId with
      | error e =>
        rw [htog] at hrow
        cases hrow
      | ok new =>
        rw [htog] at hrow
        cases hrow
        obtain ⟨job, hjob, rfl⟩ := toggledJob_ok htog
        exact h.of_sameGuests (p.jobs.mem_of_find? hjob) ⟨rfl, rfl, rfl, rfl⟩ howner
    | delete jobId => cases hrow

/-- A run leaves the guests of the jobs alone. -/
theorem JobsOwn.running (h : JobsOwn tenant p) (jobId : Nat) :
    JobsOwn tenant (running env p jobId).panel := by
  unfold Backups.running
  split
  · rename_i calls row hrun
    obtain ⟨job, hjob, hsame⟩ := running_row env hrun
    intro other hother howner
    rcases (p.jobs.mem_rows_save row other).mp hother with rfl | ⟨hold, -⟩
    · exact h.of_sameGuests (p.jobs.mem_of_find? hjob) hsame howner
    · exact h other hold howner
  · exact h

/-- Events that name nothing of others keep the jobs of the tenant to its guests. -/
theorem JobsOwn.outcome (h : JobsOwn tenant p) {e : PanelEvent × Cluster} (he : Meets tenant p e) :
    JobsOwn tenant (outcome aps e.2.answers p e.1).panel := by
  obtain ⟨event, c⟩ := e
  cases event with
  | request user r =>
    cases r with
    | job r commits =>
      intro row hrow howner
      change NamesOwn (handleJobs aps p user r commits).1.db tenant.user row.serverId row.vmids
      rw [db_handleJobs]
      rcases mem_rows_jobStep (e := .request user r commits) hrow with hold | hstored
      · exact h row hold howner
      · exact h.stored he.2 hstored howner
    | runNow jobId =>
      change JobsOwn tenant (runBackupJobNow c.answers p user jobId).panel
      unfold runBackupJobNow
      split
      · exact h.running jobId
      · exact h
    | _ => exact h
  | fires jobId t =>
    unfold Backups.outcome
    simp only
    split
    · exact h.running jobId
    · exact h
  | restart => exact h
  | database db => exact he

end Invariant

/-! ### The calls of an event -/

section Calls

variable {aps : CronTrigger} {c : Cluster} {p : Panel} {tenant : Tenant} {user : User}
  {jobId : Nat}

theorem only_dumpAll {server : ProxmoxServer} {job : BackupJob} {targets : List DumpTarget}
    (h : ∀ target ∈ targets, ∃ v : Vmid, target.param = .vmid v ∧ Owns p.db user server.id v)
    (errors : List String) (upid : Option String) :
    (dumpAll server job targets errors upid).Only (OwnCall c p.db user) := by
  induction targets generalizing errors upid with
  | nil => trivial
  | cons target targets ih =>
    obtain ⟨⟨v, hparam, howns⟩, htargets⟩ := List.forall_mem_cons.mp h
    refine Proc.only_bind (only_clientCreateBackup ?_) fun result => ?_
    · rintro params - htarget serverId w ⟨rfl, hselects, -⟩
      rw [htarget, hparam] at hselects
      exact Int.ofNat.inj hselects ▸ howns
    · cases result with
      | ok upid => exact ih htargets _ _
      | error e => exact ih htargets _ _

/-- A job that names own guests backs up nothing else. -/
theorem only_runBackupJob
    (h : ∀ job, p.jobs.find? jobId = some job → NamesOwn p.db user job.serverId job.vmids) :
    (runBackupJob p jobId).Only (OwnCall c p.db user) := by
  unfold runBackupJob
  cases hjob : p.jobs.find? jobId with
  | none => trivial
  | some job =>
    dsimp only
    cases hserver : p.db.servers.find? job.serverId with
    | none => trivial
    | some server =>
      dsimp only
      have hid : server.id = job.serverId := p.db.servers.key_of_find? hserver
      cases htargets : jobTargets job.vmids with
      | none => trivial
      | some targets =>
        refine Proc.only_bind (only_dumpAll ?_ _ _) fun _ => trivial
        rw [hid]
        exact h job hjob targets htargets

/-- The calls of a run are the ones of its procedure. -/
theorem calls_running (env : Environment BackupRouter.interface) :
    (running env p jobId).calls = ((runBackupJob p jobId).run env []).1 := by
  unfold running
  split
  · rename_i hrun
    rw [hrun]
  · rename_i hrun
    rw [hrun]

theorem ownCalls_running (h : JobsOwn tenant p)
    (howner : ∀ job, p.jobs.find? jobId = some job → job.ownerId = some tenant.user.id) :
    ∀ call ∈ (running c.answers p jobId).calls, OwnCall c p.db tenant.user call := by
  rw [calls_running]
  refine Proc.run_only (only_runBackupJob fun job hjob => ?_) _ fun _ hnil => ?_
  · exact h job (p.jobs.mem_of_find? hjob) (howner job hjob)
  · exact absurd hnil List.not_mem_nil

theorem ownCalls_answering {handler : BackupHandler BackupReply}
    (h : handler.Only (OwnCall c p.db user)) :
    ∀ call ∈ (answering c.answers p handler).calls, OwnCall c p.db user call :=
  Proc.run_only h _ fun _ hnil => absurd hnil List.not_mem_nil

/-- A request of the tenant that names nothing of others reaches no other guests. -/
theorem ownCalls_respond (h : JobsOwn tenant p) {r : BackupRequest}
    (hown : OwnRequest c p tenant.user r) :
    ∀ call ∈ (respond aps c.answers p tenant.user r).calls, OwnCall c p.db tenant.user call := by
  cases r with
  | createBackup body => exact ownCalls_answering (only_createBackup hown)
  | restore body => exact ownCalls_answering only_restoreBackup
  | restoreBulk body => exact ownCalls_answering (only_restoreBackupBulk hown)
  | deleteBackup serverId body => exact ownCalls_answering (only_deleteBackup hown)
  | job r commits => exact fun call hnil => absurd hnil List.not_mem_nil
  | runNow jobId =>
    change ∀ call ∈ (runBackupJobNow c.answers p tenant.user jobId).calls, _
    unfold runBackupJobNow
    split
    · rename_i hruns
      exact ownCalls_running h (hown (Bool.and_eq_true_iff.mp hruns).1)
    · exact fun call hnil => absurd hnil List.not_mem_nil

/-- So do the runs of its jobs. -/
theorem ownCalls_outcome (h : JobsOwn tenant p) {event : PanelEvent}
    (hmeets : Meets tenant p (event, c)) (hattributed : Attributed tenant p event) :
    ∀ call ∈ (outcome aps c.answers p event).calls, OwnCall c p.db tenant.user call := by
  cases event with
  | request user r =>
    obtain rfl : user = tenant.user := hattributed
    exact ownCalls_respond h (hmeets.1 rfl)
  | fires jobId t =>
    obtain ⟨row, hrow, howner⟩ := hattributed
    unfold outcome
    simp only
    split
    · refine ownCalls_running h fun job hjob => ?_
      rw [Option.some.inj (hjob.symm.trans hrow)]
      exact howner
    · exact fun call hnil => absurd hnil List.not_mem_nil
  | restart => exact hattributed.elim
  | database db => exact hattributed.elim

end Calls

/-! ### The jobs of others -/

section Others

variable {aps : CronTrigger} {c : Cluster} {p : Panel} {tenant : Tenant} {jobId : Nat}
  {job row : BackupJob}

/-- The job and its trigger are as before. -/
def Kept (p p' : Panel) (job : BackupJob) : Prop :=
  job ∈ p'.jobs.rows ∧ p'.scheduler (jobIdStr job.id) = p.scheduler (jobIdStr job.id)

/-- A job of another owner is another job. -/
theorem ne_of_owner (hrow : p.jobs.find? jobId = some row)
    (howner : row.ownerId = some tenant.user.id) (hjob : job ∈ p.jobs.rows)
    (hother : job.ownerId ≠ some tenant.user.id) : job.id ≠ jobId := by
  rintro rfl
  have hfind : p.jobs.find? job.id = some job := p.jobs.find?_key hjob
  rw [hfind] at hrow
  cases hrow
  exact hother howner

/-- Storing another row with another trigger keeps a job. -/
theorem kept_storeJob {scheduler : Registry} (hjob : job ∈ p.jobs.rows) (hne : job.id ≠ row.id)
    (hscheduler : scheduler (jobIdStr job.id) = p.scheduler (jobIdStr job.id)) :
    Kept p (p.storeJob row scheduler) job :=
  ⟨(p.jobs.mem_rows_save row job).mpr (Or.inr ⟨hjob, hne⟩), hscheduler⟩

/-- The tenant's requests to the job endpoints keep the jobs of others. -/
theorem kept_handleJobs {r : JobRequest} {commits : Bool}
    (hown : OwnRequest c p tenant.user (.job r commits)) (hjob : job ∈ p.jobs.rows)
    (hother : job.ownerId ≠ some tenant.user.id) :
    Kept p (handleJobs aps p tenant.user r commits).1 job := by
  have hsame : Kept p p job := ⟨hjob, rfl⟩
  cases r with
  | create data =>
    change Kept p (createBackupJob aps p tenant.user data commits).1 job
    unfold createBackupJob
    cases hnew : newJob p tenant.user data with
    | error e => exact hsame
    | ok row =>
      cases commits with
      | false => exact hsame
      | true =>
        have hne : job.id ≠ row.id := by
          rw [newJob_id hnew]
          exact Nat.ne_of_lt (p.fresh job hjob)
        exact kept_storeJob hjob hne (by rw [addJobFromModel_apply, if_neg hne])
  | update jobId data =>
    change Kept p (updateBackupJob aps p tenant.user jobId data commits).1 job
    unfold updateBackupJob
    cases hupd : updatedJob p tenant.user jobId data with
    | error e => exact hsame
    | ok row =>
      cases commits with
      | false => exact hsame
      | true =>
        obtain ⟨old, hold, hmay, -⟩ := updatedJob_spec hupd
        have hne : job.id ≠ row.id := by
          rw [(updatedJob_id hupd).1]
          exact ne_of_owner hold (tenant.owner_of_mayChange hmay) hjob hother
        exact kept_storeJob hjob hne (by rw [updateJobFromModel_apply, if_neg hne])
  | toggle jobId =>
    change Kept p (toggleBackupJob aps p tenant.user jobId commits).1 job
    unfold toggleBackupJob
    cases htog : toggledJob p tenant.user jobId with
    | error e => exact hsame
    | ok row =>
      cases commits with
      | false => exact hsame
      | true =>
        obtain ⟨old, hold, rfl⟩ := toggledJob_ok htog
        have howner := hown (toggledJob_permitted htog) old hold
        have hne := ne_of_owner hold howner hjob hother
        have hid : old.id = jobId := p.jobs.key_of_find? hold
        refine kept_storeJob hjob (hid ▸ hne) ?_
        split
        · rw [addJobFromModel_apply, if_neg (hid ▸ hne)]
        · rw [removeJob_apply, if_neg hne]
  | delete jobId =>
    change Kept p (deleteBackupJob p tenant.user jobId commits).1 job
    unfold deleteBackupJob
    cases hdel : deletedJob p tenant.user jobId with
    | error e => exact hsame
    | ok row =>
      have howner := tenant.owner_of_mayChange (deletedJob_mayChange hdel)
      have hne := ne_of_owner (deletedJob_ok hdel) howner hjob hother
      have hscheduler : p.scheduler.removeJob jobId (jobIdStr job.id) =
          p.scheduler (jobIdStr job.id) := by rw [removeJob_apply, if_neg hne]
      cases commits with
      | false => exact ⟨hjob, hscheduler⟩
      | true => exact ⟨(p.jobs.mem_rows_erase jobId job).mpr ⟨hjob, hne⟩, hscheduler⟩

/-- A run of an own job keeps the jobs of others. -/
theorem kept_running (env : Environment BackupRouter.interface)
    (howner : ∀ row, p.jobs.find? jobId = some row → row.ownerId = some tenant.user.id)
    (hjob : job ∈ p.jobs.rows) (hother : job.ownerId ≠ some tenant.user.id) :
    Kept p (running env p jobId).panel job := by
  unfold running
  split
  · rename_i calls row hrun
    obtain ⟨old, hold, hsame⟩ := running_row env hrun
    have hid : old.id = jobId := p.jobs.key_of_find? hold
    have hne : job.id ≠ row.id := by
      rw [hsame.id, hid]
      exact ne_of_owner hold (howner old hold) hjob hother
    exact kept_storeJob hjob hne rfl
  · exact ⟨hjob, rfl⟩

/-- What was run is the named job. -/
theorem ran_running {env : Environment BackupRouter.interface} {ran : Nat}
    (h : (running env p jobId).ran = some ran) : ran = jobId := by
  unfold running at h
  split at h
  · exact (Option.some.inj h).symm
  · cases h

/-- The tenant's requests that name nothing of others leave the jobs of others alone. -/
theorem kept_respond {r : BackupRequest} (hown : OwnRequest c p tenant.user r)
    (hjob : job ∈ p.jobs.rows) (hother : job.ownerId ≠ some tenant.user.id) :
    Kept p (respond aps c.answers p tenant.user r).panel job := by
  cases r with
  | job r commits => exact kept_handleJobs hown hjob hother
  | runNow jobId =>
    change Kept p (runBackupJobNow c.answers p tenant.user jobId).panel job
    unfold runBackupJobNow
    split
    · rename_i hruns
      exact kept_running _ (hown (Bool.and_eq_true_iff.mp hruns).1) hjob hother
    · exact ⟨hjob, rfl⟩
  | _ => exact ⟨hjob, rfl⟩

theorem owner_of_ran {r : BackupRequest} (hown : OwnRequest c p tenant.user r)
    (hjob : job ∈ p.jobs.rows)
    (hran : (respond aps c.answers p tenant.user r).ran = some job.id) :
    job.ownerId = some tenant.user.id := by
  cases r with
  | runNow jobId =>
    change (runBackupJobNow c.answers p tenant.user jobId).ran = some job.id at hran
    unfold runBackupJobNow at hran
    split at hran
    · rename_i hruns
      have hid := ran_running hran
      subst hid
      exact hown (Bool.and_eq_true_iff.mp hruns).1 job (p.jobs.find?_key hjob)
    · cases hran
  | _ => cases hran

end Others

/-! ### Runs of the panel -/

/-- The panel after an event. -/
def panelStep (aps : CronTrigger) (p : Panel) (e : PanelEvent × Cluster) : Panel :=
  (outcome aps e.2.answers p e.1).panel

/-- Where the jobs of the tenant name own guests, an event that names nothing of others respects
the other tenants. -/
theorem Meets.respects (aps : CronTrigger) {tenant : Tenant} {p : Panel} {e : PanelEvent × Cluster}
    (h : JobsOwn tenant p) (he : Meets tenant p e) : Respects aps tenant p e := by
  obtain ⟨event, c⟩ := e
  refine ⟨ownCalls_outcome h he, ?_, ?_⟩
  · rintro r rfl job hjob hother
    exact kept_respond (he.1 rfl) hjob hother
  · rintro r rfl job hjob hran
    exact owner_of_ran (he.1 rfl) hjob hran

/-- In every run in which nothing of others is named for a tenant, every event respects them. -/
theorem tenants_respected (aps : CronTrigger) (tenant : Tenant) (db : Db)
    (events : List (PanelEvent × Cluster))
    (h : Guarded (panelStep aps) (Meets tenant) (Panel.initial db) events) :
    Guarded (panelStep aps) (Respects aps tenant) (Panel.initial db) events := by
  have hinitial : JobsOwn tenant (Panel.initial db) := fun job hjob => by cases hjob
  exact guarded_of_invariant (P := JobsOwn tenant) (fun p e hp he => hp.outcome he)
    (fun p e hp he => Meets.respects aps hp he) hinitial h

/-! ### A tenant beside an administrator -/

/-- A user whose role grants the backup permissions and nothing else. -/
def backupTenant : Tenant where
  user := ⟨2, "tenant", false, some ⟨"user", ⟨[("backup:manage", true), ("backup:create", true)],
    by decide⟩⟩, []⟩
  restricted := by decide +kernel

/-- Guest 100 of the tenant. -/
def tenantGuest : VMInstance where
  serverId := 1
  vmid := 100
  node := "pve"
  vmType := .qemu
  name := "web"
  ownerId := some 2
  status := "running"
  isTemplate := false
  cores := none
  memory := none
  diskSize := none
  osType := none
  ipAddress := none
  ipPrefix := none
  gateway := none
  nameserver := none
  cloudInitUser := none
  cloudInitPassword := none
  sshKeys := none
  templateId := none
  templateName := none
  description := none
  deletedAt := none
  lastSyncAt := none

def tenantDb : Db := { backupDb with vms := ⟨[tenantGuest], by decide⟩ }

/-- Guest 100 on its node, and a Proxmox that starts every task. -/
def willing : Cluster where
  answers
    | _, .isConnected _ => true
    | _, .request _ (.vzdump _) => .ok (some "UPID")
    | _, .request _ (.restore _) => .ok (some "UPID")
    | _, .request _ (.deleteContent ..) => .ok ()
    | _, .request _ (.nextId _) => none
    | _, .effect e => nomatch e
  nodeOf _ v := if v = 100 then some "pve" else none
  backupOf _ _ := none

/-- A nightly job of the tenant for its own guest. -/
def ownNightly : Json :=
  .dict [("server_id", .number 1), ("node", .text "pve"), ("vmids", .list [.number 100]),
    ("storage", .text "local"), ("cron_expression", .text "0 2 * * *")]

/-- The tenant creates a job for its own guest and runs it. -/
theorem tenants_respected_ownNightly :
    Guarded (panelStep documentedTrigger) (Respects documentedTrigger backupTenant)
      (Panel.initial tenantDb)
      [(.request backupTenant.user (.job (.create ownNightly) true), willing),
        (.request backupTenant.user (.runNow 1), willing)] := by
  refine tenants_respected documentedTrigger backupTenant tenantDb _
    ⟨⟨fun _ => trivial, ?_⟩, ⟨fun _ => ?_, trivial⟩, trivial⟩
  · intro _ fields serverId hdata hserver targets htargets target htarget
    cases hdata
    obtain rfl : serverId = 1 := (Int.ofNat.inj (Option.some.inj hserver)).symm
    cases htargets
    rw [List.mem_singleton.mp htarget]
    exact ⟨100, rfl, tenantGuest, rfl, rfl⟩
  · intro _ job hjob
    have hmem := KeyedTable.mem_of_find? _ hjob
    rcases mem_rows_jobStep (e := .request backupTenant.user (.create ownNightly) true) hmem with
      hold | hstored
    · cases hold
    · change (newJob (Panel.initial tenantDb) backupTenant.user ownNightly).toOption =
        some job at hstored
      cases hnew : newJob (Panel.initial tenantDb) backupTenant.user ownNightly with
      | error e =>
        rw [hnew] at hstored
        cases hstored
      | ok row =>
        rw [hnew] at hstored
        cases hstored
        exact (newJob_spec hnew).1

/-- The tenant switches off the nightly job of the administrator. -/
theorem toggle_reaches_others :
    ¬Guarded (panelStep documentedTrigger) (Respects documentedTrigger backupTenant)
      (Panel.initial tenantDb)
      [(.request operator (.job (.create (nightly "0 2 * * *")) true), willing),
        (.request backupTenant.user (.job (.toggle 1) true), willing)] := by
  rintro ⟨-, h, -⟩
  let p := panelStep documentedTrigger (Panel.initial tenantDb)
    (.request operator (.job (.create (nightly "0 2 * * *")) true), willing)
  obtain ⟨job, hjob, howner⟩ : ∃ job, p.jobs.find? 1 = some job ∧ job.ownerId = some 1 :=
    ⟨_, rfl, rfl⟩
  have hpermission : hasPermission backupTenant.user "backup:manage" = true := by decide +kernel
  have htoggled : toggledJob p backupTenant.user 1 = .ok { job with enabled := !job.enabled } := by
    unfold toggledJob permitted findJob
    rw [if_pos hpermission, hjob]
    rfl
  have hother : job.ownerId ≠ some backupTenant.user.id := by
    rw [howner]
    decide
  have hkept := (h.jobs _ rfl job (p.jobs.mem_of_find? hjob) hother).1
  change job ∈ (toggleBackupJob documentedTrigger p backupTenant.user 1 true).1.jobs.rows at hkept
  unfold toggleBackupJob at hkept
  rw [htoggled] at hkept
  rcases (p.jobs.mem_rows_save _ job).mp hkept with heq | ⟨-, hne⟩
  · have henabled : job.enabled = !job.enabled := congrArg BackupJob.enabled heq
    cases hb : job.enabled with
    | true =>
      rw [hb] at henabled
      cases henabled
    | false =>
      rw [hb] at henabled
      cases henabled
  · exact hne rfl

end PveManager.Backups
