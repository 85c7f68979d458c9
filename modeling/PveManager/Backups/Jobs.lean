import PveManager.Api.Access
import PveManager.Api.Visibility
import PveManager.Core.Cron
import PveManager.Core.Run

/-!
# Backup jobs

The table of scheduled jobs, the scheduler that holds a trigger for every enabled
job, and the endpoints that create, update, toggle and delete jobs. The trigger
type of the scheduler library is a parameter with the behaviour its documentation
gives to fields both dialects read.
-/

namespace PveManager.Backups

open PveManager.Core PveManager.Rbac PveManager.Api PveManager.Cron

/-- A row of `backup_jobs`. -/
structure BackupJob where
  id : Nat
  serverId : ServerId
  node : String
  vmids : Json
  storage : String
  mode : String
  compress : String
  notes : Option String
  keepLast : Int
  keepDaily : Int
  keepWeekly : Int
  keepMonthly : Int
  cronExpression : String
  enabled : Bool
  ownerId : Option UserId
  lastStatus : Option String
  lastError : Option String
  lastUpid : Option String

/-! ### The scheduler -/

/-- When a trigger fires. -/
abbrev Trigger := Moment → Bool

/-- `CronTrigger`: its constructor, which may raise, and what is documented of it. -/
structure CronTrigger where
  construct : Expression → Option Trigger
  /-- Fields are combined by conjunction, and numeric days count from Monday. -/
  conjunction : ∀ e, fromMonday.reads e → fromMonday.stepsFit e →
    ∃ trigger, construct e = some trigger ∧
      ∀ t, trigger t = true ↔ ∀ f, fromMonday.selects f (e f) t = true

/-- The jobs of the scheduler by their identifiers. -/
abbrev Registry := String → Option Trigger

/-- `_job_id`. -/
def jobIdStr (jobId : Nat) : String := s!"backup_job_{jobId}"

theorem jobIdStr_inj {a b : Nat} : jobIdStr a = jobIdStr b ↔ a = b := by
  refine ⟨fun h => ?_, congrArg jobIdStr⟩
  have hdigits : Nat.toDigits 10 a = Nat.toDigits 10 b := by
    have htext := congrArg String.toList h
    rw [jobIdStr, jobIdStr, String.toList_append, String.toList_append,
      List.append_cancel_left_eq] at htext
    exact Nat.toList_repr.symm.trans (htext.trans Nat.toList_repr)
  calc
    a = Nat.ofDigitChars 10 (Nat.toDigits 10 a) 0 :=
      (Nat.ofDigitChars_toDigits (by decide) (by decide)).symm
    _ = Nat.ofDigitChars 10 (Nat.toDigits 10 b) 0 := by rw [hdigits]
    _ = b := Nat.ofDigitChars_toDigits (by decide) (by decide)

/-- `text.strip().split()`. -/
def splitWords (text : String) : List (List Char) :=
  (text.toList.splitOnP isSpace).filter fun word => !word.isEmpty

/-- The five fields, when there are five. -/
def fiveFields (text : String) : Option Expression :=
  match splitWords text with
  | [minute, hour, day, month, weekday] => some fun
    | .minute => minute
    | .hour => hour
    | .day => day
    | .month => month
    | .weekday => weekday
  | _ => none

namespace Registry

variable (aps : CronTrigger) (s : Registry)

/-- `add_job_from_model`; where it raises, the callers go on with the registry as it is. -/
def addJobFromModel (job : BackupJob) : Registry :=
  if !job.enabled then s
  else
    match (fiveFields job.cronExpression).bind aps.construct with
    | some trigger => Function.update s (jobIdStr job.id) (some trigger)
    | none => s

/-- `remove_job`. -/
def removeJob (jobId : Nat) : Registry := Function.update s (jobIdStr jobId) none

/-- `update_job_from_model`. -/
def updateJobFromModel (job : BackupJob) : Registry :=
  if job.enabled then (s.removeJob job.id).addJobFromModel aps job else s.removeJob job.id

/-- `load_all_from_db` in a new process. -/
def loadAllFromDb (jobs : List BackupJob) : Registry :=
  (jobs.filter BackupJob.enabled).foldl (fun s job => addJobFromModel aps s job) fun _ => none

end Registry

/-! ### Columns -/

/-- What a text column stores; `none` where the database refuses the value. -/
def textColumn : Json → Option String
  | .text s => some s
  | .number n => some (toString n)
  | .bool b => some (toString b)
  | .null | .list _ | .dict _ => none

/-- A text column that may be null. -/
def nullableTextColumn : Json → Option (Option String)
  | .null => some none
  | value => (textColumn value).map some

def integerColumn : Json → Option Int
  | .number n => some n
  | .text s => parseInt s
  | .null | .bool _ | .list _ | .dict _ => none

def booleanColumn : Json → Option Bool
  | .bool b => some b
  | .number n => if n = 0 then some false else if n = 1 then some true else none
  | .null | .text _ | .list _ | .dict _ => none

/-- `int(value)`. -/
def pythonInt : Json → Option Int
  | .number n => some n
  | .text s => parseInt s
  | .bool b => some (if b then 1 else 0)
  | .null | .list _ | .dict _ => none

/-- `data.get(key, default)` on a dictionary. -/
def getOr (fields : List (String × Json)) (key : String) (default : Json) : Json :=
  (fields.lookup key).getD default

/-! ### The endpoints -/

/-- The tables and the running scheduler. -/
structure Panel where
  db : Db
  jobs : KeyedTable BackupJob.id
  nextJobId : Nat
  fresh : ∀ job ∈ jobs.rows, job.id < nextJobId
  scheduler : Registry

/-- A successful response. -/
inductive JobReply
  | job (row : BackupJob)
  | enabled (b : Bool)
  | done

/-- The caller is an administrator by flag or by role. -/
def isAdminOrRole (user : User) : Bool :=
  user.isAdmin || user.role.any fun role => decide (role.name = "admin")

/-- The caller may change the job. -/
def mayChange (user : User) (job : BackupJob) : Bool :=
  isAdminOrRole user || decide (job.ownerId = some user.id)

section Requests

variable (p : Panel) (user : User)

/-- `PermissionChecker`. -/
def permitted (permission : String) : Except Exc Unit :=
  if hasPermission user permission then .ok ()
  else .error (.http 403 s!"Permission denied: {permission}")

/-- The job of a request, or 404. -/
def findJob (jobId : Nat) : Except Exc BackupJob :=
  match p.jobs.find? jobId with
  | some job => .ok job
  | none => .error (.http 404 "Job not found")

/-- A value that Python or the database refuses. -/
def accepted {α : Type} (value : Option α) : Except Exc α :=
  match value with
  | some a => .ok a
  | none => .error (.other "invalid value")

def requiredFields : List String := ["server_id", "node", "vmids", "storage", "cron_expression"]

/-- The row that `create_backup_job` inserts. -/
def newJob (data : Json) : Except Exc BackupJob := do
  permitted user "backup:manage"
  let .dict fields := data | .error (.other "AttributeError")
  let missing := requiredFields.filter fun f => !(getOr fields f .null).truthy
  if missing ≠ [] then
    .error (.http 400 ("Missing fields: " ++ ", ".intercalate missing))
  else
    let serverId ← accepted (integerColumn (getOr fields "server_id" .null))
    let some server := p.db.servers.find? serverId.toNat | .error (.http 404 "Server not found")
    if serverId < 0 then .error (.http 404 "Server not found")
    else
      let keepLast ← accepted (pythonInt (getOr fields "keep_last" (.number 3)))
      let keepDaily ← accepted (pythonInt (getOr fields "keep_daily" (.number 7)))
      let keepWeekly ← accepted (pythonInt (getOr fields "keep_weekly" (.number 4)))
      let keepMonthly ← accepted (pythonInt (getOr fields "keep_monthly" (.number 6)))
      let node ← accepted (textColumn (getOr fields "node" .null))
      let storage ← accepted (textColumn (getOr fields "storage" .null))
      let mode ← accepted (textColumn (getOr fields "mode" (.text "snapshot")))
      let compress ← accepted (textColumn (getOr fields "compress" (.text "zstd")))
      let notes ← accepted (nullableTextColumn (getOr fields "notes" .null))
      let cronExpression ← accepted (textColumn (getOr fields "cron_expression" .null))
      .ok { id := p.nextJobId, serverId := server.id, node, vmids := getOr fields "vmids" .null,
            storage, mode, compress, notes, keepLast, keepDaily, keepWeekly, keepMonthly,
            cronExpression, enabled := (getOr fields "enabled" (.bool true)).truthy,
            ownerId := some user.id, lastStatus := none, lastError := none, lastUpid := none }

/-- `setattr` for a field of the request, with what the database makes of it. -/
def replaced {α : Type} (fields : List (String × Json)) (key : String) (column : Json → Option α)
    (old : α) : Except Exc α :=
  match fields.lookup key with
  | some value => accepted (column value)
  | none => .ok old

def updatable : List String :=
  ["node", "vmids", "storage", "mode", "compress", "notes", "keep_last", "keep_daily",
    "keep_weekly", "keep_monthly", "cron_expression", "enabled"]

/-- The columns set from a dictionary. -/
def setFields (job : BackupJob) (fields : List (String × Json)) : Except Exc BackupJob := do
  let node ← replaced fields "node" textColumn job.node
  let vmids ← replaced fields "vmids" some job.vmids
  let storage ← replaced fields "storage" textColumn job.storage
  let mode ← replaced fields "mode" textColumn job.mode
  let compress ← replaced fields "compress" textColumn job.compress
  let notes ← replaced fields "notes" nullableTextColumn job.notes
  let keepLast ← replaced fields "keep_last" integerColumn job.keepLast
  let keepDaily ← replaced fields "keep_daily" integerColumn job.keepDaily
  let keepWeekly ← replaced fields "keep_weekly" integerColumn job.keepWeekly
  let keepMonthly ← replaced fields "keep_monthly" integerColumn job.keepMonthly
  let cronExpression ← replaced fields "cron_expression" textColumn job.cronExpression
  let enabled ← replaced fields "enabled" booleanColumn job.enabled
  .ok { job with
    node, vmids, storage, mode, compress, notes, keepLast, keepDaily, keepWeekly, keepMonthly,
    cronExpression, enabled }

/-- The row that `update_backup_job` stores. -/
def updatedJob (jobId : Nat) (data : Json) : Except Exc BackupJob := do
  permitted user "backup:manage"
  let job ← findJob p jobId
  if !mayChange user job then .error (.http 403 "Access denied")
  else
    match data with
    | .dict fields => setFields job fields
    | .list items =>
      if items.any fun | .text s => decide (s ∈ updatable) | _ => false then
        .error (.other "TypeError")
      else .ok job
    | .text s =>
      if updatable.any fun f => decide (f.toList <:+: s.toList) then .error (.other "TypeError")
      else .ok job
    | .null | .bool _ | .number _ => .error (.other "TypeError")

/-- The row that `toggle_backup_job` stores; nobody is asked whose job it is. -/
def toggledJob (jobId : Nat) : Except Exc BackupJob := do
  permitted user "backup:manage"
  let job ← findJob p jobId
  .ok { job with enabled := !job.enabled }

/-- The row that `delete_backup_job` deletes. -/
def deletedJob (jobId : Nat) : Except Exc BackupJob := do
  permitted user "backup:manage"
  let job ← findJob p jobId
  if !mayChange user job then .error (.http 403 "Access denied") else .ok job

end Requests

namespace Panel

variable (p : Panel)

/-- Insert or replace a row. -/
def storeJob (job : BackupJob) (scheduler : Registry) : Panel where
  db := p.db
  jobs := p.jobs.save job
  nextJobId := max p.nextJobId (job.id + 1)
  fresh := by
    intro row hrow
    rcases (p.jobs.mem_rows_save job row).mp hrow with rfl | ⟨hrow, -⟩
    · omega
    · have h := p.fresh row hrow
      omega
  scheduler := scheduler

def eraseJob (jobId : Nat) : Panel where
  db := p.db
  jobs := p.jobs.erase jobId
  nextJobId := p.nextJobId
  fresh := fun row hrow => p.fresh row ((p.jobs.mem_rows_erase jobId row).mp hrow).1
  scheduler := p.scheduler

end Panel

/-- A commit that fails, after which the session is rolled back. -/
def commitFailed : Exc := .other "commit failed"

section Endpoints

variable (aps : CronTrigger) (p : Panel) (user : User)

def createBackupJob (data : Json) (commits : Bool) : Panel × Except Exc JobReply :=
  match newJob p user data with
  | .error e => (p, .error e)
  | .ok job =>
    if commits then (p.storeJob job (p.scheduler.addJobFromModel aps job), .ok (.job job))
    else (p, .error commitFailed)

def updateBackupJob (jobId : Nat) (data : Json) (commits : Bool) : Panel × Except Exc JobReply :=
  match updatedJob p user jobId data with
  | .error e => (p, .error e)
  | .ok job =>
    if commits then (p.storeJob job (p.scheduler.updateJobFromModel aps job), .ok (.job job))
    else (p, .error commitFailed)

def toggleBackupJob (jobId : Nat) (commits : Bool) : Panel × Except Exc JobReply :=
  match toggledJob p user jobId with
  | .error e => (p, .error e)
  | .ok job =>
    if commits then
      (p.storeJob job (if job.enabled then p.scheduler.addJobFromModel aps job
        else p.scheduler.removeJob jobId), .ok (.enabled job.enabled))
    else (p, .error commitFailed)

/-- The scheduler forgets the job before the deletion is committed. -/
def deleteBackupJob (jobId : Nat) (commits : Bool) : Panel × Except Exc JobReply :=
  match deletedJob p user jobId with
  | .error e => (p, .error e)
  | .ok _ =>
    let p := { p with scheduler := p.scheduler.removeJob jobId }
    if commits then (p.eraseJob jobId, .ok .done) else (p, .error commitFailed)

end Endpoints

/-- A request to the job endpoints. -/
inductive JobRequest
  | create (data : Json)
  | update (jobId : Nat) (data : Json)
  | toggle (jobId : Nat)
  | delete (jobId : Nat)

/-- What happens to the jobs. -/
inductive JobEvent
  | request (user : User) (r : JobRequest) (commits : Bool)
  /-- A new process: `start_backup_scheduler`. -/
  | restart

def handleJobs (aps : CronTrigger) (p : Panel) (user : User) (r : JobRequest) (commits : Bool) :
    Panel × Except Exc JobReply :=
  match r with
  | .create data => createBackupJob aps p user data commits
  | .update jobId data => updateBackupJob aps p user jobId data commits
  | .toggle jobId => toggleBackupJob aps p user jobId commits
  | .delete jobId => deleteBackupJob p user jobId commits

def jobStep (aps : CronTrigger) (p : Panel) : JobEvent → Panel
  | .request user r commits => (handleJobs aps p user r commits).1
  | .restart => { p with scheduler := Registry.loadAllFromDb aps p.jobs.rows }

end PveManager.Backups
