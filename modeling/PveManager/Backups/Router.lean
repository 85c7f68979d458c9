import PveManager.Backups.Jobs

/-!
# The backup router

The endpoints that start and delete backups and restores, one by one and in bulk, and the run of
a job, with the requests that they send to Proxmox. The client's methods do not raise: they answer
with a result or with the text of an error, also where there is no connection.
-/

namespace PveManager.Backups

open PveManager.Core PveManager.Rbac PveManager.Api

/-! ### Requests to Proxmox -/

/-- The guests that a backup is asked for. -/
inductive DumpTarget
  | all
  | vmid (n : Int)
  deriving DecidableEq

/-- The parameters of `vzdump`. -/
structure DumpParams where
  node : Json
  target : DumpTarget
  storage : Json
  mode : Json
  compress : Json
  remove : Bool
  keepLast : Option Int
  notes : Option Json

/-- The parameters of a restore; `unique` is for virtual machines only. -/
structure RestoreParams where
  node : Json
  vmType : VmType
  vmid : Int
  archive : Json
  storage : Option Json
  start : Bool
  unique : Option Bool
  force : Bool

/-- A request to Proxmox. -/
inductive BackupOp
  | vzdump (params : DumpParams)
  | restore (params : RestoreParams)
  | deleteContent (node storage volid : Json)
  | nextId (candidate : Option Int)

/-- Its answer: the UPID of a task, or `none` where the next free number is refused. -/
abbrev BackupOp.Answer : BackupOp → Type
  | .vzdump _ | .restore _ => Except String (Option String)
  | .deleteContent .. => Except String Unit
  | .nextId _ => Option Int

abbrev BackupRouter : Router where
  Op := BackupOp
  OpAnswer := BackupOp.Answer
  Effect := Empty
  EffectAnswer := nofun

abbrev BackupHandler (α : Type) := Handler BackupRouter α

/-- The outcome of one item of a bulk restore. -/
structure ItemResult where
  vmid : Json
  archive : Json
  targetVmid : Option Int
  outcome : Except String (Option String)

/-- A successful response. -/
inductive BackupReply
  | done
  | started (upid : Option String)
  | bulk (results : List ItemResult)

/-! ### The client -/

/-- `keep_last and int(keep_last) > 0`, where `int` may raise. -/
def keepLastParam (keepLast : Json) : Option (Option Int) :=
  if keepLast.truthy then (pythonInt keepLast).map fun n => if 0 < n then some n else none
  else some none

/-- Proxmox takes no number for all guests; a zero counts as all of them. -/
def DumpTarget.param : DumpTarget → DumpTarget
  | .vmid 0 => .all
  | target => target

/-- An optional parameter that is left out when it is empty. -/
def nonEmpty (value : Json) : Option Json := if value.truthy then some value else none

/-- `client.create_backup`. -/
def clientCreateBackup (server : ProxmoxServer) (node : Json) (vmid : DumpTarget)
    (storage mode compress : Json) (remove : Bool) (keepLast notes : Json) :
    BackupHandler (Except String (Option String)) :=
  match keepLastParam keepLast with
  | none => pure (.error "invalid literal for int()")
  | some keep =>
    request (R := BackupRouter) server (.vzdump
      { node := node
        target := vmid.param
        storage := storage
        mode := mode
        compress := compress
        remove := remove
        keepLast := keep
        notes := nonEmpty notes })

/-- `client.restore_vm` and `client.restore_lxc`. -/
def clientRestore (server : ProxmoxServer) (vmType : VmType) (node : Json) (vmid : Int)
    (archive : Json) (storage : Option Json) (newVmid : Option Int) (start unique force : Bool) :
    BackupHandler (Except String (Option String)) :=
  request (R := BackupRouter) server (.restore
    { node := node
      vmType := vmType
      vmid := (newVmid.filter fun n => decide (n ≠ 0)).getD vmid
      archive := archive
      storage := storage
      start := start
      unique := if vmType = .qemu then some unique else none
      force := force })

/-! ### Bodies -/

/-- The fields of a JSON object. -/
def bodyFields (body : Option Json) : BackupHandler (List (String × Json)) :=
  match body with
  | some (.dict fields) => pure fields
  | some _ => throw (.other "AttributeError")
  | none => throw (.other "Expecting value")

/-- `data.get(key)`. -/
def get (fields : List (String × Json)) (key : String) : Json := getOr fields key .null

/-- `all([...])`, or 400. -/
def requireAll (fields : List (String × Json)) (keys : List String) (separator : String) :
    BackupHandler Unit :=
  Proc.ensure (keys.all fun key => (get fields key).truthy)
    (.http 400 (separator.intercalate keys ++ " are required"))

/-- The server that a body names, or 404. -/
def namedServer (db : Db) (serverId : Json) : BackupHandler ProxmoxServer :=
  match integerColumn serverId with
  | none => throw (.other "invalid value")
  | some n =>
    if n < 0 then throw (.http 404 "Server not found")
    else resolveServer db n.toNat "Server not found"

/-- `int(value)`. -/
def intOrRaise (value : Json) : BackupHandler Int :=
  match pythonInt value with
  | some n => pure n
  | none => throw (.other "ValueError")

/-- The result of a client's method, or 400. -/
def orFailed {α : Type} (result : Except String α) : BackupHandler α :=
  match result with
  | .ok a => pure a
  | .error e => throw (.http 400 e)

/-- `vm_type == "lxc"`. -/
def guestType (fields : List (String × Json)) : VmType :=
  match getOr fields "vm_type" (.text "qemu") with
  | .text "lxc" => .lxc
  | _ => .qemu

section Endpoints

variable (db : Db) (user : User)

/-- `delete_backup`. -/
def deleteBackup (serverId : ServerId) (body : Option Json) : BackupHandler BackupReply := do
  permissionChecker user "backup:delete"
  let server ← resolveServer db serverId "Server not found"
  let fields ← bodyFields body
  requireAll fields ["node", "storage", "volid"] ", "
  orServerErrorKeepHttp do
    getProxmoxClient server
    let result ← request (R := BackupRouter) server
      (.deleteContent (get fields "node") (get fields "storage") (get fields "volid"))
    orFailed result
    pure .done

/-- `create_backup`. -/
def createBackup (body : Option Json) : BackupHandler BackupReply := do
  permissionChecker user "backup:create"
  let fields ← bodyFields body
  requireAll fields ["server_id", "node", "vmid", "storage"] ", "
  let server ← namedServer db (get fields "server_id")
  let remove ← intOrRaise (getOr fields "remove" (.number 1))
  orServerErrorKeepHttp do
    getProxmoxClient server
    let vmid ← intOrRaise (get fields "vmid")
    let result ← clientCreateBackup server (get fields "node") (.vmid vmid) (get fields "storage")
      (getOr fields "mode" (.text "snapshot")) (getOr fields "compress" (.text "zstd"))
      (decide (remove ≠ 0)) (get fields "keep_last") (get fields "notes")
    let upid ← orFailed result
    pure (.started upid)

/-- `int(new_vmid) if new_vmid else None`. -/
def optionalInt (value : Json) : BackupHandler (Option Int) :=
  if value.truthy then do
    let n ← intOrRaise value
    pure (some n)
  else pure none

/-- `restore_backup`. -/
def restoreBackup (body : Option Json) : BackupHandler BackupReply := do
  permissionChecker user "backup:restore"
  let fields ← bodyFields body
  requireAll fields ["server_id", "node", "vmid", "archive"] ", "
  let server ← namedServer db (get fields "server_id")
  orServerErrorKeepHttp do
    getProxmoxClient server
    let vmid ← intOrRaise (get fields "vmid")
    let newVmid ← optionalInt (get fields "new_vmid")
    let result ← clientRestore server (guestType fields) (get fields "node") vmid
      (get fields "archive") (nonEmpty (get fields "storage")) newVmid
      (get fields "start").truthy (getOr fields "unique" (.bool true)).truthy false
    let upid ← orFailed result
    pure (.started upid)

/-! ### Bulk restores -/

/-- The mode of a bulk restore. -/
inductive BulkMode
  | inPlace
  | newVmid
  deriving DecidableEq

/-- What a bulk restore is about. -/
structure BulkSpec where
  server : ProxmoxServer
  mode : BulkMode
  storage : Option Json
  start : Bool

/-- The numbers handed out, where to look for the next one, and the results so far. -/
structure BulkState where
  allocated : List Int
  nextStart : Int
  results : List ItemResult

/-- `alloc_vmid`, for so many tries. -/
def allocVmid (server : ProxmoxServer) (allocated : List Int) :
    Nat → Int → BackupHandler (Option Int)
  | 0, _ => pure none
  | tries + 1, candidate =>
    if candidate ∈ allocated then allocVmid server allocated tries (candidate + 1)
    else do
      match ← request (R := BackupRouter) server (.nextId (some candidate)) with
      | none => allocVmid server allocated tries (candidate + 1)
      | some free => pure (some (if free ≠ 0 then free else candidate))

/-- The restore of an item, to a new number or in place. -/
def restoreTo (spec : BulkSpec) (fields : List (String × Json)) (newVmid : Option Int) :
    BackupHandler ItemResult :=
  match pythonInt (get fields "vmid") with
  | none => pure ⟨get fields "vmid", get fields "archive", none, .error "ValueError"⟩
  | some vmid => do
    let result ← clientRestore spec.server (guestType fields) (get fields "node") vmid
      (get fields "archive") spec.storage newVmid spec.start (decide (spec.mode = .newVmid))
      (decide (spec.mode = .inPlace))
    pure ⟨get fields "vmid", get fields "archive", some (newVmid.getD vmid), result⟩

/-- The number that an item is restored to; `none` inside for its own. -/
def chosenVmid (spec : BulkSpec) (st : BulkState) : BackupHandler (Option (Option Int)) :=
  match spec.mode with
  | .inPlace => pure (some none)
  | .newVmid => do
    match ← allocVmid spec.server st.allocated 10000 st.nextStart with
    | none => pure none
    | some n => pure (some (some n))

/-- One item. -/
def restoreItem (spec : BulkSpec) (st : BulkState) (item : Json) : BackupHandler BulkState :=
  match item with
  | .dict fields =>
    if !(["node", "vmid", "archive"].all fun key => (get fields key).truthy) then
      pure { st with
        results := st.results ++ [⟨get fields "vmid", get fields "archive", none,
          .error "node, vmid and archive are required"⟩] }
    else do
      match ← chosenVmid spec st with
      | none =>
        pure { st with
          results := st.results ++ [⟨get fields "vmid", get fields "archive", none,
            .error "No free VMID available"⟩] }
      | some newVmid =>
        let result ← restoreTo spec fields newVmid
        pure
          { allocated := newVmid.toList ++ st.allocated
            nextStart := newVmid.elim st.nextStart (· + 1)
            results := st.results ++ [result] }
  | _ => throw (.other "AttributeError")

/-- The items one after the other. -/
def restoreItems (spec : BulkSpec) : BulkState → List Json → BackupHandler BulkState
  | st, [] => pure st
  | st, item :: items => do
    let st ← restoreItem spec st item
    restoreItems spec st items

/-- The mode that a body names, or 400. -/
def bulkMode (fields : List (String × Json)) : BackupHandler BulkMode :=
  match getOr fields "mode" (.text "in_place") with
  | .text "in_place" => pure .inPlace
  | .text "new_vmid" => pure .newVmid
  | _ => throw (.http 400 "mode must be 'in_place' or 'new_vmid'")

/-- `await get_next_vmid() or 100`, for new numbers only. -/
def firstCandidate (server : ProxmoxServer) (mode : BulkMode) : BackupHandler Int :=
  match mode with
  | .inPlace => pure 0
  | .newVmid => do
    let n ← request (R := BackupRouter) server (.nextId none)
    pure ((n.filter fun n => decide (n ≠ 0)).getD 100)

/-- The items of a body; a text or an object has items that are no objects. -/
def bulkItems (value : Json) : BackupHandler (List Json) :=
  match value with
  | .list items => pure items
  | _ => throw (.other "AttributeError")

/-- `restore_backup_bulk`. -/
def restoreBackupBulk (body : Option Json) : BackupHandler BackupReply := do
  permissionChecker user "backup:restore"
  let fields ← bodyFields body
  requireAll fields ["server_id", "items"] " and "
  let mode ← bulkMode fields
  let server ← namedServer db (get fields "server_id")
  getProxmoxClient server
  let first ← firstCandidate server mode
  let items ← bulkItems (get fields "items")
  let st ← restoreItems ⟨server, mode, nonEmpty (get fields "storage"),
    (get fields "start").truthy⟩ ⟨[], first, []⟩ items
  pure (.bulk st.results)

end Endpoints

/-! ### The run of a job -/

/-- The guests of a job, where the run gets that far; a text is read digit by digit. -/
def jobTargets (vmids : Json) : Option (List DumpTarget) :=
  match vmids with
  | .text s =>
    if s = "all" then some [.all]
    else s.toList.mapM fun c => (parseInt (String.singleton c)).map .vmid
  | .list [.text "all"] => some [.all]
  | .list items => items.mapM fun item => (pythonInt item).map .vmid
  | .dict fields => fields.mapM fun field => (parseInt field.1).map .vmid
  | .null => some []
  | .bool b => if b then none else some []
  | .number n => if n = 0 then some [] else none

def DumpTarget.text : DumpTarget → String
  | .all => "all"
  | .vmid n => toString n

/-- The backups of the guests: the errors, and the last UPID. -/
def dumpAll (server : ProxmoxServer) (job : BackupJob) :
    List DumpTarget → List String → Option String → BackupHandler (List String × Option String)
  | [], errors, upid => pure (errors, upid)
  | target :: targets, errors, upid => do
    let notes : Json := job.notes.elim .null .text
    match ← clientCreateBackup server (.text job.node) target (.text job.storage) (.text job.mode)
        (.text job.compress) (decide (job.keepLast ≠ 0)) (.number job.keepLast) notes with
    | .ok upid => dumpAll server job targets errors upid
    | .error e => dumpAll server job targets (errors ++ [s!"VMID {target.text}: {e}"]) upid

/-- `_update_job_status`. -/
def BackupJob.withStatus (job : BackupJob) (status : String) (error upid : Option String) :
    BackupJob :=
  { job with
    lastStatus := some status
    lastError := error
    lastUpid := if truthy upid then upid else job.lastUpid }

/-- `run_backup_job`: the row afterwards. Where the list of guests cannot be read, the row stays
as running. -/
def runBackupJob (p : Panel) (jobId : Nat) : BackupHandler (Option BackupJob) :=
  match p.jobs.find? jobId with
  | none => pure none
  | some job =>
    match p.db.servers.find? job.serverId with
    | none => pure (some (job.withStatus "failed" (some "Server not found") none))
    | some server =>
      match jobTargets job.vmids with
      | none => pure (some (job.withStatus "running" none none))
      | some targets => do
        let (errors, upid) ← dumpAll server job targets [] none
        pure (some (if errors = [] then job.withStatus "success" none upid
          else job.withStatus "failed" (some ("; ".intercalate errors)) upid))

/-! ### The router -/

/-- A request to the router. -/
inductive BackupRequest
  | createBackup (body : Option Json)
  | restore (body : Option Json)
  | restoreBulk (body : Option Json)
  | deleteBackup (serverId : ServerId) (body : Option Json)
  | job (r : JobRequest) (commits : Bool)
  | runNow (jobId : Nat)

/-- What happens to the panel: a request, a trigger of the scheduler, a new process, or a change
of the other tables. -/
inductive PanelEvent
  | request (user : User) (r : BackupRequest)
  | fires (jobId : Nat) (t : Cron.Moment)
  | restart
  | database (db : Db)

/-- The panel afterwards, the requests to Proxmox, and the job that was run. -/
structure Outcome where
  panel : Panel
  calls : List (RouterCall BackupRouter)
  ran : Option Nat

section Outcomes

variable (aps : CronTrigger) (env : Environment BackupRouter.interface) (p : Panel)

/-- A request that changes no table here. -/
def answering (handler : BackupHandler BackupReply) : Outcome := ⟨p, (handler.run env []).1, none⟩

/-- A job that is run to its end. -/
def running (jobId : Nat) : Outcome :=
  match (runBackupJob p jobId).run env [] with
  | (calls, .ok (some job)) => ⟨p.storeJob job p.scheduler, calls, some jobId⟩
  | (calls, _) => ⟨p, calls, none⟩

/-- `run_backup_job_now`; nobody is asked whose job it is. -/
def runBackupJobNow (user : User) (jobId : Nat) : Outcome :=
  if hasPermission user "backup:create" && (p.jobs.find? jobId).isSome then running env p jobId
  else ⟨p, [], none⟩

/-- What a request leads to. -/
def respond (user : User) : BackupRequest → Outcome
  | .createBackup body => answering env p (createBackup p.db user body)
  | .restore body => answering env p (restoreBackup p.db user body)
  | .restoreBulk body => answering env p (restoreBackupBulk p.db user body)
  | .deleteBackup serverId body => answering env p (deleteBackup p.db user serverId body)
  | .job r commits => ⟨(handleJobs aps p user r commits).1, [], none⟩
  | .runNow jobId => runBackupJobNow env p user jobId

/-- What an event leads to. -/
def outcome : PanelEvent → Outcome
  | .request user r => respond aps env p user r
  | .fires jobId t =>
    if (p.scheduler (jobIdStr jobId)).any fun trigger => trigger t then running env p jobId
    else ⟨p, [], none⟩
  | .restart => ⟨jobStep aps p .restart, [], none⟩
  | .database db => ⟨{ p with db := db }, [], none⟩

end Outcomes

end PveManager.Backups
