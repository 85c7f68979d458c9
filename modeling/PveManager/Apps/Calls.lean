import PveManager.Apps.Workers

/-!
# The calls of the operations

Apart from an update, which takes a snapshot and prunes the ones before, and a
deletion, which releases the address and removes the row, the operations make
plain calls: they leave the snapshots alone, and what they write keeps the
recorded snapshot. The row answers the calls to the table, and a world all others.
-/

namespace PveManager.Apps

open PveManager.Core PveManager.Api

/-- Neither a snapshot is made or deleted nor an address released. -/
def Remote.plain : Remote → Bool
  | .createSnapshot _ _ _ | .deleteSnapshot _ _ _ | .releaseIp _ _ => false
  | _ => true

/-- The kind of job a request hands over. -/
def AppRequest.starts : AppRequest → Job → Prop
  | .retry, .install _ => True
  | .update _, .update _ => True
  | .rollback, .rollback => True
  | .delete, .delete _ _ _ => True
  | _, _ => False

/-- A kind of calls that has every plain one in it. -/
structure Plain (P : EngineCall → Prop) : Prop where
  load : P .load
  write : ∀ change : InstalledApp → InstalledApp,
    (∀ row, (change row).lastSnapshot = row.lastSnapshot) → P (.write change)
  catalogApp : ∀ appId, P (.catalogApp appId)
  goldenTemplate : ∀ serverId, P (.goldenTemplate serverId)
  remote : ∀ r : Remote, r.plain = true → P (.remote r)

section Remote

variable {P : EngineCall → Prop} (hr : ∀ r : Remote, r.plain = true → P (.remote r))

include hr

theorem only_remote {r : Remote} (hplain : r.plain = true) : (remote r).Only P :=
  Proc.only_ask (hr r hplain)

omit hr in
theorem only_orRaise {α : Type} (a : Except String α) : (orRaise a).Only P := by
  cases a with
  | ok a => exact Proc.only_pure a
  | error e => exact Proc.only_throw e

omit hr in
theorem only_swallow {p : Op Unit} (hp : p.Only P) : (swallow p).Only P :=
  Proc.only_tryCatch hp fun _ => Proc.only_pure ()

theorem only_waitQuietly (node : String) (upid : Option String) (timeout : Nat) :
    (waitQuietly node upid timeout).Only P := by
  unfold waitQuietly
  split
  · refine Proc.only_bind (only_remote hr rfl) fun a => ?_
    exact Proc.only_bind (only_orRaise a) fun _ => Proc.only_pure ()
  · exact Proc.only_pure ()

theorem only_startContainer (node : String) (vmid : Vmid) : (startContainer node vmid).Only P :=
  Proc.only_bind (only_remote hr rfl) only_orRaise

theorem only_sshConnected (text : String) : (sshConnected text).Only P := by
  refine Proc.only_bind (only_remote hr rfl) fun a => ?_
  exact Proc.only_bind (only_orRaise a) fun _ => Proc.only_ensure _ _

theorem only_alreadyExists (job : InstallJob) (node : String) (vmid : Vmid) :
    (alreadyExists job node vmid).Only P := by
  unfold alreadyExists
  split
  · refine Proc.only_tryCatch ?_ fun _ => Proc.only_pure _
    exact Proc.only_bind (only_remote hr rfl) only_orRaise
  · exact Proc.only_pure _

theorem only_createContainer (job : InstallJob) (node : String) (vmid : Vmid) :
    (createContainer job node vmid).Only P := by
  unfold createContainer
  refine Proc.only_bind (Proc.only_tryCatch ?_ fun _ => Proc.only_throw _) fun upid => ?_
  · exact Proc.only_bind (only_remote hr rfl) only_orRaise
  · split
    · exact Proc.only_throw _
    · refine Proc.only_bind (only_remote hr rfl) fun a => ?_
      exact Proc.only_bind (only_orRaise a) fun _ => Proc.only_ensure _ _

theorem only_prepareContainer (job : InstallJob) (node : String) (vmid : Vmid) :
    (prepareContainer job node vmid).Only P := by
  unfold prepareContainer
  refine Proc.only_bind (only_alreadyExists hr job node vmid) fun found => ?_
  split
  · exact Proc.only_pure _
  · exact only_createContainer hr job node vmid

theorem only_vmidOf (job : InstallJob) : (vmidOf job).Only P := by
  unfold vmidOf
  split
  · exact Proc.only_pure _
  · exact Proc.only_bind (only_remote hr rfl) only_orRaise

theorem only_pocInstall (job : InstallJob) : (pocInstall job).Only P := by
  unfold pocInstall
  refine Proc.only_bind (Proc.only_ensure _ _) fun _ => ?_
  refine Proc.only_bind (only_remote hr rfl) fun hasServer => ?_
  refine Proc.only_bind (Proc.only_ensure _ _) fun _ => ?_
  refine Proc.only_bind (only_remote hr rfl) fun connected => ?_
  refine Proc.only_bind (Proc.only_ensure _ _) fun _ => ?_
  refine Proc.only_bind (only_remote hr rfl) fun resolved => ?_
  refine Proc.only_bind (only_orRaise resolved) fun node => ?_
  refine Proc.only_bind (only_vmidOf hr job) fun vmid => ?_
  refine Proc.only_bind (only_prepareContainer hr job node vmid) fun _ => ?_
  refine Proc.only_bind (only_startContainer hr node vmid) fun _ => ?_
  refine Proc.only_bind (only_sshConnected hr _) fun _ => ?_
  refine Proc.only_bind (only_remote hr rfl) fun waited => ?_
  refine Proc.only_bind (only_orRaise waited) fun found => ?_
  split
  · exact Proc.only_throw _
  · refine Proc.only_bind (only_remote hr rfl) fun delivered => ?_
    refine Proc.only_bind (only_orRaise delivered) fun published => ?_
    refine Proc.only_bind (only_remote hr rfl) fun started => ?_
    refine Proc.only_bind (only_orRaise started) fun _ => ?_
    exact Proc.only_bind (only_remote hr rfl) fun running => Proc.only_pure _

theorem only_nodeOf (node : Option String) : (nodeOf node).Only P := by
  unfold nodeOf
  split
  · exact Proc.only_pure _
  · exact Proc.only_bind (only_remote hr rfl) only_orRaise

/-- The teardown stops the container, deletes it and waits. -/
theorem only_pocTeardown (serverId : ServerId) (vmid : Vmid) (node : Option String) :
    (pocTeardown serverId vmid node).Only P := by
  unfold pocTeardown
  refine Proc.only_bind (only_remote hr rfl) fun _ => ?_
  refine Proc.only_bind (Proc.only_ensure _ _) fun _ => ?_
  refine Proc.only_bind (only_nodeOf hr node) fun node => ?_
  refine Proc.only_bind (only_swallow ?_) fun _ => ?_
  · refine Proc.only_bind (only_remote hr rfl) fun a => ?_
    exact Proc.only_bind (only_orRaise a) fun upid => only_waitQuietly hr _ _ _
  refine Proc.only_bind (only_remote hr rfl) fun answer => ?_
  cases answer with
  | error e =>
    dsimp only
    split
    · exact Proc.only_pure _
    · exact Proc.only_throw _
  | ok upid =>
    dsimp only
    split
    · exact Proc.only_pure _
    · refine Proc.only_bind (only_remote hr rfl) fun a => ?_
      exact Proc.only_bind (only_orRaise a) fun _ => Proc.only_ensure _ _

theorem only_pocUpdate (job : UpdateJob) (vmid : Vmid) (env : Env) (port : Nat)
    (ip : Option String) (portExplicit : Bool) :
    (pocUpdate job vmid env port ip portExplicit).Only P := by
  unfold pocUpdate
  refine Proc.only_bind (only_sshConnected hr _) fun _ => ?_
  refine Proc.only_bind (only_remote hr rfl) fun delivered => ?_
  refine Proc.only_bind (only_orRaise delivered) fun published => ?_
  refine Proc.only_bind (only_remote hr rfl) fun started => ?_
  refine Proc.only_bind (only_orRaise started) fun _ => ?_
  exact Proc.only_bind (only_remote hr rfl) fun running => Proc.only_pure _

theorem only_checkHealth (ip : Option String) (port : Option Nat) :
    (checkHealth ip port).Only P := by
  unfold checkHealth
  split
  · exact only_remote hr rfl
  · exact Proc.only_pure _

/-- The pruning deletes other snapshots than the one it keeps. -/
theorem only_pruneSnapshots {node : String} {vmid : Vmid} {keep : String}
    (hdelete : ∀ name, name ≠ keep → P (.remote (.deleteSnapshot node vmid name))) :
    (pruneSnapshots node vmid keep).Only P := by
  have hone : ∀ name : String, Proc.Only P (
      if decide (name = "") || decide (name = "current") || decide (name = keep) then pure ()
      else if "preupd_".toList.isPrefixOf name.toList then
        swallow do
          let upid ← orRaise (← remote (.deleteSnapshot node vmid name))
          waitQuietly node upid 120
      else pure () : Op Unit) := by
    intro name
    split
    · exact Proc.only_pure _
    · rename_i hkept
      split
      · have hne : name ≠ keep := by
          intro heq
          simp [heq] at hkept
        refine only_swallow (Proc.only_bind (Proc.only_ask (hdelete name hne)) fun a => ?_)
        exact Proc.only_bind (only_orRaise a) fun upid => only_waitQuietly hr _ _ _
      · exact Proc.only_pure _
  refine Proc.only_bind (only_remote hr rfl) fun listed => ?_
  cases listed with
  | error e => exact Proc.only_pure _
  | ok names =>
    induction names with
    | nil => exact Proc.only_pure _
    | cons name names ih => exact Proc.only_bind (hone name) fun _ => ih

end Remote

section Only

variable {P : EngineCall → Prop} (h : Plain P)

include h

theorem only_load : load.Only P := Proc.only_ask h.load

theorem only_reload : reload.Only P := by
  refine Proc.only_bind (only_load h) fun row => ?_
  cases row with
  | none => exact Proc.only_throw _
  | some ia => exact Proc.only_pure ia

theorem only_write {change : InstalledApp → InstalledApp}
    (hchange : ∀ row, (change row).lastSnapshot = row.lastSnapshot) : (write change).Only P :=
  Proc.only_bind (Proc.only_ask (h.write change hchange)) fun _ => Proc.only_ensure _ _

/-- An object that keeps the recorded snapshot does not write that column. -/
theorem only_save {old new : InstalledApp} (hnew : new.lastSnapshot = old.lastSnapshot) :
    (save old new).Only P := by
  unfold save
  split
  · exact Proc.only_pure _
  · refine only_write h fun row => ?_
    change column old.lastSnapshot new.lastSnapshot row.lastSnapshot = row.lastSnapshot
    rw [column, if_pos hnew]

theorem only_amend {change : InstalledApp → InstalledApp}
    (hchange : ∀ row, (change row).lastSnapshot = row.lastSnapshot) : (amend change).Only P := by
  refine Proc.only_bind (only_load h) fun row => ?_
  cases row with
  | none => exact Proc.only_pure ()
  | some ia => exact only_save h (hchange ia)

theorem only_runInstall (job : InstallJob) : (runInstall job).Only P := by
  unfold runInstall
  refine Proc.only_tryCatch ?_ fun e => ?_
  · refine Proc.only_bind (only_pocInstall h.remote job) fun result => ?_
    refine Proc.only_bind (only_amend h fun _ => rfl) fun _ => ?_
    split
    · exact Proc.only_pure _
    · exact Proc.only_pure _
  · exact Proc.only_bind (only_swallow (only_amend h fun _ => rfl)) fun _ => Proc.only_pure _

theorem only_retryInstall (hsubmit : ∀ job, P (.submit (.install job))) :
    retryInstall.Only P := by
  refine Proc.only_bind (only_load h) fun row => ?_
  cases row with
  | none => exact Proc.only_throw _
  | some ia =>
    refine Proc.only_bind (Proc.only_ensure _ _) fun _ => ?_
    refine Proc.only_bind (Proc.only_ask (h.catalogApp _)) fun app => ?_
    split
    · exact Proc.only_throw _
    · refine Proc.only_bind (Proc.only_ask (h.goldenTemplate _)) fun golden => ?_
      split
      · exact Proc.only_throw _
      · refine Proc.only_bind (only_save h rfl) fun _ => ?_
        exact Proc.only_bind (only_reload h) fun ia => Proc.only_ask (hsubmit _)

/-- A deletion releases the address and removes the row beside its plain calls. -/
theorem only_runDelete (hrelease : ∀ serverId vmid, P (.remote (.releaseIp serverId vmid)))
    (hremove : P .remove)
    (serverId : Option ServerId) (vmid : Option Vmid) (node : Option String) :
    (runDelete serverId vmid node).Only P := by
  refine Proc.only_tryCatch ?_ fun e => ?_
  · refine Proc.only_bind ?_ fun _ => Proc.only_bind ?_ fun _ => Proc.only_pure _
    · unfold clear
      split
      · refine Proc.only_bind (only_pocTeardown h.remote _ _ _) fun _ => ?_
        refine Proc.only_bind (only_swallow ?_) fun _ => only_swallow ?_
        · exact Proc.only_bind (Proc.only_ask (hrelease _ _)) only_orRaise
        · exact Proc.only_bind (only_remote h.remote rfl) only_orRaise
      · exact Proc.only_pure _
    · refine Proc.only_bind (only_load h) fun row => ?_
      cases row with
      | none => exact Proc.only_pure _
      | some ia => exact Proc.only_ask hremove
  · exact Proc.only_bind (only_amend h fun _ => rfl) fun _ => Proc.only_pure _

theorem only_deleteApp
    (hsubmit : ∀ serverId vmid node, P (.submit (.delete serverId vmid node))) :
    deleteApp.Only P := by
  refine Proc.only_bind (only_load h) fun row => ?_
  cases row with
  | none => exact Proc.only_throw _
  | some ia =>
    refine Proc.only_bind (only_write h fun _ => rfl) fun _ => ?_
    exact Proc.only_bind (only_reload h) fun ia => Proc.only_ask (hsubmit _ _ _)

theorem only_update (hsubmit : ∀ job, P (.submit (.update job))) (formAnswers : Env) :
    (update formAnswers).Only P := by
  refine Proc.only_bind (only_load h) fun row => ?_
  cases row with
  | none => exact Proc.only_throw _
  | some ia =>
    refine Proc.only_bind (Proc.only_ensure _ _) fun _ => ?_
    refine Proc.only_bind (Proc.only_ensure _ _) fun _ => ?_
    refine Proc.only_bind (Proc.only_ask (h.catalogApp _)) fun app => ?_
    split
    · exact Proc.only_throw _
    · exact Proc.only_ask (hsubmit _)

theorem only_rollback (hsubmit : P (.submit .rollback)) : rollback.Only P := by
  refine Proc.only_bind (only_load h) fun row => ?_
  cases row with
  | none => exact Proc.only_throw _
  | some ia =>
    refine Proc.only_bind (Proc.only_ensure _ _) fun _ => ?_
    exact Proc.only_bind (Proc.only_ensure _ _) fun _ => Proc.only_ask hsubmit

theorem only_finishRollback (ia : InstalledApp) (node : String) (vmid : Vmid)
    (upid : Option String) : (finishRollback ia node vmid upid).Only P := by
  refine Proc.only_bind (only_waitQuietly h.remote _ _ _) fun _ => ?_
  refine Proc.only_bind (only_swallow ?_) fun _ => ?_
  · exact Proc.only_bind (only_startContainer h.remote _ _) fun _ => Proc.only_pure _
  refine Proc.only_bind (only_checkHealth h.remote _ _) fun ok => ?_
  refine Proc.only_bind (only_save h rfl) fun _ => ?_
  split
  · exact Proc.only_pure _
  · exact Proc.only_pure _

theorem only_rollbackLoaded (ia : InstalledApp) : (rollbackLoaded ia).Only P := by
  refine Proc.only_bind (only_remote h.remote rfl) fun client => ?_
  refine Proc.only_bind (only_orRaise client) fun _ => ?_
  refine Proc.only_bind (only_swallow ?_) fun _ => ?_
  · refine Proc.only_bind (only_remote h.remote rfl) fun a => ?_
    exact Proc.only_bind (only_orRaise a) fun upid => only_waitQuietly h.remote _ _ _
  refine Proc.only_bind (only_remote h.remote rfl) fun answer => ?_
  cases answer with
  | error e => exact Proc.only_bind (only_save h rfl) fun _ => Proc.only_pure _
  | ok upid => exact only_finishRollback h ia _ _ upid

theorem only_runRollback : runRollback.Only P := by
  refine Proc.only_tryCatch ?_ fun e => ?_
  · refine Proc.only_bind (only_load h) fun row => ?_
    cases row with
    | none => exact Proc.only_pure _
    | some ia => exact only_rollbackLoaded h ia
  · exact Proc.only_bind (only_swallow (only_amend h fun _ => rfl)) fun _ => Proc.only_pure _

theorem only_lifecycleAction (action : Lifecycle) : (lifecycleAction action).Only P := by
  refine Proc.only_bind (only_load h) fun row => ?_
  cases row with
  | none => exact Proc.only_throw _
  | some ia =>
    dsimp only
    split
    · exact Proc.only_throw _
    · refine Proc.only_bind (only_remote h.remote rfl) fun client => ?_
      refine Proc.only_bind (only_orRaise client) fun _ => ?_
      refine Proc.only_bind ?_ fun upid => ?_
      · cases action with
        | start => exact only_startContainer h.remote _ _
        | stop => exact Proc.only_bind (only_remote h.remote rfl) only_orRaise
        | restart => exact Proc.only_bind (only_remote h.remote rfl) only_orRaise
      refine Proc.only_bind (only_swallow (only_waitQuietly h.remote _ _ _)) fun _ => ?_
      refine Proc.only_bind (only_save h rfl) fun _ => ?_
      exact Proc.only_bind (only_reload h) fun _ => Proc.only_pure _

/-- The part of a request that runs in its own thread hands over its own kind of job. -/
theorem only_appRequest {req : AppRequest} (hsubmit : ∀ job, req.starts job → P (.submit job)) :
    req.run.Only P := by
  cases req with
  | retry => exact only_retryInstall h fun job => hsubmit (.install job) trivial
  | update formAnswers => exact only_update h (fun job => hsubmit (.update job) trivial) formAnswers
  | rollback => exact only_rollback h (hsubmit .rollback trivial)
  | delete =>
    exact only_deleteApp h fun serverId vmid node => hsubmit (.delete serverId vmid node) trivial
  | lifecycle action => exact only_lifecycleAction h action

/-- Behind its snapshot an update deletes the other ones. -/
theorem only_applyUpdate {name : String} (job : UpdateJob)
    (hdelete : ∀ node vmid other, other ≠ name → P (.remote (.deleteSnapshot node vmid other))) :
    (applyUpdate job name).Only P := by
  refine Proc.only_bind (only_reload h) fun ia => ?_
  refine Proc.only_bind (only_pocUpdate h.remote _ _ _ _ _ _) fun result => ?_
  dsimp only
  split
  · refine Proc.only_bind (only_save h rfl) fun _ => ?_
    refine Proc.only_bind (only_reload h) fun ia => ?_
    refine Proc.only_bind ?_ fun _ => Proc.only_pure _
    exact only_pruneSnapshots h.remote fun other => hdelete _ _ other
  · exact Proc.only_bind (only_save h rfl) fun _ => Proc.only_pure _

end Only

/-! ### The answers -/

/-- What the outside answers at one moment. -/
structure World where
  catalog : Option String → Option CatalogApp
  golden : Option ServerId → Option String
  remote : (r : Remote) → r.Answer

/-- The answer to a call where the row is as it is. -/
def World.answer (world : World) (row : Option InstalledApp) : (c : EngineCall) → engine.Answer c
  | .load => row
  | .write _ => row.isSome
  | .remove => ()
  | .catalogApp appId => world.catalog appId
  | .goldenTemplate serverId => world.golden serverId
  | .submit _ => ()
  | .remote r => world.remote r

/-- The row after a call. -/
def EngineCall.effect (row : Option InstalledApp) : EngineCall → Option InstalledApp
  | .write change => row.map change
  | .remove => none
  | _ => row

/-- Every call is answered well. -/
def World.good (catalog : Option CatalogApp) : World where
  catalog := fun _ => catalog
  golden := fun _ => some "local:vztmpl/golden.tar.zst"
  remote := fun
    | .hasServer _ | .isConnected _ | .healthCheck _ _ => true
    | .containerStatus _ _ | .waitForTask _ _ _ | .sshConnect => .ok true
    | .resolveNode _ => .ok "pve"
    | .nextVmid _ => .ok 100
    | .waitIp _ => .ok (some "10.0.0.5")
    | .createContainer _ _ _ | .startContainer _ _ | .stopContainer _ _ | .restartContainer _ _
    | .deleteContainer _ _ | .deleteSnapshot _ _ _ | .rollbackSnapshot _ _ _ => .ok none
    | .deliver _ _ _ _ _ _ _ _ => .ok none
    | .listSnapshots _ _ => .ok []
    | .stamp => "20260101000000"
    | .clientFor _ | .composeUp _ _ | .createSnapshot _ _ _ | .releaseIp _ _
    | .softDeleteInstance _ _ => .ok ()

end PveManager.Apps
