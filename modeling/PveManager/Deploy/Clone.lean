import PveManager.Deploy.Cleanup
import PveManager.Monitoring.Finalizers
import PveManager.Owners.Instances

/-!
# The clone worker

The background copy of a guest: a free number, the clone request, the wait for the
node's task, the row of the new guest, the closing update. What the wait returns is
dropped, and so is an exception of the wait or of the registration.
-/

namespace PveManager.Deploy

open PveManager.Core PveManager.Owners PveManager.Monitoring

/-! ### The wait -/

/-- One round of the wait. -/
structure ClonePoll where
  /-- Seconds since the start. -/
  elapsed : Nat
  /-- The write of the progress, where one is due. -/
  progress : Except String Unit
  /-- `get_task_status`; missing where the request failed. -/
  answer : Option TaskStatus

/-- `_wait_clone_with_progress`, which a failing write of the progress ends. -/
def waitClone : List ClonePoll → Except String Bool
  | [] => .ok false
  | poll :: rest =>
    if poll.elapsed < 600 then do
      poll.progress
      match poll.answer with
      | some status =>
        if status.status = some "stopped" then .ok (exitSucceeded status.exitstatus)
        else waitClone rest
      | none => waitClone rest
    else .ok false

/-- A wait whose writes go through is the plain wait. -/
theorem waitClone_of_written {polls : List ClonePoll} (h : ∀ p ∈ polls, p.progress = .ok ()) :
    waitClone polls = .ok (waitCloneWithProgress (polls.map fun p => (p.elapsed, p.answer))) := by
  induction polls with
  | nil => rfl
  | cons poll rest ih =>
    have hrest := ih fun p hp => h p (List.mem_cons_of_mem poll hp)
    unfold waitCloneWithProgress at hrest ⊢
    rw [waitClone, bind_of_ok (h poll List.mem_cons_self)]
    simp only [List.map_cons, waitUntilStopped]
    by_cases htime : poll.elapsed < 600
    · rw [if_pos htime, if_pos htime]
      cases poll.answer with
      | none => exact hrest
      | some status =>
        dsimp only
        by_cases hstopped : status.status = some "stopped"
        · rw [if_pos hstopped, if_pos hstopped]
        · rw [if_neg hstopped, if_neg hstopped]
          exact hrest
    · rw [if_neg htime, if_neg htime]

/-- A round in time that does not end the wait. -/
structure ClonePoll.Waits (p : ClonePoll) : Prop where
  inTime : p.elapsed < 600
  written : p.progress = .ok ()
  running : ∀ status, p.answer = some status → status.status ≠ some "stopped"

/-- A round in time that finds the task stopped and successful. -/
structure ClonePoll.Succeeds (p : ClonePoll) : Prop where
  inTime : p.elapsed < 600
  written : p.progress = .ok ()
  stopped : ∃ status, p.answer = some status ∧ status.status = some "stopped" ∧
    exitSucceeded status.exitstatus = true

/-- The task is seen to end successfully before the wait ends otherwise. -/
def SeenToSucceed (polls : List ClonePoll) : Prop :=
  ∃ before p after, polls = before ++ p :: after ∧ (∀ q ∈ before, q.Waits) ∧ p.Succeeds

theorem waitClone_eq_true_iff {polls : List ClonePoll} :
    waitClone polls = .ok true ↔ SeenToSucceed polls := by
  constructor
  · intro h
    induction polls with
    | nil => cases h
    | cons poll rest ih =>
      unfold waitClone at h
      split at h
      · rename_i htime
        obtain ⟨_, hwritten, h⟩ := bind_ok h
        have hgoes : poll.Waits → waitClone rest = .ok true → SeenToSucceed (poll :: rest) := by
          intro hwaits hrest
          obtain ⟨before, p, after, rfl, hbefore, hp⟩ := ih hrest
          exact ⟨poll :: before, p, after, rfl, List.forall_mem_cons.mpr ⟨hwaits, hbefore⟩, hp⟩
        split at h
        · rename_i status hstatus
          split at h
          · rename_i hstopped
            exact ⟨[], poll, rest, rfl, fun q hq => absurd hq List.not_mem_nil,
              htime, hwritten, status, hstatus, hstopped, Except.ok.inj h⟩
          · rename_i hrunning
            refine hgoes ⟨htime, hwritten, fun status' hstatus' => ?_⟩ h
            rw [hstatus] at hstatus'
            exact Option.some.inj hstatus' ▸ hrunning
        · rename_i hnone
          refine hgoes ⟨htime, hwritten, fun status hstatus => ?_⟩ h
          rw [hnone] at hstatus
          cases hstatus
      · cases h
  · rintro ⟨before, p, after, rfl, hbefore, hp⟩
    induction before with
    | nil =>
      obtain ⟨htime, hwritten, status, hstatus, hstopped, hexit⟩ := hp
      rw [List.nil_append, waitClone, if_pos htime, bind_of_ok hwritten, hstatus]
      dsimp only
      rw [if_pos hstopped, hexit]
    | cons q before ih =>
      obtain ⟨hq, hbefore⟩ := List.forall_mem_cons.mp hbefore
      rw [List.cons_append, waitClone, if_pos hq.inTime, bind_of_ok hq.written]
      split
      · rename_i status hstatus
        rw [if_neg (hq.running status hstatus)]
        exact ih hbefore
      · exact ih hbefore

/-! ### The worker -/

/-- The arguments of `_do_clone_sync`. -/
structure CloneJob where
  serverId : ServerId
  srcVmid : Vmid
  node : String
  vmType : VmType
  newName : String
  full : Bool
  targetNode : Option String
  targetStorage : Option String
  description : Option String
  sender : Sender

/-- The arguments of `clone_vm` and `clone_container`. -/
structure GuestCloneParams where
  node : String
  vmid : Vmid
  newVmid : Vmid
  name : String
  full : Bool
  targetNode : Option String
  targetStorage : Option String
  description : Option String

/-- The answers of everything outside of the worker; an error is an exception. -/
structure CloneWorld where
  /-- The writes of a running or completed task. -/
  updateTask : TaskUpdate → Except String Unit
  /-- Whether the database takes the write of a failed task. -/
  recordsFailure : Bool
  /-- Whether the server is registered. -/
  server : Except String Bool
  /-- Whether the client of the server is connected. -/
  connect : Except String Bool
  /-- `client.get_next_vmid() or get_next_vmid(db, server_id)`. -/
  nextVmid : Except String (Option Vmid)
  clone : VmType → GuestCloneParams → Except String (Option String)
  polls : String → List ClonePoll
  saveVmInstance : SaveArgs → Except String Unit
  logCloned : Vmid → Except String Unit

namespace CloneJob

variable (job : CloneJob) (vmid : Vmid)

/-- `target_node or node`. -/
def home : String := if truthy job.targetNode then job.targetNode.getD "" else job.node

def params : GuestCloneParams where
  node := job.node
  vmid := job.srcVmid
  newVmid := vmid
  name := job.newName
  full := job.full
  targetNode := job.targetNode
  targetStorage := job.targetStorage
  description := job.description

/-- The row of the new guest. -/
def row : SaveArgs where
  serverId := job.serverId
  vmid := vmid
  node := job.home
  vmType := job.vmType
  name := job.newName
  description := job.description
  ownerId := some job.sender.owner

/-- The closing update of a completed task. -/
def closing : TaskUpdate where
  status := "completed"
  step := s!"Клонирование завершено (VMID {vmid})"
  progress := 100
  vmid := some vmid
  node := some job.home

end CloneJob

/-- `_update_deploy_task(task_id, 'running', …)`. -/
def CloneWorld.running (w : CloneWorld) (step : String) (progress : Nat) (vmid : Option Vmid)
    (node : Option String) : Step Unit :=
  ask (w.updateTask { status := "running", step := step, progress := progress, vmid := vmid,
                      node := node })

/-- The part before the wait: the number of the new guest and the node's task. -/
def startClone (w : CloneWorld) (job : CloneJob) : Step (Vmid × String) := do
  w.running "Подключение к Proxmox..." 10 none (some job.node)
  let registered ← ask w.server
  ensured registered "Сервер не найден" 0 "Proxmox сервер не найден"
  let connected ← ask w.connect
  ensured connected "Ошибка подключения к Proxmox" 10 "Не удалось подключиться к Proxmox серверу"
  w.running "Аллокация VMID..." 30 none (some job.node)
  let next ← ask w.nextVmid
  let vmid ← required (next.filter (· ≠ 0)) "Не удалось выделить VMID" 30
    "Failed to allocate new VMID"
  w.running s!"Клонирование → VMID {vmid}..." 50 (some vmid) (some job.home)
  match w.clone job.vmType (job.params vmid) with
  | .error e => fail "Ошибка клонирования" 50 ("Clone failed: " ++ e)
  | .ok answer => do
    let upid ← required (upidOf answer) "Ошибка клонирования" 50 "Proxmox не вернул UPID"
    w.running "Ожидание завершения клонирования..." 70 (some vmid) (some job.home)
    .ok (vmid, upid)

/-- What a run of the worker leaves behind. -/
structure CloneResult where
  db : Db
  /-- The row that was stored. -/
  registered : Option SaveArgs
  /-- The closing update of the task, where it was written. -/
  closing : Option TaskUpdate

/-- The closing update of a run that stops early. -/
def CloneWorld.stopped (w : CloneWorld) : Stop → Option TaskUpdate
  | .returned closing => if w.recordsFailure then some closing else none
  | .raised err =>
    if w.recordsFailure then
      some { status := "failed", step := "Ошибка: " ++ String.ofList (err.toList.take 150),
             progress := 0, error := some err }
    else none

/-- The part after the registration. -/
def closeClone (w : CloneWorld) (job : CloneJob) (vmid : Vmid) : Step Unit := do
  ask (w.logCloned vmid)
  ask (w.updateTask (job.closing vmid))

/-- `_do_clone_sync`. -/
def doCloneSync (w : CloneWorld) (job : CloneJob) (db : Db) : CloneResult :=
  match startClone w job with
  | .error stop => ⟨db, none, w.stopped stop⟩
  | .ok (vmid, upid) =>
    -- nothing is made of what the wait returns or raises
    let _waited := waitClone (w.polls upid)
    let registered :=
      match w.saveVmInstance (job.row vmid) with
      | .ok () => some (job.row vmid)
      | .error _ => none
    { db := registered.elim db (saveVmInstance db)
      registered := registered
      closing :=
        match closeClone w job vmid with
        | .ok () => some (job.closing vmid)
        | .error stop => w.stopped stop }

/-! ### What a run records -/

variable {w : CloneWorld} {job : CloneJob} {db : Db}

/-- Every step before the wait goes well. -/
structure Started (w : CloneWorld) (job : CloneJob) (vmid : Vmid) (upid : String) : Prop where
  written : w.updateTask
      { status := "running", step := "Подключение к Proxmox...", progress := 10, vmid := none,
        node := some job.node } = .ok () ∧
    w.updateTask
      { status := "running", step := "Аллокация VMID...", progress := 30, vmid := none,
        node := some job.node } = .ok () ∧
    w.updateTask
      { status := "running", step := s!"Клонирование → VMID {vmid}...", progress := 50,
        vmid := some vmid, node := some job.home } = .ok () ∧
    w.updateTask
      { status := "running", step := "Ожидание завершения клонирования...", progress := 70,
        vmid := some vmid, node := some job.home } = .ok ()
  server : w.server = .ok true
  connect : w.connect = .ok true
  numbered : w.nextVmid = .ok (some vmid) ∧ vmid ≠ 0
  accepted : w.clone job.vmType (job.params vmid) = .ok (some upid) ∧ upid ≠ ""

theorem startClone_eq_ok_iff {vmid : Vmid} {upid : String} :
    startClone w job = .ok (vmid, upid) ↔ Started w job vmid upid := by
  simp only [startClone, CloneWorld.running, bind_eq_ok_iff, ask_eq_ok_iff, ensured_eq_ok_iff,
    required_eq_ok_iff]
  constructor
  · rintro ⟨_, hfirst, _, hserver, _, hregistered, _, hconnect, _, hconnected, _, hsecond, next,
      hnext, number, hnumber, _, hthird, h⟩
    obtain ⟨rfl, hpos⟩ := Option.filter_eq_some_iff.mp hnumber
    cases hclone : w.clone job.vmType (job.params number) with
    | error e =>
      rw [hclone] at h
      cases h
    | ok answer =>
      rw [hclone] at h
      simp only [bind_eq_ok_iff, ask_eq_ok_iff, required_eq_ok_iff, upidOf_eq_some_iff] at h
      obtain ⟨task, ⟨rfl, hne⟩, _, hfourth, h⟩ := h
      cases h
      rw [hregistered] at hserver
      rw [hconnected] at hconnect
      exact ⟨⟨hfirst, hsecond, hthird, hfourth⟩, hserver, hconnect,
        ⟨hnext, of_decide_eq_true hpos⟩, hclone, hne⟩
  · rintro ⟨⟨hfirst, hsecond, hthird, hfourth⟩, hserver, hconnect, ⟨hnext, hpos⟩, hclone, hne⟩
    refine ⟨(), hfirst, true, hserver, (), rfl, true, hconnect, (), rfl, (), hsecond, some vmid,
      hnext, vmid, Option.filter_eq_some_iff.mpr ⟨rfl, decide_eq_true hpos⟩, (), hthird, ?_⟩
    rw [hclone]
    simp only [bind_eq_ok_iff, ask_eq_ok_iff, required_eq_ok_iff, upidOf_eq_some_iff]
    exact ⟨upid, ⟨rfl, hne⟩, (), hfourth, rfl⟩

/-- The node's task was started and is seen to end successfully. -/
def EndedWell (w : CloneWorld) (job : CloneJob) : Prop :=
  ∃ vmid upid, Started w job vmid upid ∧ SeenToSucceed (w.polls upid)

/-- Only a task that ended successfully is recorded as completed or leaves a row. -/
structure CloneTruthful (w : CloneWorld) (job : CloneJob) (db : Db) : Prop where
  completed : ∀ closing, (doCloneSync w job db).closing = some closing →
    closing.status = "completed" → EndedWell w job
  registered : ∀ args, (doCloneSync w job db).registered = some args → EndedWell w job
  untouched : ¬EndedWell w job → (doCloneSync w job db).db = db

/-- The start stops with a failed task. -/
theorem failed_startClone (w : CloneWorld) (job : CloneJob) :
    ErrorsMeet Stop.Failed (startClone w job) := by
  refine errorsMeet_bind (failed_ask _) fun _ _ => ?_
  refine errorsMeet_bind (failed_ask _) fun _ _ => ?_
  refine errorsMeet_bind (failed_ensured _ _ _ _) fun _ _ => ?_
  refine errorsMeet_bind (failed_ask _) fun _ _ => ?_
  refine errorsMeet_bind (failed_ensured _ _ _ _) fun _ _ => ?_
  refine errorsMeet_bind (failed_ask _) fun _ _ => ?_
  refine errorsMeet_bind (failed_ask _) fun _ _ => ?_
  refine errorsMeet_bind (failed_required _ _ _ _) fun vmid _ => ?_
  refine errorsMeet_bind (failed_ask _) fun _ _ => ?_
  cases w.clone job.vmType (job.params vmid) with
  | error e => exact failed_fail _ _ _
  | ok answer =>
    refine errorsMeet_bind (failed_required _ _ _ _) fun _ _ => ?_
    exact errorsMeet_bind (failed_ask _) fun _ _ => errorsMeet_ok

/-- A run that stops early never closes its task as completed. -/
theorem CloneWorld.stopped_ne_completed {stop : Stop} (h : stop.Failed) {closing : TaskUpdate}
    (hclosing : w.stopped stop = some closing) : closing.status ≠ "completed" := by
  have hfailed : closing.status = "failed" := by
    cases stop with
    | returned given =>
      obtain ⟨-, hgiven⟩ := Option.ite_none_right_eq_some.mp hclosing
      cases hgiven
      exact h
    | raised err =>
      obtain ⟨-, hgiven⟩ := Option.ite_none_right_eq_some.mp hclosing
      cases hgiven
      rfl
  rw [hfailed]
  decide

/-- A run that does not come to the wait. -/
theorem doCloneSync_of_stop {stop : Stop} (h : startClone w job = .error stop) :
    doCloneSync w job db = ⟨db, none, w.stopped stop⟩ := by
  rw [doCloneSync, h]

/-- After the wait the row is written where the database takes it. -/
theorem registered_of_started {vmid : Vmid} {upid : String} (h : Started w job vmid upid)
    (args : SaveArgs) :
    (doCloneSync w job db).registered = some args ↔
      w.saveVmInstance (job.row vmid) = .ok () ∧ args = job.row vmid := by
  rw [doCloneSync, startClone_eq_ok_iff.mpr h]
  dsimp only
  cases w.saveVmInstance (job.row vmid) with
  | ok u => exact ⟨fun h => ⟨rfl, (Option.some.inj h).symm⟩, fun h => congrArg some h.2.symm⟩
  | error e => exact iff_of_false (fun h => by cases h) fun h => by cases h.1

/-- After the wait the task is closed as completed where the log and the task take it. -/
theorem completed_of_started {vmid : Vmid} {upid : String} (h : Started w job vmid upid) :
    (∃ closing, (doCloneSync w job db).closing = some closing ∧ closing.status = "completed") ↔
      w.logCloned vmid = .ok () ∧ w.updateTask (job.closing vmid) = .ok () := by
  have hends : closeClone w job vmid = .ok () ↔
      w.logCloned vmid = .ok () ∧ w.updateTask (job.closing vmid) = .ok () := by
    simp only [closeClone, bind_eq_ok_iff, ask_eq_ok_iff]
    exact ⟨fun ⟨_, hlog, hclosing⟩ => ⟨hlog, hclosing⟩, fun h => ⟨(), h⟩⟩
  rw [← hends, doCloneSync, startClone_eq_ok_iff.mpr h]
  dsimp only
  cases hclose : closeClone w job vmid with
  | ok u => exact iff_of_true ⟨job.closing vmid, rfl, rfl⟩ rfl
  | error stop =>
    have hfailed : stop.Failed :=
      errorsMeet_bind (failed_ask _) (fun _ _ => failed_ask _) stop hclose
    refine iff_of_false ?_ fun h => by cases h
    rintro ⟨closing, hclosing, hcompleted⟩
    exact CloneWorld.stopped_ne_completed hfailed hclosing hcompleted

/-- Without a row the rows stay. -/
theorem db_of_not_registered (h : (doCloneSync w job db).registered = none) :
    (doCloneSync w job db).db = db := by
  unfold doCloneSync at h ⊢
  split at h
  · rfl
  · dsimp only at h ⊢
    rw [h]
    rfl

/-- A run is truthful exactly when the task it waits for is seen to succeed, or neither the row
nor the end of the task is taken. -/
theorem cloneTruthful_iff :
    CloneTruthful w job db ↔ ∀ vmid upid, Started w job vmid upid →
      SeenToSucceed (w.polls upid) ∨
        w.saveVmInstance (job.row vmid) ≠ .ok () ∧
          ¬(w.logCloned vmid = .ok () ∧ w.updateTask (job.closing vmid) = .ok ()) := by
  constructor
  · intro h vmid upid hstarted
    by_cases hends : EndedWell w job
    · obtain ⟨vmid', upid', hstarted', hseen⟩ := hends
      have heq := (startClone_eq_ok_iff.mpr hstarted').symm.trans (startClone_eq_ok_iff.mpr hstarted)
      obtain ⟨-, rfl⟩ := Prod.mk.inj (Except.ok.inj heq)
      exact .inl hseen
    · refine .inr ⟨fun hsave => hends ?_, fun hclosed => hends ?_⟩
      · exact h.registered _ ((registered_of_started hstarted _).mpr ⟨hsave, rfl⟩)
      · obtain ⟨closing, hclosing, hcompleted⟩ := (completed_of_started hstarted).mpr hclosed
        exact h.completed closing hclosing hcompleted
  · intro h
    cases hstart : startClone w job with
    | error stop =>
      have hstop : doCloneSync w job db = ⟨db, none, w.stopped stop⟩ :=
        doCloneSync_of_stop hstart
      refine ⟨fun closing hclosing hcompleted => ?_, fun args hargs => ?_, fun _ => ?_⟩
      · rw [hstop] at hclosing
        exact absurd hcompleted
          (CloneWorld.stopped_ne_completed (failed_startClone w job stop hstart) hclosing)
      · rw [hstop] at hargs
        cases hargs
      · rw [hstop]
    | ok started =>
      obtain ⟨vmid, upid⟩ := started
      have hstarted := startClone_eq_ok_iff.mp hstart
      rcases h vmid upid hstarted with hseen | ⟨hsave, hclose⟩
      · have hends : EndedWell w job := ⟨vmid, upid, hstarted, hseen⟩
        exact ⟨fun _ _ _ => hends, fun _ _ => hends, fun hnot => absurd hends hnot⟩
      · have hrow (args : SaveArgs) : (doCloneSync w job db).registered ≠ some args :=
          fun hargs => hsave ((registered_of_started hstarted args).mp hargs).1
        refine ⟨fun closing hclosing hcompleted => ?_, fun args hargs => ?_, fun _ => ?_⟩
        · exact absurd ((completed_of_started hstarted).mp ⟨closing, hclosing, hcompleted⟩) hclose
        · exact absurd hargs (hrow args)
        · exact db_of_not_registered (Option.eq_none_iff_forall_ne_some.mpr hrow)

/-- A copy that stops with an error is closed as completed and leaves a row. -/
theorem failed_copy_completed :
    let job : CloneJob :=
      ⟨1, 100, "pve1", .qemu, "web", true, none, none, none, ⟨7, "ann", none⟩⟩
    let w : CloneWorld :=
      { updateTask := fun _ => .ok ()
        recordsFailure := true
        server := .ok true
        connect := .ok true
        nextVmid := .ok (some 101)
        clone := fun _ _ => .ok (some "UPID:pve1:1")
        polls := fun _ => [⟨0, .ok (), some ⟨some "stopped", some "clone failed"⟩⟩]
        saveVmInstance := fun _ => .ok ()
        logCloned := fun _ => .ok () }
    ¬CloneTruthful w job ⟨.empty, .empty, ⟨.empty, []⟩⟩ := by
  intro job w h
  obtain ⟨vmid, upid, -, hseen⟩ := h.registered (job.row 101) rfl
  have hwait := waitClone_eq_true_iff.mpr hseen
  cases hwait

end PveManager.Deploy
