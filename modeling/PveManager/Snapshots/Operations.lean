import PveManager.Api.Handler
import PveManager.Monitoring.Finalizers

/-!
# Snapshot operations

A snapshot is created, rolled back to or deleted by a task of Proxmox. The methods that
create one wait for the task and report how it ended; the others report that the task
was accepted.
-/

namespace PveManager.Snapshots

open PveManager.Core PveManager.Api PveManager.Monitoring

/-! ### How a task can end -/

/-- What becomes of a task while somebody waits for it. -/
inductive TaskOutcome
  | ok
  | warnings (exitstatus : String)
  | error (exitstatus : Option String)
  /-- Nobody sees it stop in time. -/
  | timeout

/-- The outcome that an exit status stands for. -/
def TaskOutcome.ofExit : Option String → TaskOutcome
  | none => .error none
  | some text =>
    if text = "OK" then .ok
    else if "WARNINGS:".toList <+: text.toList then .warnings text
    else .error (some text)

/-- The task finished successfully, with or without warnings. -/
def TaskOutcome.successful : TaskOutcome → Bool
  | .ok => true
  | .warnings _ => true
  | .error _ => false
  | .timeout => false

/-- The seconds a snapshot task has. -/
def snapshotTimeout : Nat := 300

/-- The readings of the status let the outcome be seen. -/
inductive Shows : TaskOutcome → List (Nat × Option TaskStatus) → Prop
  | stopped (before after : List (Nat × Option TaskStatus)) (elapsed : Nat)
    (exitstatus : Option String) (hbefore : ∀ r ∈ before, Waits snapshotTimeout r)
    (htime : elapsed < snapshotTimeout) :
    Shows (.ofExit exitstatus) (before ++ (elapsed, some ⟨some "stopped", exitstatus⟩) :: after)
  | timeout (before after : List (Nat × Option TaskStatus))
    (hbefore : ∀ r ∈ before, Waits snapshotTimeout r)
    (hafter : ∀ r ∈ after.head?, snapshotTimeout ≤ r.1) : Shows .timeout (before ++ after)

/-! ### The client -/

/-- `wait_for_task`. -/
def waitForTask (timeout : Nat) (readings : List (Nat × Option TaskStatus)) : Bool :=
  waitUntilStopped timeout readings

/-- The guest a snapshot belongs to. -/
structure SnapshotGuest where
  vmType : VmType
  node : String
  vmid : Vmid

/-- A request to Proxmox. -/
inductive SnapshotCall
  | create (guest : SnapshotGuest) (params : List (String × Json))
  | rollback (guest : SnapshotGuest) (snapname : String) (params : List (String × Json))
  | delete (guest : SnapshotGuest) (snapname : String) (params : List (String × Json))

/-- The dictionary that a method returns, and the request it sent. -/
structure SnapshotReport where
  sent : Option SnapshotCall
  success : Bool
  error : Option String
  upid : Option String
  snapname : Option String

/-- Proxmox, as one operation meets it. -/
structure SnapshotTask where
  connected : Bool
  /-- The task that was started, or what the request raises. -/
  answer : Except String String
  outcome : TaskOutcome
  readings : List (Nat × Option TaskStatus)
  shows : Shows outcome readings
  /-- The status that is read after a wait in vain. -/
  afterwards : Option TaskStatus

namespace SnapshotTask

variable (w : SnapshotTask)

/-- Send a request; what the method raises becomes its error. -/
def send (call : SnapshotCall) (next : String → SnapshotReport) : SnapshotReport :=
  if w.connected = false then ⟨none, false, some "Not connected", none, none⟩
  else
    match w.answer with
    | .error e => ⟨some call, false, some e, none, none⟩
    | .ok upid => next upid

/-- `get_task_status(...).get('exitstatus') or 'task failed or timed out'`. -/
def reason : String :=
  let exitstatus := w.afterwards.bind TaskStatus.exitstatus
  if truthy exitstatus then exitstatus.getD "" else "task failed or timed out"

/-- Wait for the task to report the real outcome. -/
def waited (call : SnapshotCall) (snapname upid : String) : SnapshotReport :=
  if waitForTask snapshotTimeout w.readings = true then
    ⟨some call, true, none, some upid, some snapname⟩
  else ⟨some call, false, some s!"Snapshot task failed: {w.reason}", some upid, none⟩

/-- Report that the task was accepted. -/
def accepted (call : SnapshotCall) (upid : String) : SnapshotReport :=
  ⟨some call, true, none, some upid, none⟩

/-- A flag that is sent when it is set. -/
def flag (b : Bool) (key : String) : List (String × Json) := if b then [(key, .number 1)] else []

/-- An optional text that is sent when it is not empty. -/
def optional (value : Option String) (key : String) : List (String × Json) :=
  if truthy value then [(key, .text (value.getD ""))] else []

section Methods

variable (node : String) (vmid : Vmid) (snapname : String)

def createVmSnapshot (description : Option String) (vmstate : Bool) : SnapshotReport :=
  let call := SnapshotCall.create ⟨.qemu, node, vmid⟩
    ([("snapname", .text snapname)] ++ optional description "description" ++
      flag vmstate "vmstate")
  w.send call (w.waited call snapname)

def rollbackVmSnapshot (start : Bool) : SnapshotReport :=
  let call := SnapshotCall.rollback ⟨.qemu, node, vmid⟩ snapname (flag start "start")
  w.send call (accepted call)

def deleteVmSnapshot (force : Bool) : SnapshotReport :=
  let call := SnapshotCall.delete ⟨.qemu, node, vmid⟩ snapname (flag force "force")
  w.send call (accepted call)

def createContainerSnapshot (description : Option String) : SnapshotReport :=
  let call := SnapshotCall.create ⟨.lxc, node, vmid⟩
    ([("snapname", .text snapname)] ++ optional description "description")
  w.send call (w.waited call snapname)

def rollbackContainerSnapshot (start : Bool) : SnapshotReport :=
  let call := SnapshotCall.rollback ⟨.lxc, node, vmid⟩ snapname (flag start "start")
  w.send call (accepted call)

def deleteContainerSnapshot (force : Bool) : SnapshotReport :=
  let call := SnapshotCall.delete ⟨.lxc, node, vmid⟩ snapname (flag force "force")
  w.send call (accepted call)

end Methods

end SnapshotTask

/-! ### What is reported -/

/-- An operation on a snapshot with its arguments. -/
inductive SnapshotOp
  | create (description : Option String) (vmstate : Bool)
  | rollback (start : Bool)
  | delete (force : Bool)

namespace SnapshotOp

/-- The method for a guest. -/
def report (op : SnapshotOp) (w : SnapshotTask) (guest : SnapshotGuest) (snapname : String) :
    SnapshotReport :=
  match op, guest.vmType with
  | .create description vmstate, .qemu =>
    w.createVmSnapshot guest.node guest.vmid snapname description vmstate
  | .rollback start, .qemu => w.rollbackVmSnapshot guest.node guest.vmid snapname start
  | .delete force, .qemu => w.deleteVmSnapshot guest.node guest.vmid snapname force
  | .create description _, .lxc =>
    w.createContainerSnapshot guest.node guest.vmid snapname description
  | .rollback start, .lxc => w.rollbackContainerSnapshot guest.node guest.vmid snapname start
  | .delete force, .lxc => w.deleteContainerSnapshot guest.node guest.vmid snapname force

/-- The methods that wait for their task. -/
def waits : SnapshotOp → Bool
  | .create _ _ => true
  | .rollback _ => false
  | .delete _ => false

end SnapshotOp

namespace SnapshotTask

variable (w : SnapshotTask)

/-- A task was started. -/
def Starts : Prop := w.connected = true ∧ ∃ upid, w.answer = .ok upid

/-- Reports that differ in the request only. -/
def Alike (report report' : SnapshotReport) : Prop :=
  report'.success = report.success ∧ report'.error = report.error ∧
    report'.upid = report.upid ∧ report'.snapname = report.snapname

/-- Success is reported exactly when the task was started and finished successfully, and both
kinds of guests are reported on alike. -/
structure Truthful (op : SnapshotOp) (guest : SnapshotGuest) (snapname : String) : Prop where
  success : (op.report w guest snapname).success = true ↔ w.Starts ∧ w.outcome.successful = true
  agree : ∀ ty, Alike (op.report w guest snapname)
    (op.report w { guest with vmType := ty } snapname)

end SnapshotTask

/-! ### The wait -/

/-- The wait accepts the exit statuses of a success. -/
theorem successful_ofExit (exitstatus : Option String) :
    (TaskOutcome.ofExit exitstatus).successful = exitSucceeded exitstatus := by
  cases exitstatus with
  | none => rfl
  | some text =>
    rw [TaskOutcome.ofExit, exitSucceeded]
    by_cases hok : text = "OK"
    · rw [if_pos hok, decide_eq_true hok]
      rfl
    · rw [if_neg hok, decide_eq_false hok, Bool.false_or]
      by_cases hwarn : "WARNINGS:".toList <+: text.toList
      · rw [if_pos hwarn, decide_eq_true hwarn]
        rfl
      · rw [if_neg hwarn, decide_eq_false hwarn]
        rfl

/-- A wait passes over what does not end it. -/
theorem waitUntilStopped_of_waits {timeout : Nat} {before : List (Nat × Option TaskStatus)}
    (hbefore : ∀ r ∈ before, Waits timeout r) (after : List (Nat × Option TaskStatus)) :
    waitUntilStopped timeout (before ++ after) = waitUntilStopped timeout after := by
  induction before with
  | nil => rfl
  | cons r before ih =>
    obtain ⟨hr, hrest⟩ := List.forall_mem_cons.mp hbefore
    rw [List.cons_append, waitUntilStopped_cons hr]
    exact ih hrest

/-- The wait returns whether the task finished successfully. -/
theorem waitForTask_of_shows {outcome : TaskOutcome} {readings : List (Nat × Option TaskStatus)}
    (h : Shows outcome readings) : waitForTask snapshotTimeout readings = outcome.successful := by
  cases h with
  | stopped before after elapsed exitstatus hbefore htime =>
    rw [waitForTask, waitUntilStopped_append htime exitstatus after hbefore, successful_ofExit]
  | timeout before after hbefore hafter =>
    rw [waitForTask, waitUntilStopped_of_waits hbefore]
    cases after with
    | nil => rfl
    | cons r rest =>
      obtain ⟨elapsed, answer⟩ := r
      have hlate : ¬elapsed < snapshotTimeout := Nat.not_lt_of_le (hafter (elapsed, answer) rfl)
      cases answer with
      | none =>
        rw [waitUntilStopped]
        exact if_neg hlate
      | some status =>
        rw [waitUntilStopped]
        exact if_neg hlate

/-- Every wait lets some outcome be seen. -/
theorem exists_shows (readings : List (Nat × Option TaskStatus)) :
    ∃ outcome, Shows outcome readings := by
  induction readings with
  | nil => exact ⟨.timeout, .timeout [] [] (fun _ h => absurd h List.not_mem_nil) nofun⟩
  | cons r rest ih =>
    by_cases htime : r.1 < snapshotTimeout
    · by_cases hwaits : Waits snapshotTimeout r
      · obtain ⟨outcome, h⟩ := ih
        refine ⟨outcome, ?_⟩
        cases h with
        | stopped before after elapsed exitstatus hbefore hstop =>
          exact .stopped (r :: before) after elapsed exitstatus
            (List.forall_mem_cons.mpr ⟨hwaits, hbefore⟩) hstop
        | timeout before after hbefore hafter =>
          exact .timeout (r :: before) after (List.forall_mem_cons.mpr ⟨hwaits, hbefore⟩) hafter
      · obtain ⟨status, hstatus, hstopped⟩ : ∃ status, r.2 = some status ∧
            status.status = some "stopped" := by
          by_contra hnone
          exact hwaits ⟨htime, fun status hstatus hstopped => hnone ⟨status, hstatus, hstopped⟩⟩
        obtain ⟨elapsed, answer⟩ := r
        obtain ⟨text, exitstatus⟩ := status
        cases hstatus
        cases hstopped
        exact ⟨_, .stopped [] rest elapsed exitstatus (fun _ h => absurd h List.not_mem_nil) htime⟩
    · refine ⟨.timeout, .timeout [] (r :: rest) (fun _ h => absurd h List.not_mem_nil) ?_⟩
      rintro _ ⟨⟩
      exact Nat.le_of_not_lt htime

/-! ### The reports -/

namespace SnapshotTask

variable {w : SnapshotTask}

/-- What follows the start of the task. -/
def ends (w : SnapshotTask) (op : SnapshotOp) (call : SnapshotCall) (snapname upid : String) :
    SnapshotReport :=
  if op.waits = true then w.waited call snapname upid else accepted call upid

/-- Every method sends one request and goes on as its operation does. -/
theorem report_eq_send (w : SnapshotTask) (op : SnapshotOp) (guest : SnapshotGuest)
    (snapname : String) :
    ∃ call, op.report w guest snapname = w.send call (w.ends op call snapname) := by
  obtain ⟨vmType, node, vmid⟩ := guest
  cases op with
  | create description vmstate =>
    cases vmType with
    | qemu => exact ⟨_, rfl⟩
    | lxc => exact ⟨_, rfl⟩
  | rollback start =>
    cases vmType with
    | qemu => exact ⟨_, rfl⟩
    | lxc => exact ⟨_, rfl⟩
  | delete force =>
    cases vmType with
    | qemu => exact ⟨_, rfl⟩
    | lxc => exact ⟨_, rfl⟩

theorem success_ends (op : SnapshotOp) (call : SnapshotCall) (snapname upid : String) :
    (w.ends op call snapname upid).success = true ↔
      (op.waits = true → w.outcome.successful = true) := by
  unfold ends
  split
  · rename_i hwaits
    rw [waited, waitForTask_of_shows w.shows, forall_prop_of_true hwaits]
    split
    · rename_i h
      exact iff_of_true rfl h
    · rename_i h
      exact iff_of_false Bool.false_ne_true h
  · rename_i hwaits
    exact iff_of_true rfl fun h => absurd h hwaits

/-- The methods that wait report the outcome, and the others the start. -/
theorem success_report (w : SnapshotTask) (op : SnapshotOp) (guest : SnapshotGuest)
    (snapname : String) : (op.report w guest snapname).success = true ↔
      w.Starts ∧ (op.waits = true → w.outcome.successful = true) := by
  obtain ⟨call, hreport⟩ := report_eq_send w op guest snapname
  rw [hreport, send]
  cases hconnected : w.connected with
  | false =>
    refine iff_of_false Bool.false_ne_true fun h => ?_
    exact Bool.false_ne_true (hconnected.symm.trans h.1.1)
  | true =>
    rw [if_neg Bool.noConfusion]
    cases hanswer : w.answer with
    | error e =>
      refine iff_of_false Bool.false_ne_true fun h => ?_
      obtain ⟨upid, hupid⟩ := h.1.2
      rw [hanswer] at hupid
      cases hupid
    | ok upid =>
      dsimp only
      rw [success_ends]
      exact (and_iff_right ⟨hconnected, upid, hanswer⟩).symm

/-- The request that is sent makes no difference to the rest of the report. -/
theorem send_alike (w : SnapshotTask) (op : SnapshotOp) (call call' : SnapshotCall)
    (snapname : String) :
    Alike (w.send call (w.ends op call snapname)) (w.send call' (w.ends op call' snapname)) := by
  unfold send
  split
  · exact ⟨rfl, rfl, rfl, rfl⟩
  · cases w.answer with
    | error e => exact ⟨rfl, rfl, rfl, rfl⟩
    | ok upid =>
      dsimp only
      unfold ends waited
      split
      · split
        · exact ⟨rfl, rfl, rfl, rfl⟩
        · exact ⟨rfl, rfl, rfl, rfl⟩
      · exact ⟨rfl, rfl, rfl, rfl⟩

/-- An operation reports the truth exactly when it waits for its task, or the task that it
starts finishes successfully. -/
theorem truthful_iff_waits (w : SnapshotTask) (op : SnapshotOp) (guest : SnapshotGuest)
    (snapname : String) :
    w.Truthful op guest snapname ↔
      op.waits = true ∨ (w.Starts → w.outcome.successful = true) := by
  have hsuccess := success_report w op guest snapname
  constructor
  · intro h
    rw [h.success] at hsuccess
    by_cases hwaits : op.waits = true
    · exact .inl hwaits
    · exact .inr fun hstarts => (hsuccess.mpr ⟨hstarts, fun h => absurd h hwaits⟩).2
  · intro h
    refine ⟨hsuccess.trans (and_congr_right fun hstarts => ?_), fun ty => ?_⟩
    · rcases h with hwaits | hgood
      · exact forall_prop_of_true hwaits
      · exact iff_of_true (fun _ => hgood hstarts) (hgood hstarts)
    · obtain ⟨call, hreport⟩ := report_eq_send w op guest snapname
      obtain ⟨call', hreport'⟩ := report_eq_send w op { guest with vmType := ty } snapname
      rw [hreport, hreport']
      exact send_alike w op call call' snapname

/-- A rollback that Proxmox takes on and that fails. -/
def failedRollback : SnapshotTask where
  connected := true
  answer := .ok "UPID:pve1:00001234:00005678:65000000:qmrollback:100:root@pam:"
  outcome := .ofExit (some "no such snapshot")
  readings := [(0, some ⟨some "stopped", some "no such snapshot"⟩)]
  shows := .stopped [] [] 0 (some "no such snapshot") (fun _ h => absurd h List.not_mem_nil)
    (by decide)
  afterwards := none

/-- The rollback counts as a success. -/
theorem failedRollback_not_truthful :
    ¬failedRollback.Truthful (.rollback false) ⟨.qemu, "pve1", 100⟩ "before-update" := by
  intro h
  have hsuccess : (SnapshotOp.report (.rollback false) failedRollback ⟨.qemu, "pve1", 100⟩
      "before-update").success = true := rfl
  have hfailed : failedRollback.outcome.successful = false := by decide
  exact Bool.false_ne_true (hfailed.symm.trans (h.success.mp hsuccess).2)

end SnapshotTask

end PveManager.Snapshots
