import PveManager.Core.Run
import Mathlib.Data.List.Sort
import PveManager.Models.Records

/-!
# The queue of bulk operations

`TaskQueueService` and the processor that works the queue off. A request cancels a task
in one session while the processor has it in another one: each reads the status first
and writes it later without another look, so the reads and the commits are steps of
their own.
-/

namespace PveManager.Tasks

open PveManager.Core

inductive TaskStatus
  | pending
  | running
  | completed
  | failed
  | cancelled
  deriving DecidableEq, Repr

/-- A guest of a bulk operation. -/
structure BulkItem where
  serverId : ServerId
  vmid : Vmid
  vmType : String := "qemu"
  node : String := ""
  name : String
  targetNode : Option String := none
  online : Bool := false
  deriving DecidableEq

/-- What became of a guest. -/
structure ItemResult where
  serverId : ServerId
  vmid : Vmid
  name : String
  success : Bool
  message : String
  deriving DecidableEq

/-- A row of `task_queue`. -/
structure TaskQueue where
  id : Nat
  taskType : String
  status : TaskStatus
  userId : UserId
  totalItems : Nat
  completedItems : Nat
  failedItems : Nat
  taskData : List BulkItem
  results : List ItemResult
  errorMessage : Option String
  createdAt : Time
  startedAt : Option Time
  completedAt : Option Time
  deriving DecidableEq

abbrev TaskTable := KeyedTable TaskQueue.id

/-- New values for columns of a row, the key apart. -/
structure Update where
  apply : TaskQueue → TaskQueue
  keeps : ∀ t, (apply t).id = t.id

/-- Write one row. -/
def modify (tasks : TaskTable) (id : Nat) (u : Update) : TaskTable :=
  tasks.mapRows (fun t => if t.id = id then u.apply t else t) fun t => by
    split
    · exact u.keeps t
    · rfl

variable {tasks : TaskTable} {id : Nat} {u : Update}

theorem mem_rows_modify {t : TaskQueue} (h : t ∈ (modify tasks id u).rows) :
    ∃ r ∈ tasks.rows, r.id = t.id ∧ (t.id = id ∧ t = u.apply r ∨ t.id ≠ id ∧ t = r) := by
  rw [modify, KeyedTable.rows_mapRows, List.mem_map] at h
  obtain ⟨r, hr, rfl⟩ := h
  by_cases hk : r.id = id
  · rw [if_pos hk]
    have hkeep := u.keeps r
    exact ⟨r, hr, hkeep.symm, Or.inl ⟨hkeep.trans hk, rfl⟩⟩
  · rw [if_neg hk]
    exact ⟨r, hr, rfl, Or.inr ⟨hk, rfl⟩⟩

/-- Writing one row leaves the others as they are. -/
theorem find?_modify_of_ne {k : Nat} (hk : k ≠ id) :
    (modify tasks id u).find? k = tasks.find? k := by
  rw [modify, KeyedTable.find?_mapRows]
  cases h : tasks.find? k with
  | none => rfl
  | some t => simp [tasks.key_of_find? h, hk]

theorem find?_modify_self {t : TaskQueue} (h : tasks.find? id = some t) :
    (modify tasks id u).find? id = some (u.apply t) := by
  rw [modify, KeyedTable.find?_mapRows, h]
  simp [tasks.key_of_find? h]

/-- No row appears and none goes. -/
theorem isSome_find?_modify {k : Nat} :
    ((modify tasks id u).find? k).isSome = (tasks.find? k).isSome := by
  rw [modify, KeyedTable.find?_mapRows, Option.isSome_map]

/-! ### The service -/

/-- `TASK_TYPES`. -/
def taskTypes : List String :=
  ["bulk_start", "bulk_stop", "bulk_restart", "bulk_delete", "bulk_shutdown", "bulk_migrate"]

/-- `create_task` up to the number the database gives the row. -/
def createTask (taskType : String) (userId : UserId) (items : List BulkItem) (id : Nat)
    (now : Time) : Except String TaskQueue :=
  if taskType ∉ taskTypes then .error s!"Invalid task type: {taskType}"
  else if items = [] then .error "No items provided for bulk operation"
  else .ok
    { id := id, taskType := taskType, status := .pending, userId := userId
      totalItems := items.length, completedItems := 0, failedItems := 0, taskData := items
      results := [], errorMessage := none, createdAt := now, startedAt := none, completedAt := none }

/-- `get_pending_tasks`, oldest first. -/
def getPendingTasks (tasks : TaskTable) : List TaskQueue :=
  (tasks.rows.filter fun t => decide (t.status = .pending)).insertionSort
    fun a b => a.createdAt ≤ b.createdAt

/-- `get_running_tasks`. -/
def getRunningTasks (tasks : TaskTable) : List TaskQueue :=
  tasks.rows.filter fun t => decide (t.status = .running)

/-- The query of `cancel_task`. -/
def findCancellable (tasks : TaskTable) (taskId : Nat) (userId : UserId) : Option TaskQueue :=
  (tasks.find? taskId).filter fun t => decide (t.userId = userId ∧ t.status = .pending)

/-- What `cancel_task` writes. -/
def TaskQueue.cancel (t : TaskQueue) (now : Time) : TaskQueue :=
  { t with status := .cancelled, completedAt := some now }

/-! ### The processor -/

/-- `action_map`. -/
def actionMap (taskType : String) : Option String :=
  [("bulk_start", "start"), ("bulk_stop", "stop"), ("bulk_restart", "restart"),
    ("bulk_shutdown", "shutdown"), ("bulk_delete", "delete"), ("bulk_migrate", "migrate")].lookup
    taskType

/-- A request to a guest; `online` matters for a migration only. -/
structure VmCall where
  container : Bool
  action : String
  node : String
  vmid : Vmid
  targetNode : Option String
  online : Bool

/-- What the processor finds for one guest. -/
structure ItemWorld where
  /-- A client for the server can be had. -/
  connects : Bool
  answer : VmCall → Except String Unit

/-- `_execute_vm_action`. -/
def executeVmAction (w : ItemWorld) (action : String) (item : BulkItem) : Bool × String :=
  let call : VmCall :=
    ⟨decide (item.vmType = "lxc"), action, item.node, item.vmid, item.targetNode, item.online⟩
  if action ∉ ["start", "stop", "restart", "shutdown", "delete", "migrate"] then
    (false, s!"Unknown action: {action}")
  else if action = "migrate" ∧ truthy item.targetNode = false then
    (false, "target_node is required")
  else
    match w.answer call with
    | .ok () => (true, "OK")
    | .error e => (false, e)

/-- The result of one guest. -/
def processItem (w : ItemWorld) (action : String) (item : BulkItem) : ItemResult :=
  let outcome :=
    if w.connects then executeVmAction w action item
    else (false, "Failed to connect to Proxmox server")
  ⟨item.serverId, item.vmid, item.name, outcome.1, outcome.2⟩

/-- Where the processor is. -/
inductive Worker
  | idle
  /-- `process_pending_tasks` has chosen the task. -/
  | picked (id : Nat)
  /-- `process_task` has found the task pending. -/
  | found (id : Nat)
  /-- The task is marked as running. -/
  | working (id : Nat) (action : Option String) (rest : List BulkItem) (results : List ItemResult)
  /-- A guest is done, and its result is not in the row yet. -/
  | ran (id : Nat) (action : String) (rest : List BulkItem) (results : List ItemResult)
    (result : ItemResult)

/-- The task that the processor has checked and not let go of. -/
def Worker.holds (w : Worker) (id : Nat) : Prop :=
  match w with
  | .found id' => id' = id
  | .working id' _ _ _ => id' = id
  | .ran id' _ _ _ _ => id' = id
  | .idle | .picked _ => False

/-! ### The system -/

/-- The table, the processor and the cancellations between their query and their commit. -/
structure State where
  tasks : TaskTable
  nextId : Nat
  worker : Worker
  cancels : List Nat
  /-- The tasks for which `cancel_task` has returned true. -/
  returned : List Nat
  /-- The tasks of which a guest was processed after that. -/
  late : List Nat

inductive Event
  | create (taskType : String) (userId : UserId) (items : List BulkItem) (now : Time)
  /-- `cancel_task` queries the task. -/
  | cancelQuery (taskId : Nat) (userId : UserId)
  /-- One of the calls that found its task commits and returns true. -/
  | cancelCommit (i : Nat) (now : Time)
  /-- `process_pending_tasks`. -/
  | pick
  /-- `process_task` queries the task again. -/
  | query
  | start (now : Time)
  /-- The next guest is processed. -/
  | item (w : ItemWorld)
  /-- Its result is written. -/
  | report
  | finish (now : Time)
  /-- An exception ends `process_task`; its handler may fail to write. -/
  | crash (error : String) (writes : Bool) (now : Time)

/-- The first pending task, unless one is running. -/
def pickTask (tasks : TaskTable) : Worker :=
  match getPendingTasks tasks, getRunningTasks tasks with
  | t :: _, [] => .picked t.id
  | _, _ => .idle

/-- The row when its guest is done. -/
def TaskQueue.progress (t : TaskQueue) (results : List ItemResult) (success : Bool) : TaskQueue :=
  { t with
    completedItems := if success then t.completedItems + 1 else t.completedItems
    failedItems := if success then t.failedItems else t.failedItems + 1
    results := results }

namespace State

variable (s : State)

/-- `create_task`. -/
def create (taskType : String) (userId : UserId) (items : List BulkItem) (now : Time) : State :=
  match createTask taskType userId items s.nextId now with
  | .error _ => s
  | .ok t => { s with tasks := s.tasks.save t, nextId := s.nextId + 1 }

def cancelQuery (taskId : Nat) (userId : UserId) : State :=
  match findCancellable s.tasks taskId userId with
  | none => s
  | some t => { s with cancels := t.id :: s.cancels }

def cancelCommit (i : Nat) (now : Time) : State :=
  match s.cancels[i]? with
  | none => s
  | some id =>
    { s with
      tasks := modify s.tasks id ⟨fun t => t.cancel now, fun _ => rfl⟩
      cancels := s.cancels.eraseIdx i
      returned := id :: s.returned }

/-- `process_pending_tasks` up to the call of `process_task`. -/
def pick : State :=
  match s.worker with
  | .idle => { s with worker := pickTask s.tasks }
  | _ => s

/-- The check with which `process_task` begins. -/
def query : State :=
  match s.worker with
  | .picked id =>
    match s.tasks.find? id with
    | none => { s with worker := .idle }
    | some t => { s with worker := if t.status = .pending then .found id else .idle }
  | _ => s

def start (now : Time) : State :=
  match s.worker with
  | .found id =>
    match s.tasks.find? id with
    | none => { s with worker := .idle }
    | some t =>
      { s with
        tasks := modify s.tasks id
          ⟨fun t => { t with status := .running, startedAt := some now }, fun _ => rfl⟩
        worker := .working id (actionMap t.taskType) t.taskData [] }
  | _ => s

def item (w : ItemWorld) : State :=
  match s.worker with
  | .working id (some action) (item :: rest) results =>
    { s with
      worker := .ran id action rest results (processItem w action item)
      late := if id ∈ s.returned then id :: s.late else s.late }
  | _ => s

def report : State :=
  match s.worker with
  | .ran id action rest results result =>
    { s with
      tasks := modify s.tasks id
        ⟨fun t => t.progress (results ++ [result]) result.success, fun _ => rfl⟩
      worker := .working id (some action) rest (results ++ [result]) }
  | _ => s

/-- The last write: an unknown type fails the task, the end of the list completes it. -/
def finish (now : Time) : State :=
  match s.worker with
  | .working id none _ _ =>
    { s with
      tasks := modify s.tasks id
        ⟨fun t =>
          { t with status := .failed, completedAt := some now
                   errorMessage := some ("Unknown task type: " ++ t.taskType) }, fun _ => rfl⟩
      worker := .idle }
  | .working id (some _) [] _ =>
    { s with
      tasks := modify s.tasks id
        ⟨fun t => { t with status := .completed, completedAt := some now }, fun _ => rfl⟩
      worker := .idle }
  | _ => s

/-- The handler of `process_task` for everything that is raised in it. -/
def crash (error : String) (writes : Bool) (now : Time) : State :=
  match s.worker with
  | .found id | .working id _ _ _ | .ran id _ _ _ _ =>
    { s with
      tasks := if writes then
          modify s.tasks id
            ⟨fun t =>
              { t with status := .failed, errorMessage := some error, completedAt := some now },
              fun _ => rfl⟩
        else s.tasks
      worker := .idle }
  | .picked _ | .idle => { s with worker := .idle }

end State

def step (s : State) : Event → State
  | .create taskType userId items now => s.create taskType userId items now
  | .cancelQuery taskId userId => s.cancelQuery taskId userId
  | .cancelCommit i now => s.cancelCommit i now
  | .pick => s.pick
  | .query => s.query
  | .start now => s.start now
  | .item w => s.item w
  | .report => s.report
  | .finish now => s.finish now
  | .crash error writes now => s.crash error writes now

end PveManager.Tasks
