import PveManager.Tasks.Queue

/-!
# Accounts of bulk operations

Every guest that a task has acted on has a result, and every result is counted, whatever fails.
An exception that leaves the session usable fails its task. After one from the database the
session takes no statement until it is rolled back, which the handler does not do, so the task
stays as it was.
-/

namespace PveManager.Tasks

open PveManager.Core

/-! ### Interruptions -/

/-- What is raised in `process_task`. -/
inductive Cause
  /-- A statement or a commit of the session has failed. -/
  | session (error : String)
  /-- Anything else, with the outcome of the commit in the handler. -/
  | other (error : String) (commits : Bool)

def Cause.error : Cause → String
  | .session error => error
  | .other error _ => error

/-- The handler can write after the exception. -/
def Cause.writes : Cause → Bool
  | .session _ => false
  | .other _ commits => commits

/-- The handler writes. Only reading an item raises anything but an error of the session. -/
def Worker.recovers (w : Worker) (cause : Cause) : Bool :=
  match w with
  | .working _ _ _ _ => cause.writes
  | _ => false

/-- The task that an exception interrupts. -/
def Worker.task : Worker → Option Nat
  | .found id => some id
  | .working id _ _ _ => some id
  | .ran id _ _ _ _ => some id
  | .idle | .picked _ => none

/-- The guest that is next. -/
def Worker.next : Worker → List (Nat × BulkItem)
  | .working id (some _) (item :: _) _ => [(id, item)]
  | _ => []

/-- A running task after a restart. -/
def TaskQueue.interrupt (t : TaskQueue) (now : Time) : TaskQueue :=
  if t.status = .running then
    { t with
      status := .failed
      errorMessage := some "Interrupted by backend restart"
      completedAt := some now }
  else t

theorem id_interrupt (now : Time) (t : TaskQueue) : (t.interrupt now).id = t.id := by
  unfold TaskQueue.interrupt
  split <;> rfl

/-- `recover_interrupted_tasks`: the table, and how many tasks it has failed. -/
def recoverInterruptedTasks (tasks : TaskTable) (commits : Bool) (now : Time) : TaskTable × Nat :=
  let stuck := getRunningTasks tasks
  if stuck.isEmpty || !commits then (tasks, 0)
  else (tasks.mapRows (fun t => t.interrupt now) (id_interrupt now), stuck.length)

/-- A new process, which begins with the recovery. -/
def State.restart (s : State) (commits : Bool) (now : Time) : State :=
  { s with
    tasks := (recoverInterruptedTasks s.tasks commits now).1
    worker := .idle
    cancels := [] }

/-! ### Runs -/

/-- The queue with what has been done. -/
structure Ledger where
  queue : State
  /-- The guests that were acted on, with their tasks. -/
  acts : List (Nat × BulkItem)
  /-- The tasks that were interrupted. -/
  interrupted : List Nat

inductive BulkEvent
  | create (taskType : String) (userId : UserId) (items : List BulkItem) (now : Time)
  | pick
  | query
  | start (now : Time)
  | item (w : ItemWorld)
  | report
  | finish (now : Time)
  /-- An exception in `process_task`; those of a broadcast are caught where it is made. -/
  | raised (cause : Cause) (now : Time)
  | restart (commits : Bool) (now : Time)

namespace Ledger

def step (l : Ledger) : BulkEvent → Ledger
  | .create taskType userId items now =>
    { l with queue := l.queue.create taskType userId items now }
  | .pick => { l with queue := l.queue.pick }
  | .query => { l with queue := l.queue.query }
  | .start now => { l with queue := l.queue.start now }
  | .item w =>
    { l with
      queue := l.queue.item w
      acts := l.acts ++ l.queue.worker.next }
  | .report => { l with queue := l.queue.report }
  | .finish now => { l with queue := l.queue.finish now }
  | .raised cause now =>
    { l with
      queue := l.queue.crash cause.error (l.queue.worker.recovers cause) now
      interrupted := l.queue.worker.task.toList ++ l.interrupted }
  | .restart commits now =>
    { l with
      queue := l.queue.restart commits now
      interrupted := (getRunningTasks l.queue.tasks).map TaskQueue.id ++ l.interrupted }

end Ledger

/-- The guests of a task that were acted on, in order. -/
def actsOf (id : Nat) (acts : List (Nat × BulkItem)) : List BulkItem :=
  (acts.filter fun p => decide (p.1 = id)).map Prod.snd

/-- The account of one task is right. -/
structure RowSound (acts : List (Nat × BulkItem)) (t : TaskQueue) : Prop where
  sum : t.completedItems + t.failedItems = t.results.length
  /-- Each guest at most once, and in order. -/
  order : actsOf t.id acts <+: t.taskData
  fresh : t.status = .pending → t.results = [] ∧ actsOf t.id acts = []
  full : t.status = .completed → t.results.length = t.taskData.length

/-- The task has failed, and the processor has nothing to do with it. -/
def Ledger.Ended (l : Ledger) (id : Nat) : Prop :=
  (∃ t, l.queue.tasks.find? id = some t ∧ t.status = .failed) ∧ ¬l.queue.worker.holds id ∧
    l.queue.worker ≠ .picked id

/-- All accounts are right, and every interrupted task has ended. -/
structure Ledger.Accounted (l : Ledger) : Prop where
  rows : ∀ t ∈ l.queue.tasks.rows, RowSound l.acts t
  ended : ∀ id ∈ l.interrupted, l.Ended id

/-- An interruption of a task finds a session or a database that takes its failure. -/
def Ledger.Answered (l : Ledger) : BulkEvent → Prop
  | .raised cause _ => ∀ id, l.queue.worker.holds id → l.queue.worker.recovers cause = true
  | .restart commits _ => ∀ t ∈ l.queue.tasks.rows, t.status = .running → commits = true
  | _ => True

/-! ### The invariant -/

/-- What the processor knows is in the table and in the acts. -/
def Worker.Follows (w : Worker) (tasks : TaskTable) (acts : List (Nat × BulkItem)) : Prop :=
  match w with
  | .idle | .picked _ => True
  | .found id => ∃ t, tasks.find? id = some t ∧ t.status = .pending
  | .working id _ rest results => ∃ t, tasks.find? id = some t ∧ t.status = .running ∧
      t.results = results ∧ t.taskData = actsOf id acts ++ rest ∧
      results.length = (actsOf id acts).length
  | .ran id _ rest results _ => ∃ t, tasks.find? id = some t ∧ t.status = .running ∧
      t.results = results ∧ t.taskData = actsOf id acts ++ rest ∧
      results.length + 1 = (actsOf id acts).length

/-- What every step keeps. -/
structure Ledger.Sound (l : Ledger) : Prop where
  rows : ∀ t ∈ l.queue.tasks.rows, RowSound l.acts t
  below : ∀ t ∈ l.queue.tasks.rows, t.id < l.queue.nextId
  known : ∀ p ∈ l.acts, p.1 < l.queue.nextId
  follows : l.queue.worker.Follows l.queue.tasks l.acts

section Rows

variable {tasks tasks' : TaskTable} {acts : List (Nat × BulkItem)} {id : Nat} {u : Update}
  {t : TaskQueue}

theorem actsOf_append {more : List (Nat × BulkItem)} :
    actsOf id (acts ++ more) = actsOf id acts ++ actsOf id more := by
  unfold actsOf
  rw [List.filter_append, List.map_append]

theorem actsOf_singleton {id' : Nat} {item : BulkItem} :
    actsOf id [(id', item)] = if id' = id then [item] else [] := by
  unfold actsOf
  by_cases h : id' = id
  · simp [h]
  · simp [h]

theorem actsOf_eq_nil (h : ∀ p ∈ acts, p.1 ≠ id) : actsOf id acts = [] := by
  unfold actsOf
  rw [List.filter_eq_nil_iff.mpr fun p hp => by simpa using h p hp]
  rfl

/-- Acts of other tasks do not matter to an account. -/
theorem RowSound.congr {acts' : List (Nat × BulkItem)} (h : RowSound acts t)
    (hacts : actsOf t.id acts' = actsOf t.id acts) : RowSound acts' t where
  sum := h.sum
  order := hacts ▸ h.order
  fresh hp := by
    rw [hacts]
    exact h.fresh hp
  full := h.full

/-- A task that ends without a result more keeps its account. -/
theorem RowSound.fail (h : RowSound acts t) {t' : TaskQueue} (hid : t'.id = t.id)
    (hdata : t'.taskData = t.taskData) (hresults : t'.results = t.results)
    (hcounts : t'.completedItems = t.completedItems ∧ t'.failedItems = t.failedItems)
    (hstatus : t'.status = .running ∨ t'.status = .failed) : RowSound acts t' where
  sum := by rw [hcounts.1, hcounts.2, hresults]; exact h.sum
  order := by rw [hid, hdata]; exact h.order
  fresh hp := by
    rw [hp] at hstatus
    rcases hstatus with hstatus | hstatus <;> cases hstatus
  full hc := by
    rw [hc] at hstatus
    rcases hstatus with hstatus | hstatus <;> cases hstatus

/-- Writing one row keeps all accounts when it keeps that one. -/
theorem rowSound_modify (h : ∀ r ∈ tasks.rows, RowSound acts r)
    (hrow : ∀ r ∈ tasks.rows, r.id = id → RowSound acts (u.apply r)) :
    ∀ t ∈ (modify tasks id u).rows, RowSound acts t := by
  intro t ht
  obtain ⟨r, hr, hid, ⟨heq, rfl⟩ | ⟨-, rfl⟩⟩ := mem_rows_modify ht
  · exact hrow r hr (hid.trans heq)
  · exact h t hr

theorem below_modify {bound : Nat} (h : ∀ r ∈ tasks.rows, r.id < bound) :
    ∀ t ∈ (modify tasks id u).rows, t.id < bound := by
  intro t ht
  obtain ⟨r, hr, hid, -⟩ := mem_rows_modify ht
  exact hid ▸ h r hr

/-- The row of a number in the table is the found one. -/
theorem eq_of_find? {r : TaskQueue} (ht : tasks.find? id = some t) (hr : r ∈ tasks.rows)
    (hid : r.id = id) : r = t := by
  have hfind : tasks.find? r.id = some r := tasks.find?_key hr
  rw [hid, ht] at hfind
  exact (Option.some.inj hfind).symm

end Rows

section Steps

variable {l : Ledger} {id : Nat}

/-- A task is created with no results. -/
theorem fresh_of_createTask {taskType : String} {userId : UserId} {items : List BulkItem}
    {now : Time} {row : TaskQueue} (h : createTask taskType userId items id now = .ok row) :
    row.id = id ∧ row.status = .pending ∧ row.results = [] ∧ row.completedItems = 0 ∧
      row.failedItems = 0 := by
  unfold createTask at h
  split at h
  · cases h
  · split at h
    · cases h
    · cases h
      exact ⟨rfl, rfl, rfl, rfl, rfl⟩

/-- A new task has no acts. -/
theorem Ledger.Sound.actsOf_nextId (h : l.Sound) : actsOf l.queue.nextId l.acts = [] :=
  actsOf_eq_nil fun p hp => Nat.ne_of_lt (h.known p hp)

/-- A row that is saved under a new number does not hide the found ones. -/
theorem Ledger.Sound.find?_save (h : l.Sound) {t row : TaskQueue} (hrow : row.id = l.queue.nextId)
    (ht : l.queue.tasks.find? id = some t) : (l.queue.tasks.save row).find? id = some t := by
  have hlt : id < l.queue.nextId :=
    l.queue.tasks.key_of_find? ht ▸ h.below t (l.queue.tasks.mem_of_find? ht)
  rw [KeyedTable.find?_save, if_neg (hrow ▸ Nat.ne_of_gt hlt)]
  exact ht

theorem Ledger.Sound.create (h : l.Sound) (taskType : String) (userId : UserId)
    (items : List BulkItem) (now : Time) : (l.step (.create taskType userId items now)).Sound := by
  cases hcreate : createTask taskType userId items l.queue.nextId now with
  | error e =>
    have hsame : l.queue.create taskType userId items now = l.queue := by
      unfold State.create
      rw [hcreate]
    have hstep : l.step (.create taskType userId items now) = { l with
      queue := l.queue.create taskType userId items now } := rfl
    rw [hstep, hsame]
    exact h
  | ok row =>
    obtain ⟨hid, hstatus, hresults, hcompleted, hfailed⟩ := fresh_of_createTask hcreate
    have hnil : actsOf row.id l.acts = [] := hid ▸ h.actsOf_nextId
    have hqueue : l.queue.create taskType userId items now = { l.queue with
        tasks := l.queue.tasks.save row
        nextId := l.queue.nextId + 1 } := by
      unfold State.create
      rw [hcreate]
    have hstep : l.step (.create taskType userId items now) = { l with
      queue := l.queue.create taskType userId items now } := rfl
    rw [hstep, hqueue]
    refine ⟨fun t ht => ?_, fun t ht => ?_, fun p hp => Nat.lt_succ_of_lt (h.known p hp), ?_⟩
    · rcases (l.queue.tasks.mem_rows_save row t).mp ht with rfl | ⟨hold, -⟩
      · refine ⟨by rw [hcompleted, hfailed, hresults]; rfl, ?_, fun _ => ⟨hresults, hnil⟩, ?_⟩
        · rw [hnil]
          exact List.nil_prefix
        · rw [hstatus]
          exact fun hc => by cases hc
      · exact h.rows t hold
    · rcases (l.queue.tasks.mem_rows_save row t).mp ht with rfl | ⟨hold, -⟩
      · exact hid ▸ Nat.lt_succ_self _
      · exact Nat.lt_succ_of_lt (h.below t hold)
    · have hfollows := h.follows
      cases hworker : l.queue.worker with
      | idle => trivial
      | picked id => trivial
      | found id =>
        rw [hworker] at hfollows
        obtain ⟨t, ht, hrest⟩ := hfollows
        exact ⟨t, h.find?_save hid ht, hrest⟩
      | working id action rest results =>
        rw [hworker] at hfollows
        obtain ⟨t, ht, hrest⟩ := hfollows
        exact ⟨t, h.find?_save hid ht, hrest⟩
      | ran id action rest results result =>
        rw [hworker] at hfollows
        obtain ⟨t, ht, hrest⟩ := hfollows
        exact ⟨t, h.find?_save hid ht, hrest⟩

theorem Ledger.Sound.pick (h : l.Sound) : (l.step .pick).Sound := by
  unfold Ledger.step State.pick
  dsimp only
  split
  · refine ⟨h.rows, h.below, h.known, ?_⟩
    unfold pickTask
    dsimp only
    split <;> trivial
  · exact h

theorem Ledger.Sound.query (h : l.Sound) : (l.step .query).Sound := by
  unfold Ledger.step State.query
  dsimp only
  split
  · split
    · exact ⟨h.rows, h.below, h.known, trivial⟩
    · rename_i id hworker _ t ht
      refine ⟨h.rows, h.below, h.known, ?_⟩
      dsimp only
      split
      · rename_i hpending
        exact ⟨t, ht, hpending⟩
      · trivial
  · exact h

theorem Ledger.Sound.start (h : l.Sound) (now : Time) : (l.step (.start now)).Sound := by
  have hfollows := h.follows
  unfold Ledger.step State.start
  dsimp only
  cases hworker : l.queue.worker with
  | found id =>
    rw [hworker] at hfollows
    obtain ⟨t, ht, hpending⟩ := hfollows
    dsimp only
    rw [ht]
    obtain ⟨hresults, hnil⟩ := (h.rows t (l.queue.tasks.mem_of_find? ht)).fresh hpending
    rw [l.queue.tasks.key_of_find? ht] at hnil
    refine ⟨rowSound_modify h.rows fun r hr _ => ?_, below_modify h.below, h.known, ?_⟩
    · exact (h.rows r hr).fail rfl rfl rfl ⟨rfl, rfl⟩ (Or.inl rfl)
    · refine ⟨_, find?_modify_self ht, rfl, hresults, ?_, ?_⟩
      · rw [hnil]
        rfl
      · rw [hnil]
        rfl
  | idle => exact h
  | picked id => exact h
  | working id action rest results => exact h
  | ran id action rest results result => exact h

/-- Either there is a guest that is next, or nothing happens. -/
theorem next_cases (s : State) (w : ItemWorld) :
    s.worker.next = [] ∧ s.item w = s ∨ ∃ id action item rest results,
      s.worker = .working id (some action) (item :: rest) results := by
  unfold State.item
  cases hworker : s.worker with
  | working id action rest results =>
    cases action with
    | none => exact Or.inl ⟨rfl, rfl⟩
    | some action =>
      cases rest with
      | nil => exact Or.inl ⟨rfl, rfl⟩
      | cons item rest => exact Or.inr ⟨id, action, item, rest, results, rfl⟩
  | idle => exact Or.inl ⟨rfl, rfl⟩
  | picked id => exact Or.inl ⟨rfl, rfl⟩
  | found id => exact Or.inl ⟨rfl, rfl⟩
  | ran id action rest results result => exact Or.inl ⟨rfl, rfl⟩

theorem Ledger.Sound.item (h : l.Sound) (w : ItemWorld) : (l.step (.item w)).Sound := by
  have hstep : l.step (.item w) = { l with
    queue := l.queue.item w
    acts := l.acts ++ l.queue.worker.next } := rfl
  rcases next_cases l.queue w with ⟨hnext, hsame⟩ | ⟨id, action, item, rest, results, hworker⟩
  · rw [hstep, hsame, hnext, List.append_nil]
    exact h
  · have hfollows := h.follows
    rw [hworker] at hfollows
    obtain ⟨t, ht, hrunning, hresults, hdata, hlength⟩ := hfollows
    have hqueue : l.queue.item w = { l.queue with
        worker := .ran id action rest results (processItem w action item)
        late := if id ∈ l.queue.returned then id :: l.queue.late else l.queue.late } := by
      unfold State.item
      rw [hworker]
    have hnext : l.queue.worker.next = [(id, item)] := by rw [hworker, Worker.next]
    have hacts : actsOf id (l.acts ++ [(id, item)]) = actsOf id l.acts ++ [item] := by
      rw [actsOf_append, actsOf_singleton, if_pos rfl]
    have hid : t.id = id := l.queue.tasks.key_of_find? ht
    have hsplit : t.taskData = actsOf id (l.acts ++ [(id, item)]) ++ rest := by
      rw [hacts, List.append_assoc]
      exact hdata
    rw [hstep, hqueue, hnext]
    refine ⟨fun r hr => ?_, h.below, fun p hp => ?_, t, ht, hrunning, hresults, hsplit, ?_⟩
    · by_cases heq : r.id = id
      · have hsame := eq_of_find? ht hr heq
        subst hsame
        refine ⟨(h.rows r hr).sum, ?_, fun hp => ?_, (h.rows r hr).full⟩
        · rw [heq, hsplit]
          exact List.prefix_append _ _
        · rw [hrunning] at hp
          cases hp
      · apply (h.rows r hr).congr
        rw [actsOf_append, actsOf_singleton, if_neg (Ne.symm heq), List.append_nil]
    · rcases List.mem_append.mp hp with hp | hp
      · exact h.known p hp
      · rw [List.mem_singleton.mp hp]
        exact hid ▸ h.below t (l.queue.tasks.mem_of_find? ht)
    · rw [hacts, List.length_append, hlength]
      rfl

theorem Ledger.Sound.report (h : l.Sound) : (l.step .report).Sound := by
  have hfollows := h.follows
  unfold Ledger.step State.report
  dsimp only
  cases hworker : l.queue.worker with
  | ran id action rest results result =>
    rw [hworker] at hfollows
    obtain ⟨t, ht, hrunning, hresults, hdata, hlength⟩ := hfollows
    refine ⟨rowSound_modify h.rows fun r hr heq => ?_, below_modify h.below, h.known, ?_⟩
    · have hsame := eq_of_find? ht hr heq
      subst hsame
      have hsum := (h.rows r hr).sum
      refine ⟨?_, (h.rows r hr).order, fun hp => ?_, fun hc => ?_⟩
      · unfold TaskQueue.progress
        dsimp only
        rw [List.length_append, ← hresults, ← hsum, List.length_singleton]
        cases result.success with
        | true => exact Nat.add_right_comm _ _ _
        | false => exact (Nat.add_assoc _ _ _).symm
      · exact absurd (hrunning.symm.trans hp) (by decide)
      · exact absurd (hrunning.symm.trans hc) (by decide)
    · refine ⟨_, find?_modify_self ht, hrunning, rfl, hdata, ?_⟩
      rw [List.length_append]
      exact hlength
  | idle => exact h
  | picked id => exact h
  | found id => exact h
  | working id action rest results => exact h

theorem Ledger.Sound.finish (h : l.Sound) (now : Time) : (l.step (.finish now)).Sound := by
  have hfollows := h.follows
  unfold Ledger.step State.finish
  dsimp only
  cases hworker : l.queue.worker with
  | working id action rest results =>
    rw [hworker] at hfollows
    obtain ⟨t, ht, hrunning, hresults, hdata, hlength⟩ := hfollows
    cases action with
    | none =>
      refine ⟨rowSound_modify h.rows fun r hr _ => ?_, below_modify h.below, h.known, trivial⟩
      exact (h.rows r hr).fail rfl rfl rfl ⟨rfl, rfl⟩ (Or.inr rfl)
    | some action =>
      cases rest with
      | cons item rest => exact h
      | nil =>
        refine ⟨rowSound_modify h.rows fun r hr heq => ?_, below_modify h.below, h.known, trivial⟩
        have hsame := eq_of_find? ht hr heq
        subst hsame
        refine ⟨(h.rows r hr).sum, (h.rows r hr).order, (fun hp => by cases hp), fun _ => ?_⟩
        change r.results.length = r.taskData.length
        rw [hresults, hdata, hlength, List.append_nil]
  | idle => exact h
  | picked id => exact h
  | found id => exact h
  | ran id action rest results result => exact h

/-- The handler writes the task that is held, or nothing. -/
theorem tasks_crash (s : State) (error : String) (writes : Bool) (now : Time) :
    (s.crash error writes now).worker = .idle ∧ (s.crash error writes now).nextId = s.nextId ∧
      ((s.crash error writes now).tasks = s.tasks ∧ (∀ id, s.worker.holds id → writes = false) ∨
        ∃ id u, s.worker.holds id ∧ writes = true ∧
          (s.crash error writes now).tasks = modify s.tasks id u ∧ ∀ t, u.apply t = { t with
            status := .failed
            errorMessage := some error
            completedAt := some now }) := by
  unfold State.crash
  cases hworker : s.worker with
  | idle => exact ⟨rfl, rfl, Or.inl ⟨rfl, fun id hid => hid.elim⟩⟩
  | picked id => exact ⟨rfl, rfl, Or.inl ⟨rfl, fun id hid => hid.elim⟩⟩
  | found id =>
    cases writes with
    | false => exact ⟨rfl, rfl, Or.inl ⟨rfl, fun _ _ => rfl⟩⟩
    | true => exact ⟨rfl, rfl, Or.inr ⟨id, _, rfl, rfl, rfl, fun _ => rfl⟩⟩
  | working id action rest results =>
    cases writes with
    | false => exact ⟨rfl, rfl, Or.inl ⟨rfl, fun _ _ => rfl⟩⟩
    | true => exact ⟨rfl, rfl, Or.inr ⟨id, _, rfl, rfl, rfl, fun _ => rfl⟩⟩
  | ran id action rest results result =>
    cases writes with
    | false => exact ⟨rfl, rfl, Or.inl ⟨rfl, fun _ _ => rfl⟩⟩
    | true => exact ⟨rfl, rfl, Or.inr ⟨id, _, rfl, rfl, rfl, fun _ => rfl⟩⟩

theorem Ledger.Sound.raised (h : l.Sound) (cause : Cause) (now : Time) :
    (l.step (.raised cause now)).Sound := by
  obtain ⟨hidle, hnext, htasks⟩ :=
    tasks_crash l.queue cause.error (l.queue.worker.recovers cause) now
  have hfollows : (l.step (.raised cause now)).queue.worker.Follows
      (l.step (.raised cause now)).queue.tasks l.acts := by
    have hworker : (l.step (.raised cause now)).queue.worker = .idle := hidle
    rw [hworker]
    trivial
  have hknown : ∀ p ∈ l.acts, p.1 < (l.step (.raised cause now)).queue.nextId := by
    intro p hp
    exact Nat.lt_of_lt_of_eq (h.known p hp) hnext.symm
  rcases htasks with ⟨hsame, -⟩ | ⟨id, u, -, -, hmodify, happly⟩
  · refine ⟨fun t ht => h.rows t (hsame ▸ ht), fun t ht => ?_, hknown, hfollows⟩
    exact Nat.lt_of_lt_of_eq (h.below t (hsame ▸ ht)) hnext.symm
  · have hrows : ∀ t ∈ (modify l.queue.tasks id u).rows, RowSound l.acts t := by
      refine rowSound_modify h.rows fun r hr _ => ?_
      rw [happly r]
      exact (h.rows r hr).fail rfl rfl rfl ⟨rfl, rfl⟩ (Or.inr rfl)
    refine ⟨fun t ht => hrows t (hmodify ▸ ht), fun t ht => ?_, hknown, hfollows⟩
    exact Nat.lt_of_lt_of_eq (below_modify h.below t (hmodify ▸ ht)) hnext.symm

theorem RowSound.interrupt {acts : List (Nat × BulkItem)} {t : TaskQueue} (h : RowSound acts t)
    (now : Time) : RowSound acts (t.interrupt now) := by
  unfold TaskQueue.interrupt
  split
  · exact h.fail rfl rfl rfl ⟨rfl, rfl⟩ (Or.inr rfl)
  · exact h

/-- The recovery fails the running tasks, or changes nothing. -/
theorem mem_recover {tasks : TaskTable} {commits : Bool} {now : Time} {t : TaskQueue}
    (h : t ∈ (recoverInterruptedTasks tasks commits now).1.rows) :
    t ∈ tasks.rows ∨ ∃ r ∈ tasks.rows, t = r.interrupt now := by
  unfold recoverInterruptedTasks at h
  dsimp only at h
  split at h
  · exact Or.inl h
  · rw [KeyedTable.rows_mapRows] at h
    obtain ⟨r, hr, rfl⟩ := List.mem_map.mp h
    exact Or.inr ⟨r, hr, rfl⟩

theorem Ledger.Sound.restart (h : l.Sound) (commits : Bool) (now : Time) :
    (l.step (.restart commits now)).Sound := by
  refine ⟨fun t ht => ?_, fun t ht => ?_, h.known, trivial⟩
  · rcases mem_recover ht with hold | ⟨r, hr, rfl⟩
    · exact h.rows t hold
    · exact (h.rows r hr).interrupt now
  · rcases mem_recover ht with hold | ⟨r, hr, rfl⟩
    · exact h.below t hold
    · exact (id_interrupt now r).symm ▸ h.below r hr

/-- Every step keeps the accounts. -/
theorem Ledger.Sound.step (h : l.Sound) (e : BulkEvent) : (l.step e).Sound := by
  cases e with
  | create taskType userId items now => exact h.create taskType userId items now
  | pick => exact h.pick
  | query => exact h.query
  | start now => exact h.start now
  | item w => exact h.item w
  | report => exact h.report
  | finish now => exact h.finish now
  | raised cause now => exact h.raised cause now
  | restart commits now => exact h.restart commits now

end Steps

end PveManager.Tasks
