import Mathlib.Logic.Function.Basic
import PveManager.Core.Apart
import PveManager.Core.Run
import PveManager.Models.Records

/-!
# Polling the Proxmox tasks

The panel keeps a row for every long Proxmox task and asks the nodes every five
seconds how the running ones do. A failed poll is forgiven until three of them
came in a row. The counters live in the worker's memory; the answers of all polls
are kept beside the state, so that a verdict can be held against them.
-/

namespace PveManager.Monitoring

open PveManager.Core

/-- Primary key of a tracked task. -/
abbrev TaskId := Nat

/-- The status column of a tracked task. -/
inductive UpidStatus
  | running
  | completed
  | failed
  deriving DecidableEq, Repr

/-- A Proxmox task tracked by its UPID. -/
structure ProxmoxTask where
  id : TaskId
  upid : String
  serverId : Option ServerId
  userId : UserId
  node : Option String
  status : UpidStatus
  exitStatus : Option String
  logText : Option String
  /-- Null when the task type does not report progress. -/
  progress : Option Nat
  completedAt : Option Time
  deriving DecidableEq, Repr

/-- What Proxmox says about a task. -/
structure TaskStatus where
  status : Option String
  exitstatus : Option String
  deriving DecidableEq, Repr

/-- What became of a poll. The lines of the log are missing where they could not be read. -/
inductive PollResult
  /-- The server is gone or offline, or the client is not connected. -/
  | unreachable
  /-- Something before the status request raised. -/
  | raised
  /-- The status request raised the given text, or answered nothing. -/
  | unread (error : Option String)
  | answered (status : TaskStatus) (log : Option (List String))
  deriving DecidableEq, Repr

/-- Proxmox said how the task does. -/
def PollResult.IsAnswer : PollResult → Prop
  | .answered _ _ => True
  | _ => False

instance : DecidablePred PollResult.IsAnswer
  | .unreachable => isFalse id
  | .raised => isFalse id
  | .unread _ => isFalse id
  | .answered _ _ => isTrue trivial

/-- The node was asked and gave no status. -/
def PollResult.IsUnread : PollResult → Prop
  | .unread _ => True
  | _ => False

instance : DecidablePred PollResult.IsUnread
  | .unreachable => isFalse id
  | .raised => isFalse id
  | .unread _ => isTrue trivial
  | .answered _ _ => isFalse id

/-- The last number of up to three digits in front of a percent sign. -/
def lastPercent (digits : List Char) (spaced : Bool) (last : Option Nat) :
    List Char → Option Nat
  | [] => last
  | c :: cs =>
    if c.isDigit then
      let run := (if spaced then [] else digits) ++ [c]
      lastPercent (run.drop (run.length - 3)) false last cs
    else if isSpace c then lastPercent digits true last cs
    else if c = '%' ∧ digits ≠ [] then
      lastPercent [] false
        (some (digits.foldl (fun n d => 10 * n + (d.toNat - '0'.toNat)) 0)) cs
    else lastPercent [] false last cs

/-- `parse_task_progress`: the last percentage of the log. -/
def parseTaskProgress (logText : String) : Option Nat :=
  (lastPercent [] false none logText.toList).map (min 100)

namespace ProxmoxTask

variable (t : ProxmoxTask)

/-- Take over the log and the progress it shows. -/
def readLog : Option (List String) → ProxmoxTask
  | none => t
  | some lines =>
    let logText := "\n".intercalate lines
    { t with
      logText := some logText
      progress := (parseTaskProgress logText).or t.progress }

/-- The task stopped: only `OK` completes it. -/
def finalise (now : Time) (exitStatus : String) : ProxmoxTask :=
  { t with
    exitStatus := some exitStatus
    status := if exitStatus = "OK" then .completed else .failed
    completedAt := some now
    progress := if exitStatus = "OK" then t.progress.map fun _ => 100 else t.progress }

/-- The row after an answered poll. -/
def readAnswer (now : Time) (status : TaskStatus) (log : Option (List String)) : ProxmoxTask :=
  if status.status.getD "running" = "stopped" then
    (t.readLog log).finalise now (status.exitstatus.getD "")
  else t.readLog log

/-- The row of a task whose status could not be fetched for too long. -/
def giveUp (now : Time) (error : Option String) : ProxmoxTask :=
  { t with
    status := .failed
    exitStatus :=
      some ((if truthy error then error.getD "" else "Invalid UPID").take 200).toString
    completedAt := some now }

@[simp] theorem id_readLog (log : Option (List String)) : (t.readLog log).id = t.id := by
  cases log <;> rfl

@[simp] theorem status_readLog (log : Option (List String)) :
    (t.readLog log).status = t.status := by
  cases log <;> rfl

@[simp] theorem id_giveUp (now : Time) (error : Option String) : (t.giveUp now error).id = t.id :=
  rfl

@[simp] theorem id_readAnswer (now : Time) (status : TaskStatus) (log : Option (List String)) :
    (t.readAnswer now status log).id = t.id := by
  unfold readAnswer
  split
  · exact t.id_readLog log
  · exact t.id_readLog log

/-- An answer fails a running task only when it says stopped and not `OK`. -/
theorem status_readAnswer_eq_failed {now : Time} {status : TaskStatus}
    {log : Option (List String)} (hrun : t.status = .running)
    (h : (t.readAnswer now status log).status = .failed) :
    status.status = some "stopped" ∧ status.exitstatus ≠ some "OK" := by
  unfold readAnswer at h
  split at h
  · rename_i hstop
    constructor
    · cases hs : status.status with
      | none => simp [hs] at hstop
      | some text => simpa [hs] using hstop
    · intro hok
      simp [finalise, hok] at h
  · rw [status_readLog, hrun] at h
    exact absurd h (by decide)

end ProxmoxTask

/-- Three unread polls in a row give a task up. -/
def UPID_FAIL_THRESHOLD : Nat := 3

/-- The worker, its table, and the results of all polls with the newest first. -/
structure UpidSync where
  tasks : KeyedTable ProxmoxTask.id
  /-- The sequence behind the primary key. -/
  nextId : TaskId
  /-- `upid_fail_counts`; a missing entry counts zero. -/
  upidFailCounts : TaskId → Nat
  polls : List (TaskId × PollResult)

/-- What one tick meets. -/
structure UpidTick where
  now : Time
  poll : TaskId → PollResult
  /-- Whether the commit for a task goes through. -/
  commits : TaskId → Bool

/-- The worker inside a tick; after a failed commit its session raises on every query. -/
structure Ticking where
  worker : UpidSync
  broken : Bool

namespace UpidSync

variable (s : UpidSync)

/-- Note a poll and set the counter of its task. -/
def noted (id : TaskId) (r : PollResult) (fails : Nat) : UpidSync :=
  { s with
    upidFailCounts := Function.update s.upidFailCounts id fails
    polls := (id, r) :: s.polls }

/-- Store the row of a task. -/
def stored (t : ProxmoxTask) : UpidSync := { s with tasks := s.tasks.save t }

/-- One task of a tick. -/
def syncTask (k : UpidTick) (x : Ticking) (t : ProxmoxTask) : Ticking :=
  if t.serverId.getD 0 = 0 ∨ truthy t.node = false ∨ x.broken = true then x
  else
    let s := x.worker
    let r := k.poll t.id
    match r with
    | .unreachable => ⟨s.noted t.id r (s.upidFailCounts t.id), false⟩
    | .raised => ⟨s.noted t.id r (s.upidFailCounts t.id), false⟩
    | .unread error =>
      let fails := s.upidFailCounts t.id + 1
      if fails < UPID_FAIL_THRESHOLD then ⟨s.noted t.id r fails, false⟩
      else if k.commits t.id = true then ⟨(s.noted t.id r 0).stored (t.giveUp k.now error), false⟩
      else ⟨s.noted t.id r fails, true⟩
    | .answered status log =>
      if k.commits t.id = true then
        ⟨(s.noted t.id r 0).stored (t.readAnswer k.now status log), false⟩
      else ⟨s.noted t.id r 0, true⟩

/-- The rows a tick loads. -/
def runningTasks : List ProxmoxTask := s.tasks.rows.filter fun t => t.status = .running

/-- `run_upid_task_sync`. -/
def runUpidTaskSync (k : UpidTick) : UpidSync :=
  (s.runningTasks.foldl (syncTask k) ⟨s, false⟩).worker

/-- `ProxmoxTaskService.register`. -/
def register (upid : String) (serverId : ServerId) (userId : UserId) (node : Option String) :
    UpidSync :=
  { s with
    tasks := s.tasks.save
      { id := s.nextId
        upid := upid
        serverId := some serverId
        userId := userId
        node := node
        status := .running
        exitStatus := none
        logText := none
        progress := none
        completedAt := none }
    nextId := s.nextId + 1 }

end UpidSync

/-- What happens to the tracked tasks. -/
inductive UpidEvent
  | tick (k : UpidTick)
  | register (upid : String) (serverId : ServerId) (userId : UserId) (node : Option String)
  /-- The delete endpoint completes the row it registered. -/
  | complete (id : TaskId) (now : Time)
  /-- `clear_completed` of a user. -/
  | clearCompleted (userId : UserId)
  | userDeleted (userId : UserId)
  | serverDeleted (serverId : ServerId)
  /-- The panel restarts and forgets the counters. -/
  | restart

namespace ProxmoxTask

/-- The delete endpoint's mark on a row. -/
def completeIf (id : TaskId) (now : Time) (t : ProxmoxTask) : ProxmoxTask :=
  if t.id = id then
    { t with
      status := .completed
      exitStatus := some "OK"
      completedAt := some now }
  else t

/-- The foreign key of a deleted server becomes null. -/
def dropServer (serverId : ServerId) (t : ProxmoxTask) : ProxmoxTask :=
  { t with serverId := if t.serverId = some serverId then none else t.serverId }

theorem id_completeIf (id : TaskId) (now : Time) (t : ProxmoxTask) :
    (t.completeIf id now).id = t.id := by
  unfold completeIf
  split
  · rfl
  · rfl

theorem id_dropServer (serverId : ServerId) (t : ProxmoxTask) :
    (t.dropServer serverId).id = t.id := rfl

end ProxmoxTask

namespace UpidSync

variable (s : UpidSync)

/-- One event. -/
def next : UpidEvent → UpidSync
  | .tick k => s.runUpidTaskSync k
  | .register upid serverId userId node => s.register upid serverId userId node
  | .complete id now =>
    { s with
      tasks := s.tasks.mapRows (.completeIf id now) (ProxmoxTask.id_completeIf id now) }
  | .clearCompleted userId =>
    { s with tasks := s.tasks.filter fun t => !(t.userId = userId && t.status ≠ .running) }
  | .userDeleted userId => { s with tasks := s.tasks.filter fun t => t.userId ≠ userId }
  | .serverDeleted serverId =>
    { s with
      tasks := s.tasks.mapRows (.dropServer serverId) (ProxmoxTask.id_dropServer serverId) }
  | .restart => { s with upidFailCounts := fun _ => 0 }

/-- The panel as it starts on a table, with a sequence past every key in it. -/
def boot (tasks : KeyedTable ProxmoxTask.id) (used : TaskId) : UpidSync where
  tasks := tasks
  nextId := (tasks.rows.map ProxmoxTask.id).foldl max used + 1
  upidFailCounts := fun _ => 0
  polls := []

/-! ### One task -/

/-- The results of one task's polls, newest first. -/
def pollsOf (id : TaskId) : List PollResult := (s.polls.filter fun p => p.1 = id).map Prod.snd

/-- What the worker holds about one task. -/
structure TaskView where
  row : Option ProxmoxTask
  fails : Nat
  polls : List PollResult

/-- The worker's view of one task. -/
def view (id : TaskId) : TaskView := ⟨s.tasks.find? id, s.upidFailCounts id, s.pollsOf id⟩

/-- The view inside a tick. -/
def viewIn (id : TaskId) (x : Ticking) : TaskView := x.worker.view id

@[simp] theorem view_noted_self (id : TaskId) (r : PollResult) (fails : Nat) :
    (s.noted id r fails).view id = ⟨s.tasks.find? id, fails, r :: s.pollsOf id⟩ := by
  simp [view, noted, pollsOf]

@[simp] theorem view_noted_ne {id other : TaskId} (h : other ≠ id) (r : PollResult)
    (fails : Nat) : (s.noted other r fails).view id = s.view id := by
  simp [view, noted, pollsOf, h, h.symm]

theorem view_stored_self {t : ProxmoxTask} {id : TaskId} (h : t.id = id) (r : PollResult)
    (fails : Nat) :
    ((s.noted id r fails).stored t).view id = ⟨some t, fails, r :: s.pollsOf id⟩ := by
  subst h
  have hrow : (s.tasks.save t).find? t.id = some t := by
    rw [KeyedTable.find?_save, if_pos rfl]
  simp [view, stored, noted, pollsOf, hrow]

@[simp] theorem view_stored_ne {t : ProxmoxTask} {id : TaskId} (h : t.id ≠ id) :
    (s.stored t).view id = s.view id := by
  have hrow : (s.tasks.save t).find? id = s.tasks.find? id := by
    rw [KeyedTable.find?_save, if_neg h]
  simp only [view, stored, hrow]
  rfl

/-- What one poll of a task makes of the view of it. -/
inductive PollStep (t : ProxmoxTask) (v : TaskView) : TaskView → Prop
  | skipped : PollStep t v v
  | missed (r : PollResult) (hr : ¬r.IsAnswer) : PollStep t v ⟨v.row, v.fails, r :: v.polls⟩
  | unread (error : Option String) :
    PollStep t v ⟨v.row, v.fails + 1, .unread error :: v.polls⟩
  | givenUp (now : Time) (error : Option String) (hfails : UPID_FAIL_THRESHOLD ≤ v.fails + 1) :
    PollStep t v ⟨some (t.giveUp now error), 0, .unread error :: v.polls⟩
  | unsaved (status : TaskStatus) (log : Option (List String)) :
    PollStep t v ⟨v.row, 0, .answered status log :: v.polls⟩
  | read (now : Time) (status : TaskStatus) (log : Option (List String)) :
    PollStep t v ⟨some (t.readAnswer now status log), 0, .answered status log :: v.polls⟩

/-- The poll of one task leaves the others alone. -/
theorem view_syncTask_ne (k : UpidTick) (x : Ticking) (t : ProxmoxTask) (id : TaskId)
    (h : t.id ≠ id) : (syncTask k x t).worker.view id = x.worker.view id := by
  unfold syncTask
  split
  · rfl
  · cases k.poll t.id with
    | unreachable => exact view_noted_ne _ h _ _
    | raised => exact view_noted_ne _ h _ _
    | unread error =>
      dsimp only
      split
      · exact view_noted_ne _ h _ _
      · split
        · exact (view_stored_ne _ (by rwa [t.id_giveUp])).trans (view_noted_ne _ h _ _)
        · exact view_noted_ne _ h _ _
    | answered status log =>
      dsimp only
      split
      · exact (view_stored_ne _ (by rwa [t.id_readAnswer])).trans (view_noted_ne _ h _ _)
      · exact view_noted_ne _ h _ _

/-- The poll of a task is one of the steps. -/
theorem view_syncTask_self (k : UpidTick) (x : Ticking) (t : ProxmoxTask) :
    PollStep t (x.worker.view t.id) ((syncTask k x t).worker.view t.id) := by
  unfold syncTask
  split
  · exact .skipped
  · cases k.poll t.id with
    | unreachable =>
      dsimp only
      rw [view_noted_self]
      exact .missed .unreachable id
    | raised =>
      dsimp only
      rw [view_noted_self]
      exact .missed .raised id
    | unread error =>
      dsimp only
      split
      · rw [view_noted_self]
        exact .unread error
      · rename_i hfails
        split
        · rw [view_stored_self _ (t.id_giveUp k.now error)]
          exact .givenUp k.now error (Nat.le_of_not_lt hfails)
        · rw [view_noted_self]
          exact .unread error
    | answered status log =>
      dsimp only
      split
      · rw [view_stored_self _ (t.id_readAnswer k.now status log)]
        exact .read k.now status log
      · rw [view_noted_self]
        exact .unsaved status log

/-- Every task sees at most one poll in a tick. -/
theorem view_runUpidTaskSync (k : UpidTick) (id : TaskId) :
    (s.runUpidTaskSync k).view id = s.view id ∨
      ∃ t, s.tasks.find? id = some t ∧ t.status = .running ∧
        PollStep t (s.view id) ((s.runUpidTaskSync k).view id) := by
  have hnd : (s.runningTasks.map ProxmoxTask.id).Nodup :=
    s.tasks.keys_nodup.sublist (List.filter_sublist.map _)
  have hframe : ∀ (x : Ticking) (t : ProxmoxTask) (id : TaskId), t.id ≠ id →
      viewIn id (syncTask k x t) = viewIn id x :=
    view_syncTask_ne k
  rcases part_foldl hframe ⟨s, false⟩ id hnd with h | ⟨t, ht, rfl, x, hx, h⟩
  · exact Or.inl h
  · obtain ⟨hmem, hrun⟩ := List.mem_filter.mp ht
    refine Or.inr ⟨t, s.tasks.find?_key hmem, of_decide_eq_true hrun, ?_⟩
    have hstep := view_syncTask_self k x t
    change PollStep t (viewIn t.id x) (viewIn t.id (syncTask k x t)) at hstep
    rw [hx, ← h] at hstep
    exact hstep

/-! ### Verdicts -/

/-- The unread polls since the last answer. -/
def unreadSince (polls : List PollResult) : Nat :=
  (polls.takeWhile fun r => !decide r.IsAnswer).countP fun r => r.IsUnread

/-- Reasons to call a task failed: enough unread polls with no answer since, or the answer
that it stopped otherwise than `OK`. -/
def Justified (polls : List PollResult) : Prop :=
  (∃ recent older, polls = recent ++ older ∧ (∀ r ∈ recent, ¬r.IsAnswer) ∧
    UPID_FAIL_THRESHOLD ≤ recent.countP fun r => r.IsUnread) ∨
  ∃ status log older, polls = .answered status log :: older ∧
    status.status = some "stopped" ∧ status.exitstatus ≠ some "OK"

/-- The counter never runs ahead of the polls. -/
def TaskView.Counted (v : TaskView) : Prop := v.fails ≤ unreadSince v.polls

theorem justified_of_le_unreadSince {polls : List PollResult}
    (h : UPID_FAIL_THRESHOLD ≤ unreadSince polls) : Justified polls := by
  refine Or.inl ⟨_, polls.dropWhile fun r => !decide r.IsAnswer,
    List.takeWhile_append_dropWhile.symm, ?_, h⟩
  intro r hr
  simpa using List.all_eq_true.mp List.all_takeWhile r hr

theorem unreadSince_cons_unread (error : Option String) (polls : List PollResult) :
    unreadSince (.unread error :: polls) = unreadSince polls + 1 := by
  unfold unreadSince
  rw [List.takeWhile_cons_of_pos rfl, List.countP_cons_of_pos rfl]

theorem le_unreadSince_cons {r : PollResult} (hr : ¬r.IsAnswer) (polls : List PollResult) :
    unreadSince polls ≤ unreadSince (r :: polls) := by
  unfold unreadSince
  rw [List.takeWhile_cons_of_pos (by simpa using hr)]
  exact (List.sublist_cons_self r _).countP_le

/-- A poll keeps the counter behind the polls. -/
theorem PollStep.counted {t : ProxmoxTask} {v v' : TaskView} (h : PollStep t v v')
    (hv : v.Counted) : v'.Counted := by
  cases h with
  | skipped => exact hv
  | missed r hr => exact Nat.le_trans hv (le_unreadSince_cons hr v.polls)
  | unread error =>
    have hle : v.fails ≤ unreadSince v.polls := hv
    show v.fails + 1 ≤ _
    rw [unreadSince_cons_unread]
    exact Nat.succ_le_succ hle
  | givenUp => exact Nat.zero_le _
  | unsaved => exact Nat.zero_le _
  | read => exact Nat.zero_le _

/-- What a poll does to the row of a running task. -/
theorem PollStep.row {t : ProxmoxTask} {v v' : TaskView} (h : PollStep t v v')
    (hv : v.Counted) (hrun : t.status = .running) :
    v'.row = v.row ∨ ∃ t', v'.row = some t' ∧ (t'.status = .failed → Justified v'.polls) := by
  cases h with
  | skipped => exact Or.inl rfl
  | missed r hr => exact Or.inl rfl
  | unread error => exact Or.inl rfl
  | givenUp now error hfails =>
    refine Or.inr ⟨t.giveUp now error, rfl, fun _ => justified_of_le_unreadSince ?_⟩
    rw [unreadSince_cons_unread]
    exact Nat.le_trans hfails (Nat.succ_le_succ hv)
  | unsaved status log => exact Or.inl rfl
  | read now status log =>
    refine Or.inr ⟨t.readAnswer now status log, rfl, fun hfailed => Or.inr ?_⟩
    exact ⟨status, log, v.polls, rfl, t.status_readAnswer_eq_failed hrun hfailed⟩

/-! ### Runs -/

/-- What holds of the worker in every run. -/
structure Inv : Prop where
  counted : ∀ id, (s.view id).Counted
  fresh : ∀ t ∈ s.tasks.rows, t.id < s.nextId

/-- How the row of a task may follow from the row before. -/
inductive Follows (s' : UpidSync) (id : TaskId) : Option ProxmoxTask → ProxmoxTask → Prop
  | same (t t' : ProxmoxTask) (h : t'.status = t.status) : Follows s' id (some t) t'
  | polled (t t' : ProxmoxTask) (hrun : t.status = .running)
    (h : t'.status = .failed → Justified (s'.pollsOf id)) : Follows s' id (some t) t'
  | completed (t t' : ProxmoxTask) (h : t'.status = .completed) : Follows s' id (some t) t'
  | registered (old : Option ProxmoxTask) (t' : ProxmoxTask) (hid : id = s.nextId)
    (hused : s.nextId < s'.nextId) (h : t'.status = .running) : Follows s' id old t'

variable {s}

/-- Every row after an event follows from the row before. -/
theorem Inv.follows (hs : s.Inv) (e : UpidEvent) {id : TaskId} {t' : ProxmoxTask}
    (h : (s.next e).tasks.find? id = some t') :
    Follows s (s.next e) id (s.tasks.find? id) t' := by
  cases e with
  | tick k =>
    rcases s.view_runUpidTaskSync k id with hview | ⟨t, ht, hrun, hstep⟩
    · have hrow : (s.runUpidTaskSync k).tasks.find? id = s.tasks.find? id :=
        congrArg TaskView.row hview
      rw [← hrow]
      refine h ▸ ?_
      exact .same t' t' rfl
    · rw [ht]
      rcases hstep.row (hs.counted id) hrun with hrow | ⟨t'', hrow, hjust⟩
      · have heq : some t' = some t := h.symm.trans (Eq.trans hrow ht)
        exact .same t t' (congrArg ProxmoxTask.status (Option.some.inj heq))
      · have heq : some t' = some t'' := h.symm.trans hrow
        rw [Option.some.inj heq]
        exact .polled t t'' hrun hjust
  | register upid serverId userId node =>
    rw [next, register, KeyedTable.find?_save] at h
    split at h
    · rename_i hid
      cases h
      exact .registered _ _ hid.symm (Nat.lt_succ_self _) rfl
    · rw [h]
      exact .same t' t' rfl
  | complete id' now =>
    rw [next, KeyedTable.find?_mapRows, Option.map_eq_some_iff] at h
    obtain ⟨t, ht, rfl⟩ := h
    rw [ht]
    unfold ProxmoxTask.completeIf
    split
    · exact .completed _ _ rfl
    · exact .same _ _ rfl
  | clearCompleted userId =>
    rw [next, KeyedTable.find?_filter, Option.filter_eq_some_iff] at h
    rw [h.1]
    exact .same t' t' rfl
  | userDeleted userId =>
    rw [next, KeyedTable.find?_filter, Option.filter_eq_some_iff] at h
    rw [h.1]
    exact .same t' t' rfl
  | serverDeleted serverId =>
    rw [next, KeyedTable.find?_mapRows, Option.map_eq_some_iff] at h
    obtain ⟨t, ht, rfl⟩ := h
    rw [ht]
    exact .same _ _ rfl
  | restart =>
    have ht : s.tasks.find? id = some t' := h
    rw [ht]
    exact .same t' t' rfl

/-- A tick draws no key. -/
theorem nextId_runUpidTaskSync (k : UpidTick) : (s.runUpidTaskSync k).nextId = s.nextId := by
  have hkeep : ∀ (x : Ticking) (t : ProxmoxTask),
      (syncTask k x t).worker.nextId = x.worker.nextId := by
    intro x t
    unfold syncTask
    split
    · rfl
    · cases k.poll t.id with
      | unreachable => rfl
      | raised => rfl
      | unread error =>
        dsimp only
        split
        · rfl
        · split
          · rfl
          · rfl
      | answered status log =>
        dsimp only
        split
        · rfl
        · rfl
  exact List.foldlRecOn (motive := fun x : Ticking => x.worker.nextId = s.nextId) _ _ rfl
    fun x hx t _ => (hkeep x t).trans hx

theorem nextId_le_next (e : UpidEvent) : s.nextId ≤ (s.next e).nextId := by
  cases e with
  | tick k => exact Nat.le_of_eq (s.nextId_runUpidTaskSync k).symm
  | register => exact Nat.le_succ _
  | _ => exact Nat.le_refl _

/-- The counters follow their polls in every event. -/
theorem Inv.next_counted (hs : s.Inv) (e : UpidEvent) (id : TaskId) :
    ((s.next e).view id).Counted := by
  cases e with
  | tick k =>
    rcases s.view_runUpidTaskSync k id with hview | ⟨t, _, _, hstep⟩
    · rw [next, hview]
      exact hs.counted id
    · exact hstep.counted (hs.counted id)
  | restart => exact Nat.zero_le _
  | _ => exact hs.counted id

/-- Every event keeps the invariant. -/
theorem Inv.next (hs : s.Inv) (e : UpidEvent) : (s.next e).Inv where
  counted := hs.next_counted e
  fresh := by
    intro t' ht'
    have hf := hs.follows e ((s.next e).tasks.find?_key ht')
    have hold : ∀ t, s.tasks.find? t'.id = some t → t'.id < (s.next e).nextId := by
      intro t ht
      obtain ⟨hm, hid⟩ := s.tasks.find?_eq_some_iff.mp ht
      exact hid ▸ Nat.lt_of_lt_of_le (hs.fresh t hm) (nextId_le_next e)
    generalize s.tasks.find? t'.id = before at hf hold
    cases hf with
    | same t _ => exact hold t rfl
    | polled t _ => exact hold t rfl
    | completed t _ => exact hold t rfl
    | registered _ _ hid hused => exact hid ▸ hused

/-- A running task fails only for a reason. -/
def FailsForReason (s : UpidSync) : Prop :=
  ∀ e, ∀ t ∈ s.tasks.rows, t.status = .running →
    ∀ t' ∈ (s.next e).tasks.rows, t'.id = t.id → t'.status = .failed →
      Justified ((s.next e).pollsOf t.id)

/-- A task that is finished is never running again. -/
def StaysFinished (s : UpidSync) : Prop :=
  ∀ es : List UpidEvent, ∀ t ∈ s.tasks.rows, t.status ≠ .running →
    ∀ t' ∈ (es.foldl UpidSync.next s).tasks.rows, t'.id = t.id → t'.status ≠ .running

theorem Inv.failsForReason (hs : s.Inv) : s.FailsForReason := by
  intro e t ht hrun t' ht' hid hfailed
  have hf := hs.follows e ((s.next e).tasks.find?_key ht')
  rw [hid, s.tasks.find?_key ht] at hf
  cases hf with
  | same _ _ h => exact absurd (hfailed.symm.trans (h.trans hrun)) (by decide)
  | polled _ _ _ h => exact h hfailed
  | completed _ _ h => exact absurd (hfailed.symm.trans h) (by decide)
  | registered _ _ _ _ h => exact absurd (hfailed.symm.trans h) (by decide)

/-- No row of a used key is running. -/
def Closed (s : UpidSync) (id : TaskId) : Prop :=
  id < s.nextId ∧ ∀ t ∈ s.tasks.rows, t.id = id → t.status ≠ .running

theorem Inv.next_closed (hs : s.Inv) {id : TaskId} (hc : s.Closed id) (e : UpidEvent) :
    (s.next e).Closed id := by
  refine ⟨Nat.lt_of_lt_of_le hc.1 (nextId_le_next e), ?_⟩
  intro t' ht' hid
  have hf := hs.follows e ((s.next e).tasks.find?_key ht')
  rw [hid] at hf
  have hold : ∀ t, s.tasks.find? id = some t → t.status ≠ .running := fun t ht =>
    hc.2 t (s.tasks.mem_of_find? ht) (s.tasks.key_of_find? ht)
  generalize s.tasks.find? id = before at hf hold
  cases hf with
  | same t _ h => exact h ▸ hold t rfl
  | polled t _ hrun => exact absurd hrun (hold t rfl)
  | completed _ _ h => exact h ▸ by decide
  | registered _ _ hused => exact absurd (hused ▸ hc.1) (Nat.lt_irrefl _)

theorem Inv.closed_foldl (hs : s.Inv) {id : TaskId} (hc : s.Closed id) (es : List UpidEvent) :
    (es.foldl UpidSync.next s).Closed id := by
  induction es generalizing s with
  | nil => exact hc
  | cons e es ih => exact ih (hs.next e) (hs.next_closed hc e)

theorem Inv.staysFinished (hs : s.Inv) : s.StaysFinished := by
  intro es t ht hfin t' ht' hid
  have hclosed : s.Closed t.id :=
    ⟨hs.fresh t ht, fun u hu huid => s.tasks.eq_of_key_eq hu ht huid ▸ hfin⟩
  exact (hs.closed_foldl hclosed es).2 t' ht' hid

theorem lt_nextId_boot (tasks : KeyedTable ProxmoxTask.id) (used : TaskId) {t : ProxmoxTask}
    (ht : t ∈ tasks.rows) : t.id < (boot tasks used).nextId := by
  have hle : ∀ (ids : List TaskId) (m : TaskId), m ≤ ids.foldl max m ∧
      ∀ id ∈ ids, id ≤ ids.foldl max m := by
    intro ids
    induction ids with
    | nil => exact fun m => ⟨Nat.le_refl m, fun id hid => absurd hid List.not_mem_nil⟩
    | cons i ids ih =>
      intro m
      obtain ⟨hm, hids⟩ := ih (max m i)
      refine ⟨Nat.le_trans (Nat.le_max_left m i) hm, fun id hid => ?_⟩
      rcases List.mem_cons.mp hid with rfl | hid
      · exact Nat.le_trans (Nat.le_max_right m id) hm
      · exact hids id hid
  exact Nat.lt_succ_of_le ((hle _ used).2 t.id (List.mem_map.mpr ⟨t, ht, rfl⟩))

/-- The panel starts in the invariant. -/
theorem inv_boot (tasks : KeyedTable ProxmoxTask.id) (used : TaskId) :
    (boot tasks used).Inv where
  counted := fun _ => Nat.zero_le _
  fresh := fun _ ht => lt_nextId_boot tasks used ht

/-- After any events a running task fails only for a reason, and no finished task is
opened again. -/
theorem failsForReason_and_staysFinished (tasks : KeyedTable ProxmoxTask.id) (used : TaskId)
    (es : List UpidEvent) :
    (es.foldl UpidSync.next (boot tasks used)).FailsForReason ∧
      (es.foldl UpidSync.next (boot tasks used)).StaysFinished := by
  have h : (es.foldl UpidSync.next (boot tasks used)).Inv :=
    invariant_of_step (P := Inv) (fun _ e hs => Inv.next hs e) (inv_boot tasks used) es _
      (foldl_mem_visited _ _ es)
  exact ⟨h.failsForReason, h.staysFinished⟩

end UpidSync

end PveManager.Monitoring
