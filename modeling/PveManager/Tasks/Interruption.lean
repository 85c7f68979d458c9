import PveManager.Tasks.Accounting

/-!
# Interrupted tasks

A task that was interrupted has failed and is never picked up again, as long as every interruption
finds a session that can still write, or a recovery that commits.
-/

namespace PveManager.Tasks

open PveManager.Core

/-! ### Ended tasks -/

section Ended

variable {l : Ledger} {id : Nat}

/-- A task stays ended when its row is left and the processor turns to another one or to none. -/
theorem Ledger.Ended.of_same {l' : Ledger} (h : l.Ended id)
    (hfind : l'.queue.tasks.find? id = l.queue.tasks.find? id)
    (hworker : ¬l'.queue.worker.holds id ∧ l'.queue.worker ≠ .picked id) : l'.Ended id := by
  obtain ⟨⟨t, ht, hfailed⟩, -⟩ := h
  exact ⟨⟨t, hfind.trans ht, hfailed⟩, hworker⟩

/-- The processor only picks pending tasks. -/
theorem Ledger.Ended.pick (h : l.Ended id) : (l.step .pick).Ended id := by
  unfold Ledger.step State.pick
  dsimp only
  split
  · refine h.of_same rfl ?_
    obtain ⟨⟨t, ht, hfailed⟩, -⟩ := h
    unfold pickTask
    dsimp only
    split
    · rename_i first rest hpending _
      refine ⟨fun hid => hid.elim, fun heq => ?_⟩
      have hfirst : first ∈ getPendingTasks l.queue.tasks := hpending ▸ List.mem_cons_self
      unfold getPendingTasks at hfirst
      rw [List.mem_insertionSort, List.mem_filter, decide_eq_true_iff] at hfirst
      have hsame := eq_of_find? ht hfirst.1 (Worker.picked.inj heq)
      rw [hsame, hfailed] at hfirst
      cases hfirst.2
    · exact ⟨fun hid => hid.elim, fun heq => by cases heq⟩
  · exact h

theorem Ledger.Ended.query (h : l.Ended id) : (l.step .query).Ended id := by
  unfold Ledger.step State.query
  dsimp only
  cases hworker : l.queue.worker with
  | picked id' =>
    have hne : id' ≠ id := fun heq => h.2.2 (heq ▸ hworker)
    dsimp only
    split
    · exact h.of_same rfl ⟨fun hid => hid.elim, fun heq => by cases heq⟩
    · refine h.of_same rfl ?_
      dsimp only
      split
      · exact ⟨hne, fun heq => by cases heq⟩
      · exact ⟨fun hid => hid.elim, fun heq => by cases heq⟩
  | idle => exact h
  | found id' => exact h
  | working id' action rest results => exact h
  | ran id' action rest results result => exact h

theorem Ledger.Ended.start (h : l.Ended id) (now : Time) : (l.step (.start now)).Ended id := by
  unfold Ledger.step State.start
  dsimp only
  cases hworker : l.queue.worker with
  | found id' =>
    have hne : id' ≠ id := fun heq => h.2.1 (by rw [hworker]; exact heq)
    dsimp only
    split
    · exact h.of_same rfl ⟨fun hid => hid.elim, fun heq => by cases heq⟩
    · exact h.of_same (find?_modify_of_ne hne.symm) ⟨hne, fun heq => by cases heq⟩
  | idle => exact h
  | picked id' => exact h
  | working id' action rest results => exact h
  | ran id' action rest results result => exact h

theorem Ledger.Ended.item (h : l.Ended id) (w : ItemWorld) : (l.step (.item w)).Ended id := by
  have hstep : (l.step (.item w)).queue = l.queue.item w := rfl
  rcases next_cases l.queue w with ⟨-, hsame⟩ | ⟨id', action, item, rest, results, hworker⟩
  · refine h.of_same ?_ ?_
    · rw [hstep, hsame]
    · rw [hstep, hsame]
      exact h.2
  · have hne : id' ≠ id := fun heq => h.2.1 (by rw [hworker]; exact heq)
    have hqueue : l.queue.item w = { l.queue with
        worker := .ran id' action rest results (processItem w action item)
        late := if id' ∈ l.queue.returned then id' :: l.queue.late else l.queue.late } := by
      unfold State.item
      rw [hworker]
    refine h.of_same ?_ ?_
    · rw [hstep, hqueue]
    · rw [hstep, hqueue]
      exact ⟨hne, fun heq => by cases heq⟩

theorem Ledger.Ended.report (h : l.Ended id) : (l.step .report).Ended id := by
  unfold Ledger.step State.report
  dsimp only
  cases hworker : l.queue.worker with
  | ran id' action rest results result =>
    have hne : id' ≠ id := fun heq => h.2.1 (by rw [hworker]; exact heq)
    exact h.of_same (find?_modify_of_ne hne.symm) ⟨hne, fun heq => by cases heq⟩
  | idle => exact h
  | picked id' => exact h
  | found id' => exact h
  | working id' action rest results => exact h

theorem Ledger.Ended.finish (h : l.Ended id) (now : Time) : (l.step (.finish now)).Ended id := by
  unfold Ledger.step State.finish
  dsimp only
  cases hworker : l.queue.worker with
  | working id' action rest results =>
    have hne : id' ≠ id := fun heq => h.2.1 (by rw [hworker]; exact heq)
    have hidle : ¬Worker.idle.holds id ∧ Worker.idle ≠ .picked id :=
      ⟨fun hid => hid.elim, fun heq => by cases heq⟩
    cases action with
    | none => exact h.of_same (find?_modify_of_ne hne.symm) hidle
    | some action =>
      cases rest with
      | nil => exact h.of_same (find?_modify_of_ne hne.symm) hidle
      | cons item rest => exact h
  | idle => exact h
  | picked id' => exact h
  | found id' => exact h
  | ran id' action rest results result => exact h

theorem Ledger.Ended.create (h : l.Ended id) (hsound : l.Sound) (taskType : String)
    (userId : UserId) (items : List BulkItem) (now : Time) :
    (l.step (.create taskType userId items now)).Ended id := by
  unfold Ledger.step State.create
  dsimp only
  split
  · exact h
  · rename_i row hcreate
    have hrow : row.id = l.queue.nextId := by
      unfold createTask at hcreate
      split at hcreate
      · cases hcreate
      · split at hcreate
        · cases hcreate
        · cases hcreate
          rfl
    obtain ⟨⟨t, ht, hfailed⟩, hworker⟩ := h
    exact ⟨⟨t, hsound.find?_save hrow ht, hfailed⟩, hworker⟩

theorem Ledger.Ended.raised (h : l.Ended id) (cause : Cause) (now : Time) :
    (l.step (.raised cause now)).Ended id := by
  obtain ⟨hidle, -, htasks⟩ :=
    tasks_crash l.queue cause.error (l.queue.worker.recovers cause) now
  have hworker : (l.step (.raised cause now)).queue.worker = .idle := hidle
  refine h.of_same ?_ ?_
  · rcases htasks with ⟨hsame, -⟩ | ⟨id', u, hheld, -, hmodify, -⟩
    · exact congrArg (fun tasks => tasks.find? id) hsame
    · have hne : id ≠ id' := fun heq => h.2.1 (heq ▸ hheld)
      exact (congrArg (fun tasks => tasks.find? id) hmodify).trans (find?_modify_of_ne hne)
  · rw [hworker]
    exact ⟨fun hid => hid.elim, fun heq => by cases heq⟩

/-- What the recovery makes of a row. -/
theorem find?_recover {tasks : TaskTable} {commits : Bool} {now : Time} {t : TaskQueue}
    (ht : tasks.find? id = some t) : (recoverInterruptedTasks tasks commits now).1.find? id =
      some (if commits then t.interrupt now else t) := by
  unfold recoverInterruptedTasks
  dsimp only
  cases commits with
  | false =>
    rw [Bool.not_false, Bool.or_true, if_pos rfl]
    exact ht
  | true =>
    rw [Bool.not_true, Bool.or_false, if_pos rfl]
    split
    · rename_i hempty
      have hnot : t.status ≠ .running := by
        intro hrunning
        have hmem : t ∈ getRunningTasks tasks :=
          List.mem_filter.mpr ⟨tasks.mem_of_find? ht, decide_eq_true hrunning⟩
        rw [List.isEmpty_iff.mp hempty] at hmem
        exact absurd hmem List.not_mem_nil
      rw [TaskQueue.interrupt, if_neg hnot]
      exact ht
    · rw [KeyedTable.find?_mapRows, ht]
      rfl

theorem Ledger.Ended.restart (h : l.Ended id) (commits : Bool) (now : Time) :
    (l.step (.restart commits now)).Ended id := by
  obtain ⟨⟨t, ht, hfailed⟩, -⟩ := h
  refine ⟨⟨t, ?_, hfailed⟩, fun hid => hid.elim, fun heq => by cases heq⟩
  have hkept : t.interrupt now = t := by
    rw [TaskQueue.interrupt, if_neg (by rw [hfailed]; decide)]
  refine (find?_recover ht).trans ?_
  rw [hkept, ite_self]

/-- A task that has ended stays so. -/
theorem Ledger.Ended.step (h : l.Ended id) (hsound : l.Sound) (e : BulkEvent) :
    (l.step e).Ended id := by
  cases e with
  | create taskType userId items now => exact h.create hsound taskType userId items now
  | pick => exact h.pick
  | query => exact h.query
  | start now => exact h.start now
  | item w => exact h.item w
  | report => exact h.report
  | finish now => exact h.finish now
  | raised cause now => exact h.raised cause now
  | restart commits now => exact h.restart commits now

end Ended

/-! ### Interrupted tasks -/

section Interrupted

variable {l : Ledger} {id : Nat}

theorem mem_task (w : Worker) : id ∈ w.task.toList ↔ w.holds id := by
  cases w with
  | idle => exact iff_of_false List.not_mem_nil fun hid => hid
  | picked id' => exact iff_of_false List.not_mem_nil fun hid => hid
  | found id' => exact List.mem_singleton.trans eq_comm
  | working id' action rest results => exact List.mem_singleton.trans eq_comm
  | ran id' action rest results result => exact List.mem_singleton.trans eq_comm

theorem holds_unique {w : Worker} {id' : Nat} (h : w.holds id) (h' : w.holds id') : id' = id := by
  cases w with
  | idle => exact h.elim
  | picked k => exact h.elim
  | found k => exact Eq.trans (Eq.symm h') h
  | working k action rest results => exact Eq.trans (Eq.symm h') h
  | ran k action rest results result => exact Eq.trans (Eq.symm h') h

/-- The task that the processor holds has not failed yet. -/
theorem Ledger.Sound.held (h : l.Sound) (hid : l.queue.worker.holds id) :
    ∃ t, l.queue.tasks.find? id = some t ∧ t.status ≠ .failed := by
  have hfollows := h.follows
  cases hworker : l.queue.worker with
  | idle =>
    rw [hworker] at hid
    exact hid.elim
  | picked k =>
    rw [hworker] at hid
    exact hid.elim
  | found k =>
    rw [hworker] at hfollows hid
    obtain ⟨t, ht, hpending⟩ := hfollows
    cases hid
    exact ⟨t, ht, by rw [hpending]; decide⟩
  | working k action rest results =>
    rw [hworker] at hfollows hid
    obtain ⟨t, ht, hrunning, -⟩ := hfollows
    cases hid
    exact ⟨t, ht, by rw [hrunning]; decide⟩
  | ran k action rest results result =>
    rw [hworker] at hfollows hid
    obtain ⟨t, ht, hrunning, -⟩ := hfollows
    cases hid
    exact ⟨t, ht, by rw [hrunning]; decide⟩

/-- An exception ends its task exactly when the handler writes. -/
theorem ended_raised_iff (h : l.Sound) (hid : l.queue.worker.holds id) (cause : Cause)
    (now : Time) :
    (l.step (.raised cause now)).Ended id ↔ l.queue.worker.recovers cause = true := by
  obtain ⟨hidle, -, htasks⟩ :=
    tasks_crash l.queue cause.error (l.queue.worker.recovers cause) now
  obtain ⟨t, ht, hnot⟩ := h.held hid
  constructor
  · rintro ⟨⟨t', ht', hfailed⟩, -⟩
    rcases htasks with ⟨hsame, -⟩ | ⟨-, -, -, hwrites, -⟩
    · have hfind : l.queue.tasks.find? id = some t' :=
        (congrArg (fun tasks => tasks.find? id) hsame).symm.trans ht'
      rw [ht] at hfind
      cases hfind
      exact absurd hfailed hnot
    · exact hwrites
  · intro hwrites
    rcases htasks with ⟨-, hnone⟩ | ⟨id', u, hheld, -, hmodify, happly⟩
    · exact absurd (hwrites.symm.trans (hnone id hid)) Bool.noConfusion
    · have hfind : (l.step (.raised cause now)).queue.tasks.find? id = some (u.apply t) := by
        rw [← holds_unique hid hheld] at ht ⊢
        exact (congrArg (fun tasks => tasks.find? id') hmodify).trans (find?_modify_self ht)
      have hworker : (l.step (.raised cause now)).queue.worker = .idle := hidle
      refine ⟨⟨_, hfind, by rw [happly]⟩, ?_⟩
      rw [hworker]
      exact ⟨fun hheld' => hheld'.elim, fun heq => by cases heq⟩

/-- A restart ends a running task exactly when the recovery commits. -/
theorem ended_restart_iff {t : TaskQueue} (ht : t ∈ l.queue.tasks.rows)
    (hrunning : t.status = .running) (commits : Bool) (now : Time) :
    (l.step (.restart commits now)).Ended t.id ↔ commits = true := by
  have hfind : (l.step (.restart commits now)).queue.tasks.find? t.id =
      some (if commits then t.interrupt now else t) := find?_recover (l.queue.tasks.find?_key ht)
  constructor
  · rintro ⟨⟨t', ht', hfailed⟩, -⟩
    rw [hfind] at ht'
    cases commits with
    | true => rfl
    | false =>
      rw [← Option.some.inj ht', if_neg Bool.false_ne_true, hrunning] at hfailed
      cases hfailed
  · rintro rfl
    refine ⟨⟨_, hfind, ?_⟩, fun hid => hid.elim, fun heq => by cases heq⟩
    rw [if_pos rfl, TaskQueue.interrupt, if_pos hrunning]

/-- A step leaves all accounts right exactly when the interruption that it may be is answered. -/
theorem accounted_step_iff (h : l.Sound) (hended : ∀ id ∈ l.interrupted, l.Ended id)
    (e : BulkEvent) : (l.step e).Accounted ↔ l.Answered e := by
  have hrows := (h.step e).rows
  have hold : ∀ id ∈ l.interrupted, (l.step e).Ended id := fun id hid => (hended id hid).step h e
  cases e with
  | raised cause now =>
    constructor
    · intro haccounted id hid
      have hmem : id ∈ (l.step (.raised cause now)).interrupted :=
        List.mem_append_left _ ((mem_task _).mpr hid)
      exact (ended_raised_iff h hid cause now).mp (haccounted.ended id hmem)
    · refine fun hanswered => ⟨hrows, fun id hid => ?_⟩
      rcases List.mem_append.mp hid with hid | hid
      · have hheld := (mem_task _).mp hid
        exact (ended_raised_iff h hheld cause now).mpr (hanswered id hheld)
      · exact hold id hid
  | restart commits now =>
    constructor
    · intro haccounted t ht hrunning
      have hmem : t.id ∈ (l.step (.restart commits now)).interrupted := by
        apply List.mem_append_left
        exact List.mem_map_of_mem (List.mem_filter.mpr ⟨ht, decide_eq_true hrunning⟩)
      exact (ended_restart_iff ht hrunning commits now).mp (haccounted.ended t.id hmem)
    · refine fun hanswered => ⟨hrows, fun id hid => ?_⟩
      rcases List.mem_append.mp hid with hid | hid
      · obtain ⟨t, ht, rfl⟩ := List.mem_map.mp hid
        obtain ⟨ht, hrunning⟩ := List.mem_filter.mp ht
        have hrunning' := of_decide_eq_true hrunning
        exact (ended_restart_iff ht hrunning' commits now).mpr (hanswered t ht hrunning')
      · exact hold id hid
  | create taskType userId items now => exact iff_of_true ⟨hrows, hold⟩ trivial
  | pick => exact iff_of_true ⟨hrows, hold⟩ trivial
  | query => exact iff_of_true ⟨hrows, hold⟩ trivial
  | start now => exact iff_of_true ⟨hrows, hold⟩ trivial
  | item w => exact iff_of_true ⟨hrows, hold⟩ trivial
  | report => exact iff_of_true ⟨hrows, hold⟩ trivial
  | finish now => exact iff_of_true ⟨hrows, hold⟩ trivial

end Interrupted

/-! ### Every run -/

/-- Tasks that wait for the processor. -/
structure Waiting where
  tasks : TaskTable
  nextId : Nat
  below : ∀ t ∈ tasks.rows, t.id < nextId
  pending : ∀ t ∈ tasks.rows, t.status = .pending ∧ t.completedItems = 0 ∧ t.failedItems = 0 ∧
    t.results = []

def Waiting.start (w : Waiting) : Ledger := ⟨⟨w.tasks, w.nextId, .idle, [], [], []⟩, [], []⟩

theorem Waiting.sound (w : Waiting) : w.start.Sound where
  rows t ht := by
    obtain ⟨hstatus, hcompleted, hfailed, hresults⟩ := w.pending t ht
    refine ⟨by rw [hcompleted, hfailed, hresults]; rfl, List.nil_prefix,
      fun _ => ⟨hresults, rfl⟩, fun hc => ?_⟩
    rw [hstatus] at hc
    cases hc
  below := w.below
  known p hp := absurd hp List.not_mem_nil
  follows := trivial

/-- In every state of a run all accounts are right and all interrupted tasks have failed, exactly
when every interruption is answered. -/
theorem accounted_iff (w : Waiting) (events : List BulkEvent) :
    (∀ l ∈ visited Ledger.step w.start events, l.Accounted) ↔
      Guarded Ledger.step Ledger.Answered w.start events := by
  have hsound := invariant_of_step (fun _ e h => h.step e) w.sound events
  have hboth : (∀ l ∈ visited Ledger.step w.start events, l.Accounted) ↔
      ∀ l ∈ visited Ledger.step w.start events, l.Sound ∧ l.Accounted :=
    ⟨fun h l hl => ⟨hsound l hl, h l hl⟩, fun h l hl => (h l hl).2⟩
  rw [hboth]
  refine forall_visited_iff_guarded (fun l e _ h => ?_)
    ⟨w.sound, w.sound.rows, fun _ hid => absurd hid List.not_mem_nil⟩
  rw [← accounted_step_iff h.1 h.2.ended e]
  exact and_iff_right (h.1.step e)

/-! ### A commit that fails -/

theorem below_noTasks : ∀ t ∈ (KeyedTable.empty : TaskTable).rows, t.id < 1 :=
  fun _ ht => absurd ht List.not_mem_nil

theorem pending_noTasks : ∀ t ∈ (KeyedTable.empty : TaskTable).rows,
    t.status = .pending ∧ t.completedItems = 0 ∧ t.failedItems = 0 ∧ t.results = [] :=
  fun _ ht => absurd ht List.not_mem_nil

/-- A queue without tasks. -/
def noTasks : Waiting where
  tasks := .empty
  nextId := 1
  below := below_noTasks
  pending := pending_noTasks

/-- The commit after the only guest of a task fails. -/
def lostCommit : List BulkEvent :=
  [.create "bulk_start" 1 [{ serverId := 1, vmid := 100, name := "web" }] 0, .pick, .query, .start 1,
    .item ⟨true, fun _ => .ok ()⟩, .raised (.session "OperationalError") 2]

/-- The interrupted task is still running. -/
theorem lostCommit_not_accounted :
    ¬∀ l ∈ visited Ledger.step noTasks.start lostCommit, l.Accounted := by
  intro h
  have hinterrupted : 1 ∈ (lostCommit.foldl Ledger.step noTasks.start).interrupted := by decide +kernel
  have hstatus : ((lostCommit.foldl Ledger.step noTasks.start).queue.tasks.find? 1).map
      TaskQueue.status = some .running := by decide +kernel
  obtain ⟨⟨t, ht, hfailed⟩, -⟩ := (h _ (foldl_mem_visited _ _ _)).ended 1 hinterrupted
  rw [ht, Option.map_some, hfailed] at hstatus
  cases hstatus

end PveManager.Tasks
