import PveManager.Tasks.Queue

/-!
# Cancelled tasks

A cancelled task should stay cancelled and none of its guests should be touched any
more. The processor does not look at the status again once it has found the task
pending, so this holds as long as no cancellation commits while the processor holds the
task.
-/

namespace PveManager.Tasks

open PveManager.Core

/-- Every task whose cancellation returned true is cancelled, no guest of it was
processed afterwards, and no two tasks are running. -/
def Kept (s : State) : Prop :=
  (∀ id ∈ s.returned, id ∉ s.late ∧
    ∃ t, s.tasks.find? id = some t ∧ t.status = .cancelled) ∧
  ∀ t ∈ s.tasks.rows, ∀ t' ∈ s.tasks.rows,
    t.status = .running → t'.status = .running → t = t'

/-- A cancellation does not commit while the processor holds its task. -/
def InTime (s : State) : Event → Prop
  | .cancelCommit i _ => ∀ id, s.cancels[i]? = some id → ¬s.worker.holds id
  | _ => True

/-- The tasks that may be marked as running. -/
def Worker.allows (w : Worker) (tasks : TaskTable) : Prop :=
  match w with
  | .idle => ∃ id, ∀ t ∈ tasks.rows, t.status = .running → t.id = id
  | .picked _ | .found _ => ∀ t ∈ tasks.rows, t.status ≠ .running
  | .working id _ _ _ | .ran id _ _ _ _ => ∀ t ∈ tasks.rows, t.status = .running → t.id = id

/-- What every step keeps that cancels in time. -/
structure Inv (s : State) : Prop where
  cancelled : ∀ id ∈ s.returned, ∃ t, s.tasks.find? id = some t ∧ t.status = .cancelled
  free : ∀ id ∈ s.returned, ¬s.worker.holds id
  none_late : s.late = []
  below : ∀ t ∈ s.tasks.rows, t.id < s.nextId
  known : ∀ id ∈ s.cancels, (s.tasks.find? id).isSome
  allowed : s.worker.allows s.tasks

/-- A table in which one task at most is running. -/
theorem Worker.allows.one {w : Worker} {tasks : TaskTable} (h : w.allows tasks) :
    ∃ id, ∀ t ∈ tasks.rows, t.status = .running → t.id = id := by
  cases w with
  | idle => exact h
  | picked _ => exact ⟨0, fun t ht hr => absurd hr (h t ht)⟩
  | found _ => exact ⟨0, fun t ht hr => absurd hr (h t ht)⟩
  | working id _ _ _ => exact ⟨id, h⟩
  | ran id _ _ _ _ => exact ⟨id, h⟩

/-- Only the task that the processor holds may be running. -/
theorem Worker.allows.held {w : Worker} {tasks : TaskTable} {id : Nat} (h : w.allows tasks)
    (hid : w.holds id) : ∀ t ∈ tasks.rows, t.status = .running → t.id = id := by
  cases w with
  | idle => exact hid.elim
  | picked _ => exact hid.elim
  | found _ => exact fun t ht hr => absurd hr (h t ht)
  | working id' _ _ _ => exact fun t ht hr => (h t ht hr).trans hid
  | ran id' _ _ _ _ => exact fun t ht hr => (h t ht hr).trans hid

/-- Fewer running rows are allowed too. -/
theorem Worker.allows.mono {w : Worker} {tasks tasks' : TaskTable} (h : w.allows tasks)
    (hsub : ∀ t ∈ tasks'.rows, t.status = .running → t ∈ tasks.rows) : w.allows tasks' := by
  cases w with
  | idle =>
    obtain ⟨id, hid⟩ := h
    exact ⟨id, fun t ht hr => hid t (hsub t ht hr) hr⟩
  | picked _ => exact fun t ht hr => h t (hsub t ht hr) hr
  | found _ => exact fun t ht hr => h t (hsub t ht hr) hr
  | working _ _ _ _ => exact fun t ht hr => h t (hsub t ht hr) hr
  | ran _ _ _ _ _ => exact fun t ht hr => h t (hsub t ht hr) hr

theorem Inv.kept {s : State} (h : Inv s) : Kept s := by
  constructor
  · intro id hid
    rw [h.none_late]
    exact ⟨List.not_mem_nil, h.cancelled id hid⟩
  · intro t ht t' ht' hr hr'
    obtain ⟨id, hid⟩ := h.allowed.one
    exact s.tasks.eq_of_key_eq ht ht' ((hid t ht hr).trans (hid t' ht' hr').symm)

/-! ### The steps -/

variable {s : State}

/-- The processor lets go, or moves on without writing. -/
theorem Inv.move (h : Inv s) {w : Worker} (hfree : ∀ id ∈ s.returned, ¬w.holds id)
    (hallow : w.allows s.tasks) : Inv { s with worker := w } :=
  ⟨h.cancelled, hfree, h.none_late, h.below, h.known, hallow⟩

theorem Inv.rest (h : Inv s) : Inv { s with worker := .idle } :=
  h.move (fun _ _ => not_false) h.allowed.one

/-- The processor writes the row that it holds, and holds no other afterwards. -/
theorem Inv.write (h : Inv s) {id : Nat} (hid : s.worker.holds id) {u : Update} {w : Worker}
    (hw : ∀ id', w.holds id' → id' = id)
    (hallow : ∀ tasks : TaskTable,
      (∀ t ∈ tasks.rows, t.status = .running → t.id = id) → w.allows tasks) :
    Inv { s with tasks := modify s.tasks id u, worker := w } := by
  have hne : ∀ id' ∈ s.returned, id' ≠ id := fun id' hr he => h.free id' hr (he ▸ hid)
  constructor
  · intro id' hr
    obtain ⟨t, ht, hc⟩ := h.cancelled id' hr
    exact ⟨t, (find?_modify_of_ne (hne id' hr)).trans ht, hc⟩
  · exact fun id' hr hw' => hne id' hr (hw id' hw')
  · exact h.none_late
  · intro t ht
    obtain ⟨r, hr, hk, -⟩ := mem_rows_modify ht
    exact hk ▸ h.below r hr
  · exact fun id' hc => isSome_find?_modify.trans (h.known id' hc)
  · apply hallow
    intro t ht hr
    obtain ⟨r, hrow, -, ⟨hk, -⟩ | ⟨-, rfl⟩⟩ := mem_rows_modify ht
    · exact hk
    · exact h.allowed.held hid t hrow hr

/-- A new task waits. -/
theorem Inv.create (h : Inv s) (taskType : String) (userId : UserId) (items : List BulkItem)
    (now : Time) : Inv (s.create taskType userId items now) := by
  unfold State.create
  cases hc : createTask taskType userId items s.nextId now with
  | error _ => exact h
  | ok t =>
    have ht : t.id = s.nextId ∧ t.status = .pending := by
      unfold createTask at hc
      split at hc
      · cases hc
      · split at hc
        · cases hc
        · injection hc with hc
          subst hc
          exact ⟨rfl, rfl⟩
    have hnew : s.tasks.find? t.id = none := by
      rw [KeyedTable.find?_eq_none_iff]
      intro r hr he
      have := h.below r hr
      omega
    have hold : ∀ id, (s.tasks.find? id).isSome → (s.tasks.save t).find? id = s.tasks.find? id := by
      intro id hid
      rw [KeyedTable.find?_save, if_neg]
      rintro rfl
      rw [hnew] at hid
      exact absurd hid (by simp)
    constructor
    · intro id hr
      obtain ⟨r, hr', hs⟩ := h.cancelled id hr
      exact ⟨r, (hold id (by rw [hr']; rfl)).trans hr', hs⟩
    · exact h.free
    · exact h.none_late
    · intro r hr
      rcases (s.tasks.mem_rows_save t r).mp hr with rfl | ⟨hr, -⟩
      · change r.id < s.nextId + 1
        omega
      · exact Nat.lt_succ_of_lt (h.below r hr)
    · intro id hid
      rw [hold id (h.known id hid)]
      exact h.known id hid
    · apply h.allowed.mono
      intro r hr hrun
      rcases (s.tasks.mem_rows_save t r).mp hr with rfl | ⟨hr, -⟩
      · rw [ht.2] at hrun
        cases hrun
      · exact hr

/-- Looking for a task to cancel writes nothing. -/
theorem Inv.cancelQuery (h : Inv s) (taskId : Nat) (userId : UserId) :
    Inv (s.cancelQuery taskId userId) := by
  unfold State.cancelQuery
  cases hf : findCancellable s.tasks taskId userId with
  | none => exact h
  | some t =>
    refine ⟨h.cancelled, h.free, h.none_late, h.below, ?_, h.allowed⟩
    intro id hid
    rcases List.mem_cons.mp hid with rfl | hid
    · have ht := (Option.filter_eq_some_iff.mp hf).1
      change (s.tasks.find? t.id).isSome
      rw [s.tasks.find?_key (s.tasks.mem_of_find? ht)]
      rfl
    · exact h.known id hid

/-- A cancellation of a task that the processor does not hold. -/
theorem Inv.cancelCommit (h : Inv s) {i : Nat} {now : Time} (hg : InTime s (.cancelCommit i now)) :
    Inv (s.cancelCommit i now) := by
  unfold State.cancelCommit
  cases hi : s.cancels[i]? with
  | none => exact h
  | some id =>
    have hmem : id ∈ s.cancels := List.mem_of_getElem? hi
    let u : Update := ⟨fun t => t.cancel now, fun _ => rfl⟩
    change Inv { s with
      tasks := modify s.tasks id u
      cancels := s.cancels.eraseIdx i
      returned := id :: s.returned }
    constructor
    · intro id' hr
      by_cases he : id' = id
      · subst he
        obtain ⟨t, ht⟩ := Option.isSome_iff_exists.mp (h.known id' hmem)
        exact ⟨t.cancel now, find?_modify_self ht, rfl⟩
      · obtain ⟨t, ht, hc⟩ := h.cancelled id' ((List.mem_cons.mp hr).resolve_left he)
        exact ⟨t, (find?_modify_of_ne he).trans ht, hc⟩
    · intro id' hr
      rcases List.mem_cons.mp hr with rfl | hr
      · exact hg id' hi
      · exact h.free id' hr
    · exact h.none_late
    · intro t ht
      obtain ⟨r, hr, hk, -⟩ := mem_rows_modify ht
      exact hk ▸ h.below r hr
    · intro id' hc
      exact isSome_find?_modify.trans (h.known id' (List.mem_of_mem_eraseIdx hc))
    · apply h.allowed.mono
      intro t ht hr
      obtain ⟨r, hrow, -, ⟨-, rfl⟩ | ⟨-, rfl⟩⟩ := mem_rows_modify ht
      · cases hr
      · exact hrow

/-- A task is picked only when none is running. -/
theorem Inv.pick (h : Inv s) : Inv s.pick := by
  unfold State.pick
  cases hw : s.worker with
  | idle =>
    change Inv { s with worker := pickTask s.tasks }
    unfold pickTask
    split
    · next hnone =>
      refine h.move (fun _ _ => not_false) fun t ht hr => ?_
      have hmem : t ∈ getRunningTasks s.tasks := List.mem_filter.mpr ⟨ht, decide_eq_true hr⟩
      rw [hnone] at hmem
      exact List.not_mem_nil hmem
    · exact h.rest
  | picked _ => exact h
  | found _ => exact h
  | working _ _ _ _ => exact h
  | ran _ _ _ _ _ => exact h

/-- A task whose cancellation has returned is not found pending. -/
theorem Inv.query (h : Inv s) : Inv s.query := by
  unfold State.query
  cases hw : s.worker with
  | picked id =>
    have hnone : ∀ t ∈ s.tasks.rows, t.status ≠ .running := by
      have := h.allowed
      rwa [hw] at this
    cases hf : s.tasks.find? id with
    | none =>
      simp only [hf]
      exact h.rest
    | some t =>
      simp only [hf]
      by_cases hp : t.status = .pending
      · rw [if_pos hp]
        refine h.move ?_ hnone
        rintro id' hr rfl
        obtain ⟨t', ht', hc⟩ := h.cancelled _ hr
        rw [hf] at ht'
        cases ht'
        rw [hp] at hc
        cases hc
      · rw [if_neg hp]
        exact h.rest
  | idle => exact h
  | found _ => exact h
  | working _ _ _ _ => exact h
  | ran _ _ _ _ _ => exact h

theorem Inv.start (h : Inv s) (now : Time) : Inv (s.start now) := by
  unfold State.start
  cases hw : s.worker with
  | found id =>
    cases hf : s.tasks.find? id with
    | none =>
      simp only [hf]
      exact h.rest
    | some t =>
      simp only [hf]
      exact h.write (by rw [hw]; rfl) (fun _ he => he.symm) fun _ hall => hall
  | idle => exact h
  | picked _ => exact h
  | working _ _ _ _ => exact h
  | ran _ _ _ _ _ => exact h

/-- A guest of a task that is not cancelled is processed. -/
theorem Inv.item (h : Inv s) (w : ItemWorld) : Inv (s.item w) := by
  unfold State.item
  split
  · next id action item rest results hw =>
    have hid : s.worker.holds id := by rw [hw]; rfl
    have hnot : id ∉ s.returned := fun hr => h.free id hr hid
    have hallow := h.allowed
    rw [hw] at hallow
    rw [if_neg hnot]
    exact h.move (fun id' hr he => hnot ((show id = id' from he) ▸ hr)) hallow
  · exact h

theorem Inv.report (h : Inv s) : Inv s.report := by
  unfold State.report
  cases hw : s.worker with
  | ran id action rest results result =>
    exact h.write (by rw [hw]; rfl) (fun _ he => he.symm) fun _ hall => hall
  | idle => exact h
  | picked _ => exact h
  | found _ => exact h
  | working _ _ _ _ => exact h

theorem Inv.finish (h : Inv s) (now : Time) : Inv (s.finish now) := by
  unfold State.finish
  split
  · next id rest results hw =>
    exact h.write (by rw [hw]; rfl) (fun _ he => he.elim) fun _ hall => ⟨id, hall⟩
  · next id action results hw =>
    exact h.write (by rw [hw]; rfl) (fun _ he => he.elim) fun _ hall => ⟨id, hall⟩
  · exact h

/-- The processor gives up a task, with its last write or without. -/
theorem Inv.giveUp (h : Inv s) {id : Nat} (hid : s.worker.holds id) {u : Update}
    (writes : Bool) :
    Inv { s with tasks := if writes then modify s.tasks id u else s.tasks, worker := .idle } := by
  cases writes with
  | true => exact h.write hid (fun _ he => he.elim) fun _ hall => ⟨id, hall⟩
  | false => exact h.rest

theorem Inv.crash (h : Inv s) (error : String) (writes : Bool) (now : Time) :
    Inv (s.crash error writes now) := by
  unfold State.crash
  cases hw : s.worker with
  | found id => exact h.giveUp (by rw [hw]; rfl) writes
  | working id _ _ _ => exact h.giveUp (by rw [hw]; rfl) writes
  | ran id _ _ _ _ => exact h.giveUp (by rw [hw]; rfl) writes
  | picked _ => exact h.rest
  | idle => exact h.rest

/-- Every step keeps the invariant that cancels in time. -/
theorem inv_step (s : State) (e : Event) (h : Inv s) (hg : InTime s e) : Inv (step s e) := by
  cases e with
  | create taskType userId items now => exact h.create taskType userId items now
  | cancelQuery taskId userId => exact h.cancelQuery taskId userId
  | cancelCommit i now => exact h.cancelCommit hg
  | pick => exact h.pick
  | query => exact h.query
  | start now => exact h.start now
  | item w => exact h.item w
  | report => exact h.report
  | finish now => exact h.finish now
  | crash error writes now => exact h.crash error writes now

/-! ### Whole sessions -/

/-- What happens from a start of the backend on: the table has no more than one running
row, the next number is free, and no call is under way. -/
structure Session where
  tasks : TaskTable
  nextId : Nat
  fresh : ∀ t ∈ tasks.rows, t.id < nextId
  single : ∃ id, ∀ t ∈ tasks.rows, t.status = .running → t.id = id
  events : List Event

namespace Session

def start (r : Session) : State := ⟨r.tasks, r.nextId, .idle, [], [], []⟩

theorem inv_start (r : Session) : Inv r.start where
  cancelled := fun _ hid => absurd hid List.not_mem_nil
  free := fun _ hid => absurd hid List.not_mem_nil
  none_late := rfl
  below := r.fresh
  known := fun _ hid => absurd hid List.not_mem_nil
  allowed := r.single

/-- A session in which every cancellation commits before the processor has found its task
pending keeps cancelled tasks cancelled and works on one task at a time. -/
theorem kept_of_inTime (r : Session) (h : Guarded step InTime r.start r.events) :
    ∀ s ∈ visited step r.start r.events, Kept s := by
  intro s hs
  exact (invariant_of_guarded inv_step r.inv_start h s hs).kept

/-- The panel of one user with one task of one guest, and what happens to it. -/
def ofEvents (events : List Event) : Session where
  tasks := .empty
  nextId := 1
  fresh := fun _ ht => absurd ht List.not_mem_nil
  single := ⟨0, fun _ ht => absurd ht List.not_mem_nil⟩
  events := .create "bulk_stop" 1 [⟨1, 100, "qemu", "pve", "web", none, false⟩] 0 :: events

/-- The task is cancelled before the processor takes it up. -/
def prompt : Session := ofEvents [.cancelQuery 1 1, .cancelCommit 0 1, .pick]

/-- The processor does not take it up any more. -/
theorem prompt_kept : Kept (prompt.events.foldl step prompt.start) :=
  prompt.kept_of_inTime ⟨trivial, trivial, fun _ _ hheld => hheld, trivial, trivial⟩ _
    (foldl_mem_visited step prompt.start prompt.events)

/-- The processor finds the task pending and starts it while it is being cancelled. -/
def overtaken : Session := ofEvents
  [.cancelQuery 1 1, .pick, .query, .start 1, .cancelCommit 0 2, .item ⟨true, fun _ => .ok ()⟩,
    .report, .finish 3]

/-- The guest is stopped although the cancellation has returned true, and the task ends
as completed. -/
theorem overtaken_not_kept : ¬∀ r : Session, ∀ s ∈ visited step r.start r.events, Kept s := by
  intro h
  have hkept := (h overtaken _ (foldl_mem_visited step overtaken.start overtaken.events)).1
  have hreturned : 1 ∈ (overtaken.events.foldl step overtaken.start).returned := by decide
  have hlate : 1 ∈ (overtaken.events.foldl step overtaken.start).late := by decide
  exact (hkept 1 hreturned).1 hlate

end Session

end PveManager.Tasks
