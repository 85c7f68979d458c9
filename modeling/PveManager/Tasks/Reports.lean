import PveManager.Tasks.Actions
import PveManager.Tasks.Interruption

/-!
# Reports of bulk operations

The results in the row of a task are what its user gets to see. They are those of the guests
that were acted on, one after the other, and each of them is as truthful as the client method
behind it.
-/

namespace PveManager.Tasks

open PveManager.Core

/-- A guest that was acted on, with what stood behind it. -/
structure Act where
  task : Nat
  action : String
  item : BulkItem
  world : GuestWorld

/-- What the processor records. -/
def Act.result (a : Act) : ItemResult := processItem a.world.toItemWorld a.action a.item

/-- The executor gets to hear of a failure. -/
def Act.Heard (a : Act) : Prop := a.world.Heard a.action a.item

/-- The acts of one task, in order. -/
def actsFor (id : Nat) (acts : List Act) : List Act := acts.filter fun a => decide (a.task = id)

/-- The guest that is next, before what the processor will find. -/
def Worker.acting (worker : Worker) (w : GuestWorld) : List Act :=
  match worker with
  | .working id (some action) (item :: _) _ => [⟨id, action, item, w⟩]
  | _ => []

/-- The queue with everything that was done. -/
structure Journal where
  ledger : Ledger
  acts : List Act

inductive JournalEvent
  /-- The next guest is processed. -/
  | turn (w : GuestWorld)
  | other (e : BulkEvent) (hother : ∀ w, e ≠ .item w)

namespace Journal

def step (j : Journal) : JournalEvent → Journal
  | .turn w =>
    { ledger := j.ledger.step (.item w.toItemWorld)
      acts := j.acts ++ j.ledger.queue.worker.acting w }
  | .other e _ => { j with ledger := j.ledger.step e }

/-- The act whose result is not in the row yet. -/
def unreported (j : Journal) : List Act :=
  match j.ledger.queue.worker with
  | .ran id _ _ results _ => (actsFor id j.acts).drop results.length
  | _ => []

/-- Every result of every task is about the guest in its place, comes from the action that the
task is for, and is truthful. -/
def Truthful (j : Journal) : Prop :=
  ∀ t ∈ j.ledger.queue.tasks.rows, ∀ (i : Nat) result, t.results[i]? = some result →
    ∃ a : Act, (actsFor t.id j.acts)[i]? = some a ∧ t.taskData[i]? = some a.item ∧
      actionMap t.taskType = some a.action ∧ a.world.Truthful a.action a.item result

/-- A result is only written where a failure would have been heard of. -/
def Heard (j : Journal) : JournalEvent → Prop
  | .other .report _ => ∀ a ∈ j.unreported, a.Heard
  | _ => True

end Journal

/-! ### What a step does -/

/-- Where a row after a step comes from. -/
inductive RowStep (q : State) (e : BulkEvent) (t : TaskQueue) : Prop
  | fresh (hid : t.id = q.nextId) (hresults : t.results = [])
  | kept (r : TaskQueue) (hr : r ∈ q.tasks.rows) (hid : t.id = r.id)
    (htype : t.taskType = r.taskType) (hresults : t.results = r.results)
  | reported (r : TaskQueue) (hr : r ∈ q.tasks.rows) (hid : t.id = r.id)
    (htype : t.taskType = r.taskType) (action : String) (rest : List BulkItem)
    (results : List ItemResult) (result : ItemResult) (hreport : e = .report)
    (hworker : q.worker = .ran r.id action rest results result)
    (hresults : t.results = results ++ [result])

/-- Where the processor is after a step. -/
inductive WorkerStep (q : State) : Worker → Prop
  | same : WorkerStep q q.worker
  | idle : WorkerStep q .idle
  | picked (id : Nat) : WorkerStep q (.picked id)
  | found (id : Nat) : WorkerStep q (.found id)
  | start (id : Nat) (t : TaskQueue) (hworker : q.worker = .found id)
    (ht : q.tasks.find? id = some t) :
    WorkerStep q (.working id (actionMap t.taskType) t.taskData [])
  | report (id : Nat) (action : String) (rest : List BulkItem) (results : List ItemResult)
    (result : ItemResult) (hworker : q.worker = .ran id action rest results result) :
    WorkerStep q (.working id (some action) rest (results ++ [result]))

section Steps

variable {q : State} {e : BulkEvent} {t : TaskQueue} {now : Time}

/-- A row that is written without touching its type and its results. -/
theorem RowStep.of_modify {id : Nat} {u : Update}
    (hu : ∀ r, (u.apply r).taskType = r.taskType ∧ (u.apply r).results = r.results)
    (ht : t ∈ (modify q.tasks id u).rows) : RowStep q e t := by
  obtain ⟨r, hr, hid, ⟨-, rfl⟩ | ⟨-, rfl⟩⟩ := mem_rows_modify ht
  · exact .kept r hr hid.symm (hu r).1 (hu r).2
  · exact .kept t hr rfl rfl rfl

theorem RowStep.of_mem (ht : t ∈ q.tasks.rows) : RowStep q e t := .kept t ht rfl rfl rfl

theorem rowStep_create {taskType : String} {userId : UserId} {items : List BulkItem}
    (ht : t ∈ (q.create taskType userId items now).tasks.rows) : RowStep q e t := by
  unfold State.create at ht
  split at ht
  · exact .of_mem ht
  · rename_i row hcreate
    obtain ⟨hid, -, hresults, -⟩ := fresh_of_createTask hcreate
    rcases (q.tasks.mem_rows_save row t).mp ht with rfl | ⟨hold, -⟩
    · exact .fresh hid hresults
    · exact .of_mem hold

theorem rowStep_start (ht : t ∈ (q.start now).tasks.rows) : RowStep q e t := by
  unfold State.start at ht
  split at ht
  · split at ht
    · exact .of_mem ht
    · exact .of_modify (fun _ => ⟨rfl, rfl⟩) ht
  · exact .of_mem ht

theorem rowStep_report (ht : t ∈ q.report.tasks.rows) : RowStep q .report t := by
  unfold State.report at ht
  split at ht
  · rename_i id action rest results result hworker
    obtain ⟨r, hr, hid, ⟨hsame, rfl⟩ | ⟨-, rfl⟩⟩ := mem_rows_modify ht
    · have hrid : r.id = id := hid.trans hsame
      exact .reported r hr hid.symm rfl action rest results result rfl (hrid ▸ hworker) rfl
    · exact .of_mem hr
  · exact .of_mem ht

theorem rowStep_finish (ht : t ∈ (q.finish now).tasks.rows) : RowStep q e t := by
  unfold State.finish at ht
  split at ht
  · exact .of_modify (fun _ => ⟨rfl, rfl⟩) ht
  · exact .of_modify (fun _ => ⟨rfl, rfl⟩) ht
  · exact .of_mem ht

theorem rowStep_crash {error : String} {writes : Bool}
    (ht : t ∈ (q.crash error writes now).tasks.rows) : RowStep q e t := by
  obtain ⟨-, -, ⟨hsame, -⟩ | ⟨id, u, -, -, hmodify, happly⟩⟩ := tasks_crash q error writes now
  · exact .of_mem (hsame ▸ ht)
  · refine .of_modify (fun r => ?_) (hmodify ▸ ht)
    rw [happly r]
    exact ⟨rfl, rfl⟩

theorem rowStep_restart {commits : Bool} (ht : t ∈ (q.restart commits now).tasks.rows) :
    RowStep q e t := by
  rcases mem_recover ht with hold | ⟨r, hr, rfl⟩
  · exact .of_mem hold
  · refine .kept r hr (id_interrupt now r) ?_ ?_
    · unfold TaskQueue.interrupt
      split <;> rfl
    · unfold TaskQueue.interrupt
      split <;> rfl

/-- A row is new, or as it was but for its status, or it has the result that was due. -/
theorem Ledger.rowStep (l : Ledger) (e : BulkEvent) (hother : ∀ w, e ≠ .item w)
    (ht : t ∈ (l.step e).queue.tasks.rows) : RowStep l.queue e t := by
  cases e with
  | create taskType userId items now => exact rowStep_create ht
  | pick =>
    unfold Ledger.step State.pick at ht
    dsimp only at ht
    split at ht
    · exact .of_mem ht
    · exact .of_mem ht
  | query =>
    unfold Ledger.step State.query at ht
    dsimp only at ht
    split at ht
    · split at ht
      · exact .of_mem ht
      · exact .of_mem ht
    · exact .of_mem ht
  | start now => exact rowStep_start ht
  | item w => exact absurd rfl (hother w)
  | report => exact rowStep_report ht
  | finish now => exact rowStep_finish ht
  | raised cause now => exact rowStep_crash ht
  | restart commits now => exact rowStep_restart ht

/-- The processor goes on, gives up, or turns to another task. -/
theorem Ledger.workerStep (l : Ledger) (e : BulkEvent) (hother : ∀ w, e ≠ .item w) :
    WorkerStep l.queue (l.step e).queue.worker := by
  cases e with
  | create taskType userId items now =>
    unfold Ledger.step State.create
    dsimp only
    split
    · exact .same
    · exact .same
  | pick =>
    unfold Ledger.step State.pick
    dsimp only
    split
    · unfold pickTask
      dsimp only
      split
      · exact .picked _
      · exact .idle
    · exact .same
  | query =>
    unfold Ledger.step State.query
    dsimp only
    split
    · split
      · exact .idle
      · dsimp only
        split
        · exact .found _
        · exact .idle
    · exact .same
  | start now =>
    unfold Ledger.step State.start
    dsimp only
    split
    · rename_i id hworker
      split
      · exact .idle
      · rename_i t ht
        exact .start id t hworker ht
    · exact .same
  | item w => exact absurd rfl (hother w)
  | report =>
    unfold Ledger.step State.report
    dsimp only
    split
    · rename_i id action rest results result hworker
      exact .report id action rest results result hworker
    · exact .same
  | finish now =>
    unfold Ledger.step State.finish
    dsimp only
    split
    · exact .idle
    · exact .idle
    · exact .same
  | raised cause now =>
    have hidle : (l.step (.raised cause now)).queue.worker = .idle :=
      (tasks_crash l.queue cause.error (l.queue.worker.recovers cause) now).1
    rw [hidle]
    exact .idle
  | restart commits now => exact .idle

end Steps

/-! ### The invariant -/

/-- The results of a row are those of its acts, as far as they are written. -/
structure RowMatches (acts : List Act) (t : TaskQueue) : Prop where
  results : t.results <+: (actsFor t.id acts).map Act.result
  action : ∀ a ∈ actsFor t.id acts, actionMap t.taskType = some a.action

/-- The processor carries the results of the task it works on. -/
def Worker.Carries (w : Worker) (tasks : TaskTable) (acts : List Act) : Prop :=
  match w with
  | .working id action _ results => results = (actsFor id acts).map Act.result ∧
      ∀ t ∈ tasks.rows, t.id = id → actionMap t.taskType = action
  | .ran id action _ results result => results ++ [result] = (actsFor id acts).map Act.result ∧
      ∀ t ∈ tasks.rows, t.id = id → actionMap t.taskType = some action
  | .idle | .picked _ | .found _ => True

/-- What every step keeps. -/
structure Journal.Sound (j : Journal) : Prop where
  ledger : j.ledger.Sound
  acts : j.ledger.acts = j.acts.map fun a => (a.task, a.item)
  rows : ∀ t ∈ j.ledger.queue.tasks.rows, RowMatches j.acts t
  carries : j.ledger.queue.worker.Carries j.ledger.queue.tasks j.acts

section Invariant

variable {j : Journal} {acts : List Act} {id : Nat} {t : TaskQueue}

theorem actsFor_append {more : List Act} :
    actsFor id (acts ++ more) = actsFor id acts ++ actsFor id more := List.filter_append _ _

theorem actsFor_singleton {a : Act} : actsFor id [a] = if a.task = id then [a] else [] := by
  unfold actsFor
  by_cases h : a.task = id
  · simp [h]
  · simp [h]

/-- The ledger has the same guests. -/
theorem Journal.Sound.actsOf_eq (h : j.Sound) (id : Nat) :
    actsOf id j.ledger.acts = (actsFor id j.acts).map Act.item := by
  rw [h.acts, actsOf, actsFor, List.filter_map, List.map_map]
  rfl

theorem Journal.Sound.actsFor_eq_nil (h : j.Sound) (hnil : actsOf id j.ledger.acts = []) :
    actsFor id j.acts = [] := by
  rw [h.actsOf_eq, List.map_eq_nil_iff] at hnil
  exact hnil

/-- A task that is held has its number already. -/
theorem Journal.Sound.lt_nextId (h : j.Sound) (ht : j.ledger.queue.tasks.find? id = some t) :
    id < j.ledger.queue.nextId :=
  j.ledger.queue.tasks.key_of_find? ht ▸ h.ledger.below t (j.ledger.queue.tasks.mem_of_find? ht)

/-- The action of a task stays what it is. -/
theorem RowStep.action_eq {q : State} {e : BulkEvent} (h : RowStep q e t) {action : Option String}
    (hlt : id < q.nextId) (hold : ∀ r ∈ q.tasks.rows, r.id = id → actionMap r.taskType = action)
    (hid : t.id = id) : actionMap t.taskType = action := by
  cases h with
  | fresh hfresh hresults => exact absurd (hid.symm.trans hfresh) (Nat.ne_of_lt hlt)
  | kept r hr hrid htype hresults =>
    rw [htype]
    exact hold r hr (hrid.symm.trans hid)
  | reported r hr hrid htype action rest results result hreport hworker hresults =>
    rw [htype]
    exact hold r hr (hrid.symm.trans hid)

theorem Journal.Sound.rowMatches_step (h : j.Sound) {e : BulkEvent}
    (hstep : RowStep j.ledger.queue e t) :
    RowMatches j.acts t := by
  cases hstep with
  | fresh hid hresults =>
    have hnil : actsFor t.id j.acts = [] := by
      rw [hid]
      exact h.actsFor_eq_nil h.ledger.actsOf_nextId
    refine ⟨?_, fun a ha => ?_⟩
    · rw [hresults]
      exact List.nil_prefix
    · rw [hnil] at ha
      exact absurd ha List.not_mem_nil
  | kept r hr hid htype hresults =>
    have hold := h.rows r hr
    refine ⟨?_, fun a ha => ?_⟩
    · rw [hid, hresults]
      exact hold.results
    · rw [htype]
      rw [hid] at ha
      exact hold.action a ha
  | reported r hr hid htype action rest results result hreport hworker hresults =>
    have hcarries := h.carries
    rw [hworker] at hcarries
    have hall : t.results = (actsFor t.id j.acts).map Act.result := by
      rw [hid, hresults]
      exact hcarries.1
    refine ⟨⟨[], (List.append_nil _).trans hall⟩, fun a ha => ?_⟩
    rw [htype]
    rw [hid] at ha
    exact (h.rows r hr).action a ha

theorem Journal.Sound.other (h : j.Sound) (e : BulkEvent) (hother : ∀ w, e ≠ .item w) :
    (j.step (.other e hother)).Sound := by
  have hrows : ∀ t ∈ (j.ledger.step e).queue.tasks.rows, RowStep j.ledger.queue e t :=
    fun t ht => j.ledger.rowStep e hother ht
  have hacts : (j.ledger.step e).acts = j.ledger.acts := by
    cases e with
    | item w => exact absurd rfl (hother w)
    | _ => rfl
  refine ⟨h.ledger.step e, hacts.trans h.acts, fun t ht => h.rowMatches_step (hrows t ht), ?_⟩
  have hcarries := h.carries
  have hfollows := h.ledger.follows
  have hworker := j.ledger.workerStep e hother
  change (j.ledger.step e).queue.worker.Carries (j.ledger.step e).queue.tasks j.acts
  generalize (j.ledger.step e).queue.worker = worker at hworker
  cases hworker with
  | same =>
    cases hworker : j.ledger.queue.worker with
    | working id action rest results =>
      rw [hworker] at hcarries hfollows
      obtain ⟨t, ht, -⟩ := hfollows
      refine ⟨hcarries.1, fun t' ht' hid => ?_⟩
      exact (hrows t' ht').action_eq (h.lt_nextId ht) hcarries.2 hid
    | ran id action rest results result =>
      rw [hworker] at hcarries hfollows
      obtain ⟨t, ht, -⟩ := hfollows
      refine ⟨hcarries.1, fun t' ht' hid => ?_⟩
      exact (hrows t' ht').action_eq (h.lt_nextId ht) hcarries.2 hid
    | idle => trivial
    | picked id => trivial
    | found id => trivial
  | idle => trivial
  | picked id => trivial
  | found id => trivial
  | start id t hworker ht =>
    rw [hworker] at hfollows
    obtain ⟨t', ht', hpending⟩ := hfollows
    have hsame : t' = t := Option.some.inj (ht'.symm.trans ht)
    subst hsame
    have hmem := j.ledger.queue.tasks.mem_of_find? ht
    have hid : t'.id = id := j.ledger.queue.tasks.key_of_find? ht
    have hnil : actsFor id j.acts = [] :=
      h.actsFor_eq_nil (hid ▸ ((h.ledger.rows t' hmem).fresh hpending).2)
    refine ⟨?_, fun r hr hrid => (hrows r hr).action_eq (h.lt_nextId ht) (fun r hr hrid => ?_) hrid⟩
    · rw [hnil]
      rfl
    · rw [eq_of_find? ht hr hrid]
  | report id action rest results result hworker =>
    rw [hworker] at hcarries hfollows
    obtain ⟨t, ht, -⟩ := hfollows
    refine ⟨hcarries.1, fun t' ht' hid => ?_⟩
    exact (hrows t' ht').action_eq (h.lt_nextId ht) hcarries.2 hid

/-- The ledger and the journal name the same guest. -/
theorem map_acting (worker : Worker) (w : GuestWorld) :
    (worker.acting w).map (fun a => (a.task, a.item)) = worker.next := by
  cases worker with
  | working id action rest results =>
    cases action with
    | none => rfl
    | some action =>
      cases rest with
      | nil => rfl
      | cons item rest => rfl
  | idle => rfl
  | picked id => rfl
  | found id => rfl
  | ran id action rest results result => rfl

/-- The results of a row stay a beginning when there are more acts. -/
theorem RowMatches.append (h : RowMatches acts t) {more : List Act}
    (haction : ∀ a ∈ actsFor t.id more, actionMap t.taskType = some a.action) :
    RowMatches (acts ++ more) t := by
  refine ⟨?_, fun a ha => ?_⟩
  · rw [actsFor_append, List.map_append]
    exact h.results.trans (List.prefix_append _ _)
  · rw [actsFor_append] at ha
    rcases List.mem_append.mp ha with ha | ha
    · exact h.action a ha
    · exact haction a ha

theorem Journal.Sound.turn (h : j.Sound) (w : GuestWorld) : (j.step (.turn w)).Sound := by
  have hacts : (j.ledger.step (.item w.toItemWorld)).acts =
      (j.acts ++ j.ledger.queue.worker.acting w).map fun a => (a.task, a.item) := by
    rw [List.map_append, map_acting, ← h.acts]
    rfl
  have hqueue : (∀ t ∈ (j.ledger.queue.item w.toItemWorld).tasks.rows,
      RowMatches (j.acts ++ j.ledger.queue.worker.acting w) t) ∧
      (j.ledger.queue.item w.toItemWorld).worker.Carries
        (j.ledger.queue.item w.toItemWorld).tasks
        (j.acts ++ j.ledger.queue.worker.acting w) := by
    rcases next_cases j.ledger.queue w.toItemWorld with
      ⟨hnext, hsame⟩ | ⟨id, action, item, rest, results, hworker⟩
    · have hnone : j.ledger.queue.worker.acting w = [] := by
        rw [← map_acting _ w, List.map_eq_nil_iff] at hnext
        exact hnext
      rw [hsame, hnone, List.append_nil]
      exact ⟨h.rows, h.carries⟩
    · have hcarries := h.carries
      rw [hworker] at hcarries
      obtain ⟨hresults, haction⟩ := hcarries
      have hran : j.ledger.queue.item w.toItemWorld = { j.ledger.queue with
          worker := .ran id action rest results (processItem w.toItemWorld action item)
          late := if id ∈ j.ledger.queue.returned then id :: j.ledger.queue.late
            else j.ledger.queue.late } := by
        unfold State.item
        rw [hworker]
      have hacting : j.ledger.queue.worker.acting w = [⟨id, action, item, w⟩] := by
        rw [hworker, Worker.acting]
      rw [hran, hacting]
      refine ⟨fun t ht => (h.rows t ht).append fun a ha => ?_, ?_, haction⟩
      · rw [actsFor_singleton] at ha
        split at ha
        · rename_i hid
          rw [List.mem_singleton.mp ha]
          exact haction t ht hid.symm
        · exact absurd ha List.not_mem_nil
      · rw [actsFor_append, actsFor_singleton, if_pos rfl, List.map_append, ← hresults]
        rfl
  exact ⟨h.ledger.step (.item w.toItemWorld), hacts, hqueue.1, hqueue.2⟩

/-- Every step keeps what the journal says. -/
theorem Journal.Sound.step (h : j.Sound) (e : JournalEvent) : (j.step e).Sound := by
  cases e with
  | turn w => exact h.turn w
  | other e hother => exact h.other e hother

end Invariant

/-! ### What is reported -/

/-- The acts that have a result in the row of their task. -/
def Journal.Reported (j : Journal) (P : Act → Prop) : Prop :=
  ∀ t ∈ j.ledger.queue.tasks.rows, ∀ a ∈ (actsFor t.id j.acts).take t.results.length, P a

section Reported

variable {j : Journal}

/-- The results of a row are those of its reported acts. -/
theorem RowMatches.results_eq {acts : List Act} {t : TaskQueue} (h : RowMatches acts t) :
    t.results = ((actsFor t.id acts).take t.results.length).map Act.result := by
  rw [List.map_take]
  exact List.prefix_iff_eq_take.mp h.results

theorem Act.truthful_result_iff (a : Act) :
    a.world.Truthful a.action a.item a.result ↔ a.Heard :=
  truthful_processItem_iff a.world a.action a.item

/-- The results are truthful exactly when a failure of their acts would have been heard of. -/
theorem Journal.Sound.truthful_iff (h : j.Sound) : j.Truthful ↔ j.Reported Act.Heard := by
  constructor
  · intro htruthful t ht a ha
    obtain ⟨i, hi⟩ := List.mem_iff_getElem?.mp ha
    have hresult : t.results[i]? = some a.result := by
      rw [(h.rows t ht).results_eq, List.getElem?_map, hi]
      rfl
    obtain ⟨a', ha', -, -, htrue⟩ := htruthful t ht i a.result hresult
    have hact : (actsFor t.id j.acts)[i]? = some a := by
      rw [List.getElem?_take] at hi
      split at hi
      · exact hi
      · cases hi
    have hsame : a' = a := Option.some.inj (ha'.symm.trans hact)
    exact a.truthful_result_iff.mp (hsame ▸ htrue)
  · intro hreported t ht i result hresult
    rw [(h.rows t ht).results_eq, List.getElem?_map, Option.map_eq_some_iff] at hresult
    obtain ⟨a, ha, rfl⟩ := hresult
    have hmem := List.mem_of_getElem? ha
    have hact : (actsFor t.id j.acts)[i]? = some a := by
      rw [List.getElem?_take] at ha
      split at ha
      · exact ha
      · cases ha
    have hitem : (actsOf t.id j.ledger.acts)[i]? = some a.item := by
      rw [h.actsOf_eq, List.getElem?_map, hact]
      rfl
    refine ⟨a, hact, ?_, (h.rows t ht).action a (List.mem_of_getElem? hact), ?_⟩
    · obtain ⟨rest, hrest⟩ := (h.ledger.rows t ht).order
      rw [← hrest, List.getElem?_append_left (List.getElem?_eq_some_iff.mp hitem).1]
      exact hitem
    · exact a.truthful_result_iff.mpr (hreported t ht a hmem)

/-- Processing a guest writes no row. -/
theorem tasks_item (q : State) (w : ItemWorld) : (q.item w).tasks = q.tasks := by
  unfold State.item
  split <;> rfl

/-- A guest that was processed is not reported yet. -/
theorem Journal.Sound.reported_turn (h : j.Sound) (w : GuestWorld)
    (hreported : j.Reported Act.Heard) : (j.step (.turn w)).Reported Act.Heard := by
  intro t ht a ha
  have hmem : t ∈ j.ledger.queue.tasks.rows := by
    have htasks : (j.step (.turn w)).ledger.queue.tasks = j.ledger.queue.tasks := tasks_item _ _
    exact htasks ▸ ht
  have hlength := (h.rows t hmem).results.length_le
  rw [List.length_map] at hlength
  have hacts : (j.step (.turn w)).acts = j.acts ++ j.ledger.queue.worker.acting w := rfl
  rw [hacts, actsFor_append, List.take_append_of_le_length hlength] at ha
  exact hreported t hmem a ha

/-- What a row had before was reported before. -/
theorem Journal.Sound.heard_of_rowStep (h : j.Sound) {e : BulkEvent} {t : TaskQueue}
    (hreported : j.Reported Act.Heard) (hstep : RowStep j.ledger.queue e t)
    (hdue : e = .report → ∀ a ∈ j.unreported, a.Heard) :
    ∀ a ∈ (actsFor t.id j.acts).take t.results.length, a.Heard := by
  intro a ha
  cases hstep with
  | fresh hid hresults =>
    rw [hresults] at ha
    exact absurd ha List.not_mem_nil
  | kept r hr hid htype hresults =>
    rw [hid, hresults] at ha
    exact hreported r hr a ha
  | reported r hr hid htype action rest results result hreport hworker hresults =>
    have hfollows := h.ledger.follows
    rw [hworker] at hfollows
    obtain ⟨t', ht', -, hwritten, -⟩ := hfollows
    have hsame := eq_of_find? ht' hr rfl
    subst hsame
    have hact : a ∈ (actsFor r.id j.acts).take results.length ++
        (actsFor r.id j.acts).drop results.length := by
      rw [List.take_append_drop]
      exact hid ▸ List.mem_of_mem_take ha
    rcases List.mem_append.mp hact with hact | hact
    · rw [← hwritten] at hact
      exact hreported r hr a hact
    · apply hdue hreport a
      rw [Journal.unreported, hworker]
      exact hact

/-- A report writes what was due. -/
theorem Journal.Sound.heard_of_report (h : j.Sound) (hother : ∀ w, BulkEvent.report ≠ .item w)
    (hreported : (j.step (.other .report hother)).Reported Act.Heard) :
    ∀ a ∈ j.unreported, a.Heard := by
  intro a ha
  unfold Journal.unreported at ha
  split at ha
  · rename_i id action rest results result hworker
    have hfollows := h.ledger.follows
    have hcarries := h.carries
    rw [hworker] at hfollows hcarries
    obtain ⟨t, ht, -⟩ := hfollows
    have hlength := congrArg List.length hcarries.1
    rw [List.length_map] at hlength
    have htasks : (j.ledger.step .report).queue.tasks = modify j.ledger.queue.tasks id
        ⟨fun t => t.progress (results ++ [result]) result.success, fun _ => rfl⟩ := by
      unfold Ledger.step State.report
      rw [hworker]
    have hrow : t.progress (results ++ [result]) result.success ∈
        (j.ledger.step .report).queue.tasks.rows := by
      rw [htasks]
      exact KeyedTable.mem_of_find? _ (find?_modify_self ht)
    apply hreported _ hrow a
    have hid : t.id = id := j.ledger.queue.tasks.key_of_find? ht
    change a ∈ (actsFor t.id j.acts).take (results ++ [result]).length
    rw [hid, hlength, List.take_length]
    exact List.mem_of_mem_drop ha
  · exact absurd ha List.not_mem_nil

/-- Only a report adds to what is reported, and it adds the act that was due. -/
theorem Journal.Sound.reported_step_iff (h : j.Sound) (e : JournalEvent)
    (hreported : j.Reported Act.Heard) : (j.step e).Reported Act.Heard ↔ j.Heard e := by
  cases e with
  | turn w => exact iff_of_true (h.reported_turn w hreported) trivial
  | other e hother =>
    have hrows : (e = .report → ∀ a ∈ j.unreported, a.Heard) →
        (j.step (.other e hother)).Reported Act.Heard := by
      intro hdue t ht
      exact h.heard_of_rowStep hreported (j.ledger.rowStep e hother ht) hdue
    cases e with
    | report =>
      constructor
      · exact h.heard_of_report hother
      · intro hdue
        exact hrows fun _ => hdue
    | _ => exact iff_of_true (hrows nofun) trivial

end Reported

/-! ### Every run -/

theorem Waiting.journal_sound (w : Waiting) : (Journal.mk w.start []).Sound where
  ledger := w.sound
  acts := rfl
  rows t ht := by
    obtain ⟨-, -, -, hresults⟩ := w.pending t ht
    refine ⟨?_, fun a ha => absurd ha List.not_mem_nil⟩
    rw [hresults]
    exact List.nil_prefix
  carries := trivial

/-- In every state of a run all results of all tasks are truthful, exactly when no result is
written where a failure would not have been heard of. -/
theorem results_truthful_iff (w : Waiting) (events : List JournalEvent) :
    (∀ j ∈ visited Journal.step ⟨w.start, []⟩ events, j.Truthful) ↔
      Guarded Journal.step Journal.Heard ⟨w.start, []⟩ events := by
  have hsound := invariant_of_step (fun _ e h => h.step e) w.journal_sound events
  have hboth : (∀ j ∈ visited Journal.step ⟨w.start, []⟩ events, j.Truthful) ↔
      ∀ j ∈ visited Journal.step ⟨w.start, []⟩ events, j.Sound ∧ j.Reported Act.Heard :=
    ⟨fun h j hj => ⟨hsound j hj, (hsound j hj).truthful_iff.mp (h j hj)⟩,
      fun h j hj => (hsound j hj).truthful_iff.mpr (h j hj).2⟩
  rw [hboth]
  refine forall_visited_iff_guarded (fun j e _ h => ?_) ⟨w.journal_sound, fun t ht a ha => ?_⟩
  · rw [← h.1.reported_step_iff e h.2]
    exact and_iff_right (h.1.step e)
  · exact absurd (List.mem_of_mem_take ha) List.not_mem_nil

/-! ### A start that is refused -/

/-- Proxmox refuses whatever is asked for. -/
def lockedGuest : GuestWorld where
  cached := some true
  server := none
  built := .error "server not found"
  answer _ := .error "500 Internal Server Error: VM is locked (backup)"

/-- The only machine of a task is started. -/
def refusedStart : List JournalEvent :=
  [.other (.create "bulk_start" 1
      [{ serverId := 1, vmid := 100, node := "pve", name := "web" }] 0) nofun,
    .other .pick nofun, .other .query nofun, .other (.start 1) nofun, .turn lockedGuest,
    .other .report nofun]

/-- The machine that was not started is reported as a success. -/
theorem refusedStart_not_truthful :
    ¬∀ j ∈ visited Journal.step ⟨noTasks.start, []⟩ refusedStart, j.Truthful := by
  intro h
  have hlast := h _ (foldl_mem_visited _ _ _)
  have hrows : (refusedStart.foldl Journal.step ⟨noTasks.start, []⟩).ledger.queue.tasks.rows.map
      (fun t => (t.id, t.results)) = [(1, [⟨1, 100, "web", true, "OK"⟩])] := by decide +kernel
  have hacts : actsFor 1 (refusedStart.foldl Journal.step ⟨noTasks.start, []⟩).acts =
      [⟨1, "start", { serverId := 1, vmid := 100, node := "pve", name := "web" },
        lockedGuest⟩] := rfl
  obtain ⟨t, ht, hpair⟩ := List.mem_map.mp (hrows ▸ List.mem_singleton_self _)
  obtain ⟨hid, hresults⟩ := Prod.mk.inj hpair
  have hresult : t.results[0]? = some ⟨1, 100, "web", true, "OK"⟩ := by rw [hresults]; rfl
  obtain ⟨a, ha, -, -, htrue⟩ := hlast t ht 0 _ hresult
  rw [hid, hacts] at ha
  cases ha
  obtain ⟨request, value, -, hmem⟩ := htrue.accepted rfl
  cases List.mem_singleton.mp hmem

end PveManager.Tasks
