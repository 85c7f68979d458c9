import PveManager.Backups.Router
import PveManager.Core.Outcome

/-!
# The recorded result of a backup job

A run writes the status of its job as it begins and again at the end. The closing status
says whether Proxmox took every backup on; nobody waits for the tasks. Either write may
be lost, and what lies between them may raise.
-/

namespace PveManager.Backups

open PveManager.Core PveManager.Api

/-! ### The run -/

/-- What becomes of a status write. A commit that fails is logged, and the message reads the
row again, which may raise. -/
inductive StatusWrite
  | stored
  | lost
  | raised (e : Exc)

/-- `_update_job_status`; an exception leaves the row of before. -/
def updateJobStatus (write : StatusWrite) (job : BackupJob) (status : String)
    (error upid : Option String) : Except (BackupJob × Exc) BackupJob :=
  match write with
  | .stored => .ok (job.withStatus status error upid)
  | .lost => .ok job
  | .raised e => .error (job, e)

/-- The row that is left, beside an exception or not. -/
def leftBy : Except (BackupJob × Exc) BackupJob → BackupJob
  | .ok job => job
  | .error (job, _) => job

/-- The backup of one target, as the loop of a run asks for it. -/
def startTarget (server : ProxmoxServer) (job : BackupJob) (target : DumpTarget) :
    BackupHandler (Except String (Option String)) :=
  clientCreateBackup server (.text job.node) target (.text job.storage) (.text job.mode)
    (.text job.compress) (decide (job.keepLast ≠ 0)) (.number job.keepLast)
    (job.notes.elim .null .text)

/-- What the targets are answered, one after the other. -/
def answers (env : Environment BackupRouter.interface) (server : ProxmoxServer)
    (job : BackupJob) : List BackupRouter.interface.Call → List DumpTarget →
      List (Except String (Option String))
  | _, [] => []
  | h, target :: targets =>
    let tried := Proc.run env h (startTarget server job target)
    tried.2.toOption.toList ++ answers env server job tried.1 targets

/-- What a run of a job meets. -/
structure JobRun where
  /-- The queries for the job and its server. -/
  queries : Except Exc Unit
  server : Option ProxmoxServer
  /-- The write as the run begins; the only one where the server is missing. -/
  opening : StatusWrite
  /-- The row is expired by the commit and read again. -/
  reread : Except Exc Unit
  /-- What building the client raises. -/
  noClient : Option Exc
  /-- Proxmox. -/
  env : Environment BackupRouter.interface
  /-- Whether the task of a target ends well, by its place in the list. -/
  finishes : Nat → Bool
  closing : StatusWrite

namespace JobRun

variable (r : JobRun) (job : BackupJob)

/-- The loop over the targets and the closing write. -/
def dumpTargets (server : ProxmoxServer) (targets : List DumpTarget) :
    Except (BackupJob × Exc) BackupJob := do
  let (errors, upid) ←
    (Proc.run r.env [] (dumpAll server job targets [] none)).2.mapError fun e => (job, e)
  if errors = [] then updateJobStatus r.closing job "success" none upid
  else updateJobStatus r.closing job "failed" (some ("; ".intercalate errors)) upid

/-- The run after its opening write. -/
def runOpened (server : ProxmoxServer) : Except (BackupJob × Exc) BackupJob := do
  r.reread.mapError fun e => (job, e)
  match r.noClient with
  | some e => updateJobStatus r.closing job "failed" (some e.str) none
  | none =>
    match jobTargets job.vmids with
    | none => .error (job, .other "ValueError")
    | some targets => r.dumpTargets job server targets

/-- `run_backup_job` on a row: the row it leaves, beside an exception or not. -/
def runBackupJob : Except (BackupJob × Exc) BackupJob := do
  r.queries.mapError fun e => (job, e)
  match r.server with
  | none => updateJobStatus r.opening job "failed" (some "Server not found") none
  | some server =>
    let job ← updateJobStatus r.opening job "running" none none
    r.runOpened job server

/-- The row after the run. -/
def row : BackupJob := leftBy (r.runBackupJob job)

/-! ### What is true of a run -/

/-- The run gets to the loop. -/
structure Reaches (server : ProxmoxServer) (targets : List DumpTarget) : Prop where
  queries : r.queries = .ok ()
  server : r.server = some server
  opening : ∀ e, r.opening ≠ .raised e
  reread : r.reread = .ok ()
  client : r.noClient = none
  targets : jobTargets job.vmids = some targets

/-- How the targets end: asked for with success, and finished well. -/
def ends (server : ProxmoxServer) (targets : List DumpTarget) : List Bool :=
  (answers r.env server job [] targets).mapIdx fun i answer => answer.isOk && r.finishes i

/-- A status says no more of the targets than is true. -/
structure Honest (status : Option String) : Prop where
  success : status = some "success" → jobTargets job.vmids = some [] ∨
    ∃ server targets, r.Reaches job server targets ∧ ∀ b ∈ r.ends job server targets, b = true
  failed : ∀ server targets, r.Reaches job server targets → false ∈ r.ends job server targets →
    status = some "failed"
  running : status ≠ some "running"

/-- The status is written as running. -/
structure MarksRunning : Prop where
  queries : r.queries = .ok ()
  server : r.server.isSome = true
  opening : r.opening = .stored

/-- A closing status is written. -/
inductive Closes : Prop
  | noServer (queries : r.queries = .ok ()) (server : r.server = none)
    (opening : r.opening = .stored)
  | noClient (queries : r.queries = .ok ()) (server : r.server.isSome = true)
    (opening : ∀ e, r.opening ≠ .raised e) (reread : r.reread = .ok ())
    (client : r.noClient.isSome = true) (closing : r.closing = .stored)
  | dumped (server : ProxmoxServer) (targets : List DumpTarget)
    (reaches : r.Reaches job server targets) (closing : r.closing = .stored)

/-- Proxmox took every target on. -/
def AllTaken (server : ProxmoxServer) (targets : List DumpTarget) : Prop :=
  ∀ answer ∈ answers r.env server job [] targets, answer.isOk = true

/-- The closing status is written, and where every target was taken on, every task ends well; or
nothing is written, and the status of before happens to be honest. -/
def RecordsResult : Prop :=
  r.Closes job ∧ (∀ server targets, r.Reaches job server targets →
      r.AllTaken job server targets → ∀ i < targets.length, r.finishes i = true) ∨
    ¬r.Closes job ∧ ¬r.MarksRunning ∧ r.Honest job job.lastStatus

end JobRun

/-! ### The loop -/

/-- The client's method answers and does not raise. -/
theorem run_startTarget (env : Environment BackupRouter.interface)
    (h : List BackupRouter.interface.Call) (server : ProxmoxServer) (job : BackupJob)
    (target : DumpTarget) :
    ∃ h' answer, Proc.run env h (startTarget server job target) = (h', .ok answer) := by
  unfold startTarget clientCreateBackup
  split
  · exact ⟨h, _, rfl⟩
  · exact ⟨_, _, rfl⟩

/-- Every target is answered. -/
theorem length_answers (env : Environment BackupRouter.interface) (server : ProxmoxServer)
    (job : BackupJob) (h : List BackupRouter.interface.Call) (targets : List DumpTarget) :
    (answers env server job h targets).length = targets.length := by
  induction targets generalizing h with
  | nil => rfl
  | cons target targets ih =>
    obtain ⟨h', answer, hrun⟩ := run_startTarget env h server job target
    rw [answers, hrun]
    exact congrArg (· + 1) (ih h')

/-- The answers depend on what the loop reads of the row. -/
theorem answers_withStatus (env : Environment BackupRouter.interface) (server : ProxmoxServer)
    (job : BackupJob) (status : String) (error upid : Option String)
    (h : List BackupRouter.interface.Call) (targets : List DumpTarget) :
    answers env server (job.withStatus status error upid) h targets =
      answers env server job h targets := by
  induction targets generalizing h with
  | nil => rfl
  | cons target targets ih =>
    have hstart : startTarget server (job.withStatus status error upid) target =
        startTarget server job target := rfl
    rw [answers, answers, hstart, ih]

/-- The loop collects an error exactly where an answer is one. -/
theorem run_dumpAll (env : Environment BackupRouter.interface) (server : ProxmoxServer)
    (job : BackupJob) (h : List BackupRouter.interface.Call) (targets : List DumpTarget)
    (errors : List String) (upid : Option String) :
    ∃ h' found upid',
      Proc.run env h (dumpAll server job targets errors upid) = (h', .ok (errors ++ found, upid')) ∧
        (found = [] ↔ ∀ answer ∈ answers env server job h targets, answer.isOk = true) := by
  induction targets generalizing h errors upid with
  | nil =>
    refine ⟨h, [], upid, ?_, iff_of_true rfl fun _ hmem => absurd hmem List.not_mem_nil⟩
    rw [List.append_nil]
    rfl
  | cons target targets ih =>
    obtain ⟨h₁, answer, hrun⟩ := run_startTarget env h server job target
    have hanswers : answers env server job h (target :: targets) =
        answer :: answers env server job h₁ targets := by
      rw [answers, hrun]
      rfl
    cases answer with
    | ok taken =>
      have hstep : Proc.run env h (dumpAll server job (target :: targets) errors upid) =
          Proc.run env h₁ (dumpAll server job targets errors taken) := by
        rw [dumpAll]
        exact (Proc.run_bind env h (startTarget server job target) _).trans (by rw [hrun])
      obtain ⟨h', found, upid', hrest, hfound⟩ := ih h₁ errors taken
      refine ⟨h', found, upid', hstep.trans hrest, ?_⟩
      rw [hanswers, List.forall_mem_cons, hfound]
      exact (and_iff_right rfl).symm
    | error e =>
      have hstep : Proc.run env h (dumpAll server job (target :: targets) errors upid) =
          Proc.run env h₁
            (dumpAll server job targets (errors ++ [s!"VMID {target.text}: {e}"]) upid) := by
        rw [dumpAll]
        exact (Proc.run_bind env h (startTarget server job target) _).trans (by rw [hrun])
      obtain ⟨h', found, upid', hrest, -⟩ := ih h₁ (errors ++ [s!"VMID {target.text}: {e}"]) upid
      refine ⟨h', s!"VMID {target.text}: {e}" :: found, upid', ?_, ?_⟩
      · rw [hstep, hrest, List.append_assoc]
        rfl
      · rw [hanswers, List.forall_mem_cons]
        exact iff_of_false (List.cons_ne_nil _ _) fun hall => Bool.false_ne_true hall.1

/-- The loop depends on what it reads of the row. -/
theorem dumpAll_withStatus (server : ProxmoxServer) (job : BackupJob) (status : String)
    (error upid : Option String) (targets : List DumpTarget) (errors : List String)
    (last : Option String) :
    dumpAll server (job.withStatus status error upid) targets errors last =
      dumpAll server job targets errors last := by
  induction targets generalizing errors last with
  | nil => rfl
  | cons target targets ih =>
    simp only [dumpAll, ih]
    rfl

/-! ### The ways a run can end -/

/-- A write that is stored leaves its status. -/
theorem lastStatus_updateJobStatus {write : StatusWrite} (h : write = .stored) (job : BackupJob)
    (status : String) (error upid : Option String) :
    (leftBy (updateJobStatus write job status error upid)).lastStatus = some status := by
  rw [h]
  rfl

/-- A write that is not stored leaves the row. -/
theorem leftBy_updateJobStatus {write : StatusWrite} (h : write ≠ .stored) (job : BackupJob)
    (status : String) (error upid : Option String) :
    leftBy (updateJobStatus write job status error upid) = job := by
  cases write with
  | stored => exact absurd rfl h
  | lost => rfl
  | raised e => rfl

namespace JobRun

variable {r : JobRun} {job job' : BackupJob} {server : ProxmoxServer} {targets : List DumpTarget}

/-- The status a run leaves. -/
inductive Leaves (r : JobRun) (job : BackupJob) : Option String → Prop
  | failed (closes : r.Closes job)
    (unreached : ∀ server targets, ¬r.Reaches job server targets) : Leaves r job (some "failed")
  | refused (server : ProxmoxServer) (targets : List DumpTarget)
    (reaches : r.Reaches job server targets) (closing : r.closing = .stored)
    (refused : ¬r.AllTaken job server targets) : Leaves r job (some "failed")
  | taken (server : ProxmoxServer) (targets : List DumpTarget)
    (reaches : r.Reaches job server targets) (closing : r.closing = .stored)
    (taken : r.AllTaken job server targets) : Leaves r job (some "success")
  | running (marks : r.MarksRunning) (not_closes : ¬r.Closes job) : Leaves r job (some "running")
  | untouched (not_marks : ¬r.MarksRunning) (not_closes : ¬r.Closes job) :
    Leaves r job job.lastStatus

/-- The loop ends with the closing write. -/
theorem dumpTargets_eq (r : JobRun) (job : BackupJob) (server : ProxmoxServer)
    (targets : List DumpTarget) :
    ∃ error upid, r.AllTaken job server targets ∧
        r.dumpTargets job server targets =
          updateJobStatus r.closing job "success" error upid ∨
      ¬r.AllTaken job server targets ∧
        r.dumpTargets job server targets =
          updateJobStatus r.closing job "failed" error upid := by
  obtain ⟨h', found, upid, hrun, hfound⟩ := run_dumpAll r.env server job [] targets [] none
  have hdump : r.dumpTargets job server targets =
      if found = [] then updateJobStatus r.closing job "success" none upid
      else updateJobStatus r.closing job "failed" (some ("; ".intercalate found)) upid := by
    rw [dumpTargets, hrun]
    rfl
  rw [hdump]
  split
  · rename_i hnone
    exact ⟨none, upid, .inl ⟨hfound.mp hnone, rfl⟩⟩
  · rename_i hsome
    exact ⟨_, upid, .inr ⟨fun h => hsome (hfound.mpr h), rfl⟩⟩

/-- A run that does not close leaves the row as its opening write left it. -/
theorem leaves_of_not_closes (hqueries : r.queries = .ok ()) (hserver : r.server = some server)
    (hnot : ¬r.Closes job)
    (hopened : updateJobStatus r.opening job "running" none none = .ok job') :
    Leaves r job job'.lastStatus := by
  cases hopening : r.opening with
  | stored =>
    rw [hopening] at hopened
    cases hopened
    exact .running ⟨hqueries, hserver ▸ rfl, hopening⟩ hnot
  | lost =>
    rw [hopening] at hopened
    cases hopened
    refine .untouched (fun hmarks => ?_) hnot
    exact StatusWrite.noConfusion (hopening.symm.trans hmarks.opening)
  | raised e =>
    rw [hopening] at hopened
    cases hopened

/-- The opening write keeps what the loop reads. -/
theorem allTaken_of_opened
    (hopened : updateJobStatus r.opening job "running" none none = .ok job') :
    job'.vmids = job.vmids ∧
      ∀ server targets, r.AllTaken job' server targets ↔ r.AllTaken job server targets := by
  cases hopening : r.opening with
  | stored =>
    rw [hopening] at hopened
    cases hopened
    refine ⟨rfl, fun server targets => ?_⟩
    rw [AllTaken, answers_withStatus]
    rfl
  | lost =>
    rw [hopening] at hopened
    cases hopened
    exact ⟨rfl, fun _ _ => Iff.rfl⟩
  | raised e =>
    rw [hopening] at hopened
    cases hopened

section Opened

variable {e : Exc}

theorem runOpened_of_unread (hreread : r.reread = .error e) :
    r.runOpened job server = .error (job, e) := by
  rw [runOpened, hreread]
  rfl

theorem runOpened_of_noClient (hreread : r.reread = .ok ()) (hclient : r.noClient = some e) :
    r.runOpened job server = updateJobStatus r.closing job "failed" (some e.str) none := by
  simp only [runOpened, hreread, hclient]
  rfl

theorem runOpened_of_malformed (hreread : r.reread = .ok ()) (hclient : r.noClient = none)
    (htargets : jobTargets job.vmids = none) :
    r.runOpened job server = .error (job, .other "ValueError") := by
  simp only [runOpened, hreread, hclient, htargets]
  rfl

theorem runOpened_of_targets (hreread : r.reread = .ok ()) (hclient : r.noClient = none)
    (htargets : jobTargets job.vmids = some targets) :
    r.runOpened job server = r.dumpTargets job server targets := by
  simp only [runOpened, hreread, hclient, htargets]
  rfl

end Opened

/-- What a run on a server needs to close. -/
theorem Closes.of_server (h : r.Closes job) (hserver : r.server = some server) :
    r.closing = .stored ∧ r.reread = .ok () ∧
      (r.noClient = none → ∃ targets, jobTargets job.vmids = some targets) := by
  cases h with
  | noServer queries hnone opening =>
    exact absurd (hserver.symm.trans hnone) (Option.some_ne_none _)
  | noClient queries some opening reread client closing =>
    refine ⟨closing, reread, fun hnone => ?_⟩
    rw [hnone] at client
    cases client
  | dumped server targets reaches closing =>
    exact ⟨closing, reaches.reread, fun _ => ⟨targets, reaches.targets⟩⟩

/-- A run that opened closes, or stays as it was opened. -/
theorem leaves_of_opened (hqueries : r.queries = .ok ()) (hserver : r.server = some server)
    (hopened : updateJobStatus r.opening job "running" none none = .ok job') :
    Leaves r job (r.row job).lastStatus := by
  obtain ⟨hvmids, htaken⟩ := allTaken_of_opened hopened
  have hopening : ∀ e, r.opening ≠ .raised e := by
    intro e he
    rw [he] at hopened
    cases hopened
  have hrow : r.row job = leftBy (r.runOpened job' server) := by
    rw [row, runBackupJob, hqueries, hserver]
    show leftBy (updateJobStatus r.opening job "running" none none >>= fun job =>
      r.runOpened job server) = _
    rw [hopened]
    rfl
  have hstays : ¬r.Closes job → Leaves r job job'.lastStatus := fun hnot =>
    leaves_of_not_closes hqueries hserver hnot hopened
  rw [hrow]
  cases hreread : r.reread with
  | error e =>
    rw [runOpened_of_unread hreread]
    refine hstays fun hcloses => ?_
    have hread := (hcloses.of_server hserver).2.1
    rw [hreread] at hread
    cases hread
  | ok u =>
    cases hclient : r.noClient with
    | some e =>
      rw [runOpened_of_noClient hreread hclient]
      by_cases hclosing : r.closing = .stored
      · rw [lastStatus_updateJobStatus hclosing]
        refine .failed (.noClient hqueries (hserver ▸ rfl) hopening hreread (hclient ▸ rfl)
          hclosing) fun server targets hreaches => ?_
        exact Option.some_ne_none _ (hclient.symm.trans hreaches.client)
      · rw [leftBy_updateJobStatus hclosing]
        exact hstays fun hcloses => hclosing (hcloses.of_server hserver).1
    | none =>
      cases htargets : jobTargets job.vmids with
      | none =>
        rw [runOpened_of_malformed hreread hclient (hvmids ▸ htargets)]
        refine hstays fun hcloses => ?_
        obtain ⟨targets, hsome⟩ := (hcloses.of_server hserver).2.2 hclient
        exact Option.some_ne_none _ (hsome.symm.trans htargets)
      | some targets =>
        rw [runOpened_of_targets hreread hclient (hvmids ▸ htargets)]
        have hreaches : r.Reaches job server targets :=
          ⟨hqueries, hserver, hopening, hreread, hclient, htargets⟩
        obtain ⟨error, upid, hdump⟩ := dumpTargets_eq r job' server targets
        rw [htaken] at hdump
        by_cases hclosing : r.closing = .stored
        · rcases hdump with ⟨hall, hdump⟩ | ⟨hnot, hdump⟩
          · rw [hdump, lastStatus_updateJobStatus hclosing]
            exact .taken server targets hreaches hclosing hall
          · rw [hdump, lastStatus_updateJobStatus hclosing]
            exact .refused server targets hreaches hclosing hnot
        · have hleft : leftBy (r.dumpTargets job' server targets) = job' := by
            rcases hdump with ⟨-, hdump⟩ | ⟨-, hdump⟩
            · rw [hdump, leftBy_updateJobStatus hclosing]
            · rw [hdump, leftBy_updateJobStatus hclosing]
          rw [hleft]
          exact hstays fun hcloses => hclosing (hcloses.of_server hserver).1

/-- Every run ends in one of the ways. -/
theorem leaves_row (r : JobRun) (job : BackupJob) : Leaves r job (r.row job).lastStatus := by
  cases hqueries : r.queries with
  | error e =>
    have hrow : r.row job = job := by
      rw [row, runBackupJob, hqueries]
      rfl
    have hnone : r.queries ≠ .ok () := fun h => by
      rw [hqueries] at h
      cases h
    rw [hrow]
    refine .untouched (fun hmarks => hnone hmarks.queries) fun hcloses => ?_
    cases hcloses with
    | noServer queries => exact hnone queries
    | noClient queries => exact hnone queries
    | dumped server targets reaches => exact hnone reaches.queries
  | ok u =>
    cases hserver : r.server with
    | none =>
      have hrow : r.row job =
          leftBy (updateJobStatus r.opening job "failed" (some "Server not found") none) := by
        rw [row, runBackupJob, hqueries, hserver]
        rfl
      rw [hrow]
      by_cases hopening : r.opening = .stored
      · rw [lastStatus_updateJobStatus hopening]
        refine .failed (.noServer hqueries hserver hopening) fun server targets hreaches => ?_
        exact Option.some_ne_none _ (hreaches.server.symm.trans hserver)
      · rw [leftBy_updateJobStatus hopening]
        refine .untouched (fun hmarks => hopening hmarks.opening) fun hcloses => ?_
        cases hcloses with
        | noServer queries server opening => exact hopening opening
        | noClient queries server =>
          rw [hserver] at server
          cases server
        | dumped server targets reaches =>
          exact Option.some_ne_none _ (reaches.server.symm.trans hserver)
    | some server =>
      cases hopened : updateJobStatus r.opening job "running" none none with
      | ok job' => exact leaves_of_opened hqueries hserver hopened
      | error raised =>
        cases hopening : r.opening with
        | stored =>
          rw [hopening] at hopened
          cases hopened
        | lost =>
          rw [hopening] at hopened
          cases hopened
        | raised e =>
          have hrow : r.row job = job := by
            rw [row, runBackupJob, hqueries, hserver, hopening]
            rfl
          rw [hrow]
          refine .untouched (fun hmarks => ?_) fun hcloses => ?_
          · exact StatusWrite.noConfusion (hopening.symm.trans hmarks.opening)
          · cases hcloses with
            | noServer queries server => exact Option.some_ne_none _ (hserver.symm.trans server)
            | noClient queries server opening => exact opening e hopening
            | dumped server targets reaches => exact reaches.opening e hopening

/-! ### When the result is true -/

theorem Reaches.unique {server' : ProxmoxServer} {targets' : List DumpTarget}
    (h : r.Reaches job server targets) (h' : r.Reaches job server' targets') :
    server' = server ∧ targets' = targets :=
  ⟨Option.some.inj (h'.server.symm.trans h.server),
    Option.some.inj (h'.targets.symm.trans h.targets)⟩

/-- Where every target was taken on, the tasks decide. -/
theorem ends_eq_true_iff (h : r.AllTaken job server targets) :
    (∀ b ∈ r.ends job server targets, b = true) ↔ ∀ i < targets.length, r.finishes i = true := by
  have hlength := length_answers r.env server job [] targets
  constructor
  · intro hends i hi
    have hi' : i < (answers r.env server job [] targets).length := hlength ▸ hi
    have hmem : ((answers r.env server job [] targets)[i].isOk && r.finishes i) ∈
        r.ends job server targets :=
      List.mem_mapIdx.mpr ⟨i, hi', rfl⟩
    exact (Bool.and_eq_true_iff.mp (hends _ hmem)).2
  · intro hfinishes b hb
    obtain ⟨i, hi, rfl⟩ := List.mem_mapIdx.mp hb
    rw [h _ (List.getElem_mem hi), hfinishes i (hlength ▸ hi)]
    rfl

/-- The recorded status is honest exactly when the run closes and its tasks bear it out, or
nothing is written over an honest one. -/
theorem honest_iff_recordsResult (r : JobRun) (job : BackupJob) :
    r.Honest job (r.row job).lastStatus ↔ r.RecordsResult job := by
  have hfailed : r.Honest job (some "failed") :=
    ⟨fun h => absurd h (by decide), fun _ _ _ _ => rfl, by decide⟩
  have hleaves := leaves_row r job
  generalize (r.row job).lastStatus = status at hleaves
  cases hleaves with
  | failed closes unreached =>
    refine iff_of_true hfailed (.inl ⟨closes, fun server targets hreaches => ?_⟩)
    exact absurd hreaches (unreached server targets)
  | refused server targets reaches closing refused =>
    refine iff_of_true hfailed (.inl ⟨.dumped server targets reaches closing, ?_⟩)
    intro server' targets' hreaches htaken
    obtain ⟨rfl, rfl⟩ := reaches.unique hreaches
    exact absurd htaken refused
  | taken server targets reaches closing taken =>
    have hcloses : r.Closes job := .dumped server targets reaches closing
    constructor
    · intro h
      refine .inl ⟨hcloses, fun server' targets' hreaches _ => ?_⟩
      obtain ⟨rfl, rfl⟩ := reaches.unique hreaches
      rcases h.success rfl with hnone | ⟨server'', targets'', hreaches'', hends⟩
      · cases reaches.targets.symm.trans hnone
        exact fun i hi => absurd hi (Nat.not_lt_zero i)
      · obtain ⟨rfl, rfl⟩ := reaches.unique hreaches''
        exact (ends_eq_true_iff taken).mp hends
    · intro h
      rcases h with ⟨-, hfinishes⟩ | ⟨hnot, -⟩
      · have hends := (ends_eq_true_iff taken).mpr (hfinishes server targets reaches taken)
        refine ⟨fun _ => .inr ⟨server, targets, reaches, hends⟩, ?_, by decide⟩
        intro server' targets' hreaches hfalse
        obtain ⟨rfl, rfl⟩ := reaches.unique hreaches
        exact absurd (hends false hfalse) Bool.false_ne_true
      · exact absurd hcloses hnot
  | running marks not_closes =>
    refine iff_of_false (fun h => h.running rfl) ?_
    rintro (⟨hcloses, -⟩ | ⟨-, hnot, -⟩)
    · exact not_closes hcloses
    · exact hnot marks
  | untouched not_marks not_closes =>
    constructor
    · exact fun h => .inr ⟨not_closes, not_marks, h⟩
    · rintro (⟨hcloses, -⟩ | ⟨-, -, h⟩)
      · exact absurd hcloses not_closes
      · exact h

/-- One container, every night. -/
def nightly : BackupJob where
  id := 1
  serverId := 1
  node := "pve1"
  vmids := .list [.number 100]
  storage := "local"
  mode := "snapshot"
  compress := "zstd"
  notes := none
  keepLast := 3
  keepDaily := 7
  keepWeekly := 4
  keepMonthly := 6
  cronExpression := "0 2 * * *"
  enabled := true
  ownerId := none
  lastStatus := none
  lastError := none
  lastUpid := none

/-- The server of the job. -/
def nightlyServer : ProxmoxServer :=
  ⟨1, "pve1", "pve1.lan", "10.0.0.5", 8006, "root@pam", none, none, true, none, false, none, none,
    some true, none, none, none⟩

/-- A Proxmox that takes every backup on. -/
def takesAll : Environment BackupRouter.interface
  | _, .isConnected _ => true
  | _, .request _ (.vzdump _) => .ok (some "UPID:pve1:00001234:00005678:vzdump:100:root@pam:")
  | _, .request _ (.restore _) => .ok none
  | _, .request _ (.deleteContent ..) => .ok ()
  | _, .request _ (.nextId _) => none
  | _, .effect e => nomatch e

/-- The backup is taken on and ends badly, for want of space. -/
def fullStorage : JobRun where
  queries := .ok ()
  server := some nightlyServer
  opening := .stored
  reread := .ok ()
  noClient := none
  env := takesAll
  finishes := fun _ => false
  closing := .stored

/-- The job counts as successful when its only backup failed. -/
theorem fullStorage_not_honest :
    ¬fullStorage.Honest nightly (fullStorage.row nightly).lastStatus := by
  intro h
  have hreaches : fullStorage.Reaches nightly nightlyServer [.vmid 100] :=
    ⟨rfl, rfl, fun _ he => StatusWrite.noConfusion he, rfl, rfl, rfl⟩
  have hends : fullStorage.ends nightly nightlyServer [.vmid 100] = [false] := rfl
  have hstatus : (fullStorage.row nightly).lastStatus = some "success" := rfl
  have hfailed := h.failed nightlyServer _ hreaches (hends ▸ List.mem_singleton_self false)
  rw [hstatus] at hfailed
  exact absurd hfailed (by decide)

/-- Nothing around the loop goes wrong. -/
structure Smooth (r : JobRun) : Prop where
  queries : r.queries = .ok ()
  opening : r.opening = .stored
  reread : r.reread = .ok ()
  client : r.noClient = none
  closing : r.closing = .stored

/-- The router's run is the run in which nothing around the loop goes wrong. -/
theorem Smooth.run_router (h : r.Smooth) {p : Panel} {jobId : Nat}
    (hjob : p.jobs.find? jobId = some job) (hserver : r.server = p.db.servers.find? job.serverId) :
    (Proc.run r.env [] (Backups.runBackupJob p jobId)).2 = .ok (some (r.row job)) := by
  unfold Backups.runBackupJob
  rw [hjob]
  dsimp only
  rw [← hserver]
  cases hfound : r.server with
  | none =>
    rw [row, runBackupJob, h.queries, hfound, h.opening]
    rfl
  | some server =>
    have hrow : r.row job = leftBy (r.runOpened (job.withStatus "running" none none) server) := by
      rw [row, runBackupJob, h.queries, hfound, h.opening]
      rfl
    rw [hrow]
    dsimp only
    have hvmids : jobTargets (job.withStatus "running" none none).vmids = jobTargets job.vmids :=
      rfl
    cases htargets : jobTargets job.vmids with
    | none =>
      rw [runOpened_of_malformed h.reread h.client (hvmids.trans htargets)]
      rfl
    | some targets =>
      obtain ⟨h', found, upid, hrun, -⟩ := run_dumpAll r.env server job [] targets [] none
      rw [runOpened_of_targets h.reread h.client (hvmids.trans htargets), dumpTargets,
        dumpAll_withStatus, hrun, h.closing]
      dsimp only
      rw [Proc.run_bind, hrun]
      show Except.ok (some (if found = [] then _ else _)) =
        Except.ok (some (leftBy (if found = [] then _ else _)))
      split
      · rfl
      · rfl

end JobRun

end PveManager.Backups
