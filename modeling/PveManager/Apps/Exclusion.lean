import PveManager.Apps.Calls
import PveManager.Apps.Vmids
import PveManager.Core.Phases
import PveManager.Core.Run

/-!
# The jobs of one app

The requests on an app run in threads of their own and hand their jobs to the
pool, which starts up to four at once. Every thread and every job goes on by one
call at a time, in any order. The statuses keep some requests from handing over
a job, but a job that waits or runs keeps none of them from it.
-/

namespace PveManager.Apps

open PveManager.Core PveManager.Api

/-- What a deletion has done: its teardown returned, and then the row was gone. -/
inductive Phase
  | standing
  | torn
  | gone
  deriving DecidableEq, Repr

/-- The address is released right after the teardown; a row that is missing or removed is gone. -/
def Phase.next : Phasing engine Phase
  | .standing, .remote (.releaseIp _ _), _ => .torn
  | .torn, .load, none => .gone
  | .torn, .remove, _ => .gone
  | phase, _, _ => phase

def Job.isDelete : Job → Bool
  | .delete _ _ _ => true
  | _ => false

/-- A job at work. -/
structure Worker where
  job : Job
  rest : Op OpStatus
  phase : Phase

/-- The row of an app, the requests on it and its jobs. -/
structure Pool where
  row : Option InstalledApp
  threads : List (Op Unit)
  /-- Jobs that wait for a thread of the pool. -/
  queue : List Job
  workers : List Worker
  /-- A delete was accepted. -/
  accepted : Bool
  /-- After that another job moved the app to running or stopped. -/
  revived : Bool
  /-- A delete whose teardown had returned ended and left the row. -/
  stranded : Bool

inductive Move
  | arrive (req : AppRequest)
  /-- A request makes its next call, or ends. -/
  | thread (n : Nat) (world : World)
  /-- The pool starts the job that waits longest. -/
  | start
  /-- A job makes its next call, or ends. -/
  | worker (n : Nat) (world : World)

/-- `max_workers`. -/
def maxWorkers : Nat := 4

/-- The app as its installation leaves it to the pool. -/
def Pool.installed (ia : InstalledApp) (job : InstallJob) : Pool where
  row := some ia
  threads := [submit (.install job)]
  queue := []
  workers := []
  accepted := false
  revived := false
  stranded := false

/-- The status was changed to running or stopped. -/
def movedBack : Option InstalledApp → Option InstalledApp → Bool
  | some old, some new =>
    decide (new.status ≠ old.status) &&
      (decide (new.status = .running) || decide (new.status = .stopped))
  | _, _ => false

/-- The job a call hands over. -/
def EngineCall.job? : EngineCall → Option Job
  | .submit job => some job
  | _ => none

namespace Pool

/-- The next call of a request. -/
def threadCall (s : Pool) (n : Nat) (world : World) : Pool :=
  match s.threads[n]? with
  | some (.call c k) =>
    { s with
      row := c.effect s.row
      threads := s.threads.set n (k (world.answer s.row c))
      queue := s.queue ++ c.job?.toList
      accepted := s.accepted || c.job?.any Job.isDelete }
  | some _ => { s with threads := s.threads.eraseIdx n }
  | none => s

/-- The next call of a job. -/
def workerCall (s : Pool) (n : Nat) (world : World) : Pool :=
  match s.workers[n]? with
  | some ⟨job, .call c k, phase⟩ =>
    let answer := world.answer s.row c
    { s with
      row := c.effect s.row
      workers := s.workers.set n ⟨job, k answer, phase.next c answer⟩
      revived := s.revived || s.accepted && !job.isDelete && movedBack s.row (c.effect s.row) }
  | some ⟨job, _, phase⟩ =>
    { s with
      workers := s.workers.eraseIdx n
      stranded := s.stranded || job.isDelete && decide (phase ≠ .standing) && s.row.isSome }
  | none => s

/-- A waiting job is started while the pool has a free thread. -/
def startJob (s : Pool) : Pool :=
  match s.queue with
  | job :: queue =>
    if s.workers.length < maxWorkers then
      { s with queue, workers := s.workers ++ [⟨job, job.run, .standing⟩] }
    else s
  | [] => s

def step (s : Pool) : Move → Pool
  | .arrive req => { s with threads := s.threads ++ [req.run] }
  | .thread n world => s.threadCall n world
  | .start => s.startJob
  | .worker n world => s.workerCall n world

/-- One job works at a time, and an accepted delete has the last word. -/
structure Exclusive (s : Pool) : Prop where
  alone : s.workers.length ≤ 1
  not_revived : s.revived = false
  not_stranded : s.stranded = false

/-- The job that a move hands over to the pool. -/
def handsOver (s : Pool) : Move → Option Job
  | .thread n _ =>
    match s.threads[n]? with
    | some (.call c _) => c.job?
    | _ => none
  | _ => none

/-- A job is handed over only while no other one waits or works, and after an accepted delete
that has left the row only a delete is. -/
def InTurn (s : Pool) (m : Move) : Prop :=
  ∀ job, s.handsOver m = some job →
    s.queue = [] ∧ s.workers = [] ∧
      (s.accepted = true → s.row.isSome = true → job.isDelete = true)

end Pool

/-! ### The phases of a deletion -/

/-- Anything but the release of an address leaves a deletion that stands, or is past the row,
outside the phase in between. -/
theorem Phase.next_ne_torn {phase : Phase} {c : EngineCall} (a : engine.Answer c)
    (hc : ∀ serverId vmid, c ≠ .remote (.releaseIp serverId vmid)) (h : phase ≠ .torn) :
    phase.next c a ≠ .torn := by
  unfold Phase.next
  split
  · exact absurd rfl (hc _ _)
  · exact absurd rfl h
  · exact absurd rfl h
  · exact h

/-- A call that is not the release of an address. -/
abbrev Keeps (c : EngineCall) : Prop := ∀ serverId vmid, c ≠ .remote (.releaseIp serverId vmid)

theorem leads_of_keeps {α : Type} {Q : Phase → Except String α → Prop}
    (hQ : ∀ phase r, phase ≠ .torn → Q phase r) {p : Op α} (hp : p.Only Keeps) {phase : Phase}
    (h : phase ≠ .torn) : p.Leads Phase.next Q phase :=
  Proc.leads_of_only (J := fun phase => phase ≠ .torn)
    (fun _ _ a hc hy => Phase.next_ne_torn a hc hy) hQ hp h

/-- The plain calls are among them. -/
theorem plain_keeps : Plain Keeps where
  load := by simp [Keeps]
  write := by simp [Keeps]
  catalogApp := by simp [Keeps]
  goldenTemplate := by simp [Keeps]
  remote := by
    rintro r hr serverId vmid heq
    cases heq
    cases hr

/-- Whatever was torn down, the row is gone behind its removal. -/
theorem leads_dropRow {Q : Phase → Except String Unit → Prop}
    (hQ : ∀ phase, phase ≠ .torn → Q phase (.ok ())) (phase : Phase) :
    dropRow.Leads Phase.next Q phase := by
  intro row
  cases row with
  | none => cases phase <;> exact hQ _ Phase.noConfusion
  | some ia =>
    intro done
    cases phase <;> exact hQ _ Phase.noConfusion

/-- Nothing is raised once the teardown has returned. -/
theorem leads_clear {Q : Phase → Except String Unit → Prop}
    (herror : ∀ phase e, phase ≠ .torn → Q phase (.error e)) (hok : ∀ phase, Q phase (.ok ()))
    (serverId : Option ServerId) (vmid : Option Vmid) (node : Option String) :
    (clear serverId vmid node).Leads Phase.next Q .standing := by
  unfold clear
  split
  · rename_i serverId vmid hserver hvmid
    rw [Proc.leads_bind]
    refine leads_of_keeps ?_ (only_pocTeardown plain_keeps.remote serverId vmid node) Phase.noConfusion
    intro phase r hphase
    cases r with
    | error e => exact herror phase e hphase
    | ok u =>
      intro released
      cases released <;>
      · intro deleted
        cases deleted <;> exact hok _
  · exact hok _

/-- A deletion that tore the container down ends with the row gone. -/
theorem leads_runDelete (serverId : Option ServerId) (vmid : Option Vmid) (node : Option String) :
    (runDelete serverId vmid node).Leads Phase.next (fun phase _ => phase ≠ .torn) .standing := by
  unfold runDelete
  rw [Proc.leads_tryCatch, Proc.leads_bind]
  refine leads_clear ?_ ?_ serverId vmid node
  · intro phase e hphase
    refine leads_of_keeps (fun _ _ h => h) ?_ hphase
    exact Proc.only_bind (only_amend plain_keeps fun _ => rfl) fun _ => Proc.only_pure _
  · intro phase
    dsimp only
    rw [Proc.leads_bind]
    exact leads_dropRow (fun phase hphase => hphase) phase

/-! ### Jobs that are handed over in turn -/

/-- What is left of a deletion: it will not end before the row is gone, and where it has met
no row there is none. -/
structure Worker.Sound (row : Option InstalledApp) (w : Worker) : Prop where
  leads : w.rest.Leads Phase.next (fun phase _ => phase ≠ .torn) w.phase
  gone : w.phase = .gone → row = none

/-- A row that is gone stays away. -/
theorem EngineCall.effect_none (c : EngineCall) : c.effect none = none := by
  cases c <;> rfl

theorem movedBack_none (new : Option InstalledApp) : movedBack none new = false := rfl

/-- A deletion meets no row only where there is none. -/
theorem Phase.gone_of_next {phase : Phase} {row : Option InstalledApp} {world : World}
    {c : EngineCall} (hgone : phase = .gone → row = none)
    (h : phase.next c (world.answer row c) = .gone) : c.effect row = none := by
  cases row with
  | none => exact c.effect_none
  | some ia =>
    cases phase with
    | gone => exact absurd (hgone rfl) (by simp)
    | standing =>
      cases c with
      | remote r => cases r <;> exact absurd h Phase.noConfusion
      | _ => exact absurd h Phase.noConfusion
    | torn =>
      cases c with
      | remove => rfl
      | _ => exact absurd h Phase.noConfusion

theorem Worker.Sound.call {row : Option InstalledApp} {job : Job} {c : EngineCall}
    {k : engine.Answer c → Op OpStatus} {phase : Phase}
    (h : Worker.Sound row ⟨job, .call c k, phase⟩) (world : World) :
    Worker.Sound (c.effect row)
      ⟨job, k (world.answer row c), phase.next c (world.answer row c)⟩ :=
  ⟨h.leads (world.answer row c), fun hgone => Phase.gone_of_next h.gone hgone⟩

/-- Calls of others do not bring the row back. -/
theorem Worker.Sound.effect {row : Option InstalledApp} {w : Worker} (h : w.Sound row)
    (c : EngineCall) : w.Sound (c.effect row) :=
  ⟨h.leads, fun hgone => by rw [h.gone hgone, c.effect_none]⟩

/-- A deletion that has ended stands or has met no row. -/
theorem Worker.Sound.row_of_ended {row : Option InstalledApp} {w : Worker} (h : w.Sound row)
    (hended : ∀ c k, w.rest = .call c k → False) : w.phase = .standing ∨ row = none := by
  obtain ⟨job, rest, phase⟩ := w
  have hnot : phase ≠ .torn := by
    cases rest with
    | pure a => exact h.leads
    | throw e => exact h.leads
    | call c k => exact absurd rfl (hended c k)
  cases phase with
  | standing => exact Or.inl rfl
  | torn => exact absurd rfl hnot
  | gone => exact Or.inr (h.gone rfl)

theorem Worker.Sound.started (row : Option InstalledApp) {job : Job} (h : job.isDelete = true) :
    Worker.Sound row ⟨job, job.run, .standing⟩ := by
  cases job with
  | delete serverId vmid node => exact ⟨leads_runDelete serverId vmid node, nofun⟩
  | install job => cases h
  | update job => cases h
  | rollback => cases h

namespace Pool

/-- One job waits or works, after an accepted delete only a delete while there is a row. -/
structure Orderly (s : Pool) : Prop where
  one : s.queue.length + s.workers.length ≤ 1
  waiting : s.accepted = true → s.row.isSome = true → ∀ job ∈ s.queue, job.isDelete = true
  working : s.accepted = true → s.row.isSome = true → ∀ w ∈ s.workers, w.job.isDelete = true
  sound : ∀ w ∈ s.workers, w.job.isDelete = true → w.Sound s.row
  not_revived : s.revived = false
  not_stranded : s.stranded = false

theorem Orderly.exclusive {s : Pool} (h : s.Orderly) : s.Exclusive where
  alone := by
    have hone := h.one
    omega
  not_revived := h.not_revived
  not_stranded := h.not_stranded

theorem orderly_installed (ia : InstalledApp) (job : InstallJob) : (installed ia job).Orderly where
  one := by simp [installed]
  waiting := by simp [installed]
  working := by simp [installed]
  sound := by simp [installed]
  not_revived := rfl
  not_stranded := rfl

theorem isSome_of_effect {row : Option InstalledApp} {c : EngineCall}
    (h : (c.effect row).isSome = true) : row.isSome = true := by
  cases row with
  | none =>
    rw [c.effect_none] at h
    cases h
  | some ia => rfl

/-- The next call of a request keeps the jobs orderly when it hands one over in turn. -/
theorem Orderly.threadCall {s : Pool} (h : s.Orderly) {n : Nat} {world : World}
    (hturn : s.InTurn (.thread n world)) : (s.threadCall n world).Orderly := by
  unfold Pool.threadCall
  split
  · rename_i c k hn
    have hover : s.handsOver (.thread n world) = c.job? := by simp only [handsOver, hn]
    have hsound : ∀ w ∈ s.workers, w.job.isDelete = true → w.Sound (c.effect s.row) :=
      fun w hw hdelete => (h.sound w hw hdelete).effect c
    cases hjob : c.job? with
    | none =>
      refine ⟨?_, ?_, ?_, hsound, h.not_revived, h.not_stranded⟩
      · simpa using h.one
      · intro haccepted hrow
        simpa using h.waiting (by simpa using haccepted) (isSome_of_effect hrow)
      · intro haccepted hrow
        exact h.working (by simpa using haccepted) (isSome_of_effect hrow)
    | some job =>
      obtain ⟨hqueue, hworkers, hdelete⟩ := hturn job (hover.trans hjob)
      refine ⟨?_, ?_, ?_, hsound, h.not_revived, h.not_stranded⟩
      · simp [hqueue, hworkers]
      · intro haccepted hrow job' hjob'
        have heq : job' = job := by simpa [hqueue] using hjob'
        rw [heq]
        rcases Bool.or_eq_true_iff.mp haccepted with hbefore | hnow
        · exact hdelete hbefore (isSome_of_effect hrow)
        · simpa using hnow
      · intro _ _ w hw
        rw [hworkers] at hw
        cases hw
  · exact ⟨h.one, h.waiting, h.working, h.sound, h.not_revived, h.not_stranded⟩
  · exact h

/-- The next call of a job keeps the jobs orderly. -/
theorem Orderly.workerCall {s : Pool} (h : s.Orderly) (n : Nat) (world : World) :
    (s.workerCall n world).Orderly := by
  unfold Pool.workerCall
  split
  · rename_i job c k phase hn
    have hmem : (⟨job, .call c k, phase⟩ : Worker) ∈ s.workers := List.mem_of_getElem? hn
    refine ⟨?_, ?_, ?_, ?_, ?_, h.not_stranded⟩
    · simpa using h.one
    · exact fun haccepted hrow => h.waiting haccepted (isSome_of_effect hrow)
    · intro haccepted hrow w hw
      rcases List.mem_or_eq_of_mem_set hw with hw | rfl
      · exact h.working haccepted (isSome_of_effect hrow) w hw
      · exact h.working haccepted (isSome_of_effect hrow) ⟨job, .call c k, phase⟩ hmem
    · intro w hw hdelete
      rcases List.mem_or_eq_of_mem_set hw with hw | rfl
      · exact (h.sound w hw hdelete).effect c
      · exact (h.sound _ hmem hdelete).call world
    · have hquiet : (s.accepted && !job.isDelete && movedBack s.row (c.effect s.row)) = false := by
        cases hrow : s.row with
        | none => simp [movedBack_none]
        | some ia =>
          cases haccepted : s.accepted with
          | false => rfl
          | true =>
            have hdelete := h.working haccepted (by rw [hrow]; rfl) _ hmem
            simp [show job.isDelete = true from hdelete]
      simp [h.not_revived, hquiet]
  · rename_i job rest phase hrest hn
    have hmem : (⟨job, rest, phase⟩ : Worker) ∈ s.workers := List.mem_of_getElem? hn
    have hsub : ∀ w ∈ s.workers.eraseIdx n, w ∈ s.workers := fun w => List.mem_of_mem_eraseIdx
    refine ⟨?_, h.waiting, ?_, ?_, h.not_revived, ?_⟩
    · have hlen := List.length_eraseIdx_le s.workers n
      exact Nat.le_trans (Nat.add_le_add_left hlen _) h.one
    · exact fun haccepted hrow w hw => h.working haccepted hrow w (hsub w hw)
    · exact fun w hw => h.sound w (hsub w hw)
    · have hended : job.isDelete = true → ¬phase = .standing → s.row = none :=
        fun hdelete hphase => ((h.sound _ hmem hdelete).row_of_ended hrest).resolve_left hphase
      simpa [h.not_stranded] using hended
  · exact h

/-- Starting a job moves it from the queue to the workers. -/
theorem Orderly.startJob {s : Pool} (h : s.Orderly) : s.startJob.Orderly := by
  unfold Pool.startJob
  split
  · rename_i job queue hqueue
    split
    · have hone := h.one
      rw [hqueue, List.length_cons] at hone
      have hin : job ∈ s.queue := hqueue ▸ List.mem_cons_self
      refine ⟨?_, ?_, ?_, ?_, h.not_revived, h.not_stranded⟩
      · simp only [List.length_append, List.length_singleton]
        omega
      · intro haccepted hrow job' hjob'
        exact h.waiting haccepted hrow job' (hqueue ▸ List.mem_cons_of_mem job hjob')
      · intro haccepted hrow w hw
        rcases List.mem_append.mp hw with hw | hw
        · exact h.working haccepted hrow w hw
        · rw [List.mem_singleton.mp hw]
          exact h.waiting haccepted hrow job hin
      · intro w hw hdelete
        rcases List.mem_append.mp hw with hw | hw
        · exact h.sound w hw hdelete
        · rw [List.mem_singleton.mp hw] at hdelete ⊢
          exact Worker.Sound.started s.row hdelete
    · exact h
  · exact h

/-- A move in turn keeps the jobs orderly. -/
theorem Orderly.step {s : Pool} (h : s.Orderly) {m : Move} (hturn : s.InTurn m) :
    (s.step m).Orderly := by
  cases m with
  | arrive req => exact ⟨h.one, h.waiting, h.working, h.sound, h.not_revived, h.not_stranded⟩
  | thread n world => exact h.threadCall hturn
  | start => exact h.startJob
  | worker n world => exact h.workerCall n world

/-- A start loses no job, and starts one while one waits and none or one works. -/
theorem startJob_lengths {s : Pool} (h : 2 ≤ s.queue.length + s.workers.length) :
    2 ≤ s.startJob.queue.length + s.startJob.workers.length ∧
      (2 ≤ s.workers.length ∨ s.workers.length < s.startJob.workers.length) ∧
      s.workers.length ≤ s.startJob.workers.length := by
  unfold startJob
  split
  · rename_i job queue hqueue
    rw [hqueue, List.length_cons] at h
    split
    · simp only [List.length_append, List.length_singleton]
      omega
    · rename_i hfull
      rw [maxWorkers] at hfull
      rw [hqueue, List.length_cons]
      omega
  · rename_i hqueue
    rw [hqueue, List.length_nil] at h
    rw [hqueue, List.length_nil]
    omega

/-- Two jobs that wait or work are both at work after two starts. -/
theorem two_at_work {s : Pool} (h : 2 ≤ s.queue.length + s.workers.length) :
    2 ≤ (s.startJob.startJob).workers.length := by
  have hfirst := startJob_lengths h
  have hsecond := startJob_lengths hfirst.1
  omega

/-- A job that is handed over while another one waits or works can be at work beside it. -/
theorem beside_of_handsOver {s : Pool} {n : Nat} {world : World} {job : Job}
    (h : s.handsOver (.thread n world) = some job) (hbusy : s.queue ≠ [] ∨ s.workers ≠ []) :
    ¬((s.step (.thread n world)).startJob.startJob).Exclusive := by
  have hthread : ∃ c k, s.threads[n]? = some (.call c k) ∧ c.job? = some job := by
    change (match s.threads[n]? with
      | some (.call c _) => c.job?
      | _ => none) = some job at h
    split at h
    · rename_i c k hn
      exact ⟨c, k, hn, h⟩
    · cases h
  obtain ⟨c, k, hn, hjob⟩ := hthread
  have hlen : 1 ≤ s.queue.length + s.workers.length := by
    rcases hbusy with hq | hw
    · have hpos := List.length_pos_iff.mpr hq
      omega
    · have hpos := List.length_pos_iff.mpr hw
      omega
  intro hex
  have htwo : 2 ≤ ((s.step (.thread n world)).startJob.startJob).workers.length := by
    apply two_at_work
    simp only [step, threadCall, hn, hjob, Option.toList_some, List.length_append,
      List.length_singleton]
    omega
  have halone := hex.alone
  omega

end Pool

/-! ### A deletion during an installation -/

namespace Shop

/-- Every call is answered well. -/
def calm : World := .good (some wiki)

/-- The job of the installation of the blog. -/
def blogJob : InstallJob where
  composeYaml := "services:"
  env := []
  ostemplate := "local:vztmpl/golden.tar.zst"
  cores := 2
  memory := 2048
  disk := 8
  serverId := some 1
  node := some "pve"
  name := "blog"
  port := some 80
  version := none
  vmid := some 100
  storage := "local-lvm"
  bridge := "vmbr0"
  ipConfig := none
  staticIp := none
  source := "runtipi"
  dataFiles := []
  portExplicit := false

/-- The installation is handed over, started, and makes its first call. -/
def installing : List Move := [.thread 0 calm, .start, .worker 0 calm]

/-- A deletion is accepted and started before the installation goes on to its end. -/
def deletedMeanwhile : List Move :=
  [.thread 0 calm, .start, .thread 0 calm, .arrive .delete] ++
    List.replicate 4 (.thread 0 calm) ++ [.start] ++ List.replicate 12 (.worker 0 calm)

end Shop

end PveManager.Apps
