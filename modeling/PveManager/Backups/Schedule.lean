import PveManager.Backups.Jobs
import PveManager.Core.Outcome
import PveManager.Scripts.Interference

/-!
# The schedule and the job table

The scheduler holds the trigger of every enabled row: every endpoint and every
restart keep that, whatever the expressions are. When a trigger fires is another
matter: only for expressions that both dialects read alike it fires at the
moments of the standard rule.
-/

namespace PveManager.Backups

open PveManager.Core PveManager.Rbac PveManager.Api PveManager.Cron

section Registries

variable {aps : CronTrigger} {s : Registry} {job : BackupJob} {id : Nat}

/-- The trigger a row should have. -/
def wanted (aps : CronTrigger) (job : BackupJob) : Option Trigger :=
  if job.enabled then (fiveFields job.cronExpression).bind aps.construct else none

theorem removeJob_apply (s : Registry) (jobId id : Nat) :
    s.removeJob jobId (jobIdStr id) = if id = jobId then none else s (jobIdStr id) := by
  unfold Registry.removeJob
  rw [Function.update_apply]
  simp only [jobIdStr_inj]

theorem addJobFromModel_apply (s : Registry) (job : BackupJob) (id : Nat) :
    s.addJobFromModel aps job (jobIdStr id) =
      if id = job.id then (wanted aps job).or (s (jobIdStr id)) else s (jobIdStr id) := by
  unfold Registry.addJobFromModel wanted
  cases job.enabled with
  | false => simp
  | true =>
    cases (fiveFields job.cronExpression).bind aps.construct with
    | none => simp
    | some trigger =>
      simp only [Bool.not_true, Bool.false_eq_true, if_false, if_true, Option.some_or]
      rw [Function.update_apply]
      simp only [jobIdStr_inj]

theorem updateJobFromModel_apply (s : Registry) (job : BackupJob) (id : Nat) :
    s.updateJobFromModel aps job (jobIdStr id) =
      if id = job.id then wanted aps job else s (jobIdStr id) := by
  unfold Registry.updateJobFromModel
  by_cases he : job.enabled = true
  · rw [if_pos he, addJobFromModel_apply, removeJob_apply]
    by_cases hid : id = job.id
    · simp [hid]
    · simp [hid]
  · rw [if_neg he, removeJob_apply]
    have hw : wanted aps job = none := by simp [wanted, he]
    rw [hw]

/-- A job that is not among the loaded ones keeps its place. -/
private theorem foldl_addJob_of_notMem {jobs : List BackupJob} (hid : ∀ job ∈ jobs, job.id ≠ id) :
    (jobs.foldl (fun s job => Registry.addJobFromModel aps s job) s) (jobIdStr id) =
      s (jobIdStr id) := by
  induction jobs generalizing s with
  | nil => rfl
  | cons job rest ih =>
    rw [List.foldl_cons, ih fun j hj => hid j (List.mem_cons_of_mem _ hj), addJobFromModel_apply,
      if_neg (Ne.symm (hid job List.mem_cons_self))]

/-- A loaded job gets its trigger. -/
private theorem foldl_addJob_of_mem {jobs : List BackupJob} (hnd : (jobs.map BackupJob.id).Nodup)
    (hjob : job ∈ jobs) (hs : s (jobIdStr job.id) = none) :
    (jobs.foldl (fun s job => Registry.addJobFromModel aps s job) s) (jobIdStr job.id) =
      wanted aps job := by
  induction jobs generalizing s with
  | nil => cases hjob
  | cons first rest ih =>
    rw [List.map_cons, List.nodup_cons] at hnd
    rw [List.foldl_cons]
    rcases List.mem_cons.mp hjob with rfl | hrest
    · have hother : ∀ j ∈ rest, j.id ≠ job.id := by
        intro j hj he
        exact hnd.1 (he ▸ List.mem_map_of_mem hj)
      rw [foldl_addJob_of_notMem hother, addJobFromModel_apply, if_pos rfl, hs, Option.or_none]
    · refine ih hnd.2 hrest ?_
      have hne : job.id ≠ first.id := by
        intro he
        exact hnd.1 (he ▸ List.mem_map_of_mem hrest)
      rw [addJobFromModel_apply, if_neg hne, hs]

end Registries

/-! ### The table and the scheduler -/

/-- The scheduler holds the triggers of the enabled rows and no others. -/
def Mirrors (aps : CronTrigger) (p : Panel) : Prop :=
  ∀ id, p.scheduler (jobIdStr id) = (p.jobs.find? id).bind (wanted aps)

/-- The row a committed request stores. -/
def stored (p : Panel) : JobEvent → Option BackupJob
  | .request user (.create data) true => (newJob p user data).toOption
  | .request user (.update jobId data) true => (updatedJob p user jobId data).toOption
  | .request user (.toggle jobId) true => (toggledJob p user jobId).toOption
  | _ => none

/-- A deletion whose commit fails is about a row without a trigger. -/
def DeletionKept (aps : CronTrigger) (p : Panel) : JobEvent → Prop
  | .request user (.delete jobId) false =>
    ∀ job, deletedJob p user jobId = .ok job → wanted aps job = none
  | _ => True

section Mirroring

variable {aps : CronTrigger} {p : Panel} {user : User} {jobId : Nat} {job : BackupJob}

theorem findJob_ok (h : findJob p jobId = .ok job) : p.jobs.find? jobId = some job := by
  unfold findJob at h
  cases hf : p.jobs.find? jobId with
  | none => simp [hf] at h
  | some row =>
    rw [hf] at h
    exact congrArg some (Except.ok.inj h)

/-- An inserted row has the next identifier. -/
theorem newJob_id {data : Json} (h : newJob p user data = .ok job) : job.id = p.nextJobId := by
  unfold newJob at h
  obtain ⟨-, -, h⟩ := bind_ok h
  cases data with
  | dict fields =>
    dsimp only at h
    split at h
    · cases h
    · obtain ⟨serverId, -, h⟩ := bind_ok h
      split at h
      · split at h
        · cases h
        · iterate 10 obtain ⟨_, -, h⟩ := bind_ok h
          cases h
          rfl
      · cases h
  | _ => cases h

theorem setFields_id {fields : List (String × Json)} {row : BackupJob}
    (h : setFields row fields = .ok job) : job.id = row.id := by
  unfold setFields at h
  iterate 12 obtain ⟨_, -, h⟩ := bind_ok h
  cases h
  rfl

/-- An updated row is a stored one with the same identifier. -/
theorem updatedJob_id {data : Json} (h : updatedJob p user jobId data = .ok job) :
    job.id = jobId ∧ ∃ row, p.jobs.find? jobId = some row := by
  unfold updatedJob at h
  obtain ⟨-, -, h⟩ := bind_ok h
  obtain ⟨row, hrow, h⟩ := bind_ok h
  have hfind := findJob_ok hrow
  have hid : row.id = jobId := p.jobs.key_of_find? hfind
  refine ⟨?_, row, hfind⟩
  split at h
  · cases h
  · cases data with
    | dict fields => exact (setFields_id h).trans hid
    | list items =>
      dsimp only at h
      split at h
      · cases h
      · cases h
        exact hid
    | text s =>
      dsimp only at h
      split at h
      · cases h
      · cases h
        exact hid
    | null => cases h
    | bool b => cases h
    | number n => cases h

theorem toggledJob_ok (h : toggledJob p user jobId = .ok job) :
    ∃ row, p.jobs.find? jobId = some row ∧ job = { row with enabled := !row.enabled } := by
  unfold toggledJob at h
  obtain ⟨-, -, h⟩ := bind_ok h
  obtain ⟨row, hrow, h⟩ := bind_ok h
  exact ⟨row, findJob_ok hrow, (Except.ok.inj h).symm⟩

theorem deletedJob_ok (h : deletedJob p user jobId = .ok job) :
    p.jobs.find? jobId = some job := by
  unfold deletedJob at h
  obtain ⟨-, -, h⟩ := bind_ok h
  obtain ⟨row, hrow, h⟩ := bind_ok h
  split at h
  · cases h
  · cases h
    exact findJob_ok hrow

/-- A stored row with the trigger it wants. -/
theorem Mirrors.storeJob (h : Mirrors aps p) {scheduler : Registry}
    (hown : scheduler (jobIdStr job.id) = wanted aps job)
    (hother : ∀ id, id ≠ job.id → scheduler (jobIdStr id) = p.scheduler (jobIdStr id)) :
    Mirrors aps (p.storeJob job scheduler) := by
  intro id
  change scheduler (jobIdStr id) = ((p.jobs.save job).find? id).bind (wanted aps)
  rw [KeyedTable.find?_save]
  by_cases hid : job.id = id
  · subst hid
    simpa using hown
  · rw [if_neg hid, hother id (Ne.symm hid)]
    exact h id

/-- No step but a deletion that is not committed can part the scheduler from the table. -/
theorem Mirrors.jobStep (h : Mirrors aps p) {e : JobEvent} (hkept : DeletionKept aps p e) :
    Mirrors aps (jobStep aps p e) := by
  cases e with
  | restart =>
    intro id
    change Registry.loadAllFromDb aps p.jobs.rows (jobIdStr id) = _
    unfold Registry.loadAllFromDb
    have hnd : ((p.jobs.rows.filter BackupJob.enabled).map BackupJob.id).Nodup :=
      (p.jobs.filter BackupJob.enabled).keys_nodup
    change _ = (p.jobs.find? id).bind (wanted aps)
    cases hf : p.jobs.find? id with
    | none =>
      rw [foldl_addJob_of_notMem]
      · rfl
      · intro job hjob
        exact p.jobs.find?_eq_none_iff.mp hf job (List.mem_of_mem_filter hjob)
    | some job =>
      obtain ⟨hmem, hid⟩ := p.jobs.find?_eq_some_iff.mp hf
      by_cases he : job.enabled = true
      · rw [← hid, foldl_addJob_of_mem hnd (List.mem_filter.mpr ⟨hmem, he⟩) rfl]
        rfl
      · rw [foldl_addJob_of_notMem]
        · simp [wanted, he]
        · intro row hrow hrid
          obtain ⟨hrow, hre⟩ := List.mem_filter.mp hrow
          have heq : row = job := p.jobs.eq_of_key_eq hrow hmem (hrid.trans hid.symm)
          exact he (heq ▸ hre)
  | request user r commits =>
    cases r with
    | create data =>
      change Mirrors aps (createBackupJob aps p user data commits).1
      unfold createBackupJob
      cases hnew : newJob p user data with
      | error e => exact h
      | ok job =>
        cases commits with
        | false => exact h
        | true =>
          have hid := newJob_id hnew
          have hfresh : p.jobs.find? job.id = none := by
            rw [KeyedTable.find?_eq_none_iff]
            intro row hrow he
            have hlt := p.fresh row hrow
            omega
          refine h.storeJob ?_ fun id hne => ?_
          · rw [addJobFromModel_apply, if_pos rfl, h, hfresh]
            exact Option.or_none
          · rw [addJobFromModel_apply, if_neg hne]
    | update jobId data =>
      change Mirrors aps (updateBackupJob aps p user jobId data commits).1
      unfold updateBackupJob
      cases hupd : updatedJob p user jobId data with
      | error e => exact h
      | ok job =>
        cases commits with
        | false => exact h
        | true =>
          refine h.storeJob ?_ fun id hne => ?_
          · rw [updateJobFromModel_apply, if_pos rfl]
          · rw [updateJobFromModel_apply, if_neg hne]
    | toggle jobId =>
      change Mirrors aps (toggleBackupJob aps p user jobId commits).1
      unfold toggleBackupJob
      cases htog : toggledJob p user jobId with
      | error e => exact h
      | ok job =>
        cases commits with
        | false => exact h
        | true =>
          obtain ⟨row, hfind, rfl⟩ := toggledJob_ok htog
          have hid : row.id = jobId := p.jobs.key_of_find? hfind
          refine h.storeJob ?_ fun id hne => ?_
          · cases he : row.enabled with
            | true =>
              simp only [Bool.not_true, Bool.false_eq_true, if_false]
              rw [removeJob_apply, if_pos hid]
              rfl
            | false =>
              simp only [Bool.not_false, if_true]
              rw [addJobFromModel_apply, if_pos rfl, h, hid, hfind]
              simp [wanted, he]
          · dsimp only at hne
            cases row.enabled with
            | true =>
              simp only [Bool.not_true, Bool.false_eq_true, if_false]
              rw [removeJob_apply, if_neg (hid ▸ hne)]
            | false =>
              simp only [Bool.not_false, if_true]
              rw [addJobFromModel_apply, if_neg hne]
    | delete jobId =>
      change Mirrors aps (deleteBackupJob p user jobId commits).1
      unfold deleteBackupJob
      cases hdel : deletedJob p user jobId with
      | error e => exact h
      | ok job =>
        have hfind := deletedJob_ok hdel
        cases commits with
        | false =>
          intro id
          change p.scheduler.removeJob jobId (jobIdStr id) = (p.jobs.find? id).bind (wanted aps)
          rw [removeJob_apply]
          by_cases hid : id = jobId
          · rw [if_pos hid, hid, hfind]
            exact (hkept job hdel).symm
          · rw [if_neg hid]
            exact h id
        | true =>
          intro id
          change p.scheduler.removeJob jobId (jobIdStr id) =
            ((p.jobs.erase jobId).find? id).bind (wanted aps)
          rw [removeJob_apply, KeyedTable.find?_erase]
          by_cases hid : id = jobId
          · simp [hid]
          · rw [if_neg hid, if_neg hid]
            exact h id

end Mirroring

/-! ### Following the table -/

/-- The scheduler fires the job at the moment. -/
def Fires (p : Panel) (jobId : Nat) (t : Moment) : Prop :=
  (p.scheduler (jobIdStr jobId)).any (fun trigger => trigger t) = true

/-- The row exists, is enabled, and its expression matches the moment. -/
def Due (p : Panel) (jobId : Nat) (t : Moment) : Prop :=
  ∃ job, p.jobs.find? jobId = some job ∧ job.enabled = true ∧
    ∃ e, fiveFields job.cronExpression = some e ∧ Matches e t

/-- The scheduler follows the job table. -/
def Follows (p : Panel) : Prop := ∀ jobId t, Fires p jobId t ↔ Due p jobId t

/-- An expression that both dialects read alike, or that neither accepts. -/
def Faithful (aps : CronTrigger) (text : String) : Prop :=
  ∀ e, fiveFields text = some e →
    (Portable e ∧ fromMonday.stepsFit e) ∨ (¬standard.reads e ∧ aps.construct e = none)

/-- The step stores no enabled row with another expression, and no deletion is left half done. -/
structure Keeps (aps : CronTrigger) (p : Panel) (e : JobEvent) : Prop where
  deletion : DeletionKept aps p e
  expression : ∀ job, stored p e = some job → job.enabled = true →
    Faithful aps job.cronExpression

/-- No jobs, in a new process. -/
def Panel.initial (db : Db) : Panel where
  db := db
  jobs := .empty
  nextJobId := 1
  fresh := fun _ h => by cases h
  scheduler := fun _ => none

section Following

variable {aps : CronTrigger} {p : Panel}

/-- For a faithful expression the trigger fires at the moments that match. -/
theorem Faithful.fires_iff {text : String} (h : Faithful aps text) (t : Moment) :
    ((fiveFields text).bind aps.construct).any (fun trigger => trigger t) = true ↔
      ∃ e, fiveFields text = some e ∧ Matches e t := by
  cases hf : fiveFields text with
  | none => simp
  | some e =>
    have hiff : ((aps.construct e).any fun trigger => trigger t) = true ↔ Matches e t := by
      rcases h e hf with ⟨hport, hfit⟩ | ⟨hreads, hnone⟩
      · obtain ⟨trigger, htrigger, hfires⟩ := aps.conjunction e hport.reads hfit
        rw [htrigger, Option.any_some, hfires]
        exact hport.forall_selects_iff t
      · rw [hnone, Option.any_none]
        exact ⟨fun hb => absurd hb (by simp), fun hm => absurd hm.1 hreads⟩
    simpa using hiff

/-- A scheduler that mirrors faithful rows follows the table. -/
theorem Mirrors.follows (h : Mirrors aps p)
    (hrows : ∀ job ∈ p.jobs.rows, job.enabled = true → Faithful aps job.cronExpression) :
    Follows p := by
  intro jobId t
  unfold Fires Due
  rw [h jobId]
  cases hf : p.jobs.find? jobId with
  | none => simp
  | some job =>
    have hmem : job ∈ p.jobs.rows := p.jobs.mem_of_find? hf
    by_cases he : job.enabled = true
    · have hfires := (hrows job hmem he).fires_iff t
      rw [Option.bind_some, wanted, if_pos he, hfires]
      constructor
      · intro hm
        exact ⟨job, rfl, he, hm⟩
      · rintro ⟨row, hrow, -, hm⟩
        cases hrow
        exact hm
    · have hnone : (some job).bind (wanted aps) = none := by simp [wanted, he]
      rw [hnone]
      constructor
      · intro hb
        cases hb
      · rintro ⟨row, hrow, hre, -⟩
        cases hrow
        exact absurd hre he

/-- A row after a step was there before or is the stored one. -/
theorem mem_rows_jobStep {e : JobEvent} {job : BackupJob}
    (hjob : job ∈ (jobStep aps p e).jobs.rows) : job ∈ p.jobs.rows ∨ stored p e = some job := by
  cases e with
  | restart => exact Or.inl hjob
  | request user r commits =>
    have hstore : ∀ {row : BackupJob} {scheduler : Registry},
        job ∈ (p.storeJob row scheduler).jobs.rows → job ∈ p.jobs.rows ∨ row = job := by
      intro row scheduler hrow
      rcases (p.jobs.mem_rows_save row job).mp hrow with rfl | ⟨hold, -⟩
      · exact Or.inr rfl
      · exact Or.inl hold
    cases r with
    | create data =>
      change job ∈ (createBackupJob aps p user data commits).1.jobs.rows at hjob
      unfold createBackupJob at hjob
      cases hnew : newJob p user data with
      | error e =>
        rw [hnew] at hjob
        exact Or.inl hjob
      | ok row =>
        rw [hnew] at hjob
        cases commits with
        | false => exact Or.inl hjob
        | true =>
          refine (hstore hjob).imp_right fun he => ?_
          simp [stored, hnew, Except.toOption, he]
    | update jobId data =>
      change job ∈ (updateBackupJob aps p user jobId data commits).1.jobs.rows at hjob
      unfold updateBackupJob at hjob
      cases hupd : updatedJob p user jobId data with
      | error e =>
        rw [hupd] at hjob
        exact Or.inl hjob
      | ok row =>
        rw [hupd] at hjob
        cases commits with
        | false => exact Or.inl hjob
        | true =>
          refine (hstore hjob).imp_right fun he => ?_
          simp [stored, hupd, Except.toOption, he]
    | toggle jobId =>
      change job ∈ (toggleBackupJob aps p user jobId commits).1.jobs.rows at hjob
      unfold toggleBackupJob at hjob
      cases htog : toggledJob p user jobId with
      | error e =>
        rw [htog] at hjob
        exact Or.inl hjob
      | ok row =>
        rw [htog] at hjob
        cases commits with
        | false => exact Or.inl hjob
        | true =>
          refine (hstore hjob).imp_right fun he => ?_
          simp [stored, htog, Except.toOption, he]
    | delete jobId =>
      change job ∈ (deleteBackupJob p user jobId commits).1.jobs.rows at hjob
      unfold deleteBackupJob at hjob
      cases hdel : deletedJob p user jobId with
      | error e =>
        rw [hdel] at hjob
        exact Or.inl hjob
      | ok row =>
        rw [hdel] at hjob
        cases commits with
        | false => exact Or.inl hjob
        | true => exact Or.inl ((p.jobs.mem_rows_erase jobId job).mp hjob).1

/-- In a run of such steps the scheduler follows the table in every state. -/
theorem follows_of_guarded (aps : CronTrigger) (db : Db) (events : List JobEvent)
    (hg : Guarded (jobStep aps) (Keeps aps) (Panel.initial db) events) :
    ∀ p ∈ visited (jobStep aps) (Panel.initial db) events, Follows p := by
  have hstep : ∀ p e, (Mirrors aps p ∧
      ∀ job ∈ p.jobs.rows, job.enabled = true → Faithful aps job.cronExpression) →
      Keeps aps p e → Mirrors aps (jobStep aps p e) ∧ ∀ job ∈ (jobStep aps p e).jobs.rows,
        job.enabled = true → Faithful aps job.cronExpression := by
    rintro p e ⟨hm, hrows⟩ hk
    refine ⟨hm.jobStep hk.deletion, fun job hjob he => ?_⟩
    rcases mem_rows_jobStep hjob with hold | hnew
    · exact hrows job hold he
    · exact hk.expression job hnew he
  have h0 : Mirrors aps (Panel.initial db) ∧ ∀ job ∈ (Panel.initial db).jobs.rows,
      job.enabled = true → Faithful aps job.cronExpression :=
    ⟨fun _ => rfl, fun _ h => by cases h⟩
  intro p hp
  obtain ⟨hm, hrows⟩ := invariant_of_guarded hstep h0 hg p hp
  exact hm.follows hrows

end Following

/-- The trigger type that accepts what its dialect reads, and nothing else. -/
def documentedTrigger : CronTrigger where
  construct e :=
    if fromMonday.reads e ∧ fromMonday.stepsFit e then
      some fun t => Field.all.all fun f => fromMonday.selects f (e f) t
    else none
  conjunction e hreads hfit := by
    refine ⟨_, if_pos ⟨hreads, hfit⟩, fun t => ?_⟩
    rw [List.all_eq_true]
    exact ⟨fun h f => h f f.mem_all, fun h f _ => h f⟩

/-- One registered server. -/
def backupDb : Db where
  servers := Scripts.scriptServers
  vms := .empty
  ipam := ⟨.empty, []⟩

/-- An administrator. -/
def operator : User := ⟨1, "admin", true, none, []⟩

/-- A job for all guests of the node. -/
def nightly (cron : String) : Json :=
  .dict [("server_id", .number 1), ("node", .text "pve"), ("vmids", .text "all"),
    ("storage", .text "local"), ("cron_expression", .text cron)]

/-- A nightly job is switched off and on again, and the panel restarted. -/
def toggledNightly : List JobEvent :=
  [.request operator (.create (nightly "0 2 * * *")) true, .request operator (.toggle 1) true,
    .request operator (.toggle 1) true, .restart]

/-- The job still fires every night. -/
theorem follows_nightly :
    Follows (toggledNightly.foldl (jobStep documentedTrigger) (Panel.initial backupDb)) := by
  have hfaithful : Faithful documentedTrigger "0 2 * * *" := by
    intro e he
    cases he
    exact Or.inl ⟨portable_of_star (by decide) (by decide) (by decide), by decide⟩
  refine follows_of_guarded documentedTrigger backupDb toggledNightly ⟨⟨trivial, ?_⟩, ⟨trivial, ?_⟩,
    ⟨trivial, ?_⟩, ⟨trivial, ?_⟩, trivial⟩ _ (foldl_mem_visited _ _ _)
  · intro job hjob _
    have hcron : job.cronExpression = "0 2 * * *" := by
      cases hjob
      rfl
    rw [hcron]
    exact hfaithful
  · intro job hjob _
    have hcron : job.cronExpression = "0 2 * * *" := by
      cases hjob
      rfl
    rw [hcron]
    exact hfaithful
  · intro job hjob _
    have hcron : job.cronExpression = "0 2 * * *" := by
      cases hjob
      rfl
    rw [hcron]
    exact hfaithful
  · intro job hjob
    cases hjob

/-- Monday, 5 January 2026, 03:00. -/
def monday : Moment := ⟨2026, 1, 5, 3, 0, by decide, by decide, by decide, by decide⟩

/-- The weekly preset for Sunday fires on Monday. -/
theorem sunday_preset_not_followed :
    ¬∀ p ∈ visited (jobStep documentedTrigger) (Panel.initial backupDb)
      [.request operator (.create (nightly "0 3 * * 0")) true], Follows p := by
  intro h
  have hf := h _ (foldl_mem_visited _ _ _) 1 monday
  have hfires : Fires ([JobEvent.request operator (.create (nightly "0 3 * * 0")) true].foldl
      (jobStep documentedTrigger) (Panel.initial backupDb)) 1 monday := by
    unfold Fires
    decide
  obtain ⟨job, hjob, -, e, he, hm⟩ := hf.mp hfires
  cases hjob
  cases he
  revert hm
  decide

end PveManager.Backups
