import PveManager.Apps.Sequence
import PveManager.Apps.Vmids

/-!
# An update and its rollback

A rollback brings back the container, and of the row the two versions that were
remembered beside the snapshot. The variables and the port stay as the update
left them.
-/

namespace PveManager.Apps

open PveManager.Core PveManager.Api

/-- What the row says of the contents of the container is the same. -/
structure Restored (old new : InstalledApp) : Prop where
  version : new.versionInstalled = old.versionInstalled
  tipiVersion : new.tipiVersionInstalled = old.tipiVersionInstalled
  env : new.envEncrypted = old.envEncrypted
  port : new.port = old.port

/-- The delivery of an update to an app. -/
def delivery (old : InstalledApp) (job : UpdateJob) : Remote :=
  .deliver (old.vmid.getD 0) job.composeYaml ((positive old.port).getD 80)
    (old.envDict.setAll job.formAnswers) (old.ip.getD "None") job.source job.dataFiles
    (old.installParams.any InstallParams.portExplicit)

/-- The update leaves the row nothing to bring back but a version that is remembered. -/
structure Restorable (world : World) (old : InstalledApp) (job : UpdateJob) : Prop where
  version : old.versionInstalled = none →
    job.newVersion = none ∧ job.newTipi = old.tipiVersionInstalled
  env : ∃ env, old.envEncrypted = some env ∧ env.setAll job.formAnswers = env
  port : ∃ port, old.port = some port ∧ port ≠ 0 ∧
    ∀ published : Option Nat, world.remote (delivery old job) = .ok published →
      positive published = none ∨ published = some port

/-- The row behind an update that published a port. -/
def InstalledApp.afterUpdate (old : InstalledApp) (job : UpdateJob) (name : String)
    (published : Option Nat) : InstalledApp :=
  (old.withSnapshot name).updated job (old.envDict.setAll job.formAnswers)
    ((positive published).getD ((positive old.port).getD 80))

namespace Plant

variable {world : World} {s : Plant} {old : InstalledApp}

/-- Behind a failure that is caught a job has not completed. -/
theorem ends_failed {p : Op Unit} {e : String} {Q : Plant → Prop} :
    Ends world (fun s r => r = .ok OpStatus.completed → Q s) s
      (p >>= fun _ => pure (OpStatus.failed e)) := by
  refine Host.meets_bind.mpr (Host.meets_of_forall ?_ p)
  rintro s (e | u) h
  · cases h
  · cases h

/-- A call to the node or the container. -/
abbrev Outward (c : EngineCall) : Prop := ∃ r, c = .remote r

theorem outward_remote (r : Remote) (_ : r.plain = true) : Outward (.remote r) := ⟨r, rfl⟩

theorem ends_of_outward {α : Type} {p : Op α} (hp : p.Only Outward)
    {post : Plant → Except String α → Prop} (h : ∀ s' r, s'.row = s.row → post s' r) :
    Ends world post s p := by
  refine Host.meets_of_only (J := fun s' : Plant => s'.row = s.row) ?_ h hp rfl
  rintro s' c ⟨r, rfl⟩ hrow
  exact (row_afterRemote world s' r).trans hrow

/-- A job whose body completes with a property completes with it when failures are caught. -/
theorem ends_caught {p : Op OpStatus} {q : Op Unit} {Q : Plant → Prop}
    (h : Ends world (fun s r => r = .ok OpStatus.completed → Q s) s p) :
    Ends world (fun s r => r = .ok OpStatus.completed → Q s) s
      (tryCatch p fun e => do
        swallow q
        pure (OpStatus.failed e)) := by
  refine Host.meets_tryCatch.mpr (Host.meets_mono ?_ h)
  rintro s (e | status) hs
  · exact ends_failed
  · exact hs

/-- The pipeline of an update leaves the row alone and ends with the port that was published. -/
theorem ends_pocUpdate {job : UpdateJob} {vmid : Vmid} {env : Env} {port : Nat}
    {ip : Option String} {explicit : Bool} {post : Plant → Except String (Bool × Nat) → Prop}
    (herror : ∀ s' e, post s' (.error e))
    (hok : ∀ s' running, ∀ published : Option Nat, s'.row = s.row →
      world.remote (.deliver vmid job.composeYaml port env (ip.getD "None") job.source
        job.dataFiles explicit) = .ok published →
      post s' (.ok (running, (positive published).getD port))) :
    Ends world post s (pocUpdate job vmid env port ip explicit) := by
  unfold pocUpdate
  refine Host.meets_bind.mpr (ends_of_outward ?_ ?_)
  · exact only_sshConnected outward_remote _
  rintro s₁ (e | u) h₁
  · exact herror s₁ e
  refine ends_remote.mpr ?_
  cases hdeliver : world.remote (.deliver vmid job.composeYaml port env (ip.getD "None")
      job.source job.dataFiles explicit) with
  | error e => exact herror _ e
  | ok published =>
    refine ends_remote.mpr ?_
    cases world.remote (.composeUp vmid true) with
    | error e => exact herror _ e
    | ok u =>
      refine ends_remote.mpr (hok _ _ published ?_ hdeliver)
      simp only [row_afterRemote, h₁]

/-- An update that completes has stored what it ends with. -/
theorem ends_applyUpdate (hrow : s.row = some old) (job : UpdateJob) (name : String) :
    Ends world (fun s' r => r = .ok OpStatus.completed → ∃ published : Option Nat,
      world.remote (delivery old job) = .ok published ∧
        s'.row = some (old.updated job (old.envDict.setAll job.formAnswers)
          ((positive published).getD ((positive old.port).getD 80)))) s (applyUpdate job name) := by
  refine (ends_reload hrow).mpr (Host.meets_bind.mpr (ends_pocUpdate ?_ ?_))
  · intro s' e h
    cases h
  · intro s' running published hsame hdeliver
    have hrow' : s'.row = some old := hsame.trans hrow
    cases running with
    | false =>
      refine (ends_save hrow' _).mpr fun h => ?_
      cases h
    | true =>
      refine (ends_save hrow' _).mpr ((ends_reload rfl).mpr (ends_of_outward ?_ ?_))
      · refine Proc.only_bind ?_ fun _ => Proc.only_pure _
        exact only_pruneSnapshots outward_remote fun _ _ => ⟨_, rfl⟩
      · intro s'' r hsame' _
        exact ⟨published, hdeliver, hsame'⟩

/-- The whole update, from the row it finds. -/
theorem ends_runUpdate (hrow : s.row = some old) (job : UpdateJob) :
    Ends world (fun s' r => r = .ok OpStatus.completed → ∃ name, ∃ published : Option Nat,
      world.remote (delivery old job) = .ok published ∧
        s'.row = some (old.afterUpdate job name published)) s (runUpdate job) := by
  refine ends_caught (ends_load.mpr ?_)
  rw [hrow]
  refine ends_remote.mpr ?_
  cases world.remote (.clientFor old.serverId) with
  | error e =>
    intro h
    cases h
  | ok u =>
    let name := snapName old.versionInstalled (world.remote .stamp)
    refine ends_remote.mpr (ends_remote.mpr ?_)
    have hrow₁ : (((s.afterRemote world (.clientFor old.serverId)).afterRemote world .stamp)
        |>.afterRemote world (.createSnapshot (old.node.getD "") (old.vmid.getD 0) name)).row =
        some old := by
      simp only [row_afterRemote, hrow]
    cases world.remote (.createSnapshot (old.node.getD "") (old.vmid.getD 0) name) with
    | error e =>
      refine (ends_save hrow₁ _).mpr fun h => ?_
      cases h
    | ok u =>
      refine (ends_save hrow₁ (old.withSnapshot name)).mpr ?_
      refine Host.meets_mono ?_ (ends_applyUpdate rfl job name)
      intro s' r h hr
      obtain ⟨published, hdeliver, hrow'⟩ := h hr
      exact ⟨name, published, hdeliver, hrow'⟩

theorem ends_finishRollback (hrow : s.row = some old) (node : String) (vmid : Vmid)
    (upid : Option String) :
    Ends world (fun s' r => r = .ok OpStatus.completed → s'.row = some (old.rolledBack true)) s
      (finishRollback old node vmid upid) := by
  refine Host.meets_bind.mpr (ends_of_outward (only_waitQuietly outward_remote _ _ _) ?_)
  rintro s₁ (e | u) h₁
  · intro h
    cases h
  refine Host.meets_bind.mpr (ends_of_outward (only_swallow ?_) ?_)
  · exact Proc.only_bind (only_startContainer outward_remote _ _) fun _ => Proc.only_pure _
  rintro s₂ (e | u) h₂
  · intro h
    cases h
  refine Host.meets_bind.mpr (ends_of_outward (only_checkHealth outward_remote _ _) ?_)
  rintro s₃ (e | ok) h₃
  · intro h
    cases h
  refine (ends_save (h₃.trans (h₂.trans (h₁.trans hrow))) (old.rolledBack ok)).mpr ?_
  cases ok with
  | false =>
    intro h
    cases h
  | true => exact fun _ => rfl

/-- A rollback that completes has stored the remembered versions. -/
theorem ends_runRollback (hrow : s.row = some old) :
    Ends world (fun s' r => r = .ok OpStatus.completed → s'.row = some (old.rolledBack true)) s
      runRollback := by
  refine ends_caught (ends_load.mpr ?_)
  rw [hrow]
  refine ends_remote.mpr (ends_orRaise.mpr ?_)
  cases world.remote (.clientFor old.serverId) with
  | error e =>
    intro h
    cases h
  | ok u =>
    dsimp only
    refine Host.meets_bind.mpr (ends_of_outward (only_swallow ?_) ?_)
    · refine Proc.only_bind (only_remote outward_remote rfl) fun a => ?_
      exact Proc.only_bind (only_orRaise a) fun upid => only_waitQuietly outward_remote _ _ _
    rintro s₁ (e | u) hsame
    · intro h
      cases h
    have hrow₁ : s₁.row = some old := by simpa only [row_afterRemote, hrow] using hsame
    have hrow₂ : (s₁.afterRemote world (.rollbackSnapshot (old.node.getD "") (old.vmid.getD 0)
        (old.lastSnapshot.getD ""))).row = some old := (row_afterRemote _ _ _).trans hrow₁
    refine ends_remote.mpr ?_
    cases world.remote (.rollbackSnapshot (old.node.getD "") (old.vmid.getD 0)
        (old.lastSnapshot.getD "")) with
    | error e =>
      refine (ends_save hrow₂ _).mpr ?_
      intro h
      cases h
    | ok upid => exact ends_finishRollback hrow₂ _ _ upid

/-- What a request to update an app checks, with the job the catalog gives. -/
structure Accepts (world : World) (ia : InstalledApp) (answers : Env) (job : UpdateJob) : Prop where
  status : ia.status = .running ∨ ia.status = .stopped ∨ ia.status = .updateFailed
  bound : ia.binding.isSome = true
  catalog : ((world.catalog ia.appId).bind fun app => app.updateJob answers) = some job

/-- An accepted update hands over the job the catalog gives. -/
theorem ends_update (hrow : s.row = some old) (answers : Env) :
    Ends world (fun s' r => match r with
      | .ok _ => ∃ job, Accepts world old answers job ∧
          s' = { s with submitted := some (.update job) }
      | .error _ => s' = s ∧ ∀ job, ¬Accepts world old answers job) s (update answers) := by
  have hstatus : (decide (old.status = .running) || decide (old.status = .stopped) ||
      decide (old.status = .updateFailed)) = true ↔
      old.status = .running ∨ old.status = .stopped ∨ old.status = .updateFailed := by
    simp [or_assoc]
  refine ends_load.mpr ?_
  rw [hrow]
  refine Host.meets_ensure_bind.mpr ⟨fun hs => ?_, fun hs => ⟨rfl, fun job h => ?_⟩⟩
  · refine Host.meets_ensure_bind.mpr ⟨fun hb => ?_, fun hb => ⟨rfl, fun job h => ?_⟩⟩
    · refine Host.meets_ask_bind.mpr ⟨trivial, ?_⟩
      split
      · rename_i hnone
        refine ⟨rfl, fun job h => ?_⟩
        cases hnone.symm.trans h.catalog
      · rename_i job hjob
        refine ⟨trivial, job, ⟨hstatus.mp hs, hb, hjob⟩, ?_⟩
        rw [← hrow]
        rfl
    · rw [h.bound] at hb
      cases hb
  · rw [hstatus.mpr h.status] at hs
    cases hs

/-- An accepted rollback hands over its job. -/
theorem ends_rollback (hrow : s.row = some old) :
    Ends world (fun s' r => r = .ok () → s' = { s with submitted := some .rollback }) s
      rollback := by
  refine ends_load.mpr ?_
  rw [hrow]
  refine Host.meets_ensure_bind.mpr ⟨fun _ => ?_, fun _ h => by cases h⟩
  refine Host.meets_ensure_bind.mpr ⟨fun _ => ?_, fun _ h => by cases h⟩
  refine ⟨trivial, fun _ => ?_⟩
  rw [← hrow]
  rfl

/-- What a request and its job guarantee when they complete. -/
theorem of_operate {req : AppRequest} {R Q : Plant → Prop} {s' : Plant}
    (hreq : Ends world (fun s r => r = .ok () → R s) { s with submitted := none } req.run)
    (hjob : ∀ s, R s → ∃ job, s.submitted = some job ∧
      Ends world (fun s r => r = .ok OpStatus.completed → Q s) s job.run)
    (h : operate world s req = (s', some .completed)) : Q s' := by
  have hend := Host.post_exec hreq
  unfold operate at h
  rcases hexec : (host world).exec { s with submitted := none } req.run with ⟨s₁, e | u⟩
  · rw [hexec] at h
    cases h
  · rw [hexec] at h hend
    obtain ⟨job, hsubmitted, hends⟩ := hjob s₁ (hend rfl)
    have hdone := Host.post_exec hends
    simp only [hsubmitted, work] at h
    rcases hwork : (host world).exec s₁ job.run with ⟨s₂, e | status⟩
    · rw [hwork] at h
      cases h
    · rw [hwork] at h hdone
      cases h
      exact hdone rfl

/-- The version a rollback stores is the old one unless none was remembered. -/
theorem version_restored_iff {version newVersion : Option String} {tipi newTipi : Option Nat} :
    (version.or newVersion = version ∧ (if version.isSome then tipi else newTipi) = tipi) ↔
      (version = none → newVersion = none ∧ newTipi = tipi) := by
  cases version with
  | none => simp
  | some v => simp

/-- The variables that an update stores are the old ones when the answers change none. -/
theorem env_restored_iff {stored : Option Env} {answers : Env} :
    some ((stored.getD []).setAll answers) = stored ↔
      ∃ env, stored = some env ∧ env.setAll answers = env := by
  cases stored with
  | none => simp
  | some env => simp

/-- The port that an update stores is the old one when no other one was published. -/
theorem port_restored_iff {port published : Option Nat} :
    some ((positive published).getD ((positive port).getD 80)) = port ↔
      ∃ p, port = some p ∧ p ≠ 0 ∧ (positive published = none ∨ published = some p) := by
  have hpositive : ∀ {n : Option Nat} {k : Nat}, positive n = some k ↔ n = some k ∧ k ≠ 0 := by
    intro n k
    cases n with
    | none => simp [positive]
    | some m =>
      simp only [positive, Option.filter_some, Option.some.injEq]
      split <;> grind
  cases port with
  | none => simp
  | some p =>
    by_cases hzero : p = 0
    · subst hzero
      rw [show positive (some 0) = none from rfl]
      cases hp : positive published with
      | none => simp
      | some k =>
        have hk := (hpositive.mp hp).2
        simp [hk]
    · have hsame : positive (some p) = some p := hpositive.mpr ⟨rfl, hzero⟩
      rw [hsame, Option.getD_some]
      cases hp : positive published with
      | none => simp [hzero]
      | some k =>
        obtain ⟨rfl, hk⟩ := hpositive.mp hp
        simp [hzero]

/-- What the row says behind an update and its rollback. -/
theorem restored_afterUpdate_iff {job : UpdateJob} {name : String} {published : Option Nat}
    (hdeliver : world.remote (delivery old job) = .ok published) :
    Restored old ((old.afterUpdate job name published).rolledBack true) ↔
      Restorable world old job := by
  have hport : (∃ p, old.port = some p ∧ p ≠ 0 ∧ (positive published = none ∨ published = some p)) ↔
      ∃ p, old.port = some p ∧ p ≠ 0 ∧ ∀ published : Option Nat,
        world.remote (delivery old job) = .ok published →
          positive published = none ∨ published = some p := by
    refine exists_congr fun p => and_congr_right fun _ => and_congr_right fun _ => ?_
    constructor
    · intro h published' h'
      rw [hdeliver] at h'
      cases h'
      exact h
    · exact fun h => h published hdeliver
  constructor
  · rintro ⟨hv, ht, he, hp⟩
    exact ⟨version_restored_iff.mp ⟨hv, ht⟩, env_restored_iff.mp he,
      hport.mp (port_restored_iff.mp hp)⟩
  · rintro ⟨hv, he, hp⟩
    obtain ⟨hv', ht'⟩ := version_restored_iff.mpr hv
    exact ⟨hv', ht', env_restored_iff.mpr he, port_restored_iff.mpr (hport.mpr hp)⟩

end Plant

/-- Behind a completed update and a completed rollback the row says of the container what it
said before exactly when the update left it nothing to bring back but a remembered version. -/
theorem restored_iff {w₁ w₂ : World} {s s₁ s₂ : Plant} {old : InstalledApp} {answers : Env}
    {job : UpdateJob} (hrow : s.row = some old)
    (hjob : ((w₁.catalog old.appId).bind fun app => app.updateJob answers) = some job)
    (hupdate : s.operate w₁ (.update answers) = (s₁, some .completed))
    (hrollback : s₁.operate w₂ .rollback = (s₂, some .completed)) :
    (∃ new, s₂.row = some new ∧ Restored old new) ↔ Restorable w₁ old job := by
  have hupdated : ∃ name, ∃ published : Option Nat,
      w₁.remote (delivery old job) = .ok published ∧
        s₁.row = some (old.afterUpdate job name published) := by
    refine Plant.of_operate (Q := fun s' => ∃ name, ∃ published : Option Nat,
        w₁.remote (delivery old job) = .ok published ∧
          s'.row = some (old.afterUpdate job name published))
      (R := fun s' => s'.row = some old ∧ s'.submitted = some (.update job)) ?_ ?_ hupdate
    · refine Host.meets_mono ?_ (Plant.ends_update (s := { s with submitted := none }) hrow answers)
      rintro s' r h rfl
      obtain ⟨job', haccepts, rfl⟩ := h
      cases hjob.symm.trans haccepts.catalog
      exact ⟨hrow, rfl⟩
    · rintro s' ⟨hrow', hsubmitted⟩
      exact ⟨_, hsubmitted, Plant.ends_runUpdate hrow' job⟩
  obtain ⟨name, published, hdeliver, hrow₁⟩ := hupdated
  have hrow₂ : s₂.row = some ((old.afterUpdate job name published).rolledBack true) := by
    refine Plant.of_operate (Q := fun s' =>
        s'.row = some ((old.afterUpdate job name published).rolledBack true))
      (R := fun s' => s' = { s₁ with submitted := some .rollback })
      (Plant.ends_rollback (s := { s₁ with submitted := none }) hrow₁) ?_ hrollback
    rintro s' rfl
    exact ⟨_, rfl, Plant.ends_runRollback hrow₁⟩
  rw [← Plant.restored_afterUpdate_iff hdeliver]
  constructor
  · rintro ⟨new, hnew, h⟩
    rw [hrow₂] at hnew
    cases hnew
    exact h
  · exact fun h => ⟨_, hrow₂, h⟩

/-! ### A new answer in the form -/

namespace Shop

/-- A wiki that runs with one variable. -/
def wikiRow : InstalledApp :=
  { blog with
    appId := some "wiki", name := "wiki", versionInstalled := some "0.9"
    tipiVersionInstalled := some 1, envEncrypted := some [("TITLE", "notes")]
    ip := some "10.0.0.5", status := .running }

/-- The wiki in its container. -/
def wikiPlant : Plant := ⟨some wikiRow, none, true, fun _ => none⟩

/-- The wiki behind an update with these answers. -/
def there (answers : Env) : Plant := (wikiPlant.operate (.good (some wiki)) (.update answers)).1

/-- What is left when it is rolled back. -/
def thereAndBack (answers : Env) : Plant :=
  ((there answers).operate (.good (some wiki)) .rollback).1

/-- Without new answers the row is as before. -/
theorem thereAndBack_restored :
    ∃ new, (thereAndBack []).row = some new ∧ Restored wikiRow new := by
  have hupdate : wikiPlant.operate (.good (some wiki)) (.update []) =
    (there [], some .completed) := rfl
  have hrollback : (there []).operate (.good (some wiki)) .rollback =
    (thereAndBack [], some .completed) := rfl
  refine (restored_iff rfl rfl hupdate hrollback).mpr ?_
  refine ⟨nofun, ⟨_, rfl, rfl⟩, 80, rfl, by decide, ?_⟩
  intro published h
  cases h
  exact Or.inl rfl

/-- A new title stays in the row of the app that was rolled back. -/
theorem thereAndBack_not_restored :
    ¬∀ (w₁ w₂ : World) (s s₁ s₂ : Plant) (old : InstalledApp) (answers : Env),
      s.row = some old → old.status = .running ∨ old.status = .stopped →
      s.operate w₁ (.update answers) = (s₁, some .completed) →
      s₁.operate w₂ .rollback = (s₂, some .completed) →
      ∃ new, s₂.row = some new ∧ Restored old new := by
  intro h
  obtain ⟨new, hnew, hrestored⟩ := h (.good (some wiki)) (.good (some wiki)) wikiPlant _ _ wikiRow
    [("TITLE", "diary")] rfl (Or.inl rfl) rfl rfl
  have henv : (thereAndBack [("TITLE", "diary")]).row.bind InstalledApp.envEncrypted =
      some [("TITLE", "diary")] := rfl
  rw [show (thereAndBack [("TITLE", "diary")]).row = some new from hnew, Option.bind_some,
    hrestored.env] at henv
  exact absurd henv (by decide)

end Shop

end PveManager.Apps
