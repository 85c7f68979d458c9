import PveManager.Apps.Restore
import PveManager.Core.Run

/-!
# The snapshot to roll back to

An app remembers one snapshot, the one its last update took. An update is also
accepted behind a failed one, and a start or a stop hides the failure behind
another status, so the snapshot of a working version can give way to one of a
version that does not work.
-/

namespace PveManager.Apps

open PveManager.Core PveManager.Api

/-- An app that runs or was stopped. -/
def AppStatus.settled (status : AppStatus) : Prop := status = .running ∨ status = .stopped

/-- A snapshot of a working version, taken when the app ran or was stopped. -/
structure Snapshot.Good (snap : Snapshot) : Prop where
  settled : snap.status.settled
  works : snap.works = true

/-- The recorded snapshot is on the node and is a good one. -/
def Plant.Healthy (s : Plant) : Prop :=
  ∀ ia name, s.row = some ia → ia.lastSnapshot = some name →
    ∃ snap, s.snapshots name = some snap ∧ snap.Good

/-- An accepted installation. -/
structure Accepted where
  site : Site
  request : InstallRequest
  row : InstalledApp
  job : InstallJob
  accepted : install site request = .ok (row, job)

/-- What the job of the installation leaves. -/
def Accepted.plant (a : Accepted) (world : World) : Plant :=
  (Plant.work world ⟨some a.row, none, false, fun _ => none⟩ (.install a.job)).1

namespace Plant

/-- One operation after the other, each with its own world. -/
def step (s : Plant) (e : World × AppRequest) : Plant := (s.operate e.1 e.2).1

/-- The name of the snapshot of an update. -/
def snapshotName (world : World) (ia : InstalledApp) : String :=
  snapName ia.versionInstalled (world.remote .stamp)

/-- The node creates the snapshot of an update. -/
structure Creates (world : World) (ia : InstalledApp) : Prop where
  client : world.remote (.clientFor ia.serverId) = .ok ()
  created : world.remote (.createSnapshot (ia.node.getD "") (ia.vmid.getD 0)
    (snapshotName world ia)) = .ok ()

/-- An update of the app is accepted and its snapshot is created. -/
structure TakesSnapshot (world : World) (ia : InstalledApp) (answers : Env) : Prop where
  accepts : ∃ job, Accepts world ia answers job
  creates : Creates world ia

/-- An update takes its snapshot only of an app that runs or was stopped, and only of a version
that has passed its last health check. -/
def Careful (s : Plant) (e : World × AppRequest) : Prop :=
  ∀ answers ia, e.2 = .update answers → s.row = some ia → TakesSnapshot e.1 ia answers →
    ia.status.settled ∧ s.works = true

/-! ### Calls that leave the recorded snapshot alone -/

/-- The snapshots and the record of them are left alone. -/
def Spares : EngineCall → Prop
  | .write change => ∀ row : InstalledApp, (change row).lastSnapshot = row.lastSnapshot
  | .remote (.createSnapshot _ _ _) | .remote (.deleteSnapshot _ _ _) => False
  | _ => True

theorem plain_spares : Plain Spares where
  load := trivial
  write := fun _ h => h
  catalogApp := fun _ => trivial
  goldenTemplate := fun _ => trivial
  remote := by
    intro r hr
    cases r with
    | createSnapshot node vmid name => cases hr
    | deleteSnapshot node vmid name => cases hr
    | _ => trivial

theorem snapshots_afterRemote {world : World} {s : Plant} {r : Remote}
    (h : Spares (.remote r)) : (s.afterRemote world r).snapshots = s.snapshots := by
  unfold afterRemote
  split
  · rfl
  · rfl
  · rfl
  · exact h.elim
  · exact h.elim
  · split <;> rfl
  · rfl

theorem afterRemote_createSnapshot_error {world : World} {s : Plant} {node name e : String}
    {vmid : Vmid} (h : world.remote (.createSnapshot node vmid name) = .error e) :
    s.afterRemote world (.createSnapshot node vmid name) = s := by
  simp only [afterRemote, h]

theorem afterRemote_createSnapshot_ok {world : World} {s : Plant} {ia : InstalledApp}
    {node name : String} {vmid : Vmid} (hrow : s.row = some ia)
    (h : world.remote (.createSnapshot node vmid name) = .ok ()) :
    s.afterRemote world (.createSnapshot node vmid name) =
      { s with snapshots := Function.update s.snapshots name (some ⟨ia.status, s.works⟩) } := by
  simp only [afterRemote, h, hrow]

/-- What such a call does to the row and the snapshots. -/
theorem spares_next (world : World) (s : Plant) {c : EngineCall} (h : Spares c) :
    ((host world).next s c).snapshots = s.snapshots ∧
      ∀ ia, ((host world).next s c).row = some ia →
        ∃ old, s.row = some old ∧ ia.lastSnapshot = old.lastSnapshot := by
  cases c with
  | remote r =>
    refine ⟨snapshots_afterRemote h, fun ia hia => ⟨ia, ?_, rfl⟩⟩
    exact (row_afterRemote world s r).symm.trans hia
  | write change =>
    refine ⟨rfl, fun ia hia => ?_⟩
    obtain ⟨old, hold, rfl⟩ := Option.map_eq_some_iff.mp hia
    exact ⟨old, hold, h old⟩
  | remove => exact ⟨rfl, fun ia hia => by cases hia⟩
  | load => exact ⟨rfl, fun ia hia => ⟨ia, hia, rfl⟩⟩
  | catalogApp appId => exact ⟨rfl, fun ia hia => ⟨ia, hia, rfl⟩⟩
  | goldenTemplate serverId => exact ⟨rfl, fun ia hia => ⟨ia, hia, rfl⟩⟩
  | submit job => exact ⟨rfl, fun ia hia => ⟨ia, hia, rfl⟩⟩

theorem Healthy.next {world : World} {s : Plant} {c : EngineCall} (hs : s.Healthy)
    (h : Spares c) : ((host world).next s c).Healthy := by
  intro ia name hia hname
  obtain ⟨hsnapshots, hrow⟩ := spares_next world s h
  obtain ⟨old, hold, hlast⟩ := hrow ia hia
  rw [hsnapshots]
  exact hs old name hold (hlast.symm.trans hname)

/-- Calls that leave the recorded snapshot alone keep it good. -/
theorem Healthy.ends {α : Type} {world : World} {s : Plant} (hs : s.Healthy) {p : Op α}
    (hp : p.Only Spares) : Ends world (fun s' _ => s'.Healthy) s p :=
  Host.meets_of_only (fun _ _ hc hs => hs.next hc) (fun _ _ hs => hs) hp hs

/-- A call of a request: it leaves the recorded snapshot alone or hands over its kind of job. -/
def Requests (req : AppRequest) : EngineCall → Prop
  | .submit job => req.starts job
  | c => Spares c

theorem spares_of_requests {req : AppRequest} {c : EngineCall} (h : Requests req c) :
    Spares c := by
  cases c with
  | submit job => trivial
  | _ => exact h

theorem plain_requests (req : AppRequest) : Plain (Requests req) where
  load := trivial
  write := fun _ h => h
  catalogApp := fun _ => trivial
  goldenTemplate := fun _ => trivial
  remote := plain_spares.remote

/-- The job a request leaves is of its kind. -/
theorem ends_request {world : World} {s : Plant} (hs : s.Healthy) (req : AppRequest) :
    Ends world (fun s' _ => s'.Healthy ∧ ∀ job, s'.submitted = some job → req.starts job)
      { s with submitted := none } req.run := by
  refine Host.meets_of_only (P := Requests req) (J := fun s' : Plant =>
    s'.Healthy ∧ ∀ job, s'.submitted = some job → req.starts job) ?_ (fun _ _ h => h)
    (only_appRequest (plain_requests req) fun _ hjob => hjob) ⟨hs, fun _ h => by cases h⟩
  rintro s' c hc ⟨hhealthy, hsubmitted⟩
  refine ⟨hhealthy.next (spares_of_requests hc), ?_⟩
  cases c with
  | submit job =>
    rintro job' ⟨⟩
    exact hc
  | remote r =>
    intro job' hjob'
    exact hsubmitted job' ((afterRemote_same world s' r).2.symm.trans hjob')
  | _ => exact hsubmitted

/-- What a request and its job, if it hands one over, lead to. -/
theorem operate_of_ends {world : World} {s : Plant} {req : AppRequest} {R Q : Plant → Prop}
    (hreq : Ends world (fun s' r => R s' ∧ (r = .ok () → s'.submitted = none → Q s') ∧
      ∀ e, r = .error e → Q s') { s with submitted := none } req.run)
    (hjob : ∀ s' job, R s' → s'.submitted = some job →
      Ends world (fun s'' _ => Q s'') s' job.run) : Q (s.operate world req).1 := by
  have hend := Host.post_exec hreq
  unfold operate
  rcases hexec : (host world).exec { s with submitted := none } req.run with ⟨s₁, e | u⟩
  · rw [hexec] at hend
    exact hend.2.2 e rfl
  · rw [hexec] at hend
    cases hsubmitted : s₁.submitted with
    | none =>
      simp only [hsubmitted]
      exact hend.2.1 rfl hsubmitted
    | some job =>
      simp only [hsubmitted]
      exact Host.post_exec (hjob s₁ job hend.1 hsubmitted)

/-- Operations other than an update leave the recorded snapshot alone. -/
theorem Healthy.operate {world : World} {s : Plant} (hs : s.Healthy) {req : AppRequest}
    (hjob : ∀ job, req.starts job → job.run.Only Spares) : (s.operate world req).1.Healthy := by
  refine operate_of_ends (R := fun s' => s'.Healthy ∧ ∀ job, s'.submitted = some job →
    req.starts job) (Host.meets_mono ?_ (ends_request hs req)) ?_
  · exact fun s' r h => ⟨h, fun _ _ => h.1, fun _ _ => h.1⟩
  · exact fun s' job h hsubmitted => h.1.ends (hjob job (h.2 job hsubmitted))

/-- The jobs that are no updates leave the recorded snapshot alone. -/
theorem spares_of_starts {req : AppRequest} (hreq : ∀ answers, req ≠ .update answers) (job : Job)
    (h : req.starts job) : job.run.Only Spares := by
  cases job with
  | install job => exact only_runInstall plain_spares job
  | rollback => exact only_runRollback plain_spares
  | delete serverId vmid node =>
    exact only_runDelete plain_spares (fun _ _ => trivial) trivial serverId vmid node
  | update job =>
    cases req with
    | update answers => exact absurd rfl (hreq answers)
    | _ => exact h.elim

/-! ### An update -/

section Update

variable {world : World} {s : Plant} {ia : InstalledApp}

/-- What plain calls keep is there behind a caught failure as well. -/
theorem ends_caught_of_plain {P : EngineCall → Prop} (hplain : Plain P) {J : Plant → Prop}
    (hkeeps : ∀ s c, P c → J s → J ((host world).next s c)) {p : Op OpStatus}
    (hp : Ends world (fun s' _ => J s') s p) :
    Ends world (fun s' _ => J s') s (tryCatch p fun e => do
      swallow (amend (InstalledApp.withStatus .updateFailed))
      pure (.failed e)) := by
  refine Host.meets_tryCatch.mpr (Host.meets_mono ?_ hp)
  rintro s' (e | status) hs
  · refine Host.meets_of_only hkeeps (fun _ _ h => h) ?_ hs
    refine Proc.only_bind (only_swallow ?_) fun _ => Proc.only_pure _
    exact only_amend hplain fun _ => rfl
  · exact hs

/-- An update whose snapshot is not created leaves the recorded one alone. -/
theorem Healthy.runUpdate (hs : s.Healthy) (hrow : s.row = some ia) (job : UpdateJob)
    (hnot : ¬Creates world ia) : Ends world (fun s' _ => s'.Healthy) s (runUpdate job) := by
  refine ends_caught_of_plain plain_spares (fun _ _ hc hs => hs.next hc) (ends_load.mpr ?_)
  rw [hrow]
  refine ends_remote.mpr (ends_orRaise.mpr ?_)
  have hs₁ : (s.afterRemote world (.clientFor ia.serverId)).Healthy := hs
  cases hclient : world.remote (.clientFor ia.serverId) with
  | error e => exact hs₁
  | ok u =>
    dsimp only
    refine ends_remote.mpr (ends_remote.mpr ?_)
    cases hcreated : world.remote (.createSnapshot (ia.node.getD "") (ia.vmid.getD 0)
        (snapshotName world ia)) with
    | error e =>
      rw [show snapName ia.versionInstalled (world.remote .stamp) = snapshotName world ia from rfl,
        afterRemote_createSnapshot_error hcreated, hcreated]
      refine Healthy.ends hs₁ ?_
      exact Proc.only_bind (only_save plain_spares rfl) fun _ => Proc.only_pure _
    | ok u => exact absurd ⟨hclient, hcreated⟩ hnot

/-- The recorded snapshot has this name and is this one. -/
def Recorded (name : String) (snap : Snapshot) (s : Plant) : Prop :=
  ∃ ia, s.row = some ia ∧ ia.lastSnapshot = some name ∧ s.snapshots name = some snap

/-- Behind its snapshot an update leaves that one alone. -/
def Follows (name : String) : EngineCall → Prop
  | .remove | .remote (.createSnapshot _ _ _) => False
  | .remote (.deleteSnapshot _ _ other) => other ≠ name
  | .write change => ∀ row : InstalledApp, (change row).lastSnapshot = row.lastSnapshot
  | _ => True

theorem plain_follows (name : String) : Plain (Follows name) where
  load := trivial
  write := fun _ h => h
  catalogApp := fun _ => trivial
  goldenTemplate := fun _ => trivial
  remote := by
    intro r hr
    cases r with
    | createSnapshot node vmid name => cases hr
    | deleteSnapshot node vmid name => cases hr
    | _ => trivial

theorem Recorded.next {name : String} {snap : Snapshot} {c : EngineCall}
    (h : Recorded name snap s) (hc : Follows name c) :
    Recorded name snap ((host world).next s c) := by
  obtain ⟨ia, hia, hname, hsnap⟩ := h
  cases c with
  | remove => exact hc.elim
  | write change =>
    refine ⟨change ia, ?_, (hc ia).trans hname, hsnap⟩
    change s.row.map change = _
    rw [hia]
    rfl
  | remote r =>
    refine ⟨ia, (row_afterRemote world s r).trans hia, hname, ?_⟩
    refine Eq.trans ?_ hsnap
    change (s.afterRemote world r).snapshots name = s.snapshots name
    cases r with
    | createSnapshot node vmid other => exact hc.elim
    | deleteSnapshot node vmid other =>
      cases hdelete : world.remote (.deleteSnapshot node vmid other) with
      | error e => simp only [afterRemote, hdelete]
      | ok upid =>
        simp only [afterRemote, hdelete]
        exact Function.update_of_ne (Ne.symm hc) _ _
    | _ =>
      rw [snapshots_afterRemote]
      trivial
  | _ => exact ⟨ia, hia, hname, hsnap⟩

/-- What follows the snapshot of an update records it and leaves it alone. -/
theorem recorded_applyUpdate {name : String} {snap : Snapshot} (hrow : s.row = some ia)
    (hsnap : s.snapshots name = some snap) (job : UpdateJob) :
    Ends world (fun s' _ => Recorded name snap s') s (do
      save ia (ia.withSnapshot name)
      applyUpdate job name) := by
  refine (ends_save hrow _).mpr ?_
  refine Host.meets_of_only (fun _ _ hc hs => Recorded.next hs hc) (fun _ _ h => h) ?_
    ⟨_, rfl, rfl, hsnap⟩
  exact only_applyUpdate (plain_follows name) job fun _ _ _ hne => hne

/-- An update whose snapshot is created records it, with what the container held. -/
theorem recorded_runUpdate (hrow : s.row = some ia) (job : UpdateJob) (h : Creates world ia) :
    Ends world (fun s' _ => Recorded (snapshotName world ia) ⟨ia.status, s.works⟩ s') s
      (runUpdate job) := by
  refine ends_caught_of_plain (plain_follows (snapshotName world ia))
    (fun _ _ hc hs => Recorded.next hs hc) (ends_load.mpr ?_)
  rw [hrow]
  refine ends_remote.mpr (ends_orRaise.mpr ?_)
  rw [h.client]
  dsimp only
  refine ends_remote.mpr (ends_remote.mpr ?_)
  rw [show (s.afterRemote world (.clientFor ia.serverId)).afterRemote world .stamp = s from rfl,
    show snapName ia.versionInstalled (world.remote .stamp) = snapshotName world ia from rfl,
    afterRemote_createSnapshot_ok hrow h.created, h.created]
  refine recorded_applyUpdate ?_ ?_ job
  · exact hrow
  · simp

/-- An update that takes its snapshot leaves a good one exactly when it is careful. -/
theorem healthy_iff_of_recorded {name : String} {snap : Snapshot} (h : Recorded name snap s) :
    s.Healthy ↔ snap.Good := by
  obtain ⟨ia, hia, hname, hsnap⟩ := h
  constructor
  · intro hs
    obtain ⟨snap', hsnap', hgood⟩ := hs ia name hia hname
    cases hsnap.symm.trans hsnap'
    exact hgood
  · intro hgood ia' name' hia' hname'
    cases hia.symm.trans hia'
    cases hname.symm.trans hname'
    exact ⟨snap, hsnap, hgood⟩

theorem careful_iff_good (hrow : s.row = some ia) {answers : Env}
    (h : TakesSnapshot world ia answers) :
    s.Careful (world, .update answers) ↔ (⟨ia.status, s.works⟩ : Snapshot).Good := by
  constructor
  · intro hcareful
    obtain ⟨hsettled, hworks⟩ := hcareful answers ia rfl hrow h
    exact ⟨hsettled, hworks⟩
  · rintro ⟨hsettled, hworks⟩ answers' ia' - hia' -
    cases hrow.symm.trans hia'
    exact ⟨hsettled, hworks⟩

theorem careful_of_not (hrow : s.row = some ia) {answers : Env}
    (h : ¬TakesSnapshot world ia answers) : s.Careful (world, .update answers) := by
  rintro answers' ia' ⟨⟩ hia' htakes
  cases hrow.symm.trans hia'
  exact absurd htakes h

/-- The job of an accepted update leaves a good snapshot recorded exactly when it is careful. -/
theorem ends_runUpdate_healthy (hs : s.Healthy) (hrow : s.row = some ia) {answers : Env}
    {job : UpdateJob} (haccepts : Accepts world ia answers job) :
    Ends world (fun s' _ => s'.Healthy ↔ s.Careful (world, .update answers)) s
      (runUpdate job) := by
  by_cases hcreates : Creates world ia
  · refine Host.meets_mono ?_ (recorded_runUpdate hrow job hcreates)
    intro s' r hrecorded
    rw [careful_iff_good hrow ⟨⟨job, haccepts⟩, hcreates⟩]
    exact healthy_iff_of_recorded hrecorded
  · refine Host.meets_mono ?_ (hs.runUpdate hrow job hcreates)
    intro s' r hhealthy
    exact iff_of_true hhealthy (careful_of_not hrow fun h => hcreates h.creates)

/-- An update leaves a good snapshot recorded exactly when it is careful. -/
theorem healthy_update_iff (hs : s.Healthy) (answers : Env) :
    (s.operate world (.update answers)).1.Healthy ↔ s.Careful (world, .update answers) := by
  cases hrow : s.row with
  | none =>
    have hcareful : s.Careful (world, .update answers) := by
      intro answers' ia' _ hia'
      cases hrow.symm.trans hia'
    refine operate_of_ends (Q := fun s' => s'.Healthy ↔ s.Careful (world, .update answers))
      (R := fun s' => s'.submitted = none) (ends_load.mpr ?_) ?_
    · dsimp only
      rw [hrow]
      have hhealthy : Healthy ⟨none, none, s.works, s.snapshots⟩ := fun _ _ hia => by cases hia
      exact ⟨rfl, fun _ _ => iff_of_true hhealthy hcareful, fun _ _ =>
        iff_of_true hhealthy hcareful⟩
    · intro s' job hnone hsubmitted
      cases hnone.symm.trans hsubmitted
  | some ia =>
    refine operate_of_ends (Q := fun s' => s'.Healthy ↔ s.Careful (world, .update answers))
      (R := fun s' => ∀ job, s'.submitted = some job → ∃ update, job = .update update ∧
        Accepts world ia answers update ∧ s' = { s with submitted := some job })
      (Host.meets_mono ?_ (ends_update (s := { s with submitted := none }) hrow answers)) ?_
    · rintro s' (e | u) h
      · obtain ⟨rfl, hnot⟩ := h
        refine ⟨fun job hjob => (by cases hjob), fun hok => (by cases hok), fun _ _ => ?_⟩
        exact iff_of_true hs (careful_of_not hrow fun h => h.accepts.elim hnot)
      · obtain ⟨job, haccepts, rfl⟩ := h
        refine ⟨?_, fun _ hnone => (by cases hnone), fun _ he => (by cases he)⟩
        rintro _ ⟨⟩
        exact ⟨job, rfl, haccepts, rfl⟩
    · intro s' job h hsubmitted
      obtain ⟨update, rfl, haccepts, rfl⟩ := h job hsubmitted
      exact ends_runUpdate_healthy (s := { s with submitted := some (.update update) }) hs hrow
        haccepts

end Update

/-- One operation keeps a good snapshot recorded exactly when it is careful. -/
theorem healthy_step_iff {s : Plant} (hs : s.Healthy) (e : World × AppRequest) :
    (s.step e).Healthy ↔ s.Careful e := by
  obtain ⟨world, req⟩ := e
  have hother : (∀ answers, req ≠ .update answers) →
      ((s.step (world, req)).Healthy ↔ s.Careful (world, req)) := by
    intro hreq
    refine iff_of_true (hs.operate (spares_of_starts hreq)) ?_
    intro answers ia heq
    exact absurd heq (hreq answers)
  cases req with
  | update answers => exact healthy_update_iff hs answers
  | _ => exact hother nofun

end Plant

/-- The installation leaves no snapshot recorded. -/
theorem Accepted.healthy_plant (a : Accepted) (world : World) : (a.plant world).Healthy := by
  have hlast : a.row.lastSnapshot = none := by
    have h := a.accepted
    unfold install at h
    iterate 10 obtain ⟨_, -, h⟩ := bind_ok h
    exact (congrArg (fun r => r.1.lastSnapshot) (Except.ok.inj h)).symm
  have hstart : (⟨some a.row, none, false, fun _ => none⟩ : Plant).Healthy := by
    intro ia name hia hname
    cases hia
    rw [hlast] at hname
    cases hname
  exact Host.post_exec (hstart.ends (only_runInstall Plant.plain_spares a.job))

/-- In every state of every sequence of operations the recorded snapshot is one of a working
version exactly when every update in it is careful. -/
theorem healthy_iff (a : Accepted) (world : World) (ops : List (World × AppRequest)) :
    (∀ s ∈ visited Plant.step (a.plant world) ops, s.Healthy) ↔
      Guarded Plant.step Plant.Careful (a.plant world) ops :=
  forall_visited_iff_guarded (fun _ e _ hs => Plant.healthy_step_iff hs e) (a.healthy_plant world)

/-! ### Two updates that fail -/

namespace Shop

/-- The installation of the wiki. -/
def wikiAccepted : Accepted :=
  ⟨settled.site, settled.request, _, _, rfl⟩

/-- Every call is answered well but the health check. -/
def failing (stamp : String) : World :=
  { World.good (some wiki) with
    remote := fun
      | .healthCheck _ _ => false
      | .stamp => stamp
      | r => (World.good (some wiki)).remote r }

/-- Two updates that fail their health check, a day apart. -/
def failedTwice : List (World × AppRequest) :=
  [(failing "20260101000000", .update []), (failing "20260102000000", .update [])]

/-- The wiki behind both of them. -/
def wikiFailedTwice : Plant :=
  failedTwice.foldl Plant.step (wikiAccepted.plant (.good (some wiki)))

/-- Behind the second one the snapshot of the version that failed is recorded. -/
theorem failedTwice_not_healthy :
    ¬∀ (a : Accepted) (world : World) (ops : List (World × AppRequest)),
      ∀ s ∈ visited Plant.step (a.plant world) ops, s.Healthy := by
  intro h
  have hhealthy : wikiFailedTwice.Healthy :=
    h wikiAccepted (.good (some wiki)) failedTwice _ (foldl_mem_visited _ _ _)
  have hname : wikiFailedTwice.row.bind InstalledApp.lastSnapshot =
      some "preupd_10_20260102000000" := by decide +kernel
  have hsnap : wikiFailedTwice.snapshots "preupd_10_20260102000000" =
      some ⟨.updateFailed, false⟩ := by decide +kernel
  cases hrow : wikiFailedTwice.row with
  | none =>
    rw [hrow] at hname
    cases hname
  | some ia =>
    rw [hrow] at hname
    obtain ⟨snap, hsnap', hgood⟩ := hhealthy ia _ hrow hname
    cases hsnap.symm.trans hsnap'
    cases hgood.works

end Shop

end PveManager.Apps
