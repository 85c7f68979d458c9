import PveManager.Apps.Engine

/-!
# The reconciliation of installed apps

Every minute the status of the containers is asked for, app by app, and compared with the rows.
An app whose container is gone is orphaned. What an unanswered request says is decided at two
places: a server that does not answer at all is passed over, but the status call answers the
same for a container that is gone and for any error.
-/

namespace PveManager.Apps

open PveManager.Core PveManager.Api

/-- Why a request raises. -/
inductive Failure
  /-- Proxmox answers that the container does not exist. -/
  | missing
  /-- Any other answer with an error status. -/
  | api (status : Nat)
  | connection
  | timeout

/-- What happens on the network while an app is checked. -/
structure Exchange where
  /-- The client could log in or had a cached session. -/
  session : Bool
  /-- The request of the connection check, where it raises. -/
  version : Option Failure
  /-- The request for the status. -/
  status : Except Failure Json

/-- `is_connected`. -/
def Exchange.isConnected (e : Exchange) : Bool := e.session && e.version.isNone

/-- `get_container_status`: `None` without a session and for every exception. -/
def Exchange.getContainerStatus (e : Exchange) : Json :=
  if e.session then e.status.toOption.getD .null else .null

/-- One reconciliation with what it meets. -/
structure Pass where
  servers : List ProxmoxServer
  /-- By the id of the app. -/
  exchange : Nat → Exchange
  /-- The database takes the changes. -/
  commits : Bool

def reconcileStates : List AppStatus := [.running, .stopped, .orphaned]

/-- `(st.get("status") or "").lower()`, where it does not raise. -/
def statusText (st : Json) : Option String :=
  (st.get? "status").bind fun value =>
    match value with
    | .text s => some s.toLower
    | value => if value.truthy then none else some ""

/-- The status an answer means, where the answer can be read. -/
def newStatus (old : AppStatus) (st : Json) : Option AppStatus :=
  if st.truthy then
    (statusText st).map fun s =>
      if s = "running" then .running else if s = "stopped" then .stopped else old
  else some .orphaned

namespace Pass

variable (p : Pass)

/-- The answer the app is judged by, unless the loop goes on before there is one. -/
def asked (ia : InstalledApp) : Option Json :=
  if ia.status ∈ reconcileStates then
    ia.binding.bind fun bound =>
      (p.servers.find? fun server => server.id == bound.1).bind fun server =>
        if hasCredentials server && (p.exchange ia.id).isConnected then
          some (p.exchange ia.id).getContainerStatus
        else none
  else none

/-- The status after the check; `none` where reading the answer raises. -/
def check (ia : InstalledApp) : Option AppStatus :=
  match p.asked ia with
  | none => some ia.status
  | some st => newStatus ia.status st

/-- Every answer can be read, so the loop ends. -/
def Finishes (apps : KeyedTable InstalledApp.id) : Prop :=
  ∀ ia ∈ apps.rows, (p.check ia).isSome = true

instance (apps : KeyedTable InstalledApp.id) : Decidable (p.Finishes apps) :=
  inferInstanceAs (Decidable (∀ ia ∈ apps.rows, (p.check ia).isSome = true))

/-- The row with its new status. -/
def judge (ia : InstalledApp) : InstalledApp :=
  { ia with status := (p.check ia).getD ia.status }

/-- How many statuses change. -/
def changed (apps : KeyedTable InstalledApp.id) : Nat :=
  apps.rows.countP fun ia => decide ((p.judge ia).status ≠ ia.status)

end Pass

/-- `reconcile`: the stored rows, and the result where it does not raise. -/
def reconcile (p : Pass) (apps : KeyedTable InstalledApp.id) :
    KeyedTable InstalledApp.id × Option (Nat × Nat) :=
  if p.Finishes apps then
    let result :=
      (apps.rows.countP fun ia => decide (ia.status ∈ reconcileStates), p.changed apps)
    if p.changed apps = 0 then (apps, some result)
    else if p.commits then (apps.mapRows p.judge fun _ => rfl, some result)
    else (apps, none)
  else (apps, none)

/-- Proxmox answered that the container of the app does not exist. -/
def Pass.SaysMissing (p : Pass) (ia : InstalledApp) : Prop :=
  (p.exchange ia.id).status = .error .missing

/-- An app becomes orphaned only where Proxmox answered that its container does not exist. -/
def OnEvidence (p : Pass) (apps : KeyedTable InstalledApp.id) : Prop :=
  ∀ ia ∈ apps.rows, ia.status ≠ .orphaned →
    ∀ row ∈ (reconcile p apps).1.find? ia.id, row.status = .orphaned → p.SaysMissing ia

/-- In a pass that is stored, the status request for an app that is not orphaned is answered, and
not with an empty value, or fails because the container does not exist. -/
def Conclusive (p : Pass) (apps : KeyedTable InstalledApp.id) : Prop :=
  p.Finishes apps → p.commits = true →
    ∀ ia ∈ apps.rows, ia.status ≠ .orphaned → (p.asked ia).isSome = true →
      (∃ st, (p.exchange ia.id).status = .ok st ∧ st.truthy = true) ∨ p.SaysMissing ia

/-! ### What a pass stores -/

variable {p : Pass} {apps : KeyedTable InstalledApp.id} {ia : InstalledApp}

/-- The answer is that of the status request; without one it is empty. -/
theorem Pass.asked_eq_some {st : Json} (h : p.asked ia = some st) :
    st = (p.exchange ia.id).status.toOption.getD .null := by
  unfold Pass.asked at h
  split at h
  · obtain ⟨bound, -, h⟩ := Option.bind_eq_some_iff.mp h
    obtain ⟨server, -, h⟩ := Option.bind_eq_some_iff.mp h
    split at h
    · rename_i hconnected
      cases h
      have hsession : (p.exchange ia.id).session = true :=
        (Bool.and_eq_true_iff.mp (Bool.and_eq_true_iff.mp hconnected).2).1
      unfold Exchange.getContainerStatus
      rw [if_pos hsession]
    · cases h
  · cases h

/-- An app becomes orphaned by an empty answer, and by nothing else. -/
theorem Pass.judge_orphaned_iff (hstatus : ia.status ≠ .orphaned) :
    (p.judge ia).status = .orphaned ↔ ∃ st, p.asked ia = some st ∧ st.truthy = false := by
  have hjudge : (p.judge ia).status = (p.check ia).getD ia.status := rfl
  rw [hjudge]
  unfold Pass.check
  cases hasked : p.asked ia with
  | none => simp [hstatus]
  | some st =>
    cases htruthy : st.truthy with
    | false => simp [newStatus, htruthy]
    | true =>
      have hread : (newStatus ia.status st).getD ia.status ≠ .orphaned := by
        unfold newStatus
        rw [if_pos htruthy]
        cases statusText st with
        | none => exact hstatus
        | some s =>
          rw [Option.map_some, Option.getD_some]
          split
          · exact AppStatus.noConfusion
          · split
            · exact AppStatus.noConfusion
            · exact hstatus
      refine iff_of_false hread ?_
      rintro ⟨st', hst', hfalse⟩
      cases hst'
      rw [htruthy] at hfalse
      cases hfalse

/-- What is stored for an app. -/
theorem find?_reconcile (h : ia ∈ apps.rows) :
    (reconcile p apps).1.find? ia.id =
      some (if p.Finishes apps ∧ p.changed apps ≠ 0 ∧ p.commits = true then p.judge ia
        else ia) := by
  have hfind := apps.find?_key h
  unfold reconcile
  dsimp only
  by_cases hfinishes : p.Finishes apps
  · by_cases hchanged : p.changed apps = 0
    · simp [hfinishes, hchanged, hfind]
    · cases hcommits : p.commits with
      | false => simp [hfinishes, hchanged, hfind]
      | true =>
        have hmap := apps.find?_mapRows p.judge (fun _ => rfl) ia.id
        rw [hfind, Option.map_some] at hmap
        simpa [hfinishes, hchanged] using hmap
  · simp [hfinishes, hfind]

theorem Pass.changed_ne_zero (h : ia ∈ apps.rows) (hjudge : (p.judge ia).status ≠ ia.status) :
    p.changed apps ≠ 0 := by
  unfold Pass.changed
  rw [Ne, List.countP_eq_zero]
  exact fun hall => hall ia h (decide_eq_true hjudge)

/-- Apps are orphaned on evidence just where every request of a stored pass is conclusive. -/
theorem onEvidence_iff_conclusive (p : Pass) (apps : KeyedTable InstalledApp.id) :
    OnEvidence p apps ↔ Conclusive p apps := by
  constructor
  · intro h hfinishes hcommits ia hia hstatus hasked
    obtain ⟨st, hst⟩ := Option.isSome_iff_exists.mp hasked
    cases htruthy : st.truthy with
    | true =>
      refine Or.inl ⟨st, ?_, htruthy⟩
      have hanswer := Pass.asked_eq_some hst
      cases hexchange : (p.exchange ia.id).status with
      | error failure =>
        rw [hexchange] at hanswer
        rw [hanswer] at htruthy
        cases htruthy
      | ok answer =>
        rw [hexchange] at hanswer
        exact congrArg _ hanswer.symm
    | false =>
      have horphaned := (Pass.judge_orphaned_iff hstatus).mpr ⟨st, hst, htruthy⟩
      have hchanged := Pass.changed_ne_zero hia (p := p) fun heq => hstatus (heq ▸ horphaned)
      have hfind := find?_reconcile (p := p) hia
      rw [if_pos ⟨hfinishes, hchanged, hcommits⟩] at hfind
      exact Or.inr (h ia hia hstatus _ hfind horphaned)
  · intro h ia hia hstatus row hrow horphaned
    rw [find?_reconcile hia] at hrow
    split at hrow
    · rename_i hstored
      cases hrow
      obtain ⟨st, hst, htruthy⟩ := (Pass.judge_orphaned_iff hstatus).mp horphaned
      rcases h hstored.1 hstored.2.2 ia hia hstatus (hst ▸ rfl) with
        ⟨answer, hok, hanswer⟩ | hmissing
      · have heq := Pass.asked_eq_some hst
        rw [hok] at heq
        rw [heq] at htruthy
        exact absurd (hanswer.symm.trans htruthy) (by decide)
      · exact hmissing
    · cases hrow
      exact absurd horphaned hstatus

/-! ### A request that takes too long -/

def slowServer : ProxmoxServer where
  id := 1
  name := "main"
  hostname := "pve"
  ipAddress := "192.0.2.10"
  port := 8006
  apiUser := "root@pam"
  apiTokenName := none
  apiTokenValue := none
  usePassword := true
  password := some "secret"
  verifySsl := true
  clusterName := none
  description := none
  isOnline := some true
  lastCheck := none
  lastError := none
  lastErrorKind := none

def runningApp : InstalledApp where
  id := 7
  appId := some "uptime-kuma"
  serverId := some 1
  vmid := some 105
  node := some "pve"
  name := "kuma"
  versionInstalled := none
  tipiVersionInstalled := none
  envEncrypted := none
  ip := none
  port := none
  status := .running
  updateAvailable := false
  lastSnapshot := none
  installParams := none
  snapshotVersion := none
  snapshotTipiVersion := none
  ownerId := none

/-- The server answers the connection check, but not the request for the status. -/
def slowPass : Pass where
  servers := [slowServer]
  exchange := fun _ => ⟨true, none, .error .timeout⟩
  commits := true

/-- A timeout makes a running app an orphan. -/
theorem slowPass_not_onEvidence :
    ¬OnEvidence slowPass ⟨[runningApp], List.nodup_singleton _⟩ := by
  intro h
  have hmissing := h runningApp List.mem_cons_self AppStatus.noConfusion
    { runningApp with status := .orphaned } rfl rfl
  cases hmissing

end PveManager.Apps
