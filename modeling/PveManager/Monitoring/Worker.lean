import PveManager.Monitoring.Dashboard
import PveManager.Monitoring.Notifications

/-!
# The monitoring worker

Two periodic jobs look at the virtual machines of every registered server. One
tells every active user when a machine's status differs from the one remembered
for its server and number, the other when a resource is used above its
threshold and no alert of that server, number and resource is recent. As long as
no preference check raises, both jobs are watchers over the machines they see.
-/

namespace PveManager.Monitoring

open PveManager.Core

/-! ### Status changes -/

/-- One run of the status job: what it finds in the database, and the sessions of the servers
whose connection check succeeds. -/
structure StatusRound where
  servers : KeyedTable ProxmoxServer.id
  session : ServerId → Option Session
  /-- The active users, in the order of the query. -/
  users : List UserId
  users_nodup : users.Nodup
  prefs : UserId → Option NotificationPreference
  /-- Microseconds of the day. -/
  now : Nat

/-- A machine in the listing of a server. -/
structure Sighting where
  round : StatusRound
  server : ProxmoxServer
  vm : Listed

/-- `f"{server.id}:{vm['vmid']}"`. -/
def Sighting.vmKey (o : Sighting) : ServerId × Vmid := (o.server.id, o.vm.vmid)

/-- `previous_status and previous_status != current_status`. -/
def statusChanged (previous : Option String) (current : String) : Bool :=
  truthy previous && decide (previous ≠ some current)

/-- The level of a status notification. -/
def statusLevel (previous current : String) : String :=
  if current = "stopped" ∧ previous = "running" then "warning"
  else if current = "running" ∧ previous = "stopped" then "success"
  else "info"

/-- The start of the translation keys of a status notification. -/
def statusText (previous current : String) : String :=
  if current = "running" ∧ previous = "stopped" then "notify_vm_started"
  else if current = "stopped" ∧ previous = "running" then "notify_vm_stopped"
  else "notify_vm_status_change"

/-- `notify_vm_status`. -/
def notifyVmStatus (previous : String) (o : Sighting) (user : UserId) : Notification where
  userId := user
  type := "vm_status"
  level := statusLevel previous o.vm.status
  title := statusText previous o.vm.status ++ "_title"
  message := statusText previous o.vm.status ++ "_message"
  data := .vmStatus o.vm.vmid o.vm.name o.vm.status previous
  link := some ("/vms/instance/" ++ toString o.vm.vmid)
  source := "proxmox"
  sourceId := some (toString o.vm.vmid)

/-- Whether the user is told of the change. -/
def Sighting.create (o : Sighting) (previous : Option String) (user : UserId) : Option Bool :=
  (getUserPreferences (o.round.prefs user)).createNotification o.round.now
    (notifyVmStatus (previous.getD "") o user)

/-- A stored notification of a change, with the sighting behind it. -/
structure StatusTold where
  user : UserId
  previous : Option String
  sighting : Sighting

/-- The stored row. -/
def StatusTold.notification (t : StatusTold) : Notification :=
  notifyVmStatus (t.previous.getD "") t.sighting t.user

/-- `last_vm_states` and what was told so far. -/
structure StatusDesk where
  lastVmStates : ServerId × Vmid → Option String
  told : List StatusTold

namespace StatusDesk

variable (d : StatusDesk)

/-- `self.last_vm_states[vm_key] = current_status`. -/
def remember (o : Sighting) : StatusDesk :=
  { d with lastVmStates := Function.update d.lastVmStates o.vmKey (some o.vm.status) }

/-- The notifications of one change are stored. -/
def tell (o : Sighting) (users : List UserId) : StatusDesk :=
  { d with told := d.told ++ users.map fun u => ⟨u, d.lastVmStates o.vmKey, o⟩ }

/-- One machine of a listing; the flag says that no check raised. -/
def see (o : Sighting) : StatusDesk × Bool :=
  if statusChanged (d.lastVmStates o.vmKey) o.vm.status then
    let (users, completed) := notifyUsers (o.create (d.lastVmStates o.vmKey)) o.round.users
    if completed then ((d.tell o users).remember o, true) else (d.tell o users, false)
  else (d.remember o, true)

/-- The machines of one server; an exception ends the server. -/
def seeAll : StatusDesk → List Sighting → StatusDesk
  | d, [] => d
  | d, o :: rest =>
    let (d, completed) := d.see o
    if completed then d.seeAll rest else d

end StatusDesk

namespace StatusRound

variable (r : StatusRound)

/-- What the job sees on a server. -/
def sightings (s : ProxmoxServer) : List Sighting :=
  match r.session s.id with
  | none => []
  | some session => (getVms (some session)).map fun vm => ⟨r, s, vm⟩

/-- `run_vm_status_monitoring`. -/
def runVmStatusMonitoring (d : StatusDesk) : StatusDesk :=
  if r.users = [] then d
  else r.servers.rows.foldl (fun d s => d.seeAll (r.sightings s)) d

/-- Everything the job sees in one run. -/
def seen : List Sighting := if r.users = [] then [] else r.servers.rows.flatMap r.sightings

/-- The preferences of every active user can be read. -/
def Readable : Prop := ∀ u ∈ r.users, (getUserPreferences (r.prefs u)).Readable

end StatusRound

/-- The status job as a watcher: one cell per server and number. -/
def statusWatcher : Watcher Sighting (ServerId × Vmid) (Option String) where
  key := Sighting.vmKey
  fires previous o := statusChanged previous o.vm.status
  next _ o := some o.vm.status

/-- Who is told when the watcher fires. -/
def toldOf (p : Option String × Sighting) : List StatusTold :=
  (p.2.round.users.filter fun u => p.2.create p.1 u = some true).map fun u => ⟨u, p.1, p.2⟩

namespace StatusDesk

/-- What the watcher makes of some sightings. -/
def watch (d : StatusDesk) (os : List Sighting) : StatusDesk :=
  let after := statusWatcher.run toldOf (d.lastVmStates, d.told) os
  ⟨after.1, after.2⟩

variable {d : StatusDesk}

theorem watch_nil : d.watch [] = d := by
  unfold watch
  rw [Watcher.run_nil]

theorem watch_append (os os' : List Sighting) : d.watch (os ++ os') = (d.watch os).watch os' := by
  unfold watch
  rw [Watcher.run_append]

/-- Without an exception a machine is seen as the watcher sees it. -/
theorem see_of_readable {o : Sighting} (h : o.round.Readable) : d.see o = (d.watch [o], true) := by
  have hsome : ∀ u ∈ o.round.users, (o.create (d.lastVmStates o.vmKey) u).isSome = true :=
    fun u hu => (h u hu).isSome_createNotification _ _
  have hround := notifyUsers_of_isSome hsome
  unfold see watch
  split
  · rename_i hfires
    rw [hround, Watcher.run_singleton_of_fires _ _ hfires]
    rfl
  · rename_i hfires
    rw [Watcher.run_singleton_of_not_fires _ _ hfires]
    rfl

theorem seeAll_of_readable {os : List Sighting} (h : ∀ o ∈ os, o.round.Readable) :
    d.seeAll os = d.watch os := by
  induction os generalizing d with
  | nil => exact watch_nil.symm
  | cons o os ih =>
    unfold seeAll
    rw [see_of_readable (h o List.mem_cons_self)]
    exact (ih fun o' ho' => h o' (List.mem_cons_of_mem o ho')).trans (watch_append [o] os).symm

/-- Groups that are seen as the watcher sees them. -/
theorem foldl_watch {G : Type} {f : StatusDesk → G → StatusDesk} {group : G → List Sighting}
    (h : ∀ d g, f d g = d.watch (group g)) (gs : List G) (d : StatusDesk) :
    gs.foldl f d = d.watch (gs.flatMap group) := by
  induction gs generalizing d with
  | nil => exact watch_nil.symm
  | cons g gs ih => rw [List.foldl_cons, h, ih, List.flatMap_cons, watch_append]

end StatusDesk

namespace StatusRound

variable {r : StatusRound}

theorem round_of_mem_sightings {s : ProxmoxServer} {o : Sighting} (h : o ∈ r.sightings s) :
    o.round = r := by
  unfold sightings at h
  split at h
  · cases h
  · obtain ⟨vm, -, rfl⟩ := List.mem_map.mp h
    rfl

/-- Without an exception the status job is the watcher over everything it sees. -/
theorem runVmStatusMonitoring_of_readable (h : r.Readable) (d : StatusDesk) :
    r.runVmStatusMonitoring d = d.watch r.seen := by
  unfold runVmStatusMonitoring seen
  split
  · exact StatusDesk.watch_nil.symm
  · have hserver : ∀ (d : StatusDesk) (s : ProxmoxServer),
        d.seeAll (r.sightings s) = d.watch (r.sightings s) :=
      fun d s => StatusDesk.seeAll_of_readable fun o ho => (round_of_mem_sightings ho).symm ▸ h
    exact StatusDesk.foldl_watch hserver _ d

end StatusRound

/-! ### Resource alerts -/

/-- The watched resources. -/
inductive Resource
  | cpu
  | ram
  | disk
  deriving DecidableEq, Repr

namespace Resource

def label : Resource → String
  | .cpu => "CPU"
  | .ram => "RAM"
  | .disk => "Disk"

/-- Percent. -/
def threshold : Resource → Nat
  | .cpu => 80
  | .ram => 85
  | .disk => 90

end Resource

/-- The status of a machine as `get_vm_stats` answers it; an absent key is `none`. -/
structure VmStats where
  cpu : Option Rat
  mem : Option Nat
  maxmem : Option Nat
  disk : Option Nat
  maxdisk : Option Nat

/-- A share in percent, where the total is there and positive. -/
def percentOf (used total : Option Nat) : Option Rat := do
  let u ← used
  let t ← total
  if 0 < t then pure ((u : Rat) / t * 100) else none

/-- The usage the job computes. -/
def VmStats.usage (s : VmStats) : Resource → Option Rat
  | .cpu => s.cpu.map fun c => c * 100
  | .ram => percentOf s.mem s.maxmem
  | .disk => percentOf s.disk s.maxdisk

/-- One run of the resource job. -/
structure UsageRound where
  servers : KeyedTable ProxmoxServer.id
  /-- The session of a server whose client is built. -/
  session : ServerId → Option Session
  stats : ServerId → String → Vmid → Option VmStats
  users : List UserId
  users_nodup : users.Nodup
  prefs : UserId → Option NotificationPreference
  /-- Microseconds of the day. -/
  now : Nat
  /-- Seconds since the epoch, which lies in the past. -/
  timestamp : Nat
  positive : 0 < timestamp

/-- A running machine whose use of a resource is computed. -/
structure Reading where
  round : UsageRound
  server : ProxmoxServer
  vm : Listed
  resource : Resource
  usage : Rat

/-- `f"{vm_key}:{resource}"`. -/
def Reading.alertKey (o : Reading) : ServerId × Vmid × Resource :=
  (o.server.id, o.vm.vmid, o.resource)

/-- Thirty minutes in seconds. -/
def cooldown : Nat := 1800

/-- `_should_send_alert`. -/
def shouldSendAlert (lastAlert : Option Time) (now : Time) : Bool :=
  match lastAlert with
  | none => true
  | some 0 => true
  | some t => decide (t + cooldown < now)

/-- The use is above the threshold and no alert is recent. -/
def Reading.due (o : Reading) (lastAlert : Option Time) : Bool :=
  decide ((o.resource.threshold : Rat) < o.usage) && shouldSendAlert lastAlert o.round.timestamp

/-- After an alert nothing is due for the cooldown. -/
theorem Reading.lt_of_due {o : Reading} {t : Nat} (ht : 0 < t) (h : o.due (some t) = true) :
    t + cooldown < o.round.timestamp := by
  cases t with
  | zero => cases ht
  | succ t =>
    simp only [Reading.due, shouldSendAlert, Bool.and_eq_true, decide_eq_true_eq] at h
    exact h.2

/-- `notify_resource_alert`. -/
def notifyResourceAlert (o : Reading) (user : UserId) : Notification where
  userId := user
  type := "resource_alert"
  level := if 90 ≤ o.usage then "critical" else "warning"
  title := "notify_resource_alert_title"
  message := "notify_resource_alert_message"
  data := .resource o.resource.label o.vm.name o.usage o.resource.threshold
  link := none
  source := "system"
  sourceId := none

/-- Whether the user is told of the alert. -/
def Reading.create (o : Reading) (user : UserId) : Option Bool :=
  (getUserPreferences (o.round.prefs user)).createNotification o.round.now
    (notifyResourceAlert o user)

/-- A stored alert, with the reading behind it. -/
structure AlertTold where
  user : UserId
  reading : Reading

def AlertTold.notification (t : AlertTold) : Notification := notifyResourceAlert t.reading t.user

/-- `last_resource_alerts` and what was told so far. -/
structure AlertDesk where
  lastResourceAlerts : ServerId × Vmid × Resource → Option Time
  told : List AlertTold

namespace AlertDesk

variable (d : AlertDesk)

/-- `self.last_resource_alerts[alert_key] = now`. -/
def remember (o : Reading) : AlertDesk :=
  { d with
    lastResourceAlerts := Function.update d.lastResourceAlerts o.alertKey (some o.round.timestamp) }

def tell (o : Reading) (users : List UserId) : AlertDesk :=
  { d with told := d.told ++ users.map fun u => ⟨u, o⟩ }

/-- One resource of a machine; the flag says that no check raised. -/
def check (o : Reading) : AlertDesk × Bool :=
  if o.due (d.lastResourceAlerts o.alertKey) then
    let (users, completed) := notifyUsers o.create o.round.users
    if completed then ((d.tell o users).remember o, true) else (d.tell o users, false)
  else (d, true)

/-- The resources of one machine; an exception ends the machine. -/
def checkAll : AlertDesk → List Reading → AlertDesk
  | d, [] => d
  | d, o :: rest =>
    let (d, completed) := d.check o
    if completed then d.checkAll rest else d

end AlertDesk

namespace UsageRound

variable (r : UsageRound)

/-- What the job computes of a machine; without statistics it moves on to the next one. -/
def readings (s : ProxmoxServer) (vm : Listed) : List Reading :=
  if vm.status ≠ "running" then []
  else
    match r.stats s.id vm.node vm.vmid with
    | none => []
    | some stats => [.cpu, .ram, .disk].filterMap fun resource =>
        (stats.usage resource).map fun usage => ⟨r, s, vm, resource, usage⟩

/-- `run_resource_monitoring`. -/
def runResourceMonitoring (d : AlertDesk) : AlertDesk :=
  r.servers.rows.foldl
    (fun d s => (getVms (r.session s.id)).foldl (fun d vm => d.checkAll (r.readings s vm)) d) d

/-- Everything the job computes in one run. -/
def read : List Reading :=
  r.servers.rows.flatMap fun s => (getVms (r.session s.id)).flatMap (r.readings s)

/-- The preferences of every active user can be read. -/
def Readable : Prop := ∀ u ∈ r.users, (getUserPreferences (r.prefs u)).Readable

end UsageRound

/-- The resource job as a watcher: one cell per server, number and resource. -/
def alertWatcher : Watcher Reading (ServerId × Vmid × Resource) (Option Time) where
  key := Reading.alertKey
  fires lastAlert o := o.due lastAlert
  next lastAlert o := if o.due lastAlert then some o.round.timestamp else lastAlert

/-- Who is told when the watcher fires. -/
def alertedOf (p : Option Time × Reading) : List AlertTold :=
  (p.2.round.users.filter fun u => p.2.create u = some true).map fun u => ⟨u, p.2⟩

section AlertCells

variable {cells : ServerId × Vmid × Resource → Option Time} {o : Reading}

/-- A due reading stamps its cell. -/
theorem step_of_due (h : o.due (cells o.alertKey) = true) :
    alertWatcher.step cells o = Function.update cells o.alertKey (some o.round.timestamp) :=
  congrArg (Function.update cells o.alertKey) (if_pos h)

/-- A reading that is not due leaves the cells alone. -/
theorem step_of_not_due (h : ¬o.due (cells o.alertKey) = true) : alertWatcher.step cells o = cells :=
  (congrArg (Function.update cells o.alertKey) (if_neg h)).trans (Function.update_eq_self ..)

end AlertCells

namespace AlertDesk

/-- What the watcher makes of some readings. -/
def watch (d : AlertDesk) (os : List Reading) : AlertDesk :=
  let after := alertWatcher.run alertedOf (d.lastResourceAlerts, d.told) os
  ⟨after.1, after.2⟩

variable {d : AlertDesk}

theorem watch_nil : d.watch [] = d := by
  unfold watch
  rw [Watcher.run_nil]

theorem watch_append (os os' : List Reading) : d.watch (os ++ os') = (d.watch os).watch os' := by
  unfold watch
  rw [Watcher.run_append]

/-- Without an exception a resource is checked as the watcher checks it. -/
theorem check_of_readable {o : Reading} (h : o.round.Readable) : d.check o = (d.watch [o], true) := by
  have hsome : ∀ u ∈ o.round.users, (o.create u).isSome = true :=
    fun u hu => (h u hu).isSome_createNotification _ _
  have hround := notifyUsers_of_isSome hsome
  unfold check watch
  split
  · rename_i hdue
    rw [hround, Watcher.run_singleton_of_fires _ _ hdue, step_of_due hdue]
    rfl
  · rename_i hdue
    rw [Watcher.run_singleton_of_not_fires _ _ hdue, step_of_not_due hdue]

theorem checkAll_of_readable {os : List Reading} (h : ∀ o ∈ os, o.round.Readable) :
    d.checkAll os = d.watch os := by
  induction os generalizing d with
  | nil => exact watch_nil.symm
  | cons o os ih =>
    unfold checkAll
    rw [check_of_readable (h o List.mem_cons_self)]
    exact (ih fun o' ho' => h o' (List.mem_cons_of_mem o ho')).trans (watch_append [o] os).symm

/-- Groups that are checked as the watcher checks them. -/
theorem foldl_watch {G : Type} {f : AlertDesk → G → AlertDesk} {group : G → List Reading}
    (h : ∀ d g, f d g = d.watch (group g)) (gs : List G) (d : AlertDesk) :
    gs.foldl f d = d.watch (gs.flatMap group) := by
  induction gs generalizing d with
  | nil => exact watch_nil.symm
  | cons g gs ih => rw [List.foldl_cons, h, ih, List.flatMap_cons, watch_append]

end AlertDesk

namespace UsageRound

variable {r : UsageRound}

theorem round_of_mem_readings {s : ProxmoxServer} {vm : Listed} {o : Reading}
    (h : o ∈ r.readings s vm) : o.round = r := by
  unfold readings at h
  split at h
  · cases h
  · split at h
    · cases h
    · obtain ⟨resource, -, hresource⟩ := List.mem_filterMap.mp h
      obtain ⟨usage, -, rfl⟩ := Option.map_eq_some_iff.mp hresource
      rfl

/-- Without an exception the resource job is the watcher over everything it computes. -/
theorem runResourceMonitoring_of_readable (h : r.Readable) (d : AlertDesk) :
    r.runResourceMonitoring d = d.watch r.read := by
  have hvm : ∀ s d vm, AlertDesk.checkAll d (r.readings s vm) = d.watch (r.readings s vm) :=
    fun s d vm => AlertDesk.checkAll_of_readable fun o ho => (round_of_mem_readings ho).symm ▸ h
  have hserver : ∀ (d : AlertDesk) (s : ProxmoxServer),
      (getVms (r.session s.id)).foldl (fun d vm => d.checkAll (r.readings s vm)) d =
        d.watch ((getVms (r.session s.id)).flatMap (r.readings s)) :=
    fun d s => AlertDesk.foldl_watch (hvm s) _ d
  exact AlertDesk.foldl_watch hserver _ d

end UsageRound

end PveManager.Monitoring
