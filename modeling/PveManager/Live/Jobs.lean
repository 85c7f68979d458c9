import PveManager.Live.Channels
import PveManager.Sync.Announced

/-!
# What a user hears of the monitoring jobs

The jobs tell every active user of every guest. A set of guests is fixed here, and
two worlds that differ in the other guests only. What a user hears of the jobs is the
same in both as long as the user is not told of another guest and no preference check
ends a job at one.
-/

namespace PveManager.Live

open PveManager.Core PveManager.Monitoring
open PveManager.Sync (SameGuests)

/-- A number that a text gave names a guest of the set, or no guest at all. -/
def numbered (mine : ServerId × Vmid → Bool) (server : ServerId) : Int → Bool
  | .ofNat vmid => mine (server, vmid)
  | .negSucc _ => true

/-- The name of a node, which is one segment of a path. -/
def IsNodeName (node : String) : Prop := '/' ∉ node.toList

instance (node : String) : Decidable (IsNodeName node) :=
  inferInstanceAs (Decidable ('/' ∉ node.toList))

/-- Two worlds with the same servers, users, clocks and nodes, and the same guests of a set. -/
structure World.Same (mine : ServerId × Vmid → Bool) (user : UserId) (w w' : World) : Prop where
  users : w.users = w'.users
  prefs : w.prefs = w'.prefs
  tasks : w.tasks user = w'.tasks user
  now : w.now = w'.now
  timestamp : w.timestamp = w'.timestamp
  clock : w.clock = w'.clock
  connection : w.answers.connection = w'.answers.connection
  vms : ∀ server, (getVms (w.answers.session server)).filter (fun vm => mine (server, vm.vmid)) =
    (getVms (w'.answers.session server)).filter fun vm => mine (server, vm.vmid)
  stats : ∀ server node vmid, mine (server, vmid) = true →
    w.answers.stats server node vmid = w'.answers.stats server node vmid
  nodeStatus : ∀ server node, IsNodeName node →
    w.answers.nodeStatus server node = w'.answers.nodeStatus server node
  nodeRrd : ∀ server node timeframe, IsNodeName node →
    w.answers.nodeRrd server node timeframe = w'.answers.nodeRrd server node timeframe
  status : ∀ server kind node vmid, numbered mine server vmid = true →
    w.answers.status server kind node vmid = w'.answers.status server kind node vmid
  fsinfo : ∀ server node vmid, numbered mine server vmid = true →
    w.answers.fsinfo server node vmid = w'.answers.fsinfo server node vmid
  guestRrd : ∀ server kind node vmid timeframe, numbered mine server vmid = true →
    w.answers.guestRrd server kind node vmid timeframe =
      w'.answers.guestRrd server kind node vmid timeframe
  guests : SameGuests mine w.tick w'.tick w.db w'.db

variable {mine : ServerId × Vmid → Bool} {user : UserId} {w w' : World}

/-! ### Status changes -/

/-- A sighting that is no change, or a change that the user is not told of and no check raises at. -/
def Unnoticed (user : UserId) (o : Sighting) (previous : Option String) : Prop :=
  statusChanged previous o.vm.status = true →
    ∃ told, notifyUsers (o.create previous) o.round.users = (told, true) ∧ user ∉ told

variable (mine user) in
/-- The status job meets no change of another guest that the user notices. -/
def StatusQuiet (w : World) (d : StatusDesk) : Prop :=
  Guarded (fun d s => d.seeAll (w.statusRound.sightings s))
    (fun d s => Along StatusDesk.see
      (fun d o => mine o.vmKey = false → Unnoticed user o (d.lastVmStates o.vmKey)) d
      (w.statusRound.sightings s)) d w.db.servers.rows

/-- The notifications of status changes that a user has. -/
def statusHeard (user : UserId) (d : StatusDesk) : List Notification :=
  (d.told.filter fun t => decide (t.user = user)).map StatusTold.notification

variable (mine user) in
/-- The same memory of the guests of a set, and the same notifications of a user. -/
structure StatusAlike (d d' : StatusDesk) : Prop where
  states : ∀ k, mine k = true → d.lastVmStates k = d'.lastVmStates k
  heard : statusHeard user d = statusHeard user d'

/-- Two sightings of one machine in rounds with the same users. -/
structure SameSighting (o o' : Sighting) : Prop where
  server : o.server = o'.server
  vm : o.vm = o'.vm
  users : o.round.users = o'.round.users
  prefs : o.round.prefs = o'.round.prefs
  now : o.round.now = o'.round.now

namespace SameSighting

variable {o o' : Sighting} (h : SameSighting o o')

include h

theorem vmKey_eq : o.vmKey = o'.vmKey := by
  unfold Sighting.vmKey
  rw [h.server, h.vm]

theorem notifyVmStatus_eq (previous : String) (u : UserId) :
    notifyVmStatus previous o u = notifyVmStatus previous o' u := by
  unfold notifyVmStatus
  rw [h.vm]

theorem create_eq (previous : Option String) : o.create previous = o'.create previous := by
  funext u
  unfold Sighting.create
  rw [h.prefs, h.now, h.notifyVmStatus_eq]

end SameSighting

theorem seeAll_eq_runWhile (d : StatusDesk) (os : List Sighting) :
    d.seeAll os = runWhile StatusDesk.see d os := by
  induction os generalizing d with
  | nil => rfl
  | cons o os ih =>
    unfold StatusDesk.seeAll runWhile
    rw [← ih]

theorem statusHeard_tell (d : StatusDesk) (o : Sighting) (users : List UserId) :
    statusHeard user (d.tell o users) = statusHeard user d ++
      (users.filter fun u => decide (u = user)).map
        (notifyVmStatus ((d.lastVmStates o.vmKey).getD "") o) := by
  unfold statusHeard StatusDesk.tell
  rw [List.filter_append, List.map_append, List.filter_map, List.map_map]
  rfl

namespace StatusAlike

variable {d d' : StatusDesk} {o o' : Sighting}

theorem symm (h : StatusAlike mine user d d') : StatusAlike mine user d' d :=
  ⟨fun k hk => (h.states k hk).symm, h.heard.symm⟩

/-- Another guest is remembered. -/
theorem remember_hidden (h : StatusAlike mine user d d') (ho : mine o.vmKey = false) :
    StatusAlike mine user (d.remember o) d' := by
  refine ⟨fun k hk => ?_, h.heard⟩
  have hne : k ≠ o.vmKey := by
    rintro rfl
    exact Bool.false_ne_true (ho.symm.trans hk)
  exact (Function.update_of_ne hne _ _).trans (h.states k hk)

theorem see_hidden (h : StatusAlike mine user d d') (ho : mine o.vmKey = false)
    (hu : Unnoticed user o (d.lastVmStates o.vmKey)) :
    (d.see o).2 = true ∧ StatusAlike mine user (d.see o).1 d' := by
  unfold StatusDesk.see
  by_cases hc : statusChanged (d.lastVmStates o.vmKey) o.vm.status = true
  · obtain ⟨told, hnotify, hnot⟩ := hu hc
    have htell : StatusAlike mine user (d.tell o told) d' := by
      refine ⟨h.states, ?_⟩
      have hnone : (told.filter fun u => decide (u = user)) = [] :=
        List.filter_eq_nil_iff.mpr fun u hu he => hnot (decide_eq_true_eq.mp he ▸ hu)
      rw [statusHeard_tell, hnone]
      exact (List.append_nil _).trans h.heard
    rw [if_pos hc, hnotify]
    exact ⟨rfl, htell.remember_hidden ho⟩
  · rw [if_neg hc]
    exact ⟨rfl, h.remember_hidden ho⟩

theorem remember (h : StatusAlike mine user d d') (ho : SameSighting o o') :
    StatusAlike mine user (d.remember o) (d'.remember o') := by
  refine ⟨fun k hk => ?_, h.heard⟩
  unfold StatusDesk.remember
  dsimp only
  rw [ho.vmKey_eq, ho.vm]
  by_cases hk' : k = o'.vmKey
  · rw [hk', Function.update_self, Function.update_self]
  · rw [Function.update_of_ne hk', Function.update_of_ne hk']
    exact h.states k hk

/-- A guest of the set is seen alike. -/
theorem see (h : StatusAlike mine user d d') (ho : SameSighting o o')
    (hmine : mine o.vmKey = true) : (d.see o).2 = (d'.see o').2 ∧
      StatusAlike mine user (d.see o).1 (d'.see o').1 := by
  have hprevious : d.lastVmStates o.vmKey = d'.lastVmStates o'.vmKey := by
    rw [← ho.vmKey_eq]
    exact h.states _ hmine
  have htell : ∀ told, StatusAlike mine user (d.tell o told) (d'.tell o' told) := by
    refine fun told => ⟨h.states, ?_⟩
    rw [statusHeard_tell, statusHeard_tell, h.heard, ← hprevious]
    exact congrArg _ (List.map_congr_left fun u _ => ho.notifyVmStatus_eq _ u)
  unfold StatusDesk.see
  rw [← hprevious, ← ho.vm, ← ho.create_eq, ← ho.users]
  by_cases hc : statusChanged (d.lastVmStates o.vmKey) o.vm.status = true
  · rw [if_pos hc, if_pos hc]
    rcases notifyUsers (o.create (d.lastVmStates o.vmKey)) o.round.users with ⟨told, completed⟩
    cases completed with
    | true => exact ⟨rfl, (htell told).remember ho⟩
    | false => exact ⟨rfl, htell told⟩
  · rw [if_neg hc, if_neg hc]
    exact ⟨rfl, h.remember ho⟩

end StatusAlike

/-- What the status job sees on a server. -/
theorem sightings_statusRound (w : World) (s : ProxmoxServer) :
    w.statusRound.sightings s =
      (if w.answers.connection s.id = .connected then getVms (w.answers.session s.id) else []).map
        fun vm => ⟨w.statusRound, s, vm⟩ := by
  unfold StatusRound.sightings World.statusRound
  dsimp only
  split
  · rename_i hnone
    split at hnone
    · rw [if_pos ‹_›, hnone]
      rfl
    · rw [if_neg ‹_›]
      rfl
  · rename_i session hsome
    split at hsome
    · rw [if_pos ‹_›, hsome]
    · exact absurd hsome (Option.some_ne_none session).symm

/-- In worlds that differ in other guests the status job is heard alike. -/
theorem StatusAlike.run (hw : World.Same mine user w w') {d d' : StatusDesk}
    (h : StatusAlike mine user d d') (hquiet : StatusQuiet mine user w d)
    (hquiet' : StatusQuiet mine user w' d') :
    StatusAlike mine user (w.statusRound.runVmStatusMonitoring d)
      (w'.statusRound.runVmStatusMonitoring d') := by
  have hserver : ∀ (d d' : StatusDesk) (s s' : ProxmoxServer), s = s' →
      Along StatusDesk.see
        (fun d o => mine o.vmKey = false → Unnoticed user o (d.lastVmStates o.vmKey)) d
        (w.statusRound.sightings s) →
      Along StatusDesk.see
        (fun d o => mine o.vmKey = false → Unnoticed user o (d.lastVmStates o.vmKey)) d'
        (w'.statusRound.sightings s') →
      StatusAlike mine user d d' →
      StatusAlike mine user (d.seeAll (w.statusRound.sightings s))
        (d'.seeAll (w'.statusRound.sightings s')) := by
    rintro d d' s _ rfl hok hok' hd
    have hlist : (if w.answers.connection s.id = .connected then
          getVms (w.answers.session s.id) else []).filter (fun vm => mine (s.id, vm.vmid)) =
        (if w'.answers.connection s.id = .connected then
          getVms (w'.answers.session s.id) else []).filter fun vm => mine (s.id, vm.vmid) := by
      rw [← hw.connection]
      split
      · exact hw.vms s.id
      · rfl
    have hside : Alongside (fun o : Sighting => mine o.vmKey = false)
        (fun o : Sighting => mine o.vmKey = false)
        (fun o o' => SameSighting o o' ∧ mine o.vmKey = true)
        (w.statusRound.sightings s) (w'.statusRound.sightings s) := by
      rw [sightings_statusRound, sightings_statusRound]
      exact alongside_of_filter_eq (p := fun vm => mine (s.id, vm.vmid)) (fun _ hvm => hvm)
        (fun _ hvm => hvm) (fun _ hvm => ⟨⟨rfl, rfl, hw.users, hw.prefs, hw.now⟩, hvm⟩) hlist
    rw [seeAll_eq_runWhile, seeAll_eq_runWhile]
    refine hside.runWhile (R := StatusAlike mine user)
      (fun _ _ o ho hok hd => hd.see_hidden ho (hok ho)) (fun _ _ o ho hok hd => ?_)
      (fun _ _ o o' ho hd => hd.see ho.1 ho.2) hd hok hok'
    obtain ⟨hon, hnext⟩ := hd.symm.see_hidden ho (hok ho)
    exact ⟨hon, hnext.symm⟩
  have husers : w.statusRound.users = w'.statusRound.users := hw.users
  have hrows : List.Forall₂ (· = ·) w.statusRound.servers.rows w'.statusRound.servers.rows := by
    have hservers : w.statusRound.servers = w'.statusRound.servers := hw.guests.servers
    rw [hservers]
    exact List.forall₂_same.mpr fun _ _ => rfl
  unfold StatusRound.runVmStatusMonitoring
  rw [← husers]
  split
  · exact h
  · refine foldl_of_forall₂ hrows (fun _ _ s s' hs hok hok' hd => ?_) h hquiet hquiet'
    exact hserver _ _ s s' hs hok hok' hd

/-! ### Resource alerts -/

/-- A reading that is no alert, or an alert that the user is not told of. -/
def Unalerted (user : UserId) (o : Reading) (lastAlert : Option Time) : Prop :=
  o.due lastAlert = true → user ∉ (notifyUsers o.create o.round.users).1

/-- The guest of a reading. -/
def readGuest (o : Reading) : ServerId × Vmid := (o.server.id, o.vm.vmid)

variable (mine user) in
/-- The resource job meets no alert about another guest that the user is told of. -/
def UsageQuiet (w : World) (d : AlertDesk) : Prop :=
  Guarded (fun d s => (getVms (w.usageRound.session s.id)).foldl
      (fun d vm => d.checkAll (w.usageRound.readings s vm)) d)
    (fun d s => Guarded (fun d vm => d.checkAll (w.usageRound.readings s vm))
      (fun d vm => Along AlertDesk.check (fun d o => mine (readGuest o) = false →
        Unalerted user o (d.lastResourceAlerts o.alertKey)) d (w.usageRound.readings s vm)) d
      (getVms (w.usageRound.session s.id))) d w.db.servers.rows

/-- The notifications of resource alerts that a user has. -/
def alertsHeard (user : UserId) (d : AlertDesk) : List Notification :=
  (d.told.filter fun t => decide (t.user = user)).map AlertTold.notification

variable (mine user) in
/-- The same alerts of the guests of a set, and the same notifications of a user. -/
structure AlertsAlike (d d' : AlertDesk) : Prop where
  alerts : ∀ k, mine k = true → ∀ resource,
    d.lastResourceAlerts (k.1, k.2, resource) = d'.lastResourceAlerts (k.1, k.2, resource)
  heard : alertsHeard user d = alertsHeard user d'

/-- Two readings of one machine in rounds with the same users. -/
structure SameReading (o o' : Reading) : Prop where
  server : o.server = o'.server
  vm : o.vm = o'.vm
  resource : o.resource = o'.resource
  usage : o.usage = o'.usage
  users : o.round.users = o'.round.users
  prefs : o.round.prefs = o'.round.prefs
  now : o.round.now = o'.round.now
  timestamp : o.round.timestamp = o'.round.timestamp

namespace SameReading

variable {o o' : Reading} (h : SameReading o o')

include h

theorem alertKey_eq : o.alertKey = o'.alertKey := by
  unfold Reading.alertKey
  rw [h.server, h.vm, h.resource]

theorem due_eq (lastAlert : Option Time) : o.due lastAlert = o'.due lastAlert := by
  unfold Reading.due
  rw [h.resource, h.usage, h.timestamp]

theorem notifyResourceAlert_eq (u : UserId) : notifyResourceAlert o u = notifyResourceAlert o' u := by
  unfold notifyResourceAlert
  rw [h.usage, h.resource, h.vm]

theorem create_eq : o.create = o'.create := by
  funext u
  unfold Reading.create
  rw [h.prefs, h.now, h.notifyResourceAlert_eq]

end SameReading

theorem checkAll_eq_runWhile (d : AlertDesk) (os : List Reading) :
    d.checkAll os = runWhile AlertDesk.check d os := by
  induction os generalizing d with
  | nil => rfl
  | cons o os ih =>
    unfold AlertDesk.checkAll runWhile
    rw [← ih]

theorem alertsHeard_tell (d : AlertDesk) (o : Reading) (users : List UserId) :
    alertsHeard user (d.tell o users) = alertsHeard user d ++
      (users.filter fun u => decide (u = user)).map (notifyResourceAlert o) := by
  unfold alertsHeard AlertDesk.tell
  rw [List.filter_append, List.map_append, List.filter_map, List.map_map]
  rfl

namespace AlertsAlike

variable {d d' : AlertDesk} {o o' : Reading}

theorem symm (h : AlertsAlike mine user d d') : AlertsAlike mine user d' d :=
  ⟨fun k hk resource => (h.alerts k hk resource).symm, h.heard.symm⟩

theorem check_hidden (h : AlertsAlike mine user d d') (ho : mine (readGuest o) = false)
    (hu : Unalerted user o (d.lastResourceAlerts o.alertKey)) :
    AlertsAlike mine user (d.check o).1 d' := by
  unfold AlertDesk.check
  by_cases hdue : o.due (d.lastResourceAlerts o.alertKey) = true
  · have hnot := hu hdue
    rw [if_pos hdue]
    rcases hnotify : notifyUsers o.create o.round.users with ⟨told, completed⟩
    rw [hnotify] at hnot
    have htell : AlertsAlike mine user (d.tell o told) d' := by
      refine ⟨h.alerts, ?_⟩
      have hnone : (told.filter fun u => decide (u = user)) = [] :=
        List.filter_eq_nil_iff.mpr fun u hu he => hnot (decide_eq_true_eq.mp he ▸ hu)
      rw [alertsHeard_tell, hnone]
      exact (List.append_nil _).trans h.heard
    cases completed with
    | false => exact htell
    | true =>
      refine ⟨fun k hk resource => ?_, htell.heard⟩
      have hne : (k.1, k.2, resource) ≠ o.alertKey := by
        intro he
        obtain ⟨h1, h2⟩ := Prod.mk.inj he
        have hkey : k = readGuest o := Prod.ext h1 (Prod.mk.inj h2).1
        exact Bool.false_ne_true (ho.symm.trans (hkey ▸ hk))
      exact (Function.update_of_ne hne _ _).trans (h.alerts k hk resource)
  · rw [if_neg hdue]
    exact h

/-- Whatever ends the readings of another machine, the alerts stay alike. -/
theorem checkAll_hidden (h : AlertsAlike mine user d d') {os : List Reading}
    (hos : ∀ o ∈ os, mine (readGuest o) = false)
    (hok : Along AlertDesk.check (fun d o => mine (readGuest o) = false →
      Unalerted user o (d.lastResourceAlerts o.alertKey)) d os) :
    AlertsAlike mine user (d.checkAll os) d' := by
  induction os generalizing d with
  | nil => exact h
  | cons o os ih =>
    have ho := hos o List.mem_cons_self
    have hnext := h.check_hidden ho (hok.1 ho)
    rw [checkAll_eq_runWhile, runWhile, ← checkAll_eq_runWhile]
    cases hon : (d.check o).2 with
    | true =>
      rw [if_pos rfl]
      exact ih hnext (fun o' ho' => hos o' (List.mem_cons_of_mem o ho')) (hok.2 hon)
    | false =>
      rw [if_neg Bool.false_ne_true]
      exact hnext

theorem remember (h : AlertsAlike mine user d d') (ho : SameReading o o') :
    AlertsAlike mine user (d.remember o) (d'.remember o') := by
  refine ⟨fun k hk resource => ?_, h.heard⟩
  unfold AlertDesk.remember
  dsimp only
  rw [ho.alertKey_eq, ho.timestamp]
  by_cases hk' : (k.1, k.2, resource) = o'.alertKey
  · rw [hk', Function.update_self, Function.update_self]
  · rw [Function.update_of_ne hk', Function.update_of_ne hk']
    exact h.alerts k hk resource

/-- A reading of a guest of the set is checked alike. -/
theorem check (h : AlertsAlike mine user d d') (ho : SameReading o o')
    (hmine : mine (readGuest o) = true) : (d.check o).2 = (d'.check o').2 ∧
      AlertsAlike mine user (d.check o).1 (d'.check o').1 := by
  have hlast : d.lastResourceAlerts o.alertKey = d'.lastResourceAlerts o'.alertKey := by
    rw [← ho.alertKey_eq]
    exact h.alerts (readGuest o) hmine o.resource
  have htell : ∀ told, AlertsAlike mine user (d.tell o told) (d'.tell o' told) := by
    refine fun told => ⟨h.alerts, ?_⟩
    rw [alertsHeard_tell, alertsHeard_tell, h.heard]
    exact congrArg _ (List.map_congr_left fun u _ => ho.notifyResourceAlert_eq u)
  unfold AlertDesk.check
  rw [← hlast, ← ho.due_eq, ← ho.create_eq, ← ho.users]
  by_cases hdue : o.due (d.lastResourceAlerts o.alertKey) = true
  · rw [if_pos hdue, if_pos hdue]
    rcases notifyUsers o.create o.round.users with ⟨told, completed⟩
    cases completed with
    | false => exact ⟨rfl, htell told⟩
    | true => exact ⟨rfl, (htell told).remember ho⟩
  · rw [if_neg hdue, if_neg hdue]
    exact ⟨rfl, h⟩

end AlertsAlike

/-- The uses that the job computes of a machine. -/
def usages (w : World) (s : ProxmoxServer) (vm : Listed) : List (Resource × Rat) :=
  if vm.status ≠ "running" then []
  else
    match w.answers.stats s.id vm.node vm.vmid with
    | none => []
    | some stats => [Resource.cpu, .ram, .disk].filterMap fun resource =>
        (stats.usage resource).map fun usage => (resource, usage)

theorem readings_usageRound (w : World) (s : ProxmoxServer) (vm : Listed) :
    w.usageRound.readings s vm =
      (usages w s vm).map fun p => ⟨w.usageRound, s, vm, p.1, p.2⟩ := by
  have hstats : w.usageRound.stats = w.answers.stats := rfl
  unfold UsageRound.readings usages
  rw [hstats]
  split
  · rfl
  · cases w.answers.stats s.id vm.node vm.vmid with
    | none => rfl
    | some stats =>
      rw [List.map_filterMap]
      refine List.filterMap_congr fun resource _ => ?_
      rw [Option.map_map]
      rfl

theorem readGuest_of_mem {w : World} {s : ProxmoxServer} {vm : Listed} {o : Reading}
    (h : o ∈ w.usageRound.readings s vm) : readGuest o = (s.id, vm.vmid) := by
  rw [readings_usageRound] at h
  obtain ⟨p, -, rfl⟩ := List.mem_map.mp h
  rfl

/-- In worlds that differ in other guests the resource job is heard alike. -/
theorem AlertsAlike.run (hw : World.Same mine user w w') {d d' : AlertDesk}
    (h : AlertsAlike mine user d d') (hquiet : UsageQuiet mine user w d)
    (hquiet' : UsageQuiet mine user w' d') :
    AlertsAlike mine user (w.usageRound.runResourceMonitoring d)
      (w'.usageRound.runResourceMonitoring d') := by
  have hmachine : ∀ (d d' : AlertDesk) (s : ProxmoxServer) (vm : Listed),
      mine (s.id, vm.vmid) = true →
      Along AlertDesk.check (fun d o => mine (readGuest o) = false →
        Unalerted user o (d.lastResourceAlerts o.alertKey)) d (w.usageRound.readings s vm) →
      Along AlertDesk.check (fun d o => mine (readGuest o) = false →
        Unalerted user o (d.lastResourceAlerts o.alertKey)) d' (w'.usageRound.readings s vm) →
      AlertsAlike mine user d d' →
      AlertsAlike mine user (d.checkAll (w.usageRound.readings s vm))
        (d'.checkAll (w'.usageRound.readings s vm)) := by
    intro d d' s vm hmine hok hok' hd
    have husages : usages w s vm = usages w' s vm := by
      unfold usages
      rw [hw.stats s.id vm.node vm.vmid hmine]
    have hside : Alongside (fun _ : Reading => False) (fun _ : Reading => False)
        (fun o o' => SameReading o o' ∧ mine (readGuest o) = true)
        (w.usageRound.readings s vm) (w'.usageRound.readings s vm) := by
      rw [readings_usageRound, readings_usageRound, husages]
      exact alongside_of_filter_eq (p := fun _ => true) (fun _ h => absurd h.symm Bool.false_ne_true)
        (fun _ h => absurd h.symm Bool.false_ne_true) (fun _ _ => ⟨⟨rfl, rfl, rfl, rfl, hw.users,
          hw.prefs, hw.now, hw.timestamp⟩, hmine⟩) rfl
    rw [checkAll_eq_runWhile, checkAll_eq_runWhile]
    exact hside.runWhile (R := AlertsAlike mine user) (fun _ _ _ hf _ _ => hf.elim)
      (fun _ _ _ hf _ _ => hf.elim) (fun _ _ o o' ho hd => hd.check ho.1 ho.2) hd hok hok'
  have hvms : ∀ s : ProxmoxServer,
      (getVms (w.usageRound.session s.id)).filter (fun vm => mine (s.id, vm.vmid)) =
        (getVms (w'.usageRound.session s.id)).filter fun vm => mine (s.id, vm.vmid) := by
    intro s
    unfold World.usageRound World.client
    dsimp only
    rw [← hw.connection]
    cases w.answers.connection s.id with
    | raised text => rfl
    | disconnected => exact hw.vms s.id
    | connected => exact hw.vms s.id
  have hrows : List.Forall₂ (· = ·) w.usageRound.servers.rows w'.usageRound.servers.rows := by
    have hservers : w.usageRound.servers = w'.usageRound.servers := hw.guests.servers
    rw [hservers]
    exact List.forall₂_same.mpr fun _ _ => rfl
  refine foldl_of_forall₂ hrows ?_ h hquiet hquiet'
  rintro d d' s _ rfl hok hok' hd
  have hside : Alongside (fun vm : Listed => mine (s.id, vm.vmid) = false)
      (fun vm : Listed => mine (s.id, vm.vmid) = false)
      (fun vm vm' => vm = vm' ∧ mine (s.id, vm.vmid) = true)
      ((getVms (w.usageRound.session s.id)).map id)
      ((getVms (w'.usageRound.session s.id)).map id) :=
    alongside_of_filter_eq (p := fun vm => mine (s.id, vm.vmid)) (fun _ h => h) (fun _ h => h)
      (fun _ h => ⟨rfl, h⟩) (hvms s)
  rw [List.map_id, List.map_id] at hside
  refine hside.foldl (R := AlertsAlike mine user) (fun d d' vm hvm hok hd => ?_)
    (fun d d' vm hvm hok hd => ?_) ?_ hd hok hok'
  · exact hd.checkAll_hidden (fun o ho => readGuest_of_mem ho ▸ hvm) hok
  · exact (hd.symm.checkAll_hidden (fun o ho => readGuest_of_mem ho ▸ hvm) hok).symm
  · rintro d d' vm _ ⟨rfl, hmine⟩ hok hok' hd
    exact hmachine d d' s vm hmine hok hok' hd

end PveManager.Live
