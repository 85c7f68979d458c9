import PveManager.Api.Servers
import PveManager.Core.Run
import PveManager.Monitoring.Worker
import PveManager.Sync.Evidence

/-!
# Every guest once

The members of a Proxmox cluster list the same guests. Neither the totals nor the
two monitoring jobs know that: they count and remember by registered server. So a
total counts a guest once exactly when one server shows it, and what is told
twice is told through two servers.
-/

namespace PveManager.Monitoring

open PveManager.Core PveManager.Rbac
open PveManager.Api (RouterCall)
open PveManager.Api.Servers (ServersDb ServersRouter Reply Resources ServerResources Dict)

/-- Which registered servers belong together, and the life of every guest. -/
structure World where
  /-- The Proxmox cluster a server is a member of. -/
  clusterOf : ServerId → Nat
  /-- The status of a guest after a number of changes. -/
  statusAt : Nat × Vmid → Nat → String

/-- A guest as Proxmox knows it: its cluster and number. -/
def World.guest (w : World) (id : ServerId × Vmid) : Nat × Vmid := (w.clusterOf id.1, id.2)

/-! ### Requests for all resources -/

/-- A request to `/api/resources/all`, with the answers of the servers. -/
structure ResourcesRequest where
  db : ServersDb
  user : User
  header : Option String
  now : Time
  answers : (c : RouterCall ServersRouter) → c.Answer

namespace ResourcesRequest

variable (q : ResourcesRequest)

def reply : Except Api.Exc Reply :=
  ((Api.Servers.getAllResources q.db q.user q.header q.now).run (fun _ c => q.answers c) []).2

/-- The servers the user sees. -/
def servers : List ProxmoxServer :=
  Api.Servers.visibleServers q.db (Api.getVisibleServerIds q.db.workspaces q.user q.header)

/-- What a server answers. -/
def answer (s : ProxmoxServer) : Except String Resources :=
  q.answers (.request s (.getProxmoxResources none))

/-- The guests of one kind the totals count, each with the server that lists it. -/
def counted (kind : Resources → List Dict) : List (ServerId × Api.Json) :=
  q.servers.flatMap fun s =>
    match q.answer s with
    | .error _ => []
    | .ok resources =>
      (Api.Servers.visibleGuests q.db.toDb q.user s.id (kind resources)).map fun g =>
        (s.id, g.get "vmid")

end ResourcesRequest

/-- The guests a response lists under one key. -/
def listedIn (servers : List ServerResources) (kind : ServerResources → List Dict) :
    List (ServerId × Api.Json) :=
  servers.flatMap fun e => (kind e).map fun g => (e.id, g.get "vmid")

section Reply

variable {q : ResourcesRequest} {h : List (RouterCall ServersRouter)}

private theorem run_fetchAll (servers : List ProxmoxServer) :
    ∃ h', (Api.Servers.fetchAll servers).run (fun _ c => q.answers c) h =
      (h', .ok (servers.map q.answer)) := by
  induction servers generalizing h with
  | nil => exact ⟨h, rfl⟩
  | cons s rest ih =>
    obtain ⟨h', hrest⟩ := @ih (h ++ [.request s (.getProxmoxResources none)])
    refine ⟨h', ?_⟩
    unfold Api.Servers.fetchAll
    rw [Proc.run_bind, Api.run_request]
    dsimp only
    rw [Proc.run_bind, hrest]
    rfl

private theorem run_saveStatuses (now : Time)
    (l : List (ProxmoxServer × Except String Resources)) :
    ∃ h', (Api.Servers.saveStatuses now l).run (fun _ c => q.answers c) h = (h', .ok ()) := by
  induction l generalizing h with
  | nil => exact ⟨h, rfl⟩
  | cons p rest ih =>
    obtain ⟨s, r⟩ := p
    unfold Api.Servers.saveStatuses
    cases r with
    | ok resources =>
      obtain ⟨h', hrest⟩ := @ih (h ++ [.effect (.saveStatus (s.updateStatus now true none none))])
      exact ⟨h', hrest⟩
    | error e =>
      obtain ⟨h', hrest⟩ :=
        @ih (h ++ [.effect (.saveStatus (s.updateStatus now false (some e) none))])
      exact ⟨h', hrest⟩

/-- The entries of the response. -/
def ResourcesRequest.entries (q : ResourcesRequest) : List ServerResources :=
  q.servers.map fun s => Api.Servers.serverEntry q.db q.user s (q.answer s)

/-- A user with the permission is answered with the listings of the visible servers. -/
theorem reply_of_permitted (hp : hasPermission q.user "vm:view" = true) :
    q.reply = .ok (.allResources q.entries (q.entries.map fun e => e.vms.length).sum
      (q.entries.map fun e => e.containers.length).sum) := by
  obtain ⟨h₁, hfetch⟩ := run_fetchAll (q := q) (h := []) q.servers
  obtain ⟨h₂, hsave⟩ :=
    run_saveStatuses (q := q) (h := h₁) q.now (q.servers.zip (q.servers.map q.answer))
  have hzip : (q.servers.zip (q.servers.map q.answer)).map
      (fun p => Api.Servers.serverEntry q.db q.user p.1 p.2) = q.entries := by
    rw [← List.map_prod_left_eq_zip, List.map_map]
    rfl
  unfold ResourcesRequest.reply Api.Servers.getAllResources Api.permissionChecker
  rw [Proc.run_ensure_bind_of _ _ hp]
  dsimp only
  rw [Proc.run_bind, show (Api.Servers.visibleServers _ _) = q.servers from rfl, hfetch]
  dsimp only
  rw [Proc.run_bind, hsave]
  dsimp only
  rw [hzip]
  rfl

/-- Without the permission there is no response. -/
theorem reply_of_not_permitted (hp : hasPermission q.user "vm:view" = false) :
    q.reply = .error (.http 403 "Permission denied: vm:view") := by
  unfold ResourcesRequest.reply Api.Servers.getAllResources Api.permissionChecker
  rw [Proc.run_ensure_bind_of_not _ _ hp]
  rfl

/-- The guests of one kind that a response lists are the counted ones. -/
theorem listedIn_entries {listed : ServerResources → List Dict} {kind : Resources → List Dict}
    (herror : ∀ s e, listed (Api.Servers.serverEntry q.db q.user s (.error e)) = [])
    (hok : ∀ s resources, listed (Api.Servers.serverEntry q.db q.user s (.ok resources)) =
      Api.Servers.visibleGuests q.db.toDb q.user s.id (kind resources)) :
    listedIn q.entries listed = q.counted kind := by
  unfold listedIn ResourcesRequest.entries ResourcesRequest.counted
  rw [List.flatMap_map]
  refine congrArg (q.servers.flatMap ·) (funext fun s => ?_)
  cases q.answer s with
  | error e =>
    rw [herror]
    rfl
  | ok resources =>
    rw [hok]
    rfl

theorem listedIn_entries_vms : listedIn q.entries ServerResources.vms = q.counted Resources.vms :=
  listedIn_entries (fun _ _ => rfl) fun _ _ => rfl

theorem listedIn_entries_containers :
    listedIn q.entries ServerResources.containers = q.counted Resources.containers :=
  listedIn_entries (fun _ _ => rfl) fun _ _ => rfl

/-- The total of a response is the number of guests it lists. -/
theorem length_listedIn (servers : List ServerResources) (kind : ServerResources → List Dict) :
    (listedIn servers kind).length = (servers.map fun e => (kind e).length).sum := by
  simp [listedIn, List.length_flatMap]

end Reply

/-! ### Runs of the panel -/

/-- A round of the dashboard loop, a request for all resources, or a run of one of the jobs. -/
inductive Move
  | dashboard (r : DashboardRound)
  | resources (q : ResourcesRequest)
  | status (r : StatusRound)
  | usage (r : UsageRound)

/-- The memory of the loop and of the jobs. -/
structure Desk where
  lastGood : LastGood
  status : StatusDesk
  alerts : AlertDesk

namespace Desk

/-- Nothing is remembered when the panel starts. -/
def start : Desk := ⟨fun _ => ⟨[], []⟩, ⟨fun _ => none, []⟩, ⟨fun _ => none, []⟩⟩

def next (d : Desk) : Move → Desk
  | .dashboard r => { d with lastGood := r.remember d.lastGood }
  | .resources _ => d
  | .status r => { d with status := r.runVmStatusMonitoring d.status }
  | .usage r => { d with alerts := r.runResourceMonitoring d.alerts }

end Desk

namespace Move

/-- What the status job sees in a move. -/
def seen : Move → List Sighting
  | .status r => r.seen
  | _ => []

/-- What the resource job computes in a move. -/
def read : Move → List Reading
  | .usage r => r.read
  | _ => []

/-- The preferences of every active user can be read. -/
def Readable : Move → Prop
  | .status r => r.Readable
  | .usage r => r.Readable
  | _ => True

variable (w : World)

/-- The totals of the move count every guest it lists once. -/
def CountsOnce (d : Desk) : Move → Prop
  | .dashboard r =>
    let payload := r.payload d.lastGood
    let listed (kind : Guests → List Listed) := payload.servers.flatMap fun e =>
      (kind e.guests).map fun g => w.guest (e.id, g.vmid)
    Core.CountsOnce (listed Guests.vms) payload.totalVms ∧
      Core.CountsOnce (listed Guests.containers) payload.totalContainers
  | .resources q => ∀ servers totalVms totalContainers,
      q.reply = .ok (.allResources servers totalVms totalContainers) →
        Core.CountsOnce ((listedIn servers ServerResources.vms).map (Prod.map w.clusterOf id))
          totalVms ∧
        Core.CountsOnce ((listedIn servers ServerResources.containers).map (Prod.map w.clusterOf id))
          totalContainers
  | _ => True

/-- No guest is counted under two servers, nor twice under one. -/
def CountedApart (d : Desk) : Move → Prop
  | .dashboard r =>
    ((r.counted d.lastGood Guests.vms).map w.guest).Nodup ∧
      ((r.counted d.lastGood Guests.containers).map w.guest).Nodup
  | .resources q => hasPermission q.user "vm:view" = true →
      ((q.counted Resources.vms).map (Prod.map w.clusterOf id)).Nodup ∧
        ((q.counted Resources.containers).map (Prod.map w.clusterOf id)).Nodup
  | _ => True

end Move

/-- The machine of a sighting. -/
def World.seenGuest (w : World) (o : Sighting) : Nat × Vmid := w.guest o.vmKey

/-- The machine of a reading. -/
def World.readGuest (w : World) (o : Reading) : Nat × Vmid := w.guest (o.server.id, o.vm.vmid)

/-- Both sightings show the same change of the same machine. -/
def SameChange (w : World) (a b : Sighting) : Prop :=
  w.seenGuest a = w.seenGuest b ∧ a.vm.changes = b.vm.changes

/-- The second alert is about the same use of the same machine, within the cooldown. -/
def SameAlert (w : World) (a b : Reading) : Prop :=
  w.readGuest a = w.readGuest b ∧ a.resource = b.resource ∧
    b.round.timestamp ≤ a.round.timestamp + cooldown

/-- A run of the panel in a world whose machines have the statuses they are listed with. -/
structure History (w : World) where
  moves : List Move
  truthful : ∀ o ∈ moves.flatMap Move.seen, o.vm.status = w.statusAt (w.seenGuest o) o.vm.changes
  chronological : (moves.flatMap Move.seen).Pairwise fun a b =>
    b.vmKey = a.vmKey → a.vm.changes ≤ b.vm.changes

namespace History

variable {w : World} (h : History w)

/-- The desk at the end of the run. -/
def final : Desk := h.moves.foldl Desk.next .start

/-- Every total counts each guest once, and no user is told twice of one change, nor of one
alert. -/
structure HandledOnce : Prop where
  totals : Guarded Desk.next (Move.CountsOnce w) .start h.moves
  changes : ∀ u, (h.final.status.told.filter fun t => t.user = u).Pairwise fun a b =>
    ¬SameChange w a.sighting b.sighting
  alerts : ∀ u, (h.final.alerts.told.filter fun t => t.user = u).Pairwise fun a b =>
    ¬SameAlert w a.reading b.reading

/-- The sightings in which a machine's status differs from the one the same server listed before,
with that status. -/
def changesSeen : List (Option String × Sighting) :=
  statusWatcher.fired (fun _ => none) (h.moves.flatMap Move.seen)

/-- The readings that come due for their server. -/
def alertsDue : List (Option Time × Reading) :=
  alertWatcher.fired (fun _ => none) (h.moves.flatMap Move.read)

/-- The user is active and accepts the notification. -/
def takesChange (u : UserId) (p : Option String × Sighting) : Bool :=
  decide (u ∈ p.2.round.users) && decide (p.2.create p.1 u = some true)

def takesAlert (u : UserId) (p : Option Time × Reading) : Bool :=
  decide (u ∈ p.2.round.users) && decide (p.2.create u = some true)

/-- No guest is counted under two servers, and of what a user would be told nothing shows through
two servers. -/
structure Unshared : Prop where
  totals : Guarded Desk.next (Move.CountedApart w) .start h.moves
  changes : ∀ u, (h.changesSeen.filter (takesChange u)).Pairwise fun a b =>
    a.2.server.id ≠ b.2.server.id → ¬SameChange w a.2 b.2
  alerts : ∀ u, (h.alertsDue.filter (takesAlert u)).Pairwise fun a b =>
    a.2.server.id ≠ b.2.server.id → ¬SameAlert w a.2 b.2

/-- The preferences of the active users can be read whenever a job runs. -/
def Readable : Prop := ∀ m ∈ h.moves, m.Readable

end History

/-! ### Totals -/

namespace Move

variable {w : World} {d : Desk}

/-- A total counts every guest once exactly when no guest is counted twice. -/
theorem countsOnce_iff (m : Move) : m.CountsOnce w d ↔ m.CountedApart w d := by
  cases m with
  | dashboard r =>
    have hlisted : ∀ kind : Guests → List Listed,
        ((r.payload d.lastGood).servers.flatMap fun e =>
          (kind e.guests).map fun g => w.guest (e.id, g.vmid)) =
            (r.counted d.lastGood kind).map w.guest := by
      intro kind
      simp [DashboardRound.payload, DashboardRound.counted, DashboardRound.fetchServerResources,
        List.flatMap_map, List.map_flatMap, Function.comp_def]
    unfold CountsOnce CountedApart
    dsimp only
    rw [hlisted, hlisted, DashboardRound.totalVms_payload, DashboardRound.totalContainers_payload]
    exact and_congr (countsOnce_map_iff _ _) (countsOnce_map_iff _ _)
  | resources q =>
    cases hp : hasPermission q.user "vm:view" with
    | false =>
      refine iff_of_true ?_ fun hq => absurd (hp.symm.trans hq) Bool.false_ne_true
      intro servers totalVms totalContainers hreply
      rw [reply_of_not_permitted hp] at hreply
      cases hreply
    | true =>
      have hvms := length_listedIn q.entries ServerResources.vms
      have hcontainers := length_listedIn q.entries ServerResources.containers
      rw [listedIn_entries_vms] at hvms
      rw [listedIn_entries_containers] at hcontainers
      have hreply := reply_of_permitted hp
      rw [← hvms, ← hcontainers] at hreply
      have hboth := and_congr
        (countsOnce_map_iff (Prod.map w.clusterOf id) (q.counted Resources.vms))
        (countsOnce_map_iff (Prod.map w.clusterOf id) (q.counted Resources.containers))
      constructor
      · intro hc _
        have honce := hc _ _ _ hreply
        rw [listedIn_entries_vms, listedIn_entries_containers] at honce
        exact hboth.mp honce
      · intro ha servers totalVms totalContainers heq
        cases hreply.symm.trans heq
        rw [listedIn_entries_vms, listedIn_entries_containers]
        exact hboth.mpr (ha hp)
  | status r => exact Iff.rfl
  | usage r => exact Iff.rfl

end Move

/-- A round that counts each machine once counts as many as any round with fewer servers that shows
the same machines apart. -/
theorem totalVms_eq_of_same_guests {w : World} {d : Desk} {r kept : DashboardRound}
    (honce : (Move.dashboard r).CountsOnce w d)
    (hsame : ∀ g, g ∈ (r.counted d.lastGood Guests.vms).map w.guest ↔
      g ∈ (kept.counted d.lastGood Guests.vms).map w.guest)
    (hkept : ((kept.counted d.lastGood Guests.vms).map w.guest).Nodup) :
    (r.payload d.lastGood).totalVms = (kept.payload d.lastGood).totalVms := by
  have hapart := ((Move.dashboard r).countsOnce_iff.mp honce).1
  rw [DashboardRound.totalVms_payload, DashboardRound.totalVms_payload]
  exact ((countsOnce_map_iff _ _).mpr hapart).eq_of_same ((countsOnce_map_iff _ _).mpr hkept) hsame

/-! ### Notifications -/

section Desks

variable {moves : List Move}

/-- The status desk after a run without exceptions. -/
theorem status_foldl (hr : ∀ m ∈ moves, m.Readable) (d : Desk) :
    (moves.foldl Desk.next d).status = d.status.watch (moves.flatMap Move.seen) := by
  induction moves generalizing d with
  | nil => exact StatusDesk.watch_nil.symm
  | cons m rest ih =>
    have hstep : (d.next m).status = d.status.watch m.seen := by
      cases m with
      | status r => exact StatusRound.runVmStatusMonitoring_of_readable (hr _ List.mem_cons_self) _
      | _ => exact StatusDesk.watch_nil.symm
    rw [List.foldl_cons, ih fun m' hm' => hr m' (List.mem_cons_of_mem m hm'), hstep,
      List.flatMap_cons, StatusDesk.watch_append]

/-- The alert desk after a run without exceptions. -/
theorem alerts_foldl (hr : ∀ m ∈ moves, m.Readable) (d : Desk) :
    (moves.foldl Desk.next d).alerts = d.alerts.watch (moves.flatMap Move.read) := by
  induction moves generalizing d with
  | nil => exact AlertDesk.watch_nil.symm
  | cons m rest ih =>
    have hstep : (d.next m).alerts = d.alerts.watch m.read := by
      cases m with
      | usage r => exact UsageRound.runResourceMonitoring_of_readable (hr _ List.mem_cons_self) _
      | _ => exact AlertDesk.watch_nil.symm
    rw [List.foldl_cons, ih fun m' hm' => hr m' (List.mem_cons_of_mem m hm'), hstep,
      List.flatMap_cons, AlertDesk.watch_append]

end Desks

/-- A cell of the status job remembers that its last change was told. -/
theorem remembers_change (w : World) :
    statusWatcher.Remembers
      (fun a b => a.vm.changes ≤ b.vm.changes ∧
        (b.vm.changes = a.vm.changes → b.vm.status = a.vm.status))
      (fun a b => ¬SameChange w a b)
      (fun a previous rest => ∃ status, previous = some status ∧ ∀ b ∈ rest, b.vmKey = a.vmKey →
        a.vm.changes ≤ b.vm.changes ∧ (b.vm.changes = a.vm.changes → b.vm.status = status)) where
  fire _ o _ ht _ := ⟨o.vm.status, rfl, ht⟩
  keep := by
    rintro a _ o os hkey ht ⟨status, rfl, hrest⟩
    obtain ⟨hle, hsame⟩ := hrest o List.mem_cons_self hkey
    refine ⟨o.vm.status, rfl, fun b hb hkb => ?_⟩
    obtain ⟨hab, -⟩ := hrest b (List.mem_cons_of_mem o hb) hkb
    obtain ⟨hob, hstatus⟩ := ht b hb (hkb.trans hkey.symm)
    refine ⟨hab, fun hba => ?_⟩
    exact hstatus (by omega)
  skip := by
    rintro a _ o os - ⟨status, hm, hrest⟩
    exact ⟨status, hm, fun b hb => hrest b (List.mem_cons_of_mem o hb)⟩
  clear := by
    rintro a _ o os hkey ⟨status, rfl, hrest⟩ hfires ⟨-, hchanges⟩
    have hstatus := (hrest o List.mem_cons_self hkey).2 hchanges.symm
    simp [statusWatcher, statusChanged, hstatus] at hfires

/-- A stamped cell of the resource job keeps alerts apart for the cooldown. -/
theorem remembers_alert (w : World) :
    alertWatcher.Remembers (fun _ _ => True) (fun a b => ¬SameAlert w a b)
      (fun a lastAlert _ => ∃ t, lastAlert = some t ∧ 0 < t ∧ a.round.timestamp ≤ t) where
  fire m o _ _ hdue := ⟨o.round.timestamp, if_pos hdue, o.round.positive, le_rfl⟩
  keep := by
    rintro a _ o os - - ⟨t, rfl, hpos, hle⟩
    by_cases hdue : o.due (some t) = true
    · have hlt := Reading.lt_of_due hpos hdue
      exact ⟨o.round.timestamp, if_pos hdue, o.round.positive, by omega⟩
    · exact ⟨t, if_neg hdue, hpos, hle⟩
  skip _ _ _ _ _ h := h
  clear := by
    rintro a _ o os - ⟨t, rfl, hpos, hle⟩ hdue ⟨-, -, hwithin⟩
    have hlt := Reading.lt_of_due hpos hdue
    omega

namespace History

variable {w : World} {h : History w}

/-- What a user is told of changes. -/
theorem told_changes (hr : h.Readable) (u : UserId) :
    (h.final.status.told.filter fun t => t.user = u) =
      (h.changesSeen.filter (takesChange u)).map fun p => ⟨u, p.1, p.2⟩ := by
  unfold final
  rw [status_foldl hr]
  exact filter_told (fun _ _ => rfl) (fun p => p.2.round.users_nodup) u h.changesSeen

/-- What a user is told of alerts. -/
theorem told_alerts (hr : h.Readable) (u : UserId) :
    (h.final.alerts.told.filter fun t => t.user = u) =
      (h.alertsDue.filter (takesAlert u)).map fun p => ⟨u, p.2⟩ := by
  unfold final
  rw [alerts_foldl hr]
  exact filter_told (fun _ _ => rfl) (fun p => p.2.round.users_nodup) u h.alertsDue

/-- The listings of one server keep to the order of the changes. -/
theorem ordered (h : History w) : (h.moves.flatMap Move.seen).Pairwise fun a b =>
    b.vmKey = a.vmKey → a.vm.changes ≤ b.vm.changes ∧
      (b.vm.changes = a.vm.changes → b.vm.status = a.vm.status) := by
  refine h.chronological.imp_of_mem ?_
  intro a b ha hb hle hkey
  refine ⟨hle hkey, fun hchanges => ?_⟩
  have hguest : w.seenGuest b = w.seenGuest a := congrArg w.guest hkey
  rw [h.truthful a ha, h.truthful b hb, hguest, hchanges]

/-- A user is told twice of one change exactly when it shows through two servers. -/
theorem changes_iff (hr : h.Readable) (u : UserId) :
    ((h.final.status.told.filter fun t => t.user = u).Pairwise fun a b =>
        ¬SameChange w a.sighting b.sighting) ↔
      (h.changesSeen.filter (takesChange u)).Pairwise fun a b =>
        a.2.server.id ≠ b.2.server.id → ¬SameChange w a.2 b.2 := by
  rw [told_changes hr, List.pairwise_map]
  have hkeys : ∀ a b : Sighting, (b.vmKey ≠ a.vmKey → ¬SameChange w a b) ↔
      (a.server.id ≠ b.server.id → ¬SameChange w a b) := by
    intro a b
    constructor
    · exact fun hk hne => hk fun heq => hne (congrArg Prod.fst heq).symm
    · intro hs hne hsame
      have hvmid : b.vm.vmid = a.vm.vmid := (congrArg Prod.snd hsame.1).symm
      exact hs (fun heq => hne (Prod.ext heq.symm hvmid)) hsame
  exact Watcher.pairwise_iff_of_remembers (remembers_change w) _ h.ordered List.filter_sublist hkeys

/-- A user is alerted twice within the cooldown exactly when it comes due through two servers. -/
theorem alerts_iff (hr : h.Readable) (u : UserId) :
    ((h.final.alerts.told.filter fun t => t.user = u).Pairwise fun a b =>
        ¬SameAlert w a.reading b.reading) ↔
      (h.alertsDue.filter (takesAlert u)).Pairwise fun a b =>
        a.2.server.id ≠ b.2.server.id → ¬SameAlert w a.2 b.2 := by
  have hordered : (h.moves.flatMap Move.read).Pairwise fun a b : Reading =>
      b.alertKey = a.alertKey → True :=
    List.pairwise_of_forall fun _ _ _ => trivial
  rw [told_alerts hr, List.pairwise_map]
  have hkeys : ∀ a b : Reading, (b.alertKey ≠ a.alertKey → ¬SameAlert w a b) ↔
      (a.server.id ≠ b.server.id → ¬SameAlert w a b) := by
    intro a b
    constructor
    · exact fun hk hne => hk fun heq => hne (congrArg Prod.fst heq).symm
    · intro hs hne hsame
      have hvmid : b.vm.vmid = a.vm.vmid := (congrArg Prod.snd hsame.1).symm
      have hresource : b.resource = a.resource := hsame.2.1.symm
      exact hs (fun heq => hne (Prod.ext heq.symm (Prod.ext hvmid hresource))) hsame
  exact Watcher.pairwise_iff_of_remembers (remembers_alert w) _ hordered List.filter_sublist hkeys

/-- As long as the preferences can be read, every guest is handled once exactly when none is
counted, and nothing to tell of it shows, through two servers. -/
theorem handledOnce_iff (h : History w) (hr : h.Readable) : h.HandledOnce ↔ h.Unshared := by
  have htotals : Guarded Desk.next (Move.CountsOnce w) .start h.moves ↔
      Guarded Desk.next (Move.CountedApart w) .start h.moves :=
    guarded_congr fun _ m => m.countsOnce_iff
  constructor
  · intro honce
    exact ⟨htotals.mp honce.totals, fun u => (changes_iff hr u).mp (honce.changes u),
      fun u => (alerts_iff hr u).mp (honce.alerts u)⟩
  · intro hapart
    exact ⟨htotals.mpr hapart.totals, fun u => (changes_iff hr u).mpr (hapart.changes u),
      fun u => (alerts_iff hr u).mpr (hapart.alerts u)⟩

/-- With one registered member per cluster, only a listing that repeats a number is in the way. -/
theorem unshared_iff_of_single (hw : Function.Injective w.clusterOf) :
    h.Unshared ↔ Guarded Desk.next (Move.CountedApart w) .start h.moves := by
  constructor
  · exact fun hu => hu.totals
  · intro ht
    refine ⟨ht, fun u => ?_, fun u => ?_⟩
    · exact List.pairwise_of_forall fun a b hne hsame => hne (hw (congrArg Prod.fst hsame.1))
    · exact List.pairwise_of_forall fun a b hne hsame => hne (hw (congrArg Prod.fst hsame.1))

end History

/-! ### Two members of one cluster -/

/-- Every server is a member of one cluster, and every machine stops once. -/
def twinWorld : World where
  clusterOf _ := 0
  statusAt _ changes := if changes = 0 then "running" else "stopped"

/-- A session that lists the machine 100. -/
def databaseSession (changes : Nat) : Session where
  nodes := some ["pve"]
  qemu _ := some [⟨100, "db", twinWorld.statusAt (0, 100) changes, changes⟩]
  lxc _ := some []

/-- A run of the status job that tells user 1. -/
def twinRound (changes : Nat) : StatusRound where
  servers := Sync.samplePair
  session _ := some (databaseSession changes)
  users := [1]
  users_nodup := List.nodup_singleton 1
  prefs _ := none
  now := 0

/-- The dashboard asks both members. -/
def twinDashboard : History twinWorld where
  moves := [.dashboard ⟨Sync.samplePair, fun _ => some (some (databaseSession 0))⟩]
  truthful o h := by cases h
  chronological := List.Pairwise.nil

/-- The machine stops between two runs of the status job. -/
def twinStop : History twinWorld where
  moves := [.status (twinRound 0), .status (twinRound 1)]
  truthful := by decide
  chronological := by decide

/-- User 1 is told, and then the preferences of user 2 raise. -/
def strictRound (changes : Nat) : StatusRound :=
  { twinRound changes with
    servers := KeyedTable.empty.save (Sync.sampleServer 1)
    users := [1, 2]
    users_nodup := by simp
    prefs := fun u =>
      if u = 2 then
        some { NotificationPreference.default with
          quietHoursStart := some "25:00", quietHoursEnd := some "07:00" }
      else none }

/-- One server, and the status job runs twice after the machine stopped. -/
def strictStop : History twinWorld where
  moves := [.status (strictRound 0), .status (strictRound 1), .status (strictRound 1)]
  truthful := by decide
  chronological := by decide

/-- The changes a user was told of are all different. -/
private theorem nodup_told {w : World} {l : List StatusTold}
    (h : l.Pairwise fun a b => ¬SameChange w a.sighting b.sighting) :
    (l.map fun t => (w.seenGuest t.sighting, t.sighting.vm.changes)).Nodup :=
  List.pairwise_map.mpr
    (h.imp fun {_ _} hne heq => hne ⟨congrArg Prod.fst heq, congrArg Prod.snd heq⟩)

/-- The total counts the machine twice, its stop is told twice, and unreadable preferences repeat
it with one server too. -/
theorem guests_not_handledOnce :
    ¬twinDashboard.HandledOnce ∧ ¬twinStop.HandledOnce ∧ ¬strictStop.HandledOnce := by
  refine ⟨fun h => ?_, fun h => ?_, fun h => ?_⟩
  · obtain ⟨⟨distinct, hmem, hcard⟩, -⟩ := h.totals.1
    have hsub : distinct ⊆ {(0, 100)} := by
      intro g hg
      have hlisted : g ∈ [(0, 100), (0, 100)] := (hmem g).mp hg
      simpa using hlisted
    have htwo : distinct.card = 2 := hcard.symm.trans (by decide)
    have hle := Finset.card_le_card hsub
    rw [htwo] at hle
    exact absurd hle (by decide)
  · exact absurd (nodup_told (h.changes 1)) (by decide)
  · exact absurd (nodup_told (h.changes 1)) (by decide)

/-- With one registered member the machine is handled once. -/
def loneStop : History ⟨id, fun _ => (twinWorld.statusAt (0, 100))⟩ where
  moves := [.dashboard ⟨KeyedTable.empty.save (Sync.sampleServer 1),
      fun _ => some (some (databaseSession 0))⟩,
    .status { twinRound 0 with servers := KeyedTable.empty.save (Sync.sampleServer 1) },
    .status { twinRound 1 with servers := KeyedTable.empty.save (Sync.sampleServer 1) }]
  truthful := by decide
  chronological := by decide

theorem readable_loneStop : loneStop.Readable := by
  intro m hm
  simp only [loneStop, List.mem_cons, List.not_mem_nil, or_false] at hm
  rcases hm with rfl | rfl | rfl
  · trivial
  · exact fun _ _ => readable_default
  · exact fun _ _ => readable_default

theorem handledOnce_loneStop : loneStop.HandledOnce := by
  have hunshared : loneStop.Unshared :=
    (History.unshared_iff_of_single Function.injective_id).mpr
      ⟨⟨by decide, by decide⟩, trivial, trivial, trivial⟩
  exact (loneStop.handledOnce_iff readable_loneStop).mpr hunshared

end PveManager.Monitoring
