import Mathlib.Logic.Function.Basic
import PveManager.Core.Run
import PveManager.Monitoring.Dashboard

/-!
# The listings of the dashboard

Every poll of a server lists its machines, its containers and its nodes. An empty listing
is replaced by what was remembered, whether the poll has failed or the server has nothing
any more, and a listing that is not empty is remembered, whether or not it is complete.
-/

namespace PveManager.Monitoring

open PveManager.Core

/-! ### Remembered listings -/

section Remembering

variable {α : Type*}

/-- `base[key]`, or `cached[key]` where it is empty. -/
def baseOr (base cached : List α) : List α := if base ≠ [] then base else cached

/-- The listing of the last poll that was answered. -/
def lastAnswered (answered : Bool) (base good : List α) : List α := if answered then base else good

/-- Where the remembered listing was the last answered one, it still is exactly when an answered
listing is only empty if there was nothing, and another one adds nothing. -/
theorem baseOr_eq_lastAnswered_iff {answered : Bool} {base good : List α} :
    baseOr base good = lastAnswered answered base good ↔
      (answered = true → base = [] → good = []) ∧
        (answered = false → base = [] ∨ base = good) := by
  unfold baseOr lastAnswered
  by_cases hbase : base = []
  · cases answered with
    | true => simp [hbase]
    | false => simp [hbase]
  · cases answered with
    | true => simp [hbase]
    | false => simp [hbase]

end Remembering

/-! ### A poll -/

section Poll

variable {ν ρ φ : Type}

/-- An entry of `nodes`: the name and what is computed for it. -/
structure NodeEntry (φ : Type) where
  name : String
  figures : φ

/-- The three listings of a server. -/
structure Listings (φ : Type) where
  vms : List Listed
  containers : List Listed
  nodes : List (NodeEntry φ)

/-- What Proxmox answers while a server is polled; `none` is a failed request. -/
structure Poll (ν ρ : Type) where
  server : ProxmoxServer
  /-- `_get_proxmox_client`: what it raises, or whether the client has a session. -/
  client : Except String Bool
  /-- The answers while the machines are listed. -/
  forVms : Session
  forContainers : Session
  /-- `is_connected`. -/
  connected : Bool
  /-- The names in the list of nodes, empty for a node without one. -/
  nodes : Option (List String)
  status : String → Option ν
  rrd : String → Option (List ρ)
  /-- `time.monotonic`. -/
  now : Time

/-- `_rrd_cache`. -/
abbrev RrdCache (ρ : Type) := ServerId × String → Option (Time × List ρ)

/-- `_RRD_TTL`. -/
def rrdTtl : Time := 30

/-- What has become of the nodes of a poll. -/
structure Gathered (ρ φ : Type) where
  rrdCache : RrdCache ρ
  /-- The entries, unless something was raised. -/
  entries : Option (List (NodeEntry φ))
  /-- Every request so far was answered. -/
  answered : Bool

/-- The payload of a server. -/
structure ServerBase (φ : Type) where
  id : ServerId
  name : String
  ip : String
  listings : Listings φ
  vmsCount : Nat
  containersCount : Nat
  error : Option String

namespace Poll

variable (p : Poll ν ρ)

/-- The slice for a node: a fresh one, or the cached one for a while. A failed request answers
with an empty slice. -/
def slice (cache : RrdCache ρ) (node : String) : Gathered ρ φ × List ρ :=
  let key := (p.server.id, node)
  let fresh := (p.rrd node).getD []
  let asked : Gathered ρ φ × List ρ :=
    (⟨Function.update cache key (some (p.now, fresh)), some [], (p.rrd node).isSome⟩, fresh)
  match cache key with
  | none => asked
  | some (time, data) =>
    if time + rrdTtl ≤ p.now then asked else (⟨cache, some [], true⟩, data)

/-- The loop over the nodes. `figures` computes what is shown, or raises. -/
def gather (figures : Option ν → List ρ → Option φ) (cache : RrdCache ρ) :
    List String → Gathered ρ φ
  | [] => ⟨cache, some [], true⟩
  | node :: rest =>
    if node = "" then gather figures cache rest
    else
      let slice : Gathered ρ φ × List ρ := p.slice cache node
      match figures (p.status node) slice.2 with
      | none => ⟨slice.1.rrdCache, none, false⟩
      | some shown =>
        let others := gather figures slice.1.rrdCache rest
        ⟨others.rrdCache, others.entries.map (⟨node, shown⟩ :: ·),
          (p.status node).isSome && slice.1.answered && others.answered⟩

/-- The machines before the merge. -/
def vmsOf : List Listed :=
  match p.client with
  | .error _ => []
  | .ok session => getVms (if session then some p.forVms else none)

def containersOf : List Listed :=
  match p.client with
  | .error _ => []
  | .ok session => getContainers (if session then some p.forContainers else none)

/-- The client has a session that Proxmox answers. -/
def asksNodes : Bool := p.client.toOption.any id && p.connected

/-- The nodes of a poll, if the client gets to ask for them. -/
def gathered (figures : Option ν → List ρ → Option φ) (cache : RrdCache ρ) : Gathered ρ φ :=
  if p.asksNodes then
    let all := p.gather figures cache (p.nodes.getD [])
    { all with answered := p.nodes.isSome && all.answered }
  else ⟨cache, none, false⟩

end Poll

/-- `_merge_server_cache`: what is shown, which is remembered as well. -/
def mergeListings (cached base : Listings φ) : Listings φ :=
  ⟨baseOr base.vms cached.vms, baseOr base.containers cached.containers,
    baseOr base.nodes cached.nodes⟩

/-- The guests are merged as they are for the totals. -/
theorem guests_mergeListings (cached base : Listings φ) :
    (⟨(mergeListings cached base).vms, (mergeListings cached base).containers⟩ : Guests) =
      mergeServerCache ⟨cached.vms, cached.containers⟩ ⟨base.vms, base.containers⟩ := rfl

namespace Poll

variable (p : Poll ν ρ) (figures : Option ν → List ρ → Option φ) (cache : RrdCache ρ)

/-- The listings before the merge. -/
def base : Listings φ := ⟨p.vmsOf, p.containersOf, (p.gathered figures cache).entries.getD []⟩

/-- `_fetch_server_resources_with_nodes`. -/
def fetchServerResourcesWithNodes (cached : Listings φ) : ServerBase φ :=
  let merged := mergeListings cached (p.base figures cache)
  { id := p.server.id, name := p.server.name, ip := p.server.ipAddress, listings := merged
    vmsCount := merged.vms.length, containersCount := merged.containers.length
    error := match p.client with
      | .error e => some e
      | .ok _ => none }

/-- Every request for a listing of guests was answered. -/
def answeredGuests (session : Session) (ask : String → Option (List GuestEntry)) : Bool :=
  p.client.toOption.any id &&
    session.nodes.any fun nodes => nodes.all fun node => (ask node).isSome

def vmsAnswered : Bool := p.answeredGuests p.forVms p.forVms.qemu

def containersAnswered : Bool := p.answeredGuests p.forContainers p.forContainers.lxc

def nodesAnswered : Bool := (p.gathered figures cache).answered

end Poll

/-! ### The board -/

/-- The memory of the broadcaster, what it shows, and the last successful listings. -/
structure Board (ρ φ : Type) where
  /-- `_server_last_good`. -/
  cached : ServerId → Listings φ
  rrdCache : RrdCache ρ
  shown : ServerId → Option (ServerBase φ)
  /-- The listings of the last successful poll of each kind. -/
  good : ServerId → Listings φ

namespace Board

/-- Nothing was polled yet. -/
def start : Board ρ φ :=
  ⟨fun _ => ⟨[], [], []⟩, fun _ => none, fun _ => none, fun _ => ⟨[], [], []⟩⟩

variable (figures : Option ν → List ρ → Option φ)

/-- A server is polled. -/
def poll (b : Board ρ φ) (p : Poll ν ρ) : Board ρ φ :=
  let id := p.server.id
  let base := p.base figures b.rrdCache
  let payload := p.fetchServerResourcesWithNodes figures b.rrdCache (b.cached id)
  { cached := Function.update b.cached id payload.listings
    rrdCache := (p.gathered figures b.rrdCache).rrdCache
    shown := Function.update b.shown id (some payload)
    good := Function.update b.good id
      ⟨lastAnswered p.vmsAnswered base.vms (b.good id).vms,
        lastAnswered p.containersAnswered base.containers (b.good id).containers,
        lastAnswered (p.nodesAnswered figures b.rrdCache) base.nodes (b.good id).nodes⟩ }

/-- Every server that was polled is shown with the listings of the last successful polls. -/
def ShowsLastGood (b : Board ρ φ) : Prop :=
  ∀ id payload, b.shown id = some payload → payload.listings = b.good id

/-- A listing is empty only where nothing was remembered, or the poll has failed; and what a
failed poll lists all the same is what was remembered. -/
def Plain {α : Type} (answered : Bool) (base cached : List α) : Prop :=
  (answered = true → base = [] → cached = []) ∧ (answered = false → base = [] ∨ base = cached)

/-- All three listings of a poll are of this kind. -/
structure Settled (b : Board ρ φ) (p : Poll ν ρ) : Prop where
  vms : Plain p.vmsAnswered p.vmsOf (b.cached p.server.id).vms
  containers : Plain p.containersAnswered p.containersOf (b.cached p.server.id).containers
  nodes : Plain (p.nodesAnswered figures b.rrdCache)
    ((p.gathered figures b.rrdCache).entries.getD []) (b.cached p.server.id).nodes

end Board

/-! ### What a poll does -/

section Steps

variable {figures : Option ν → List ρ → Option φ} {b : Board ρ φ} {p : Poll ν ρ}

/-- What is shown is remembered, and nothing is remembered of a server that was not polled. -/
structure Board.Kept (b : Board ρ φ) : Prop where
  shown : ∀ id payload, b.shown id = some payload → payload.listings = b.cached id
  unseen : ∀ id, b.shown id = none → b.cached id = b.good id

theorem Board.shown_poll : (b.poll figures p).shown = Function.update b.shown p.server.id
    (some (p.fetchServerResourcesWithNodes figures b.rrdCache (b.cached p.server.id))) := rfl

theorem Board.cached_poll : (b.poll figures p).cached = Function.update b.cached p.server.id
    (mergeListings (b.cached p.server.id) (p.base figures b.rrdCache)) := rfl

theorem Board.good_poll : (b.poll figures p).good = Function.update b.good p.server.id
    ⟨lastAnswered p.vmsAnswered p.vmsOf (b.good p.server.id).vms,
      lastAnswered p.containersAnswered p.containersOf (b.good p.server.id).containers,
      lastAnswered (p.nodesAnswered figures b.rrdCache)
        ((p.gathered figures b.rrdCache).entries.getD []) (b.good p.server.id).nodes⟩ := rfl

theorem Board.Kept.poll (h : b.Kept) (figures : Option ν → List ρ → Option φ) (p : Poll ν ρ) :
    (b.poll figures p).Kept := by
  refine ⟨fun id payload hshown => ?_, fun id hshown => ?_⟩
  · rw [Board.shown_poll] at hshown
    rw [Board.cached_poll]
    by_cases hid : id = p.server.id
    · subst hid
      rw [Function.update_self] at hshown ⊢
      rw [← Option.some.inj hshown]
      rfl
    · rw [Function.update_of_ne hid] at hshown ⊢
      exact h.shown id payload hshown
  · rw [Board.shown_poll] at hshown
    by_cases hid : id = p.server.id
    · subst hid
      rw [Function.update_self] at hshown
      cases hshown
    · rw [Function.update_of_ne hid] at hshown
      rw [Board.cached_poll, Board.good_poll, Function.update_of_ne hid, Function.update_of_ne hid]
      exact h.unseen id hshown

/-- The law is that what is remembered are the last successful listings. -/
theorem Board.Kept.showsLastGood_iff (h : b.Kept) : b.ShowsLastGood ↔ b.cached = b.good := by
  constructor
  · intro hlaw
    funext id
    cases hshown : b.shown id with
    | none => exact h.unseen id hshown
    | some payload => exact (h.shown id payload hshown).symm.trans (hlaw id payload hshown)
  · intro heq id payload hshown
    rw [h.shown id payload hshown, heq]

/-- A poll keeps the law exactly when its listings are plain. -/
theorem Board.cached_poll_iff (heq : b.cached = b.good) :
    (b.poll figures p).cached = (b.poll figures p).good ↔ b.Settled figures p := by
  have hid : b.cached p.server.id = b.good p.server.id := congrFun heq _
  rw [Board.cached_poll, Board.good_poll, heq, (Function.update_injective _ _).eq_iff,
    mergeListings, Listings.mk.injEq]
  constructor
  · rintro ⟨hvms, hcontainers, hnodes⟩
    refine ⟨?_, ?_, ?_⟩
    · rw [hid]
      exact baseOr_eq_lastAnswered_iff.mp hvms
    · rw [hid]
      exact baseOr_eq_lastAnswered_iff.mp hcontainers
    · rw [hid]
      exact baseOr_eq_lastAnswered_iff.mp hnodes
  · rintro ⟨hvms, hcontainers, hnodes⟩
    rw [hid] at hvms hcontainers hnodes
    exact ⟨baseOr_eq_lastAnswered_iff.mpr hvms, baseOr_eq_lastAnswered_iff.mpr hcontainers,
      baseOr_eq_lastAnswered_iff.mpr hnodes⟩

end Steps

theorem Board.start_kept : (Board.start : Board ρ φ).Kept where
  shown _ _ h := by cases h
  unseen _ _ := rfl

/-- After every poll of a run the guests and nodes of all servers are those of the last successful
polls, exactly when all listings of the run are plain. -/
theorem showsLastGood_iff_settled (figures : Option ν → List ρ → Option φ)
    (polls : List (Poll ν ρ)) :
    (∀ b ∈ visited (Board.poll figures) .start polls, b.ShowsLastGood) ↔
      Guarded (Board.poll figures) (Board.Settled figures) .start polls := by
  have hkept := invariant_of_step (fun _ p h => h.poll figures p)
    (Board.start_kept : (Board.start : Board ρ φ).Kept) polls
  have hlaw : (∀ b ∈ visited (Board.poll figures) .start polls, b.ShowsLastGood) ↔
      ∀ b ∈ visited (Board.poll figures) .start polls, b.cached = b.good :=
    forall₂_congr fun b hb => (hkept b hb).showsLastGood_iff
  rw [hlaw]
  exact forall_visited_iff_guarded (fun b p _ heq => Board.cached_poll_iff heq) rfl

/-! ### The last guest is deleted -/

def dashboardServer : ProxmoxServer :=
  ⟨1, "pve", "pve", "192.0.2.1", 8006, "root@pam", some "panel", some "secret", false, none, false,
    none, none, some true, none, none, none⟩

/-- A server with one node and these machines, which answers every request. -/
def answeredPoll (vms : List GuestEntry) : Poll Unit Unit where
  server := dashboardServer
  client := .ok true
  forVms := ⟨some ["pve"], fun _ => some vms, fun _ => some []⟩
  forContainers := ⟨some ["pve"], fun _ => some [], fun _ => some []⟩
  connected := true
  nodes := some ["pve"]
  status _ := some ()
  rrd _ := some []
  now := 0

/-- The only machine of a server is there in the first poll and deleted before the second. -/
def lastDeleted : List (Poll Unit Unit) :=
  [answeredPoll [⟨100, "web", "stopped", 0⟩], answeredPoll []]

/-- The deleted machine is still shown. -/
theorem lastDeleted_not_showsLastGood :
    ¬∀ b ∈ visited (Board.poll fun _ _ => some ()) .start lastDeleted, b.ShowsLastGood := by
  intro h
  have hshown : ((lastDeleted.foldl (Board.poll fun _ _ => some ()) .start).shown 1).map
      (fun payload => payload.listings.vms.length) = some 1 := by decide +kernel
  have hgood : ((lastDeleted.foldl (Board.poll fun _ _ => some ()) .start).good 1).vms.length =
      0 := by decide +kernel
  obtain ⟨payload, hpayload, hlength⟩ := Option.map_eq_some_iff.mp hshown
  rw [h _ (foldl_mem_visited _ _ _) 1 payload hpayload, hgood] at hlength
  cases hlength

end Poll

end PveManager.Monitoring
