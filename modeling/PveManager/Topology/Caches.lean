import Mathlib.Data.List.Find
import PveManager.Core.FirstKept
import PveManager.Core.Listed
import PveManager.Core.Run
import PveManager.Topology.Endpoint

/-!
# The caches of the topology page

A response may show a listing that is up to 15 seconds old and network cards that are up to 300
seconds old. It is compared with the answer to the same request without caches by a panel whose
servers stand still at such times. The two are the same where each cached listing was collected
with bridges exactly when the request asks for them, the budget covers the wanted cards, and the
guests whose cards are read are still where the listing has them.
-/

namespace PveManager.Topology

open PveManager.Core PveManager.Rbac PveManager.Api

/-! ### Requests over time -/

/-- What a request meets at every time. -/
abbrev World := Time → Moment

structure TopologyRequest where
  /-- The time since the previous request. -/
  wait : Time
  user : User
  header : Option String
  query : TopologyQuery

/-- The caches when the panel starts. -/
def Caches.empty : Caches := ⟨fun _ => none, fun _ => none⟩

/-- The caches at the time of the last request. -/
structure PageState where
  clock : Time
  caches : Caches

namespace PageState

def start : PageState := ⟨0, .empty⟩

variable (w : World) (s : PageState) (r : TopologyRequest)

/-- The time of the next request. -/
def due : Time := s.clock + r.wait

def answer : Except Exc NetworkTopologyResponse × Caches :=
  getNetworkTopology (w (s.due r)) r.user r.header r.query (s.due r) s.caches

def step : PageState := ⟨s.due r, (s.answer w r).2⟩

end PageState

/-! ### Answers without caches -/

namespace Moment

variable (m : Moment)

/-- What asking a server comes to; an offline one is not asked. -/
def ask (includeBridges : Bool) (s : ProxmoxServer) : Option (Except CollectError ServerData) :=
  if s.isOnline = some false then none
  else some (collectServer s (m.answers s.id) includeBridges)

/-- The node and the type under which a server lists a guest. -/
def place (key : ServerId × Vmid) : Option (String × VmType) := do
  let s ← m.servers.find? key.1
  let data ← (m.ask false s).bind Except.toOption
  let g ← data.guests.reverse.find? fun g => truthy g.node && decide (g.vmid = key.2)
  pure (g.node.getD "", (kindType g.kind).getD .qemu)

/-- The cards in the config of a listed guest. -/
def cards (key : ServerId × Vmid) : Option (List Nic) :=
  (m.place key).map fun p => (m.answers key.1).config p.1 key.2 p.2

end Moment

/-- The times from which a response takes the listing of a server and the cards of a guest. -/
structure Ages where
  listed : ServerId → Time
  read : ServerId × Vmid → Time

/-- Listings and cards are not older than their cache allows. -/
structure Ages.Within (ages : Ages) (now : Time) : Prop where
  listed : ∀ sid, ages.listed sid ≤ now ∧ now < ages.listed sid + topoTtl
  read : ∀ key, ages.read key ≤ now ∧ now < ages.read key + nicTtl

/-- The server is reached as the other row says. -/
def reachedAs (s s' : ProxmoxServer) : ProxmoxServer :=
  { s with
    apiTokenName := s'.apiTokenName
    apiTokenValue := s'.apiTokenValue
    usePassword := s'.usePassword
    password := s'.password
    isOnline := s'.isOnline }

namespace World

variable (w : World)

/-- The row of a server with the connection that it had at an earlier time. -/
def serverAt (t : Time) (s : ProxmoxServer) : ProxmoxServer :=
  reachedAs s (((w t).servers.find? s.id).getD s)

theorem id_serverAt (t : Time) (s : ProxmoxServer) : (w.serverAt t s).id = s.id := rfl

/-- The panel now, with servers and configs that stand still at earlier times. -/
def blend (now : Time) (ages : Ages) : Moment :=
  { w now with
    servers := (w now).servers.mapRows (fun s => w.serverAt (ages.listed s.id) s) fun s =>
      w.id_serverAt _ s
    answers := fun sid =>
      { (w (ages.listed sid)).answers sid with
        config := fun _ vmid _ => ((w (ages.read (sid, vmid))).cards (sid, vmid)).getD [] } }

/-- The answer is one without caches, at most as old as the caches allow. -/
def Unchanged (s : PageState) (r : TopologyRequest) : Prop :=
  ∃ ages : Ages, ages.Within (s.due r) ∧
    (s.answer w r).1 = (getNetworkTopology (w.blend (s.due r) ages) r.user r.header r.query
      (s.due r) .empty).1

/-- The caches never change an answer. -/
def CacheLaw (requests : List TopologyRequest) : Prop :=
  Guarded (PageState.step w) w.Unchanged .start requests

end World

/-- The listing has bridges exactly where they are wanted. -/
def ServerData.fits (data : ServerData) (includeBridges : Bool) : Bool :=
  data.bridges.rows.isEmpty == (!includeBridges || data.nodes.all fun n => !truthy n.node)

namespace PageState

variable (w : World) (s : PageState) (r : TopologyRequest)

/-- The servers of the request. -/
def queried : List ProxmoxServer := queriedServers (w (s.due r)) r.user r.header r.query

/-- The guests whose cards are wanted. -/
def wanted : List NicTarget :=
  nicTargets (w (s.due r)) r.query (s.due r) s.caches (s.queried w r)
    (tables (w (s.due r)) r.user r.query (s.queried w r)).visible

/-- The caches suit the request. -/
structure Suits : Prop where
  /-- A cached listing was collected with bridges exactly when the request asks for them. -/
  bridges : ∀ srv ∈ s.queried w r, ∀ data, freshListing (s.due r) s.caches srv.id = some data →
    data.fits r.query.includeBridges = true
  /-- The budget covers the wanted cards. -/
  budget : r.query.includeNics = true → (s.wanted w r).length ≤ nicMaxFetches
  /-- The guests whose cards are read are where the listing has them. -/
  placed : r.query.includeNics = true → ∀ t ∈ s.wanted w r,
    freshNics (s.due r) s.caches t.key = none → (w (s.due r)).place t.key = some (t.node, t.type)

end PageState

/-! ### What is cached -/

/-- Listings and cards are cached with the time at which an uncached request reads them. -/
structure Caches.Sound (w : World) (now : Time) (c : Caches) : Prop where
  topo : ∀ sid t data, c.topo sid = some (t, data) → t ≤ now ∧ ∃ s,
    (w t).servers.find? sid = some s ∧ ∃ includeBridges,
      (w t).ask includeBridges s = some (.ok data)
  nic : ∀ key t nics, c.nic key = some (t, nics) → t ≤ now ∧ (w t).cards key = some nics

theorem Caches.Sound.mono {w : World} {c : Caches} {t t' : Time} (h : c.Sound w t)
    (hle : t ≤ t') : c.Sound w t' :=
  ⟨fun sid u data he => (h.topo sid u data he).imp_left fun hu => hu.trans hle,
    fun key u nics he => (h.nic key u nics he).imp_left fun hu => hu.trans hle⟩

/-- The times from which a request takes what it shows. -/
def Caches.ages (c : Caches) (now : Time) : Ages where
  listed := fun sid =>
    (((c.topo sid).filter fun e => decide (now < e.1 + topoTtl)).map Prod.fst).getD now
  read := fun key =>
    (((c.nic key).filter fun e => decide (now < e.1 + nicTtl)).map Prod.fst).getD now

section Ages

variable {w : World} {now : Time} {c : Caches}

theorem listed_of_freshListing {sid : ServerId} {data : ServerData}
    (h : freshListing now c sid = some data) :
    c.topo sid = some ((c.ages now).listed sid, data) ∧
      now < (c.ages now).listed sid + topoTtl := by
  unfold freshListing at h
  obtain ⟨⟨t, data'⟩, he, rfl⟩ := Option.map_eq_some_iff.mp h
  obtain ⟨htopo, hlt⟩ := Option.filter_eq_some_iff.mp he
  unfold Caches.ages
  dsimp only
  rw [he, Option.map_some, Option.getD_some]
  exact ⟨htopo, of_decide_eq_true hlt⟩

theorem listed_of_not_fresh {sid : ServerId} (h : freshListing now c sid = none) :
    (c.ages now).listed sid = now := by
  unfold freshListing at h
  unfold Caches.ages
  dsimp only
  rw [Option.map_eq_none_iff.mp h]
  rfl

theorem read_of_freshNics {key : ServerId × Vmid} {nics : List Nic}
    (h : freshNics now c key = some nics) :
    c.nic key = some ((c.ages now).read key, nics) ∧ now < (c.ages now).read key + nicTtl := by
  unfold freshNics at h
  obtain ⟨⟨t, nics'⟩, he, rfl⟩ := Option.map_eq_some_iff.mp h
  obtain ⟨hnic, hlt⟩ := Option.filter_eq_some_iff.mp he
  unfold Caches.ages
  dsimp only
  rw [he, Option.map_some, Option.getD_some]
  exact ⟨hnic, of_decide_eq_true hlt⟩

theorem read_of_not_fresh {key : ServerId × Vmid} (h : freshNics now c key = none) :
    (c.ages now).read key = now := by
  unfold freshNics at h
  unfold Caches.ages
  dsimp only
  rw [Option.map_eq_none_iff.mp h]
  rfl

theorem Caches.Sound.within (h : c.Sound w now) : (c.ages now).Within now := by
  constructor
  · intro sid
    cases hf : freshListing now c sid with
    | none =>
      rw [listed_of_not_fresh hf]
      exact ⟨le_rfl, Nat.lt_add_of_pos_right (by decide)⟩
    | some data =>
      obtain ⟨htopo, hlt⟩ := listed_of_freshListing hf
      exact ⟨(h.topo sid _ data htopo).1, hlt⟩
  · intro key
    cases hf : freshNics now c key with
    | none =>
      rw [read_of_not_fresh hf]
      exact ⟨le_rfl, Nat.lt_add_of_pos_right (by decide)⟩
    | some nics =>
      obtain ⟨hnic, hlt⟩ := read_of_freshNics hf
      exact ⟨(h.nic key _ nics hnic).1, hlt⟩

end Ages

/-! ### What a server tells -/

section Ask

variable {m : Moment} {s : ProxmoxServer} {includeBridges : Bool} {data : ServerData}

/-- A listing comes from a server that is not offline, has credentials and answers. -/
theorem ask_eq_ok_iff : m.ask includeBridges s = some (.ok data) ↔
    s.isOnline ≠ some false ∧ Sync.hasAuth s = true ∧ (m.answers s.id).raised = none ∧
      data = (m.answers s.id).data includeBridges := by
  unfold Moment.ask collectServer
  split
  · rename_i h
    exact iff_of_false (fun h' => nomatch h') fun h' => h'.1 h
  · rename_i h
    cases hauth : Sync.hasAuth s with
    | false => simp
    | true =>
      cases (m.answers s.id).raised with
      | some text => simp
      | none => simp [h, eq_comm]

theorem toOption_ask_eq_some_iff : (m.ask includeBridges s).bind Except.toOption = some data ↔
    m.ask includeBridges s = some (.ok data) := by
  cases m.ask includeBridges s with
  | none => simp
  | some r => cases r <;> simp [Except.toOption]

/-- A listing that fits the request is the one that the request collects. -/
theorem data_of_fits {answers : ServerAnswers} {b : Bool}
    (h : (answers.data b).fits includeBridges = true) :
    answers.data b = answers.data includeBridges := by
  have hbridges : (answers.data b).bridges = (answers.data includeBridges).bridges := by
    have hnames : (answers.nodes.all fun n => !truthy n.node) = true → answers.nodeNames = [] := by
      intro hall
      refine List.filterMap_eq_nil_iff.mpr fun n hn => if_neg ?_
      simpa using List.all_eq_true.mp hall n hn
    have hempty : ∀ bridges : KeyedTable (Prod.fst : String × List BridgeEntry → String),
        bridges.rows.isEmpty = true → bridges = .empty := by
      intro bridges hrows
      exact KeyedTable.eq_of_rows_eq (List.isEmpty_iff.mp hrows)
    unfold ServerData.fits at h
    rw [beq_iff_eq] at h
    cases b with
    | false =>
      cases includeBridges with
      | false => rfl
      | true =>
        have hnone := hnames (h.symm.trans rfl)
        unfold ServerAnswers.data
        rw [if_pos rfl, hnone]
        rfl
    | true =>
      cases includeBridges with
      | false => exact hempty _ h
      | true => rfl
  unfold ServerAnswers.data at hbridges ⊢
  dsimp only at hbridges
  rw [hbridges]

end Ask

/-! ### The listings of a request -/

/-- The listing that a request has of a server. -/
def found (m : Moment) (q : TopologyQuery) (now : Time) (c : Caches) (s : ProxmoxServer) :
    Option ServerData :=
  (freshListing now c s.id).or ((m.ask q.includeBridges s).bind Except.toOption)

section Listings

variable {m : Moment} {q : TopologyQuery} {now : Time} {c : Caches} {servers : List ProxmoxServer}

theorem mem_staleServers {s : ProxmoxServer} : s ∈ staleServers now c servers ↔
    s ∈ servers ∧ freshListing now c s.id = none ∧ s.isOnline ≠ some false := by
  unfold staleServers
  rw [List.mem_filter, Bool.and_eq_true, Option.isNone_iff_eq_none, decide_eq_true_eq]

theorem mem_liveListings {p : ServerId × ServerData} : p ∈ liveListings m q now c servers ↔
    ∃ s ∈ servers, p.1 = s.id ∧ found m q now c s = some p.2 := by
  unfold liveListings collection found Moment.ask
  rw [List.mem_append, List.mem_filterMap, List.filterMap_map, List.mem_filterMap]
  constructor
  · rintro (⟨s, hs, hsome⟩ | ⟨s, hs, hsome⟩)
    · obtain ⟨data, hdata, rfl⟩ := Option.map_eq_some_iff.mp hsome
      exact ⟨s, hs, rfl, by rw [hdata]; rfl⟩
    · obtain ⟨data, hdata, rfl⟩ := Option.map_eq_some_iff.mp hsome
      obtain ⟨hmem, hfresh, honline⟩ := mem_staleServers.mp hs
      exact ⟨s, hmem, rfl, by rw [hfresh, if_neg honline]; exact hdata⟩
  · rintro ⟨s, hs, hid, hfound⟩
    cases hfresh : freshListing now c s.id with
    | some data =>
      rw [hfresh] at hfound
      exact Or.inl ⟨s, hs, by rw [hfresh, Option.map_some, ← hid, Option.some.inj hfound]⟩
    | none =>
      rw [hfresh, Option.none_or] at hfound
      split at hfound
      · cases hfound
      · rename_i honline
        refine Or.inr ⟨s, mem_staleServers.mpr ⟨hs, hfresh, honline⟩, ?_⟩
        have hdata : (collectServer s (m.answers s.id) q.includeBridges).toOption = some p.2 :=
          hfound
        rw [Function.comp_apply]
        dsimp only
        rw [hdata, Option.map_some, ← hid]

/-- A server has one listing at most. -/
theorem liveListings_nodup (hnodup : (servers.map ProxmoxServer.id).Nodup) :
    ((liveListings m q now c servers).map Prod.fst).Nodup := by
  unfold liveListings collection
  rw [List.filterMap_map, List.map_append, List.nodup_append]
  refine ⟨nodup_filterMap_key hnodup _, ?_, ?_⟩
  · have hstale : ((staleServers now c servers).map ProxmoxServer.id).Nodup :=
      hnodup.sublist (List.filter_sublist.map _)
    exact nodup_filterMap_key hstale fun s =>
      (collectServer s (m.answers s.id) q.includeBridges).toOption
  · intro sid hsid sid' hsid' heq
    obtain ⟨p, hp, rfl⟩ := List.mem_map.mp hsid
    obtain ⟨s, hs, hsome⟩ := List.mem_filterMap.mp hp
    obtain ⟨data, hdata, rfl⟩ := Option.map_eq_some_iff.mp hsome
    obtain ⟨p', hp', rfl⟩ := List.mem_map.mp hsid'
    obtain ⟨s', hs', hsome'⟩ := List.mem_filterMap.mp hp'
    obtain ⟨data', -, rfl⟩ := Option.map_eq_some_iff.mp hsome'
    have hid : s.id = s'.id := heq
    rw [hid, (mem_staleServers.mp hs').2.1] at hdata
    cases hdata

/-- Requests that find the same have the same listings. -/
theorem perm_liveListings {m' : Moment} {c' : Caches} {f : ProxmoxServer → ProxmoxServer}
    (hnodup : (servers.map ProxmoxServer.id).Nodup) (hid : ∀ s, (f s).id = s.id)
    (hfound : ∀ s ∈ servers, found m' q now c' (f s) = found m q now c s) :
    (liveListings m' q now c' (servers.map f)).Perm (liveListings m q now c servers) := by
  have hnodup' : ((servers.map f).map ProxmoxServer.id).Nodup := by
    rw [List.map_map]
    exact (List.map_congr_left fun s _ => hid s) ▸ hnodup
  refine (List.perm_ext_iff_of_nodup (liveListings_nodup hnodup').of_map
    (liveListings_nodup hnodup).of_map).mpr fun p => ?_
  rw [mem_liveListings, mem_liveListings]
  constructor
  · rintro ⟨s', hs', hp, hsome⟩
    obtain ⟨s, hs, rfl⟩ := List.mem_map.mp hs'
    exact ⟨s, hs, hp.trans (hid s), (hfound s hs).symm.trans hsome⟩
  · rintro ⟨s, hs, hp, hsome⟩
    exact ⟨f s, List.mem_map_of_mem hs, hp.trans (hid s).symm, (hfound s hs).trans hsome⟩

theorem liveOf_perm {m' : Moment} {c' : Caches} {servers' : List ProxmoxServer}
    (hnodup : (servers.map ProxmoxServer.id).Nodup)
    (h : (liveListings m' q now c' servers').Perm (liveListings m q now c servers)) :
    liveOf m' q now c' servers' = liveOf m q now c servers := by
  funext sid
  unfold liveOf
  refine congrArg (Option.map Prod.snd) (List.find?_eq_find?_of_perm h.symm ?_).symm
  rintro p ⟨hp, hsid⟩ p' ⟨hp', hsid'⟩
  refine List.inj_on_of_nodup_map (liveListings_nodup hnodup) hp hp' ?_
  exact (of_decide_eq_true hsid).trans (of_decide_eq_true hsid').symm

end Listings

/-! ### The blended panel -/

section Blend

variable {w : World} {now : Time} {c : Caches} {user : User} {header : Option String}
  {q : TopologyQuery}

/-- The servers of a request of the panel now. -/
theorem queriedServers_blend (ages : Ages) :
    queriedServers (w.blend now ages) user header q =
      (queriedServers (w now) user header q).map fun s => w.serverAt (ages.listed s.id) s := by
  unfold queriedServers World.blend
  dsimp only
  rw [KeyedTable.rows_mapRows, List.filter_map]
  symm
  exact List.map_insertionSort _ _ _ _ fun _ _ _ _ => Iff.rfl

theorem queriedServers_nodup (m : Moment) :
    ((queriedServers m user header q).map ProxmoxServer.id).Nodup := by
  unfold queriedServers
  refine ((List.perm_insertionSort _ _).map ProxmoxServer.id).nodup_iff.mpr ?_
  exact m.servers.keys_nodup.sublist (List.filter_sublist.map _)

theorem find?_of_queried {m : Moment} {s : ProxmoxServer}
    (hs : s ∈ queriedServers m user header q) : m.servers.find? s.id = some s := by
  unfold queriedServers at hs
  exact m.servers.find?_key (List.mem_filter.mp ((List.mem_insertionSort _).mp hs)).1

/-- A server with a cached listing answers the blended panel with it. -/
theorem ask_blend_of_fresh (h : c.Sound w now) {s : ProxmoxServer} {data : ServerData}
    (hfresh : freshListing now c s.id = some data)
    (hfits : data.fits q.includeBridges = true) :
    (w.blend now (c.ages now)).ask q.includeBridges (w.serverAt ((c.ages now).listed s.id) s) =
      some (.ok data) := by
  obtain ⟨-, s', hs', b, hask⟩ := h.topo s.id _ data (listed_of_freshListing hfresh).1
  obtain ⟨honline, hauth, hraised, rfl⟩ := ask_eq_ok_iff.mp hask
  have hid : s'.id = s.id := (w _).servers.key_of_find? hs'
  have hrow : w.serverAt ((c.ages now).listed s.id) s = reachedAs s s' := by
    unfold World.serverAt
    rw [hs', Option.getD_some]
  rw [hrow]
  refine ask_eq_ok_iff.mpr ⟨honline, hauth, ?_, ?_⟩
  · rw [hid] at hraised
    exact hraised
  · rw [hid] at hfits ⊢
    exact data_of_fits hfits

/-- A server without a cached listing answers the blended panel as it does now. -/
theorem ask_blend_of_not_fresh {s : ProxmoxServer} (hs : (w now).servers.find? s.id = some s)
    (hfresh : freshListing now c s.id = none) :
    (w.blend now (c.ages now)).ask q.includeBridges (w.serverAt ((c.ages now).listed s.id) s) =
      (w now).ask q.includeBridges s := by
  have hrow : w.serverAt now s = s := by
    unfold World.serverAt
    rw [hs]
    rfl
  have hasks : ∀ t, t = now → ∀ config,
      (if s.isOnline = some false then none
        else some (collectServer s { (w t).answers s.id with config := config }
          q.includeBridges)) = (w now).ask q.includeBridges s := by
    rintro t rfl config
    rfl
  rw [listed_of_not_fresh hfresh, hrow]
  exact hasks _ (listed_of_not_fresh hfresh) _

theorem found_blend (h : c.Sound w now) {s : ProxmoxServer}
    (hs : (w now).servers.find? s.id = some s)
    (hfits : ∀ data, freshListing now c s.id = some data → data.fits q.includeBridges = true) :
    found (w.blend now (c.ages now)) q now .empty (w.serverAt ((c.ages now).listed s.id) s) =
      found (w now) q now c s := by
  unfold found
  rw [show freshListing now Caches.empty (w.serverAt _ s).id = none from rfl, Option.none_or]
  cases hfresh : freshListing now c s.id with
  | none => rw [ask_blend_of_not_fresh hs hfresh, Option.none_or]
  | some data =>
    rw [ask_blend_of_fresh h hfresh (hfits data hfresh)]
    rfl

end Blend

/-! ### Cards -/

section Cards

variable {m : Moment} {q : TopologyQuery} {now : Time} {c : Caches} {servers : List ProxmoxServer}
  {visible : ServerId × Vmid → Bool} {key : ServerId × Vmid}

/-- A placed guest is on a server with credentials. -/
theorem of_place {p : String × VmType} (h : m.place key = some p) :
    ∃ s, m.servers.find? key.1 = some s ∧ Sync.hasAuth s = true := by
  obtain ⟨s, hs, h⟩ := Option.bind_eq_some_iff.mp h
  obtain ⟨data, hdata, -⟩ := Option.bind_eq_some_iff.mp h
  exact ⟨s, hs, (ask_eq_ok_iff.mp (toOption_ask_eq_some_iff.mp hdata)).2.1⟩

/-- A wanted guest is on a server that the request has a listing of. -/
theorem found_of_mem_nicTargets {t : NicTarget} (h : t ∈ nicTargets m q now c servers visible) :
    ∃ s ∈ servers, t.serverId = s.id ∧ ∃ data, found m q now c s = some data := by
  unfold nicTargets at h
  obtain ⟨p, hp, h⟩ := List.mem_flatMap.mp h
  obtain ⟨g, -, hsome⟩ := List.mem_filterMap.mp h
  obtain ⟨s, hs, hid, hfound⟩ := mem_liveListings.mp hp
  split at hsome
  · obtain rfl := Option.some.inj hsome
    exact ⟨s, hs, hid, p.2, hfound⟩
  · cases hsome

theorem mem_unreadTargets {t : NicTarget} : t ∈ unreadTargets m q now c servers visible ↔
    t ∈ nicTargets m q now c servers visible ∧ freshNics now c t.key = none := by
  unfold unreadTargets
  rw [List.mem_filter, Option.isNone_iff_eq_none]

/-- Cards are read at one of the unread guests. -/
theorem of_fetchedNics {nics : List Nic}
    (h : fetchedNics m q now c servers visible key = some nics) :
    ∃ t ∈ unreadTargets m q now c servers visible, t.key = key ∧
      nics = (m.answers t.serverId).config t.node t.vmid t.type := by
  unfold fetchedNics at h
  obtain ⟨t, hfind, hread⟩ := Option.bind_eq_some_iff.mp h
  have hkey : t.key = key := by simpa using List.find?_some hfind
  have hmem := List.mem_of_mem_take (List.mem_reverse.mp (List.mem_of_find?_eq_some hfind))
  split at hread
  · exact ⟨t, hmem, hkey, (Option.some.inj hread).symm⟩
  · cases hread

/-- Within the budget an unread guest is read where one of its listings has it. -/
theorem fetchedNics_of_unread
    (hbudget : (unreadTargets m q now c servers visible).length ≤ nicMaxFetches)
    (hauth : ∀ t ∈ unreadTargets m q now c servers visible,
      ∃ s ∈ servers, s.id = t.serverId ∧ Sync.hasAuth s = true)
    (hkey : ∃ t ∈ unreadTargets m q now c servers visible, t.key = key) :
    ∃ t ∈ unreadTargets m q now c servers visible, t.key = key ∧
      fetchedNics m q now c servers visible key =
        some ((m.answers t.serverId).config t.node t.vmid t.type) := by
  unfold fetchedNics
  rw [List.take_of_length_le hbudget]
  cases hfind : (unreadTargets m q now c servers visible).reverse.find? fun t =>
      decide (t.key = key) with
  | none =>
    obtain ⟨t, ht, hkey⟩ := hkey
    exact absurd (decide_eq_true hkey)
      (List.find?_eq_none.mp hfind t (List.mem_reverse.mpr ht))
  | some t =>
    have hmem := List.mem_reverse.mp (List.mem_of_find?_eq_some hfind)
    obtain ⟨s, hs, hid, hs'⟩ := hauth t hmem
    refine ⟨t, hmem, by simpa using List.find?_some hfind, ?_⟩
    rw [Option.bind_some, if_pos]
    refine List.any_eq_true.mpr ⟨s, hs, ?_⟩
    rw [hid, hs']
    exact Bool.and_true _ ▸ decide_eq_true rfl

end Cards

/-! ### One request -/

namespace PageState

variable {w : World} {s : PageState} {r : TopologyRequest}

/-- The guest is where a suitable request reads its cards. -/
theorem cards_of_unread (hsuits : s.Suits w r) (hnics : r.query.includeNics = true)
    {t : NicTarget} (ht : t ∈ s.wanted w r)
    (hfresh : freshNics (s.due r) s.caches t.key = none) :
    (w (s.due r)).cards t.key =
        some (((w (s.due r)).answers t.serverId).config t.node t.vmid t.type) ∧
      ∃ srv ∈ s.queried w r, srv.id = t.serverId ∧ Sync.hasAuth srv = true := by
  have hplace := hsuits.placed hnics t ht hfresh
  constructor
  · unfold Moment.cards
    rw [hplace]
    rfl
  · obtain ⟨srv, hsrv, hid, -⟩ := found_of_mem_nicTargets ht
    obtain ⟨srv', hfind, hauth⟩ := of_place hplace
    have hrow : (w (s.due r)).servers.find? t.serverId = some srv :=
      hid ▸ find?_of_queried hsrv
    obtain rfl : srv = srv' := Option.some.inj (hrow.symm.trans hfind)
    exact ⟨srv, hsrv, hid.symm, hauth⟩

/-- A request caches what an uncached one would read. -/
theorem sound_cachesAfter (h : s.caches.Sound w s.clock) (hsuits : s.Suits w r) :
    (cachesAfter (w (s.due r)) r.user r.query (s.due r) s.caches (s.queried w r)).Sound w
      (s.due r) := by
  have hlater : s.clock ≤ s.due r := Nat.le_add_right _ _
  constructor
  · intro sid t data hsome
    rcases Option.or_eq_some_iff.mp hsome with hnew | ⟨-, hold⟩
    · obtain ⟨data', hcollected, heq⟩ := Option.map_eq_some_iff.mp hnew
      obtain ⟨rfl, rfl⟩ := Prod.mk.inj heq
      obtain ⟨p, hfind, hok⟩ := Option.bind_eq_some_iff.mp hcollected
      have hid : p.1.id = sid := by simpa using List.find?_some hfind
      obtain ⟨srv, hsrv, rfl⟩ := List.mem_map.mp (List.mem_of_find?_eq_some hfind)
      obtain ⟨hqueried, -, honline⟩ := mem_staleServers.mp hsrv
      refine ⟨le_rfl, srv, hid ▸ find?_of_queried hqueried, r.query.includeBridges, ?_⟩
      refine toOption_ask_eq_some_iff.mp ?_
      unfold Moment.ask
      rw [if_neg honline]
      exact hok
    · obtain ⟨hle, hrest⟩ := h.topo sid t data hold
      exact ⟨hle.trans hlater, hrest⟩
  · intro key t nics hsome
    rcases Option.or_eq_some_iff.mp hsome with hnew | ⟨-, hold⟩
    · obtain ⟨nics', hfetched, heq⟩ := Option.map_eq_some_iff.mp hnew
      obtain ⟨rfl, rfl⟩ := Prod.mk.inj heq
      split at hfetched
      · rename_i hnics
        obtain ⟨target, htarget, rfl, rfl⟩ := of_fetchedNics hfetched
        obtain ⟨hwanted, hfresh⟩ := mem_unreadTargets.mp htarget
        exact ⟨le_rfl, (cards_of_unread hsuits hnics hwanted hfresh).1⟩
      · cases hfetched
    · obtain ⟨hle, hcards⟩ := h.nic key t nics hold
      exact ⟨hle.trans hlater, hcards⟩

/-! ### The answer of the blended panel -/

/-- The panel whose servers stand still when the request's listings and cards were read. -/
def blended (w : World) (s : PageState) (r : TopologyRequest) : Moment :=
  w.blend (s.due r) (s.caches.ages (s.due r))

/-- The row of a server in the blended panel. -/
def rowThen (w : World) (s : PageState) (r : TopologyRequest) (srv : ProxmoxServer) :
    ProxmoxServer :=
  w.serverAt ((s.caches.ages (s.due r)).listed srv.id) srv

theorem perm_blended (h : s.caches.Sound w (s.due r)) (hsuits : s.Suits w r) :
    (liveListings (s.blended w r) r.query (s.due r) .empty
        ((s.queried w r).map (s.rowThen w r))).Perm
      (liveListings (w (s.due r)) r.query (s.due r) s.caches (s.queried w r)) := by
  refine perm_liveListings (queriedServers_nodup _) (fun _ => rfl) fun srv hsrv => ?_
  exact found_blend h (find?_of_queried hsrv) (hsuits.bridges srv hsrv)

theorem liveOf_blended (h : s.caches.Sound w (s.due r)) (hsuits : s.Suits w r) :
    liveOf (s.blended w r) r.query (s.due r) .empty ((s.queried w r).map (s.rowThen w r)) =
      liveOf (w (s.due r)) r.query (s.due r) s.caches (s.queried w r) :=
  liveOf_perm (queriedServers_nodup _) (perm_blended h hsuits)

/-- The warnings of a collection, server by server. -/
theorem filterMap_collection (m : Moment) (q : TopologyQuery) (now : Time) (c : Caches)
    (servers : List ProxmoxServer) :
    (collection m q now c servers).filterMap collectWarning = servers.filterMap fun srv =>
      if (freshListing now c srv.id).isNone then
        (m.ask q.includeBridges srv).bind fun result => collectWarning (srv, result)
      else none := by
  unfold collection staleServers
  rw [List.filterMap_map, List.filterMap_filter]
  refine List.filterMap_congr fun srv _ => ?_
  unfold Moment.ask
  by_cases hfresh : (freshListing now c srv.id).isNone = true
  · by_cases honline : srv.isOnline = some false
    · simp [hfresh, honline]
    · simp [hfresh, honline]
  · simp [hfresh]

theorem collectWarning_rowThen (srv : ProxmoxServer) (result : Except CollectError ServerData) :
    collectWarning (s.rowThen w r srv, result) = collectWarning (srv, result) := by
  cases result with
  | ok data => rfl
  | error e => cases e <;> rfl

theorem failed_blended (h : s.caches.Sound w (s.due r)) (hsuits : s.Suits w r) :
    (collection (s.blended w r) r.query (s.due r) .empty
        ((s.queried w r).map (s.rowThen w r))).filterMap collectWarning =
      (collection (w (s.due r)) r.query (s.due r) s.caches (s.queried w r)).filterMap
        collectWarning := by
  rw [filterMap_collection, filterMap_collection, List.filterMap_map]
  refine List.filterMap_congr fun srv hsrv => ?_
  have hempty : (freshListing (s.due r) .empty (s.rowThen w r srv).id).isNone = true := rfl
  rw [Function.comp_apply, if_pos hempty]
  cases hfresh : freshListing (s.due r) s.caches srv.id with
  | some data =>
    have hask : (s.blended w r).ask r.query.includeBridges (s.rowThen w r srv) = some (.ok data) :=
      ask_blend_of_fresh h hfresh (hsuits.bridges srv hsrv data hfresh)
    rw [hask]
    rfl
  | none =>
    have hask : (s.blended w r).ask r.query.includeBridges (s.rowThen w r srv) =
        (w (s.due r)).ask r.query.includeBridges srv :=
      ask_blend_of_not_fresh (find?_of_queried hsrv) hfresh
    rw [hask]
    refine congrArg _ (funext fun result => ?_)
    exact collectWarning_rowThen srv result

theorem serverWarnings_blended (h : s.caches.Sound w (s.due r)) (hsuits : s.Suits w r) :
    serverWarnings (s.blended w r) r.query (s.due r) .empty ((s.queried w r).map (s.rowThen w r)) =
      serverWarnings (w (s.due r)) r.query (s.due r) s.caches (s.queried w r) := by
  unfold serverWarnings
  dsimp only
  rw [failed_blended h hsuits, liveOf_blended h hsuits, List.filterMap_map]
  rfl

/-- The tables are those of the request. -/
theorem tables_blended : tables (s.blended w r) r.user r.query
    ((s.queried w r).map (s.rowThen w r)) =
      tables (w (s.due r)) r.user r.query (s.queried w r) := by
  have hids : ((s.queried w r).map (s.rowThen w r)).map ProxmoxServer.id =
      (s.queried w r).map ProxmoxServer.id := by
    rw [List.map_map]
    rfl
  unfold tables dbGuests
  rw [hids]
  rfl

/-- The guests whose cards the blended panel reads. -/
theorem perm_unread_blended (h : s.caches.Sound w (s.due r)) (hsuits : s.Suits w r) :
    (unreadTargets (s.blended w r) r.query (s.due r) .empty ((s.queried w r).map (s.rowThen w r))
        (tables (w (s.due r)) r.user r.query (s.queried w r)).visible).Perm (s.wanted w r) := by
  have hall : ∀ t : NicTarget, (freshNics (s.due r) .empty t.key).isNone = true := fun _ => rfl
  unfold unreadTargets
  rw [List.filter_eq_self.mpr fun t _ => hall t]
  exact (perm_blended h hsuits).flatMap_right _

theorem nicWarnings_blended (h : s.caches.Sound w (s.due r)) (hsuits : s.Suits w r) :
    nicWarnings (s.blended w r) r.user r.query (s.due r) .empty
        ((s.queried w r).map (s.rowThen w r)) =
      nicWarnings (w (s.due r)) r.user r.query (s.due r) s.caches (s.queried w r) := by
  unfold nicWarnings
  rw [tables_blended, (perm_unread_blended h hsuits).length_eq]
  cases hnics : r.query.includeNics with
  | false => rfl
  | true =>
    have hbudget := hsuits.budget hnics
    have hunread : (unreadTargets (w (s.due r)) r.query (s.due r) s.caches (s.queried w r)
        (tables (w (s.due r)) r.user r.query (s.queried w r)).visible).length ≤ nicMaxFetches :=
      (List.length_filter_le _ _).trans hbudget
    rw [decide_eq_false hbudget.not_gt, decide_eq_false hunread.not_gt]

/-- A wanted guest has its cards in the response. -/
theorem nicsByKey_of_wanted (h : s.caches.Sound w (s.due r)) (hsuits : s.Suits w r)
    (hnics : r.query.includeNics = true) {key : ServerId × Vmid}
    (hkey : ∃ t ∈ s.wanted w r, t.key = key) :
    ((freshNics (s.due r) s.caches key).or (fetchedNics (w (s.due r)) r.query (s.due r) s.caches
        (s.queried w r) (tables (w (s.due r)) r.user r.query (s.queried w r)).visible key)) =
      (w ((s.caches.ages (s.due r)).read key)).cards key := by
  cases hfresh : freshNics (s.due r) s.caches key with
  | some nics =>
    rw [(h.nic key _ nics (read_of_freshNics hfresh).1).2]
    rfl
  | none =>
    obtain ⟨t, ht, rfl⟩ := hkey
    obtain ⟨t', ht', hkey', hfetched⟩ := fetchedNics_of_unread
      ((List.length_filter_le _ _).trans (hsuits.budget hnics))
      (fun t' ht' => (cards_of_unread hsuits hnics (mem_unreadTargets.mp ht').1
        (mem_unreadTargets.mp ht').2).2) ⟨t, mem_unreadTargets.mpr ⟨ht, hfresh⟩, rfl⟩
    rw [Option.none_or, read_of_not_fresh hfresh, hfetched, ← hkey']
    obtain ⟨hwanted, hunread⟩ := mem_unreadTargets.mp ht'
    exact (cards_of_unread hsuits hnics hwanted hunread).1.symm

/-- The blended panel reads the same cards. -/
theorem fetchedNics_blended (h : s.caches.Sound w (s.due r)) (hsuits : s.Suits w r)
    (hnics : r.query.includeNics = true) {key : ServerId × Vmid}
    (hkey : ∃ t ∈ s.wanted w r, t.key = key) :
    fetchedNics (s.blended w r) r.query (s.due r) .empty ((s.queried w r).map (s.rowThen w r))
        (tables (w (s.due r)) r.user r.query (s.queried w r)).visible key =
      some (((w ((s.caches.ages (s.due r)).read key)).cards key).getD []) := by
  have hperm := perm_unread_blended h hsuits
  have hauth : ∀ t ∈ unreadTargets (s.blended w r) r.query (s.due r) .empty
      ((s.queried w r).map (s.rowThen w r))
        (tables (w (s.due r)) r.user r.query (s.queried w r)).visible,
      ∃ srv ∈ (s.queried w r).map (s.rowThen w r), srv.id = t.serverId ∧
        Sync.hasAuth srv = true := by
    intro t ht
    obtain ⟨srv, hsrv, hid, data, hfound⟩ := found_of_mem_nicTargets (mem_unreadTargets.mp ht).1
    have hask : (s.blended w r).ask r.query.includeBridges srv = some (.ok data) :=
      toOption_ask_eq_some_iff.mp hfound
    exact ⟨srv, hsrv, hid.symm, (ask_eq_ok_iff.mp hask).2.1⟩
  obtain ⟨t, ht, hkey⟩ := hkey
  obtain ⟨t', -, rfl, hfetched⟩ := fetchedNics_of_unread
    (hperm.length_eq.trans_le (hsuits.budget hnics)) hauth ⟨t, hperm.mem_iff.mpr ht, hkey⟩
  exact hfetched

/-- The blended panel shows the same cards. -/
theorem nicsByKey_blended (h : s.caches.Sound w (s.due r)) (hsuits : s.Suits w r)
    (hnics : r.query.includeNics = true) (key : ServerId × Vmid) :
    (nicsByKey (s.blended w r) r.query (s.due r) .empty ((s.queried w r).map (s.rowThen w r))
        (tables (w (s.due r)) r.user r.query (s.queried w r)).visible key).getD [] =
      (nicsByKey (w (s.due r)) r.query (s.due r) s.caches (s.queried w r)
        (tables (w (s.due r)) r.user r.query (s.queried w r)).visible key).getD [] := by
  have hperm := (perm_blended h hsuits).flatMap_right fun p : ServerId × ServerData =>
    p.2.guests.filterMap fun g =>
      if truthy g.node && (tables (w (s.due r)) r.user r.query (s.queried w r)).visible
          (p.1, g.vmid) then
        some (⟨p.1, g.node.getD "", g.vmid, (kindType g.kind).getD .qemu⟩ : NicTarget)
      else none
  have hany : (nicTargets (s.blended w r) r.query (s.due r) .empty
      ((s.queried w r).map (s.rowThen w r))
        (tables (w (s.due r)) r.user r.query (s.queried w r)).visible).any
        (fun t => decide (t.key = key)) = (s.wanted w r).any fun t => decide (t.key = key) :=
    hperm.any_eq
  unfold nicsByKey
  rw [hany]
  change _ = Option.getD (if (s.wanted w r).any (fun t => decide (t.key = key)) = true then _
    else none) []
  split
  · rename_i hwanted
    obtain ⟨t, ht, hkey⟩ := List.any_eq_true.mp hwanted
    have hkey : ∃ t ∈ s.wanted w r, t.key = key := ⟨t, ht, of_decide_eq_true hkey⟩
    rw [nicsByKey_of_wanted h hsuits hnics hkey, fetchedNics_blended h hsuits hnics hkey]
    rfl
  · rfl

theorem assembly_blended (h : s.caches.Sound w (s.due r)) (hsuits : s.Suits w r) :
    assembly (s.blended w r) r.user r.query (s.due r) .empty ((s.queried w r).map (s.rowThen w r)) =
      assembly (w (s.due r)) r.user r.query (s.due r) s.caches (s.queried w r) := by
  unfold assembly
  dsimp only
  rw [tables_blended, liveOf_blended h hsuits]
  congr 1
  funext key
  split
  · rename_i hnics
    exact nicsByKey_blended h hsuits hnics key
  · rfl

/-- The clusters do not depend on how the servers are reached. -/
theorem clusters_rowThen (a : Assembly) (servers : List ProxmoxServer) :
    a.clusters (servers.map (s.rowThen w r)) = a.clusters servers := by
  unfold Assembly.clusters Assembly.merge
  rw [List.foldl_map]
  rfl

theorem response_blended (h : s.caches.Sound w (s.due r)) (hsuits : s.Suits w r) :
    response (s.blended w r) r.user r.query (s.due r) .empty ((s.queried w r).map (s.rowThen w r)) =
      response (w (s.due r)) r.user r.query (s.due r) s.caches (s.queried w r) := by
  unfold response
  rw [assembly_blended h hsuits, clusters_rowThen, serverWarnings_blended h hsuits,
    nicWarnings_blended h hsuits]

/-- A request that the caches suit is answered as without caches. -/
theorem unchanged_of_suits (h : s.caches.Sound w s.clock)
    (hsuits : hasPermission r.user "network:view" = true → s.Suits w r) : w.Unchanged s r := by
  have hsound : s.caches.Sound w (s.due r) := h.mono (Nat.le_add_right _ _)
  refine ⟨s.caches.ages (s.due r), hsound.within, ?_⟩
  unfold answer getNetworkTopology
  cases hpermitted : hasPermission r.user "network:view" with
  | false => rfl
  | true =>
    have hservers : queriedServers (w.blend (s.due r) (s.caches.ages (s.due r))) r.user r.header
        r.query = (s.queried w r).map (s.rowThen w r) := queriedServers_blend _
    have hresponse : response (w.blend (s.due r) (s.caches.ages (s.due r))) r.user r.query
        (s.due r) .empty ((s.queried w r).map (s.rowThen w r)) =
          response (w (s.due r)) r.user r.query (s.due r) s.caches (s.queried w r) :=
      response_blended hsound (hsuits hpermitted)
    have hworkspaces : (w.blend (s.due r) (s.caches.ages (s.due r))).workspaces =
        (w (s.due r)).workspaces := rfl
    have hqueried : queriedServers (w (s.due r)) r.user r.header r.query = s.queried w r := rfl
    dsimp only
    rw [hservers, hresponse, List.isEmpty_map, hworkspaces, hqueried]
    split_ifs <;> rfl

/-- A request keeps the caches sound. -/
theorem sound_step (h : s.caches.Sound w s.clock)
    (hsuits : hasPermission r.user "network:view" = true → s.Suits w r) :
    (s.step w r).caches.Sound w (s.step w r).clock := by
  have hsame : s.caches.Sound w (s.due r) := h.mono (Nat.le_add_right _ _)
  change (getNetworkTopology (w (s.due r)) r.user r.header r.query (s.due r) s.caches).2.Sound w
    (s.due r)
  unfold getNetworkTopology
  dsimp only
  split
  · exact hsame
  · rename_i hpermitted
    split
    · exact hsame
    · split
      · exact hsame
      · split
        · exact hsame
        · exact sound_cachesAfter h (hsuits (by simpa using hpermitted))

end PageState

theorem Caches.sound_empty (w : World) (now : Time) : Caches.empty.Sound w now :=
  ⟨fun _ _ _ h => (nomatch h), fun _ _ _ h => (nomatch h)⟩

/-- The caches change no answer in a run whose permitted requests they suit. -/
theorem cacheLaw_of_suits (w : World) (requests : List TopologyRequest)
    (h : Guarded (PageState.step w) (fun s r =>
      hasPermission r.user "network:view" = true → s.Suits w r) .start requests) :
    w.CacheLaw requests :=
  guarded_of_invariant (P := fun s => s.caches.Sound w s.clock)
    (fun _ _ => PageState.sound_step) (fun _ _ => PageState.unchanged_of_suits)
    (Caches.sound_empty w 0) h

/-! ### Two visits -/

/-- A user who may open the page. -/
def dave : User where
  id := 1
  username := "dave"
  isAdmin := false
  role := some ⟨"viewer", KeyedTable.empty.save ("network:view", true)⟩
  assignedServers := [1]

/-- A server with a bridge and one of dave's guests. -/
def bridged : Moment where
  servers := KeyedTable.empty.save ⟨1, "pve", "pve", "pve", 8006, "root@pam", some "panel",
    some "secret", false, none, false, none, none, some true, none, none, none⟩
  rows := KeyedTable.empty.save ⟨⟨1, 100, "pve", .qemu, "web", some 1, "running", false, none, none,
    none, none, none, none, none, none, none, none, none, none, none, none, none, none, none⟩, none,
    none⟩
  ipam := ⟨.empty, []⟩
  networks := []
  workspaces := ⟨.empty, [], []⟩
  nameOrder := fun a b => decide (a ≤ b)
  answers := fun _ =>
    { raised := none
      entries := [.node ⟨some "pve", some "online", none, none, none, none, none⟩,
        .guest ⟨⟨.qemu, 100, some "web", some "pve", some "running", false, none, none, none, none,
          none⟩, none, none, none, none, none, none⟩]
      zones := []
      vnets := []
      networks := fun _ =>
        [⟨some "vmbr0", none, some "bridge", none, none, none, false, none, none, true⟩]
      config := fun _ _ _ => [] }

/-- A visit of dave, with or without bridges. -/
def visit (wait : Time) (includeBridges : Bool) : TopologyRequest :=
  ⟨wait, dave, none, none, true, false, includeBridges, true⟩

theorem suits_of_checked {w : World} {s : PageState} {r : TopologyRequest}
    (hbridges : ((s.queried w r).all fun srv => (freshListing (s.due r) s.caches srv.id).all
      fun data => data.fits r.query.includeBridges) = true)
    (hbudget : (s.wanted w r).length ≤ nicMaxFetches)
    (hplaced : ((s.wanted w r).all fun t => (freshNics (s.due r) s.caches t.key).isSome ||
      decide ((w (s.due r)).place t.key = some (t.node, t.type))) = true) : s.Suits w r where
  bridges := by
    intro srv hsrv data hdata
    have hfits := List.all_eq_true.mp hbridges srv hsrv
    rw [hdata] at hfits
    exact hfits
  budget := fun _ => hbudget
  placed := by
    intro _ t ht hfresh
    have hplace := List.all_eq_true.mp hplaced t ht
    rw [hfresh] at hplace
    exact of_decide_eq_true hplace

/-- Visits that both ask for bridges are answered as without caches. -/
theorem cacheLaw_of_suits_visits :
    World.CacheLaw (fun _ => bridged) [visit 0 true, visit 1 true] :=
  cacheLaw_of_suits _ _
    ⟨fun _ => suits_of_checked (by decide +kernel) (by decide +kernel) (by decide +kernel),
      fun _ => suits_of_checked (by decide +kernel) (by decide +kernel) (by decide +kernel), trivial⟩

/-- The number of bridges in a response. -/
def bridgesShown : Except Exc NetworkTopologyResponse → Nat
  | .error _ => 0
  | .ok r => (((r.clusters.flatMap TopologyCluster.nodes).map fun n => n.bridges.length)).sum

/-- A visit without bridges takes them from the next one. -/
theorem visits_not_cacheLaw :
    ¬World.CacheLaw (fun _ => bridged) [visit 0 false, visit 1 true] := by
  rintro ⟨-, ⟨ages, -, hsame⟩, -⟩
  have hcached : bridgesShown ((PageState.start.step (fun _ => bridged) (visit 0 false)).answer
      (fun _ => bridged) (visit 1 true)).1 = 0 := by decide +kernel
  have hblend : World.blend (fun _ => bridged) 1 ages =
      World.blend (fun _ => bridged) 1 ⟨fun _ => 0, fun _ => 0⟩ := rfl
  have huncached : bridgesShown (getNetworkTopology (World.blend (fun _ => bridged) 1
      ⟨fun _ => 0, fun _ => 0⟩) dave none (visit 1 true).query 1 .empty).1 = 1 := by decide +kernel
  rw [← hblend] at huncached
  rw [hsame] at hcached
  exact absurd (hcached.symm.trans huncached) (by decide)

end PveManager.Topology
