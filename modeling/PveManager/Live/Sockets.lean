import PveManager.Core.InFlight
import PveManager.Live.Browser

/-!
# What the steps do to the registry

Every operation of the registry is described by who is in it afterwards. The loops and the jobs
leave it alone, and a message changes the channels of its own socket only.
-/

namespace PveManager.Live

open PveManager.Core PveManager.Api

/-! ### The registry -/

namespace ConnectionManager

variable {m : ConnectionManager} {socket other : Socket} {channel ch : String}

/-- No socket is listed twice. -/
structure Distinct (m : ConnectionManager) : Prop where
  connections : m.connections.Nodup
  subscribers : ∀ channel, (m.subscribers channel).Nodup

theorem distinct_empty : Distinct empty := ⟨List.nodup_nil, fun _ => List.nodup_nil⟩

theorem subscribers_subscribe : (m.subscribe socket channel).subscribers ch =
    if channel = ch then (m.subscribers channel).insert socket else m.subscribers ch := by
  simp only [subscribe, subscribers, KeyedTable.get?_set]
  split <;> rfl

theorem subscribers_unsubscribe : (m.unsubscribe socket channel).subscribers ch =
    if channel = ch then (m.subscribers channel).erase socket else m.subscribers ch := by
  unfold unsubscribe
  split
  · dsimp only
    by_cases hleft : (m.subscribers channel).erase socket = []
    · rw [if_pos hleft]
      by_cases hch : ch = channel
      · subst hch
        rw [if_pos rfl, hleft]
        simp [subscribers, KeyedTable.get?_erase]
      · simp [subscribers, KeyedTable.get?_erase, hch, Ne.symm hch]
    · rw [if_neg hleft]
      simp only [subscribers, KeyedTable.get?_set]
      split <;> rfl
  · rename_i hnone
    have hempty : m.subscribers channel = [] := by
      simp [subscribers, Option.not_isSome_iff_eq_none.mp hnone]
    split
    · rename_i hch
      rw [← hch, hempty, List.erase_nil]
    · rfl

theorem mem_subscribers_subscribe : other ∈ (m.subscribe socket channel).subscribers ch ↔
    other ∈ m.subscribers ch ∨ other = socket ∧ ch = channel := by
  rw [subscribers_subscribe]
  by_cases hch : channel = ch
  · simp [hch, or_comm]
  · simp [hch, Ne.symm hch]

theorem mem_subscribers_unsubscribe (hm : m.Distinct) :
    other ∈ (m.unsubscribe socket channel).subscribers ch ↔
      other ∈ m.subscribers ch ∧ ¬(other = socket ∧ ch = channel) := by
  rw [subscribers_unsubscribe]
  by_cases hch : channel = ch
  · subst hch
    simp [(hm.subscribers channel).mem_erase_iff, and_comm]
  · simp [hch, Ne.symm hch]

theorem connections_unsubscribe : (m.unsubscribe socket channel).connections = m.connections := by
  unfold unsubscribe
  split <;> rfl

theorem Distinct.connect (hm : m.Distinct) (socket : Socket) : (m.connect socket).Distinct :=
  ⟨hm.connections.insert, hm.subscribers⟩

theorem Distinct.subscribe (hm : m.Distinct) (socket : Socket) (channel : String) :
    (m.subscribe socket channel).Distinct where
  connections := hm.connections
  subscribers ch := by
    rw [subscribers_subscribe]
    split
    · exact (hm.subscribers channel).insert
    · exact hm.subscribers ch

theorem Distinct.unsubscribe (hm : m.Distinct) (socket : Socket) (channel : String) :
    (m.unsubscribe socket channel).Distinct where
  connections := by
    rw [connections_unsubscribe]
    exact hm.connections
  subscribers ch := by
    rw [subscribers_unsubscribe]
    split
    · exact (hm.subscribers channel).erase socket
    · exact hm.subscribers ch

theorem Distinct.eraseConnection (hm : m.Distinct) (socket : Socket) :
    Distinct { m with connections := m.connections.erase socket } :=
  ⟨hm.connections.erase socket, hm.subscribers⟩

/-- Channels that a socket leaves one by one. -/
private theorem foldl_unsubscribe (hm : m.Distinct) (channels : List String) :
    let m' := channels.foldl (fun m channel => m.unsubscribe socket channel) m
    m'.Distinct ∧ m'.connections = m.connections ∧ ∀ other ch,
      other ∈ m'.subscribers ch ↔ other ∈ m.subscribers ch ∧ ¬(other = socket ∧ ch ∈ channels) := by
  induction channels generalizing m with
  | nil => simp [hm]
  | cons channel channels ih =>
    obtain ⟨hdistinct, hconnections, hmem⟩ := ih (hm.unsubscribe socket channel)
    refine ⟨hdistinct, hconnections.trans connections_unsubscribe, fun other ch => ?_⟩
    rw [List.foldl_cons, hmem, mem_subscribers_unsubscribe hm, List.mem_cons]
    tauto

theorem mem_channels_of_mem (h : socket ∈ m.subscribers channel) :
    channel ∈ m.channelSubscribers.rows.map Prod.fst := by
  unfold subscribers at h
  cases hget : m.channelSubscribers.get? channel with
  | none => simp [hget] at h
  | some sockets =>
    exact List.mem_map.mpr ⟨_, KeyedTable.get?_eq_some_iff.mp hget, rfl⟩

theorem Distinct.disconnect (hm : m.Distinct) (socket : Socket) :
    (m.disconnect socket).Distinct :=
  (foldl_unsubscribe (hm.eraseConnection socket) _).1

theorem mem_connections_disconnect (hm : m.Distinct) :
    other ∈ (m.disconnect socket).connections ↔ other ∈ m.connections ∧ other ≠ socket := by
  unfold disconnect unsubscribeAll
  rw [(foldl_unsubscribe (hm.eraseConnection socket) _).2.1, hm.connections.mem_erase_iff, and_comm]

theorem mem_subscribers_disconnect (hm : m.Distinct) :
    other ∈ (m.disconnect socket).subscribers ch ↔ other ∈ m.subscribers ch ∧ other ≠ socket := by
  unfold disconnect unsubscribeAll
  rw [(foldl_unsubscribe (hm.eraseConnection socket) _).2.2]
  refine and_congr_right fun hmem => ?_
  have hrow : ch ∈ m.channelSubscribers.rows.map Prod.fst := mem_channels_of_mem hmem
  simp only [hrow, and_true]

end ConnectionManager

/-! ### Rounds of the server -/

namespace Feed

variable {toInt : String → Option Int} {s : Feed} {w : World}

@[simp] theorem manager_send (socket : Socket) (message : LiveMessage) :
    (s.send socket message).manager = s.manager := rfl

@[simp] theorem manager_replay (socket : Socket) (cached : Option LiveMessage) :
    (s.replay socket cached).manager = s.manager := by
  cases cached <;> rfl

theorem manager_foldl {α : Type} {f : Feed → α → Feed}
    (hf : ∀ (s : Feed) a, (f s a).manager = s.manager) (xs : List α) :
    (xs.foldl f s).manager = s.manager := by
  induction xs generalizing s with
  | nil => rfl
  | cons x xs ih => rw [List.foldl_cons, ih, hf]

theorem manager_pushNode (channel : String) :
    (s.pushNode toInt w channel).manager = s.manager := by
  unfold pushNode
  split
  · rfl
  · split <;> rfl

theorem manager_pushInstance (channel : String) :
    (s.pushInstance toInt w channel).manager = s.manager := by
  unfold pushInstance
  split
  · rfl
  · split <;> rfl

/-- The loops and the jobs leave the registry alone. -/
theorem manager_round {act : Act} (h : act.isRound = true) :
    (s.step toInt ⟨act, w⟩).manager = s.manager := by
  cases act with
  | connect socket => cases h
  | message socket message => cases h
  | disconnect socket => cases h
  | dashboardTick =>
    simp only [step, dashboardTick]
    split <;> rfl
  | serverTick => exact manager_foldl (fun _ channel => manager_pushNode channel) _
  | instanceTick => exact manager_foldl (fun _ channel => manager_pushInstance channel) _
  | listTick =>
    simp only [step, listTick]
    split
    · split <;> rfl
    · rfl
  | statusTick => rfl
  | usageTick => rfl
  | syncTick => exact manager_foldl (f := Feed.broadcast) (fun _ _ => rfl) _

end Feed

/-! ### Channels of a socket -/

/-- The change of the channels that a message asks for. -/
def edit : ClientMessage → Option (Edit String)
  | .subscribe channel => if channel = "" then none else some (.add channel)
  | .unsubscribe channel => if channel = "" then none else some (.remove channel)
  | _ => none

/-- The channels that the server has a socket in. -/
def ConnectionManager.has (m : ConnectionManager) (socket : Socket) (channel : String) : Bool :=
  decide (socket ∈ m.subscribers channel)

namespace ConnectionManager

variable {m m' : ConnectionManager} {socket : Socket}

/-- The registry has the socket somewhere. -/
def Knows (m : ConnectionManager) (socket : Socket) : Prop :=
  socket ∈ m.connections ∨ ∃ channel, socket ∈ m.subscribers channel

/-- The registries differ in one socket at most. -/
structure SameBut (socket : Socket) (m m' : ConnectionManager) : Prop where
  connections : ∀ other, other ≠ socket → (other ∈ m'.connections ↔ other ∈ m.connections)
  subscribers : ∀ other, other ≠ socket → ∀ channel,
    (other ∈ m'.subscribers channel ↔ other ∈ m.subscribers channel)

theorem SameBut.refl (socket : Socket) (m : ConnectionManager) : SameBut socket m m :=
  ⟨fun _ _ => Iff.rfl, fun _ _ _ => Iff.rfl⟩

theorem SameBut.knows (h : SameBut socket m m') {other : Socket} (hne : other ≠ socket) :
    m'.Knows other ↔ m.Knows other := by
  simp only [Knows, h.connections other hne, h.subscribers other hne]

theorem SameBut.has (h : SameBut socket m m') {other : Socket} (hne : other ≠ socket) :
    m'.has other = m.has other := by
  funext channel
  simp only [ConnectionManager.has, h.subscribers other hne]

theorem sameBut_connect : SameBut socket m (m.connect socket) where
  connections other hne := by simp [connect, hne]
  subscribers _ _ _ := Iff.rfl

theorem sameBut_subscribe (channel : String) : SameBut socket m (m.subscribe socket channel) where
  connections _ _ := Iff.rfl
  subscribers other hne ch := by simp [mem_subscribers_subscribe, hne]

theorem sameBut_unsubscribe (hm : m.Distinct) (channel : String) :
    SameBut socket m (m.unsubscribe socket channel) where
  connections _ _ := by rw [connections_unsubscribe]
  subscribers other hne ch := by simp [mem_subscribers_unsubscribe hm, hne]

theorem sameBut_eraseConnection :
    SameBut socket m { m with connections := m.connections.erase socket } where
  connections _ hne := List.mem_erase_of_ne hne
  subscribers _ _ _ := Iff.rfl

theorem sameBut_disconnect (hm : m.Distinct) : SameBut socket m (m.disconnect socket) where
  connections other hne := by simp [mem_connections_disconnect hm, hne]
  subscribers other hne ch := by simp [mem_subscribers_disconnect hm, hne]

theorem not_knows_disconnect (hm : m.Distinct) : ¬(m.disconnect socket).Knows socket := by
  simp [Knows, mem_connections_disconnect hm, mem_subscribers_disconnect hm]

theorem has_subscribe (channel : String) :
    (m.subscribe socket channel).has socket = (Edit.add channel).apply (m.has socket) := by
  funext ch
  by_cases hch : ch = channel
  · simp [has, mem_subscribers_subscribe, Edit.apply, hch]
  · simp [has, mem_subscribers_subscribe, Edit.apply, hch]

theorem has_unsubscribe (hm : m.Distinct) (channel : String) :
    (m.unsubscribe socket channel).has socket = (Edit.remove channel).apply (m.has socket) := by
  funext ch
  by_cases hch : ch = channel
  · simp [has, mem_subscribers_unsubscribe hm, Edit.apply, hch]
  · simp [has, mem_subscribers_unsubscribe hm, Edit.apply, hch]

theorem has_of_not_knows (h : ¬m.Knows socket) (channel : String) :
    m.has socket channel = false := by
  simpa [has] using fun hmem => h (Or.inr ⟨channel, hmem⟩)

end ConnectionManager

/-- What the registry is after a message that is no nonsense. -/
structure Heard (socket : Socket) (message : ClientMessage) (m m' : ConnectionManager) : Prop where
  distinct : m'.Distinct
  others : m.SameBut socket m'
  connections : m'.connections = m.connections
  has : m'.has socket = ((edit message).toList.foldl Edit.apply (m.has socket))

theorem heard_dispatch {s : Feed} (hm : s.manager.Distinct) (w : World) (socket : Socket)
    {message : ClientMessage} (hmessage : message ≠ .broken) :
    Heard socket message s.manager (s.dispatch w socket message).manager := by
  cases message with
  | ping => exact ⟨hm, .refl _ _, rfl, rfl⟩
  | ignored => exact ⟨hm, .refl _ _, rfl, rfl⟩
  | broken => exact absurd rfl hmessage
  | request action requestId params =>
    simp only [Feed.dispatch]
    split
    · exact ⟨hm, .refl _ _, rfl, rfl⟩
    · exact ⟨hm, .refl _ _, rfl, rfl⟩
  | subscribe channel =>
    by_cases hchannel : channel = ""
    · simp only [Feed.dispatch, hchannel, if_true]
      exact ⟨hm, .refl _ _, rfl, rfl⟩
    · simp only [Feed.dispatch, hchannel, if_false, Feed.manager_replay]
      refine ⟨hm.subscribe socket channel, ConnectionManager.sameBut_subscribe channel, rfl, ?_⟩
      simp [ConnectionManager.has_subscribe, edit, hchannel]
  | unsubscribe channel =>
    by_cases hchannel : channel = ""
    · simp only [Feed.dispatch, hchannel, if_true]
      exact ⟨hm, .refl _ _, rfl, rfl⟩
    · simp only [Feed.dispatch, hchannel, if_false]
      refine ⟨hm.unsubscribe socket channel, ConnectionManager.sameBut_unsubscribe hm channel,
        ConnectionManager.connections_unsubscribe, ?_⟩
      simp [ConnectionManager.has_unsubscribe hm, edit, hchannel]

end PveManager.Live
