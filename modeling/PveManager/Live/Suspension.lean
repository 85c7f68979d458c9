import Mathlib.Data.Finset.Lattice.Basic
import PveManager.Core.Run
import PveManager.Live.Channels

/-!
# The registry of sockets between two sends

A broadcast sends to one socket after the other and is suspended in every send, while the
endpoints of the sockets and other broadcasts go on with the same dictionaries. The set of a user
is an object: `broadcast` keeps the objects that it has listed, and reads each when it gets there.
A subscript of a dictionary that misses the key raises, which is `none` here.
-/

namespace PveManager.Live

open PveManager.Core PveManager.Api

/-! ### The registry -/

/-- `_connections`, the set objects it has referred to, and `_channel_subscribers`. -/
structure Registry where
  connections : KeyedTable (Prod.fst : UserId × Nat → UserId)
  /-- The sets of a user, by the number under which each was made. -/
  sets : UserId × Nat → Finset Socket
  fresh : Nat
  channelSubscribers : KeyedTable (Prod.fst : String × Finset Socket → String)

/-- Whom a message is for. -/
inductive Target
  /-- `broadcast_to_channel`. -/
  | channel (name : String)
  /-- `send_to_user`. -/
  | user (id : UserId)
  /-- `broadcast`. -/
  | everyone

namespace Registry

variable (r : Registry) (user : UserId) (socket : Socket) (channel : String)

def empty : Registry := ⟨.empty, fun _ => ∅, 0, .empty⟩

/-- `_connections.get(user_id)`. -/
def connectionsOf : Option (Finset Socket) :=
  (r.connections.get? user).map fun number => r.sets (user, number)

/-- `_connections[user_id].add(websocket)`. -/
def addConnection : Option Registry :=
  (r.connections.get? socket.user).map fun number =>
    { r with
      sets := Function.update r.sets (socket.user, number)
        (insert socket (r.sets (socket.user, number))) }

/-- `_connections[user_id].discard(websocket)`. -/
def discardConnection : Option Registry :=
  (r.connections.get? user).map fun number =>
    { r with
      sets := Function.update r.sets (user, number) ((r.sets (user, number)).erase socket) }

/-- `_connections[user_id] = set()`. -/
def newUser : Registry :=
  { r with
    connections := r.connections.set user r.fresh
    sets := Function.update r.sets (user, r.fresh) ∅
    fresh := r.fresh + 1 }

/-- `if not _connections[user_id]: del _connections[user_id]`. -/
def dropUser : Option Registry :=
  (r.connectionsOf user).map fun sockets =>
    if sockets = ∅ then { r with connections := r.connections.erase user } else r

/-- `connect`, once the socket is accepted. -/
def connect : Option Registry :=
  (if (r.connections.get? socket.user).isSome then r else r.newUser socket.user).addConnection
    socket

/-- `_channel_subscribers[channel].add(websocket)`. -/
def addSubscriber : Option Registry :=
  (r.channelSubscribers.get? channel).map fun sockets =>
    { r with channelSubscribers := r.channelSubscribers.set channel (insert socket sockets) }

/-- `_channel_subscribers[channel].discard(websocket)`. -/
def discardSubscriber : Option Registry :=
  (r.channelSubscribers.get? channel).map fun sockets =>
    { r with channelSubscribers := r.channelSubscribers.set channel (sockets.erase socket) }

/-- `if not _channel_subscribers[channel]: del _channel_subscribers[channel]`. -/
def dropChannel : Option Registry :=
  (r.channelSubscribers.get? channel).map fun sockets =>
    if sockets = ∅ then { r with channelSubscribers := r.channelSubscribers.erase channel } else r

def subscribe : Option Registry :=
  (if (r.channelSubscribers.get? channel).isSome then r
    else { r with channelSubscribers := r.channelSubscribers.set channel ∅ }).addSubscriber
      socket channel

/-- Take a socket out of a channel that is there. -/
def leave : Option Registry :=
  (r.discardSubscriber socket channel).bind fun r => r.dropChannel channel

def unsubscribe : Option Registry :=
  if (r.channelSubscribers.get? channel).isSome then r.leave socket channel else some r

def unsubscribeAll : Option Registry :=
  (r.channelSubscribers.rows.map Prod.fst).foldlM
    (fun (r : Registry) channel => r.leave socket channel) r

/-- Take a socket out of the set of its user. -/
def leaveUser : Option Registry :=
  if (r.connections.get? socket.user).isSome then
    (r.discardConnection socket.user socket).bind fun r => r.dropUser socket.user
  else some r

def disconnect : Option Registry := (r.leaveUser socket).bind fun r => r.unsubscribeAll socket

/-- `pop(user_id, None)` where the user has no socket. -/
def popUser : Registry :=
  if (r.connectionsOf user).getD ∅ = ∅ then { r with connections := r.connections.erase user }
  else r

/-- `pop(channel, None)` where the channel has no socket. -/
def popChannel : Registry :=
  if (r.channelSubscribers.get? channel).getD ∅ = ∅ then
    { r with channelSubscribers := r.channelSubscribers.erase channel }
  else r

/-- What a broadcast does with the sockets that failed. `broadcast` has recorded each under the
user in whose set it was. -/
def clean (target : Target) (dead : List Socket) : Option Registry :=
  match target with
  | .channel name =>
    (dead.foldlM (fun (r : Registry) socket => r.discardSubscriber socket name) r).map fun r =>
      r.popChannel name
  | .user id =>
    (dead.foldlM (fun (r : Registry) socket => r.discardConnection id socket) r).map fun r =>
      r.popUser id
  | .everyone =>
    dead.foldlM (fun (r : Registry) socket =>
      if (r.connections.get? socket.user).isSome then r.discardConnection socket.user socket
      else some r) r

end Registry

/-! ### Broadcasts -/

/-- A broadcast that is suspended in a send. -/
structure Broadcast where
  target : Target
  /-- The socket of the send. -/
  current : Socket
  /-- What is left of the set that was listed. -/
  pending : Finset Socket
  /-- The sets of users that `broadcast` has not got to. -/
  queue : List (UserId × Nat)
  /-- The sockets that were sent the message. -/
  sent : List Socket
  dead : List Socket
  /-- Not in the code: the sockets that were reached from the start until now. -/
  stayed : Socket → Prop

/-- Go on to the next set that is not empty. -/
def refill (sets : UserId × Nat → Finset Socket) (pending : Finset Socket) :
    List (UserId × Nat) → Finset Socket × List (UserId × Nat)
  | [] => (pending, [])
  | item :: queue => if pending = ∅ then refill sets (sets item) queue else (pending, item :: queue)

namespace Registry

variable (r : Registry)

/-- The first set a broadcast lists, and the sets that come after it. -/
def listed : Target → Finset Socket × List (UserId × Nat)
  | .channel name => ((r.channelSubscribers.get? name).getD ∅, [])
  | .user id => ((r.connectionsOf id).getD ∅, [])
  | .everyone => (∅, r.connections.rows)

/-- The socket is connected to the user, or subscribed to the channel. -/
def Reached (socket : Socket) : Target → Prop
  | .channel name => ∃ sockets, r.channelSubscribers.get? name = some sockets ∧ socket ∈ sockets
  | .user id => ∃ number, r.connections.get? id = some number ∧ socket ∈ r.sets (id, number)
  | .everyone => ∃ item ∈ r.connections.rows, socket ∈ r.sets item

/-- The socket is in the set of a user. -/
def InUser (socket : Socket) : Prop := ∃ item ∈ r.connections.rows, socket ∈ r.sets item

/-- The socket is in a channel. -/
def InChannel (socket : Socket) : Prop :=
  ∃ item ∈ r.channelSubscribers.rows, socket ∈ item.2

/-- The dictionaries have a set for the target. -/
def HasEntry : Target → Prop
  | .channel name => (r.channelSubscribers.get? name).isSome
  | .user id => (r.connections.get? id).isSome
  | .everyone => True

end Registry

namespace Broadcast

variable (b : Broadcast)

/-- The send of the current socket ends, with an exception or without. -/
def hear (ok : Bool) : Broadcast := if ok then b else { b with dead := b.dead ++ [b.current] }

/-- What is left to send. -/
def rest (r : Registry) : Finset Socket × List (UserId × Nat) := refill r.sets b.pending b.queue

/-- Send to the next socket; the order of a set is not fixed. -/
def send (r : Registry) (next : Socket) : Broadcast :=
  { b with
    current := next
    pending := (b.rest r).1.erase next
    queue := (b.rest r).2
    sent := b.sent ++ [next] }

end Broadcast

/-! ### The system -/

/-- Where a socket is in its endpoint. -/
inductive SocketPhase
  | fresh
  /-- `connect` awaits `accept`. -/
  | accepting
  | opened
  /-- `disconnect` has run. -/
  | gone
  deriving DecidableEq

structure RegistryState where
  registry : Registry
  phase : Socket → SocketPhase
  running : List Broadcast
  finished : List Broadcast
  /-- How many operations have raised. -/
  failures : Nat

/-- What runs between two awaits. -/
inductive RegistryEvent
  | connect (socket : Socket)
  | accepted (socket : Socket)
  | subscribe (socket : Socket) (channel : String)
  | unsubscribe (socket : Socket) (channel : String)
  | disconnect (socket : Socket)
  | start (target : Target) (next : Socket)
  /-- A send of a broadcast ends, and the broadcast goes on with another socket or finishes. -/
  | resume (i : Nat) (ok : Bool) (next : Socket)

namespace RegistryState

variable (s : RegistryState)

def start : RegistryState := ⟨.empty, fun _ => .fresh, [], [], 0⟩

/-- Take over what an operation leaves, or that it has raised. -/
def apply : Option Registry → RegistryState
  | some registry => { s with registry := registry }
  | none => { s with failures := s.failures + 1 }

/-- A broadcast without anything to send, that sends to the first socket where there is one. -/
def begin (target : Target) (next : Socket) : RegistryState :=
  let b : Broadcast :=
    { target := target
      current := next
      pending := (s.registry.listed target).1
      queue := (s.registry.listed target).2
      sent := []
      dead := []
      stayed := fun socket => s.registry.Reached socket target }
  if (b.rest s.registry).1 = ∅ then { s with finished := s.finished ++ [b] }
  else if next ∈ (b.rest s.registry).1 then
    { s with running := s.running ++ [b.send s.registry next] }
  else s

/-- A broadcast goes on after a send. -/
def proceed (i : Nat) (b : Broadcast) (next : Socket) : RegistryState :=
  if (b.rest s.registry).1 = ∅ then
    ({ s with
      running := s.running.eraseIdx i
      finished := s.finished ++ [b] }).apply (s.registry.clean b.target b.dead)
  else if next ∈ (b.rest s.registry).1 then
    { s with running := s.running.eraseIdx i ++ [b.send s.registry next] }
  else s

/-- An endpoint connects its socket once, disconnects it once, and subscribes it in between. -/
def act : RegistryEvent → RegistryState
  | .connect socket =>
    if s.phase socket = .fresh then
      { s with phase := Function.update s.phase socket .accepting }
    else s
  | .accepted socket =>
    if s.phase socket = .accepting then
      ({ s with phase := Function.update s.phase socket .opened }).apply
        (s.registry.connect socket)
    else s
  | .subscribe socket channel =>
    if s.phase socket = .opened then s.apply (s.registry.subscribe socket channel) else s
  | .unsubscribe socket channel =>
    if s.phase socket = .opened then s.apply (s.registry.unsubscribe socket channel) else s
  | .disconnect socket =>
    if s.phase socket = .opened then
      ({ s with phase := Function.update s.phase socket .gone }).apply
        (s.registry.disconnect socket)
    else s
  | .start target next => s.begin target next
  | .resume i ok next =>
    match s.running[i]? with
    | none => s
    | some b => s.proceed i (b.hear ok) next

/-- Note which sockets are still reached. -/
def watch : RegistryState :=
  { s with
    running := s.running.map fun b =>
      { b with stayed := fun socket => b.stayed socket ∧ s.registry.Reached socket b.target } }

def step (e : RegistryEvent) : RegistryState := (s.act e).watch

/-- No operation has failed, every finished broadcast was sent once to each socket that had been
reached from its start to its last send, and a socket that is gone is nowhere. -/
structure Survives : Prop where
  sound : s.failures = 0
  once : ∀ b ∈ s.finished, ∀ socket, b.stayed socket → b.sent.count socket = 1
  left : ∀ socket, s.phase socket = .gone →
    ¬s.registry.InUser socket ∧ ¬s.registry.InChannel socket

/-- A broadcast with a failed send finds the set of its target when it ends. -/
def FindsEntry : RegistryEvent → Prop
  | .resume i ok _ => ∀ b, s.running[i]? = some b → (b.rest s.registry).1 = ∅ →
      (b.hear ok).dead ≠ [] → s.registry.HasEntry b.target
  | _ => True

end RegistryState

/-! ### Operations that only take sockets out -/

namespace Registry

variable {r r' r'' : Registry} {user : UserId} {socket : Socket} {channel : String}

/-- Sockets and entries are taken out, and nothing else changes. -/
structure Shrinks (r r' : Registry) : Prop where
  sets : ∀ id, r'.sets id ⊆ r.sets id
  entries : ∀ user number, r'.connections.get? user = some number →
    r.connections.get? user = some number
  channels : ∀ name sockets', r'.channelSubscribers.get? name = some sockets' →
    ∃ sockets, r.channelSubscribers.get? name = some sockets ∧ sockets' ⊆ sockets

theorem Shrinks.refl (r : Registry) : r.Shrinks r :=
  ⟨fun _ => Finset.Subset.refl _, fun _ _ h => h, fun _ sockets h => ⟨sockets, h, subset_rfl⟩⟩

theorem Shrinks.trans (h : r.Shrinks r') (h' : r'.Shrinks r'') : r.Shrinks r'' := by
  refine ⟨fun id => (h'.sets id).trans (h.sets id),
    fun user number hget => h.entries user number (h'.entries user number hget),
    fun name sockets hget => ?_⟩
  obtain ⟨sockets', hget', hsub'⟩ := h'.channels name sockets hget
  obtain ⟨sockets'', hget'', hsub''⟩ := h.channels name sockets' hget'
  exact ⟨sockets'', hget'', hsub'.trans hsub''⟩

theorem shrinks_discardConnection (h : r.discardConnection user socket = some r') :
    r.Shrinks r' := by
  obtain ⟨number, -, rfl⟩ := Option.map_eq_some_iff.mp h
  refine ⟨fun id => ?_, fun _ _ hget => hget, fun _ sockets hget => ⟨sockets, hget, subset_rfl⟩⟩
  dsimp only
  by_cases hid : id = (user, number)
  · rw [hid, Function.update_self]
    exact Finset.erase_subset _ _
  · rw [Function.update_of_ne hid]

theorem shrinks_eraseConnections (r : Registry) (user : UserId) :
    r.Shrinks { r with connections := r.connections.erase user } := by
  refine ⟨fun _ => subset_rfl, fun user' number hget => ?_,
    fun _ sockets hget => ⟨sockets, hget, subset_rfl⟩⟩
  rw [KeyedTable.get?_erase] at hget
  split at hget
  · cases hget
  · exact hget

theorem shrinks_eraseChannel (r : Registry) (channel : String) :
    r.Shrinks { r with channelSubscribers := r.channelSubscribers.erase channel } := by
  refine ⟨fun _ => subset_rfl, fun _ _ hget => hget, fun name sockets hget => ?_⟩
  rw [KeyedTable.get?_erase] at hget
  split at hget
  · cases hget
  · exact ⟨sockets, hget, subset_rfl⟩

theorem shrinks_dropUser (h : r.dropUser user = some r') : r.Shrinks r' := by
  obtain ⟨sockets, -, rfl⟩ := Option.map_eq_some_iff.mp h
  split
  · exact shrinks_eraseConnections r user
  · exact .refl r

theorem shrinks_popUser (r : Registry) (user : UserId) : r.Shrinks (r.popUser user) := by
  unfold popUser
  split
  · exact shrinks_eraseConnections r user
  · exact .refl r

theorem shrinks_popChannel (r : Registry) (channel : String) :
    r.Shrinks (r.popChannel channel) := by
  unfold popChannel
  split
  · exact shrinks_eraseChannel r channel
  · exact .refl r

theorem shrinks_discardSubscriber (h : r.discardSubscriber socket channel = some r') :
    r.Shrinks r' := by
  obtain ⟨sockets, hget, rfl⟩ := Option.map_eq_some_iff.mp h
  refine ⟨fun _ => subset_rfl, fun _ _ hget => hget, fun name sockets' hget' => ?_⟩
  rw [KeyedTable.get?_set] at hget'
  split at hget'
  · next hname =>
    subst hname
    exact ⟨sockets, hget, Option.some_inj.mp hget' ▸ Finset.erase_subset _ _⟩
  · exact ⟨sockets', hget', subset_rfl⟩

theorem shrinks_dropChannel (h : r.dropChannel channel = some r') : r.Shrinks r' := by
  obtain ⟨sockets, -, rfl⟩ := Option.map_eq_some_iff.mp h
  split
  · exact shrinks_eraseChannel r channel
  · exact .refl r

theorem shrinks_leave (h : r.leave socket channel = some r') : r.Shrinks r' := by
  obtain ⟨r₁, h₁, h₂⟩ := Option.bind_eq_some_iff.mp h
  exact (shrinks_discardSubscriber h₁).trans (shrinks_dropChannel h₂)

theorem shrinks_unsubscribe (h : r.unsubscribe socket channel = some r') : r.Shrinks r' := by
  unfold unsubscribe at h
  split at h
  · exact shrinks_leave h
  · exact Option.some_inj.mp h ▸ .refl r

/-- A loop of operations that take sockets out. -/
theorem shrinks_foldlM {α : Type} {op : Registry → α → Option Registry}
    (hop : ∀ r a r', op r a = some r' → r.Shrinks r') {as : List α}
    (h : as.foldlM op r = some r') : r.Shrinks r' := by
  induction as generalizing r with
  | nil => exact Option.some_inj.mp h ▸ .refl r
  | cons a as ih =>
    rw [List.foldlM_cons] at h
    obtain ⟨r₁, h₁, h₂⟩ := Option.bind_eq_some_iff.mp h
    exact (hop r a r₁ h₁).trans (ih h₂)

theorem shrinks_leaveUser (h : r.leaveUser socket = some r') : r.Shrinks r' := by
  unfold leaveUser at h
  split at h
  · obtain ⟨r₁, h₁, h₂⟩ := Option.bind_eq_some_iff.mp h
    exact (shrinks_discardConnection h₁).trans (shrinks_dropUser h₂)
  · exact Option.some_inj.mp h ▸ .refl r

theorem shrinks_unsubscribeAll (h : r.unsubscribeAll socket = some r') : r.Shrinks r' :=
  shrinks_foldlM (fun _ _ _ => shrinks_leave) h

theorem shrinks_disconnect (h : r.disconnect socket = some r') : r.Shrinks r' := by
  obtain ⟨r₁, h₁, h₂⟩ := Option.bind_eq_some_iff.mp h
  exact (shrinks_leaveUser h₁).trans (shrinks_unsubscribeAll h₂)

theorem shrinks_clean {target : Target} {dead : List Socket} (h : r.clean target dead = some r') :
    r.Shrinks r' := by
  cases target with
  | channel name =>
    obtain ⟨r₁, h₁, rfl⟩ := Option.map_eq_some_iff.mp h
    exact (shrinks_foldlM (fun _ _ _ => shrinks_discardSubscriber) h₁).trans
      (shrinks_popChannel r₁ name)
  | user id =>
    obtain ⟨r₁, h₁, rfl⟩ := Option.map_eq_some_iff.mp h
    exact (shrinks_foldlM (fun _ _ _ => shrinks_discardConnection) h₁).trans
      (shrinks_popUser r₁ id)
  | everyone =>
    refine shrinks_foldlM (fun r socket r' hop => ?_) h
    split at hop
    · exact shrinks_discardConnection hop
    · exact Option.some_inj.mp hop ▸ .refl r

/-! ### No operation of an endpoint raises -/

/-- A set of a user holds sockets of that user. -/
def Own (r : Registry) : Prop := ∀ id, ∀ socket ∈ r.sets id, socket.user = id.1

theorem Own.shrinks (h : r.Own) (hs : r.Shrinks r') : r'.Own :=
  fun id socket hmem => h id socket (hs.sets id hmem)

/-- What an operation of an endpoint may change: sockets that are new to the registry come in. -/
structure Moves (new : Socket → Prop) (r r' : Registry) : Prop where
  sets : ∀ id socket, socket ∈ r'.sets id → socket ∈ r.sets id ∨ new socket ∧ socket.user = id.1
  same : ∀ user number number', r.connections.get? user = some number →
    r'.connections.get? user = some number' → number' = number
  users : ∀ user number socket, r'.connections.get? user = some number →
    socket ∈ r'.sets (user, number) →
      r.connections.get? user = some number ∧ socket ∈ r.sets (user, number) ∨ new socket
  channels : ∀ name sockets' socket, r'.channelSubscribers.get? name = some sockets' →
    socket ∈ sockets' →
      (∃ sockets, r.channelSubscribers.get? name = some sockets ∧ socket ∈ sockets) ∨ new socket

theorem Shrinks.moves (h : r.Shrinks r') (new : Socket → Prop) : r.Moves new r' where
  sets := fun id _ hmem => Or.inl (h.sets id hmem)
  same := fun user number number' hget hget' =>
    Option.some_inj.mp ((h.entries user number' hget').symm.trans hget)
  users := fun user number _ hget hmem =>
    Or.inl ⟨h.entries user number hget, h.sets (user, number) hmem⟩
  channels := fun name sockets' _ hget hmem => by
    obtain ⟨sockets, hsockets, hsub⟩ := h.channels name sockets' hget
    exact Or.inl ⟨sockets, hsockets, hsub hmem⟩

section Moves

variable {new : Socket → Prop}

theorem Own.moves (h : r.Own) (hm : r.Moves new r') : r'.Own := by
  intro id socket hmem
  rcases hm.sets id socket hmem with hmem | ⟨-, huser⟩
  · exact h id socket hmem
  · exact huser

theorem Moves.inUser (hm : r.Moves new r') (h : r'.InUser socket) :
    r.InUser socket ∨ new socket := by
  obtain ⟨⟨user, number⟩, hitem, hmem⟩ := h
  have hget := KeyedTable.get?_eq_some_iff.mpr hitem
  refine (hm.users user number socket hget hmem).imp_left ?_
  rintro ⟨hget, hmem⟩
  exact ⟨(user, number), KeyedTable.get?_eq_some_iff.mp hget, hmem⟩

theorem Moves.inChannel (hm : r.Moves new r') (h : r'.InChannel socket) :
    r.InChannel socket ∨ new socket := by
  obtain ⟨⟨name, sockets'⟩, hitem, hmem⟩ := h
  have hget := KeyedTable.get?_eq_some_iff.mpr hitem
  refine (hm.channels name sockets' socket hget hmem).imp_left ?_
  rintro ⟨sockets, hget, hmem⟩
  exact ⟨(name, sockets), KeyedTable.get?_eq_some_iff.mp hget, hmem⟩

end Moves

/-- A socket is added to the set of its user. -/
theorem exists_connect (r : Registry) (socket : Socket) :
    ∃ r', r.connect socket = some r' ∧ r.Moves (· = socket) r' := by
  unfold connect
  cases hget : r.connections.get? socket.user with
  | some number =>
    rw [Option.isSome_some, if_pos rfl]
    unfold addConnection
    rw [hget]
    refine ⟨_, rfl, fun id x hmem => ?_, fun user n n' h h' => ?_, fun user n x h hmem => ?_,
      fun name sockets x h hmem => Or.inl ⟨sockets, h, hmem⟩⟩
    · dsimp only at hmem
      by_cases hid : id = (socket.user, number)
      · subst hid
        rw [Function.update_self] at hmem
        rcases Finset.mem_insert.mp hmem with rfl | hmem
        · exact Or.inr ⟨rfl, rfl⟩
        · exact Or.inl hmem
      · rw [Function.update_of_ne hid] at hmem
        exact Or.inl hmem
    · exact Option.some_inj.mp (h'.symm.trans h)
    · dsimp only at hmem
      by_cases hid : (user, n) = (socket.user, number)
      · rw [hid, Function.update_self] at hmem
        rcases Finset.mem_insert.mp hmem with rfl | hmem
        · exact Or.inr rfl
        · exact Or.inl ⟨h, hid ▸ hmem⟩
      · rw [Function.update_of_ne hid] at hmem
        exact Or.inl ⟨h, hmem⟩
  | none =>
    rw [Option.isSome_none, if_neg Bool.false_ne_true]
    have hnew : (r.newUser socket.user).connections.get? socket.user = some r.fresh := by
      unfold newUser
      rw [KeyedTable.get?_set, if_pos rfl]
    unfold addConnection
    rw [hnew]
    refine ⟨_, rfl, fun id x hmem => ?_, fun user n n' h h' => ?_, fun user n x h hmem => ?_,
      fun name sockets x h hmem => Or.inl ⟨sockets, h, hmem⟩⟩
    · unfold newUser at hmem
      dsimp only at hmem
      by_cases hid : id = (socket.user, r.fresh)
      · subst hid
        rw [Function.update_self, Function.update_self] at hmem
        rcases Finset.mem_insert.mp hmem with rfl | hmem
        · exact Or.inr ⟨rfl, rfl⟩
        · exact absurd hmem (Finset.notMem_empty x)
      · rw [Function.update_of_ne hid, Function.update_of_ne hid] at hmem
        exact Or.inl hmem
    · unfold newUser at h'
      dsimp only at h'
      rw [KeyedTable.get?_set] at h'
      split at h'
      · next huser =>
        rw [← huser, hget] at h
        cases h
      · exact Option.some_inj.mp (h'.symm.trans h)
    · unfold newUser at h hmem
      dsimp only at h hmem
      rw [KeyedTable.get?_set] at h
      split at h
      · next huser =>
        rw [← huser, ← Option.some_inj.mp h, Function.update_self, Function.update_self] at hmem
        rcases Finset.mem_insert.mp hmem with rfl | hmem
        · exact Or.inr rfl
        · exact absurd hmem (Finset.notMem_empty x)
      · next huser =>
        have hid : (user, n) ≠ (socket.user, r.fresh) :=
          fun heq => huser (congrArg Prod.fst heq).symm
        rw [Function.update_of_ne hid, Function.update_of_ne hid] at hmem
        exact Or.inl ⟨h, hmem⟩

/-- A socket is added to a channel. -/
theorem exists_subscribe (r : Registry) (socket : Socket) (channel : String) :
    ∃ r', r.subscribe socket channel = some r' ∧ r.Moves (· = socket) r' := by
  have hadd : ∀ (r₁ : Registry) (sockets : Finset Socket),
      r₁.channelSubscribers.get? channel = some sockets → r₁.sets = r.sets →
      r₁.connections = r.connections →
      (∀ name sockets' x, r₁.channelSubscribers.get? name = some sockets' → x ∈ sockets' →
        ∃ sockets, r.channelSubscribers.get? name = some sockets ∧ x ∈ sockets) →
      ∃ r', r₁.addSubscriber socket channel = some r' ∧ r.Moves (· = socket) r' := by
    intro r₁ sockets hget hsets hconn hchan
    unfold addSubscriber
    rw [hget]
    refine ⟨_, rfl, fun id x hmem => Or.inl (hsets ▸ hmem), fun user n n' h h' => ?_,
      fun user n x h hmem => Or.inl ⟨hconn ▸ h, hsets ▸ hmem⟩, fun name sockets' x h hmem => ?_⟩
    · dsimp only at h'
      rw [hconn, h] at h'
      exact (Option.some_inj.mp h').symm
    · dsimp only at h
      rw [KeyedTable.get?_set] at h
      split at h
      · next hname =>
        subst hname
        rw [← Option.some_inj.mp h] at hmem
        rcases Finset.mem_insert.mp hmem with rfl | hmem
        · exact Or.inr rfl
        · exact Or.inl (hchan channel sockets x hget hmem)
      · exact Or.inl (hchan name sockets' x h hmem)
  unfold subscribe
  cases hget : r.channelSubscribers.get? channel with
  | some sockets =>
    rw [Option.isSome_some, if_pos rfl]
    exact hadd r sockets hget rfl rfl fun _ sockets' _ h hmem => ⟨sockets', h, hmem⟩
  | none =>
    rw [Option.isSome_none, if_neg Bool.false_ne_true]
    refine hadd _ ∅ ?_ rfl rfl fun name sockets' x h hmem => ?_
    · dsimp only
      rw [KeyedTable.get?_set, if_pos rfl]
    · dsimp only at h
      rw [KeyedTable.get?_set] at h
      split at h
      · rw [← Option.some_inj.mp h] at hmem
        exact absurd hmem (Finset.notMem_empty x)
      · exact ⟨sockets', h, hmem⟩

/-- A socket is taken out of a channel that is there. -/
theorem exists_leave (socket : Socket) {sockets : Finset Socket}
    (h : r.channelSubscribers.get? channel = some sockets) :
    ∃ r', r.leave socket channel = some r' ∧
      (∀ name, name ≠ channel →
        r'.channelSubscribers.get? name = r.channelSubscribers.get? name) ∧
      ∀ sockets', r'.channelSubscribers.get? channel = some sockets' → socket ∉ sockets' := by
  have hset : ∀ name, (r.channelSubscribers.set channel (sockets.erase socket)).get? name =
      if channel = name then some (sockets.erase socket) else r.channelSubscribers.get? name :=
    fun name => KeyedTable.get?_set _
  unfold leave discardSubscriber
  rw [h, Option.map_some, Option.bind_some]
  unfold dropChannel
  dsimp only
  rw [hset, if_pos rfl, Option.map_some]
  refine ⟨_, rfl, fun name hname => ?_, fun sockets' hget => ?_⟩
  · split
    · dsimp only
      rw [KeyedTable.get?_erase, if_neg hname, hset, if_neg (Ne.symm hname)]
    · dsimp only
      rw [hset, if_neg (Ne.symm hname)]
  · split at hget
    · dsimp only at hget
      rw [KeyedTable.get?_erase, if_pos rfl] at hget
      cases hget
    · dsimp only at hget
      rw [hset, if_pos rfl] at hget
      rw [← Option.some_inj.mp hget]
      exact Finset.notMem_erase socket sockets

theorem exists_unsubscribe (r : Registry) (socket : Socket) (channel : String) :
    ∃ r', r.unsubscribe socket channel = some r' := by
  unfold unsubscribe
  cases hget : r.channelSubscribers.get? channel with
  | none => exact ⟨r, rfl⟩
  | some sockets =>
    obtain ⟨r', hr', -⟩ := exists_leave socket hget
    exact ⟨r', hr'⟩

/-- A socket is taken out of channels that are all there. -/
theorem exists_foldlM_leave (socket : Socket) {names : List String} (hnodup : names.Nodup)
    (hnames : ∀ name ∈ names, (r.channelSubscribers.get? name).isSome) :
    ∃ r', names.foldlM (fun (r : Registry) channel => r.leave socket channel) r = some r' ∧
      (∀ name, name ∉ names →
        r'.channelSubscribers.get? name = r.channelSubscribers.get? name) ∧
      ∀ name ∈ names, ∀ sockets, r'.channelSubscribers.get? name = some sockets →
        socket ∉ sockets := by
  induction names generalizing r with
  | nil => exact ⟨r, rfl, fun _ _ => rfl, fun _ h => absurd h List.not_mem_nil⟩
  | cons name names ih =>
    obtain ⟨hname, hnodup⟩ := List.nodup_cons.mp hnodup
    obtain ⟨sockets, hget⟩ := Option.isSome_iff_exists.mp (hnames name List.mem_cons_self)
    obtain ⟨r₁, hleave, hothers, hout⟩ := exists_leave socket hget
    have hrest : ∀ name' ∈ names, (r₁.channelSubscribers.get? name').isSome := by
      intro name' hname'
      rw [hothers name' fun heq => hname (heq ▸ hname')]
      exact hnames name' (List.mem_cons_of_mem _ hname')
    obtain ⟨r', hfold, hkept, hleft⟩ := ih hnodup hrest
    refine ⟨r', ?_, fun name' hname' => ?_, fun name' hname' sockets' hget' => ?_⟩
    · rw [List.foldlM_cons, hleave]
      exact hfold
    · rw [List.mem_cons, not_or] at hname'
      rw [hkept name' hname'.2, hothers name' hname'.1]
    · rcases List.mem_cons.mp hname' with rfl | hname'
      · rw [hkept name' hname] at hget'
        exact hout sockets' hget'
      · exact hleft name' hname' sockets' hget'

/-- A socket is taken out of all channels. -/
theorem exists_unsubscribeAll (r : Registry) (socket : Socket) :
    ∃ r', r.unsubscribeAll socket = some r' ∧ ¬r'.InChannel socket := by
  have hsome : ∀ name ∈ r.channelSubscribers.rows.map Prod.fst,
      (r.channelSubscribers.get? name).isSome := by
    intro name hname
    obtain ⟨⟨name, sockets⟩, hitem, rfl⟩ := List.mem_map.mp hname
    rw [KeyedTable.get?_eq_some_iff.mpr hitem]
    rfl
  obtain ⟨r', hfold, -, hleft⟩ :=
    exists_foldlM_leave socket r.channelSubscribers.keys_nodup hsome
  refine ⟨r', hfold, ?_⟩
  rintro ⟨⟨name, sockets'⟩, hitem, hmem⟩
  have hget := KeyedTable.get?_eq_some_iff.mpr hitem
  obtain ⟨sockets, hget₀, -⟩ := (shrinks_unsubscribeAll hfold).channels name sockets' hget
  refine hleft name ?_ sockets' hget hmem
  exact List.mem_map.mpr ⟨(name, sockets), KeyedTable.get?_eq_some_iff.mp hget₀, rfl⟩

/-- A socket is taken out of the set of its user. -/
theorem exists_leaveUser (h : r.Own) (socket : Socket) :
    ∃ r', r.leaveUser socket = some r' ∧ ¬r'.InUser socket := by
  have hout : ∀ r' : Registry, r.leaveUser socket = some r' →
      (∀ number, r'.connections.get? socket.user = some number →
        socket ∉ r'.sets (socket.user, number)) →
      ∃ r', r.leaveUser socket = some r' ∧ ¬r'.InUser socket := by
    intro r' hleave hnot
    refine ⟨r', hleave, ?_⟩
    rintro ⟨⟨user, number⟩, hitem, hmem⟩
    have huser : socket.user = user := h.shrinks (shrinks_leaveUser hleave) _ socket hmem
    subst huser
    exact hnot number (KeyedTable.get?_eq_some_iff.mpr hitem) hmem
  cases hget : r.connections.get? socket.user with
  | none =>
    refine hout r ?_ fun number hnumber => ?_
    · unfold leaveUser
      rw [hget]
      rfl
    · rw [hget] at hnumber
      cases hnumber
  | some number =>
    have hleave : r.leaveUser socket =
        some (if (r.sets (socket.user, number)).erase socket = ∅ then
          { r with
            connections := r.connections.erase socket.user
            sets := Function.update r.sets (socket.user, number)
              ((r.sets (socket.user, number)).erase socket) }
        else
          { r with
            sets := Function.update r.sets (socket.user, number)
              ((r.sets (socket.user, number)).erase socket) }) := by
      unfold leaveUser discardConnection
      rw [hget, Option.isSome_some, if_pos rfl, Option.map_some, Option.bind_some]
      unfold dropUser connectionsOf
      dsimp only
      rw [hget, Option.map_some, Option.map_some, Function.update_self]
    refine hout _ hleave fun number' hnumber' => ?_
    split at hnumber'
    · dsimp only at hnumber'
      rw [KeyedTable.get?_erase, if_pos rfl] at hnumber'
      cases hnumber'
    · next hempty =>
      dsimp only at hnumber'
      rw [if_neg hempty, ← Option.some_inj.mp (hget.symm.trans hnumber')]
      dsimp only
      rw [Function.update_self]
      exact Finset.notMem_erase socket _

/-- A socket that is disconnected is in no set of a user and in no channel. -/
theorem exists_disconnect (h : r.Own) (socket : Socket) :
    ∃ r', r.disconnect socket = some r' ∧ ¬r'.InUser socket ∧ ¬r'.InChannel socket := by
  obtain ⟨r₁, h₁, huser⟩ := exists_leaveUser h socket
  obtain ⟨r', hr', hchannel⟩ := exists_unsubscribeAll r₁ socket
  refine ⟨r', ?_, fun hin => ?_, hchannel⟩
  · unfold disconnect
    rw [h₁]
    exact hr'
  · have hmoves := (shrinks_unsubscribeAll hr').moves fun _ => False
    exact (hmoves.inUser hin).elim huser id

/-! ### When a broadcast finds its entry -/

/-- A loop whose operations keep what makes them possible. -/
theorem exists_foldlM {α : Type} {P : Registry → Prop} {op : Registry → α → Option Registry}
    (hop : ∀ r a, P r → ∃ r', op r a = some r' ∧ P r') (as : List α) (h : P r) :
    ∃ r', as.foldlM op r = some r' := by
  induction as generalizing r with
  | nil => exact ⟨r, rfl⟩
  | cons a as ih =>
    obtain ⟨r₁, h₁, hP⟩ := hop r a h
    obtain ⟨r', hr'⟩ := ih hP
    refine ⟨r', ?_⟩
    rw [List.foldlM_cons, h₁]
    exact hr'

theorem isSome_discardConnection (socket : Socket) (h : (r.connections.get? user).isSome) :
    ∃ r', r.discardConnection user socket = some r' ∧ (r'.connections.get? user).isSome := by
  obtain ⟨number, hnumber⟩ := Option.isSome_iff_exists.mp h
  unfold discardConnection
  rw [hnumber]
  exact ⟨_, rfl, h⟩

theorem isSome_discardSubscriber (socket : Socket)
    (h : (r.channelSubscribers.get? channel).isSome) :
    ∃ r', r.discardSubscriber socket channel = some r' ∧
      (r'.channelSubscribers.get? channel).isSome := by
  obtain ⟨sockets, hsockets⟩ := Option.isSome_iff_exists.mp h
  unfold discardSubscriber
  rw [hsockets]
  refine ⟨_, rfl, ?_⟩
  dsimp only
  rw [KeyedTable.get?_set, if_pos rfl]
  rfl

/-- Discarding the failed sockets raises where there are some and the entry is missing. -/
theorem exists_clean_iff {target : Target} {dead : List Socket} :
    (∃ r', r.clean target dead = some r') ↔ (dead ≠ [] → r.HasEntry target) := by
  cases target with
  | channel name =>
    unfold clean HasEntry
    dsimp only
    constructor
    · rintro ⟨r', hr'⟩ hdead
      obtain ⟨socket, dead, rfl⟩ := List.exists_cons_of_ne_nil hdead
      obtain ⟨r₁, h₁, -⟩ := Option.map_eq_some_iff.mp hr'
      rw [List.foldlM_cons] at h₁
      obtain ⟨r₂, h₂, -⟩ := Option.bind_eq_some_iff.mp h₁
      obtain ⟨sockets, hsockets, -⟩ := Option.map_eq_some_iff.mp h₂
      rw [hsockets]
      rfl
    · intro h
      cases dead with
      | nil => exact ⟨_, rfl⟩
      | cons socket dead =>
        obtain ⟨r', hr'⟩ := exists_foldlM
          (fun r socket hr => isSome_discardSubscriber socket hr) (socket :: dead)
          (h (List.cons_ne_nil _ _))
        rw [hr']
        exact ⟨_, rfl⟩
  | user id =>
    unfold clean HasEntry
    dsimp only
    constructor
    · rintro ⟨r', hr'⟩ hdead
      obtain ⟨socket, dead, rfl⟩ := List.exists_cons_of_ne_nil hdead
      obtain ⟨r₁, h₁, -⟩ := Option.map_eq_some_iff.mp hr'
      rw [List.foldlM_cons] at h₁
      obtain ⟨r₂, h₂, -⟩ := Option.bind_eq_some_iff.mp h₁
      obtain ⟨number, hnumber, -⟩ := Option.map_eq_some_iff.mp h₂
      rw [hnumber]
      rfl
    · intro h
      cases dead with
      | nil => exact ⟨_, rfl⟩
      | cons socket dead =>
        obtain ⟨r', hr'⟩ := exists_foldlM
          (fun r socket hr => isSome_discardConnection socket hr) (socket :: dead)
          (h (List.cons_ne_nil _ _))
        rw [hr']
        exact ⟨_, rfl⟩
  | everyone =>
    refine iff_of_true (exists_foldlM (P := fun _ => True) (fun r socket _ => ?_) dead trivial)
      fun _ => trivial
    by_cases h : (r.connections.get? socket.user).isSome
    · obtain ⟨r', hr', -⟩ := isSome_discardConnection socket h
      exact ⟨r', (if_pos h).trans hr', trivial⟩
    · exact ⟨r, if_neg h, trivial⟩

end Registry

/-! ### One broadcast -/

namespace Broadcast

variable {b : Broadcast} {r r' : Registry}

/-- Where a socket is that is to be sent the message once. -/
inductive Placed (r : Registry) (pending : Finset Socket) (queue : List (UserId × Nat))
    (sent : List Socket) (socket : Socket) : Prop
  | sent (once : sent.count socket = 1) (notPending : socket ∉ pending)
      (notQueued : socket.user ∉ queue.map Prod.fst)
  | pending (notSent : sent.count socket = 0) (mem : socket ∈ pending)
      (notQueued : socket.user ∉ queue.map Prod.fst)
  | queued (notSent : sent.count socket = 0) (notPending : socket ∉ pending) (number : Nat)
      (get : r.connections.get? socket.user = some number) (mem : (socket.user, number) ∈ queue)

/-- Every socket that has been reached so far has its place in the broadcast. -/
structure Tracks (b : Broadcast) (r : Registry) : Prop where
  reached : ∀ socket, b.stayed socket → r.Reached socket b.target
  everyone : b.queue ≠ [] → b.target = .everyone
  nodup : (b.queue.map Prod.fst).Nodup
  placed : ∀ socket, b.stayed socket → Placed r b.pending b.queue b.sent socket

theorem refill_suffix (sets : UserId × Nat → Finset Socket) (pending : Finset Socket)
    (queue : List (UserId × Nat)) : (refill sets pending queue).2 <:+ queue := by
  induction queue generalizing pending with
  | nil => exact List.suffix_rfl
  | cons item queue ih =>
    unfold refill
    split
    · exact (ih (sets item)).trans (List.suffix_cons item queue)
    · exact List.suffix_rfl

/-- Where nothing is left to send, no set is left. -/
theorem refill_eq_nil {sets : UserId × Nat → Finset Socket} {pending : Finset Socket}
    {queue : List (UserId × Nat)} (h : (refill sets pending queue).1 = ∅) :
    (refill sets pending queue).2 = [] := by
  induction queue generalizing pending with
  | nil => rfl
  | cons item queue ih =>
    unfold refill at h ⊢
    split at h
    · next hempty =>
      rw [if_pos hempty]
      exact ih h
    · next hempty => exact absurd h hempty

section Placed

variable {pending : Finset Socket} {queue : List (UserId × Nat)} {sent : List Socket}
  {socket : Socket}

/-- Going on to the next set keeps every socket in its place. -/
theorem Placed.refill (h : Placed r pending queue sent socket) (hown : r.Own)
    (hnodup : (queue.map Prod.fst).Nodup)
    (hin : ∀ number, r.connections.get? socket.user = some number →
      (socket.user, number) ∈ queue → socket ∈ r.sets (socket.user, number)) :
    Placed r (refill r.sets pending queue).1 (refill r.sets pending queue).2 sent socket := by
  induction queue generalizing pending with
  | nil => exact h
  | cons item queue ih =>
    unfold Live.refill
    split
    · next hempty =>
      rw [List.map_cons, List.nodup_cons] at hnodup
      refine ih ?_ hnodup.2 fun number hget hmem => hin number hget (List.mem_cons_of_mem _ hmem)
      have hother : socket.user ≠ item.1 → socket ∉ r.sets item :=
        fun hne hmem => hne (hown item socket hmem)
      cases h with
      | sent once notPending notQueued =>
        rw [List.map_cons, List.mem_cons, not_or] at notQueued
        exact .sent once (hother notQueued.1) notQueued.2
      | pending notSent mem notQueued =>
        rw [hempty] at mem
        exact absurd mem (Finset.notMem_empty socket)
      | queued notSent notPending number get mem =>
        rcases List.mem_cons.mp mem with heq | hmem
        · refine .pending notSent ?_ ?_
          · rw [← heq]
            exact hin number get mem
          · rw [show socket.user = item.1 from congrArg Prod.fst heq]
            exact hnodup.1
        · refine .queued notSent (hother fun heq => hnodup.1 ?_) number get hmem
          rw [← heq]
          exact List.mem_map.mpr ⟨_, hmem, rfl⟩
    · exact h

/-- A send moves its socket, and no other one. -/
theorem Placed.send (h : Placed r pending queue sent socket) {next : Socket}
    (hnext : next ∈ pending) : Placed r (pending.erase next) queue (sent ++ [next]) socket := by
  have hcount : ∀ {x : Socket}, x ≠ next → (sent ++ [next]).count x = sent.count x := by
    intro x hne
    rw [List.count_append, List.count_singleton, if_neg (by simpa using hne.symm), Nat.add_zero]
  cases h with
  | sent once notPending notQueued =>
    have hne : socket ≠ next := fun heq => notPending (heq ▸ hnext)
    exact .sent ((hcount hne).trans once) (fun hmem => notPending (Finset.mem_of_mem_erase hmem))
      notQueued
  | pending notSent mem notQueued =>
    by_cases heq : socket = next
    · subst heq
      refine .sent ?_ (Finset.notMem_erase socket pending) notQueued
      rw [List.count_append, notSent, List.count_singleton_self]
    · exact .pending ((hcount heq).trans notSent) (Finset.mem_erase.mpr ⟨heq, mem⟩) notQueued
  | queued notSent notPending number get mem =>
    have hne : socket ≠ next := fun heq => notPending (heq ▸ hnext)
    exact .queued ((hcount hne).trans notSent)
      (fun hmem => notPending (Finset.mem_of_mem_erase hmem)) number get mem

/-- Where nothing is left to send, the socket was sent the message once. -/
theorem Placed.once (h : Placed r ∅ [] sent socket) : sent.count socket = 1 := by
  cases h with
  | sent once _ _ => exact once
  | pending _ mem _ => exact absurd mem (Finset.notMem_empty socket)
  | queued _ _ _ _ mem => exact absurd mem List.not_mem_nil

end Placed

/-- A socket that is in the set of some user is in the current set of its own. -/
theorem mem_of_inUser (hown : r.Own) {socket : Socket} (h : r.InUser socket) {number : Nat}
    (hget : r.connections.get? socket.user = some number) :
    socket ∈ r.sets (socket.user, number) := by
  obtain ⟨⟨user, number'⟩, hitem, hmem⟩ := h
  have huser : socket.user = user := hown _ socket hmem
  subst huser
  rw [KeyedTable.get?_eq_some_iff.mpr hitem] at hget
  exact Option.some_inj.mp hget ▸ hmem

/-- A broadcast that only listed its sets has every socket in its place. -/
theorem tracks_listed (hown : r.Own) (target : Target) (next : Socket) :
    (Broadcast.mk target next (r.listed target).1 (r.listed target).2 [] []
      fun socket => r.Reached socket target).Tracks r := by
  cases target with
  | channel name =>
    refine ⟨fun _ h => h, fun h => absurd rfl h, List.nodup_nil, fun socket h => ?_⟩
    obtain ⟨sockets, hget, hmem⟩ := h
    refine .pending List.count_nil ?_ List.not_mem_nil
    unfold Registry.listed
    dsimp only
    rw [hget]
    exact hmem
  | user id =>
    refine ⟨fun _ h => h, fun h => absurd rfl h, List.nodup_nil, fun socket h => ?_⟩
    obtain ⟨number, hget, hmem⟩ := h
    refine .pending List.count_nil ?_ List.not_mem_nil
    unfold Registry.listed Registry.connectionsOf
    dsimp only
    rw [hget]
    exact hmem
  | everyone =>
    refine ⟨fun _ h => h, fun _ => rfl, r.connections.keys_nodup, fun socket h => ?_⟩
    obtain ⟨⟨user, number⟩, hitem, hmem⟩ := h
    have huser : socket.user = user := hown _ socket hmem
    subst huser
    exact .queued List.count_nil (Finset.notMem_empty socket) number
      (KeyedTable.get?_eq_some_iff.mpr hitem) hitem

/-- Listing the next sets keeps every socket in its place. -/
theorem Tracks.placed_rest (h : b.Tracks r) (hown : r.Own) {socket : Socket}
    (hstayed : b.stayed socket) :
    Placed r (b.rest r).1 (b.rest r).2 b.sent socket := by
  refine (h.placed socket hstayed).refill hown h.nodup fun number hget hmem => ?_
  have hreached := h.reached socket hstayed
  rw [h.everyone (List.ne_nil_of_mem hmem)] at hreached
  exact mem_of_inUser hown hreached hget

theorem Tracks.send (h : b.Tracks r) (hown : r.Own) {next : Socket}
    (hnext : next ∈ (b.rest r).1) : (b.send r next).Tracks r := by
  have hsuffix := refill_suffix r.sets b.pending b.queue
  refine ⟨h.reached, fun hne => h.everyone fun hnil => hne ?_,
    h.nodup.sublist (hsuffix.sublist.map Prod.fst),
    fun socket hstayed => (h.placed_rest hown hstayed).send hnext⟩
  have hempty : b.queue <:+ [] := hnil ▸ List.suffix_rfl
  exact List.suffix_nil.mp (hsuffix.trans hempty)

/-- Every socket that stayed was sent the message once. -/
theorem Tracks.once (h : b.Tracks r) (hown : r.Own) (hrest : (b.rest r).1 = ∅) {socket : Socket}
    (hstayed : b.stayed socket) : b.sent.count socket = 1 := by
  have hplaced := h.placed_rest hown hstayed
  rw [hrest, show (b.rest r).2 = [] from refill_eq_nil hrest] at hplaced
  exact hplaced.once

theorem Tracks.hear (h : b.Tracks r) (ok : Bool) : (b.hear ok).Tracks r := by
  cases ok with
  | true => exact h
  | false => exact ⟨h.reached, h.everyone, h.nodup, h.placed⟩

/-- An operation of an endpoint leaves the sockets that stay in their places. -/
theorem Tracks.moves (h : b.Tracks r) {new : Socket → Prop} (hm : r.Moves new r')
    (hown : r'.Own) :
    { b with
      stayed := fun socket => b.stayed socket ∧ r'.Reached socket b.target }.Tracks r' := by
  refine ⟨fun _ hs => hs.2, h.everyone, h.nodup, fun socket hs => ?_⟩
  cases h.placed socket hs.1 with
  | sent once notPending notQueued => exact .sent once notPending notQueued
  | pending notSent mem notQueued => exact .pending notSent mem notQueued
  | queued notSent notPending number get mem =>
    have hreached := hs.2
    rw [h.everyone (List.ne_nil_of_mem mem)] at hreached
    obtain ⟨⟨user, number'⟩, hitem, hmem⟩ := hreached
    have huser : socket.user = user := hown _ socket hmem
    subst huser
    have hget' := KeyedTable.get?_eq_some_iff.mpr hitem
    rw [hm.same socket.user number number' get hget'] at hget'
    exact .queued notSent notPending number hget' mem

end Broadcast

/-! ### Runs -/

namespace RegistryState

variable {s s' : RegistryState}

/-- The registry survives, and every broadcast under way has its sockets in their places. -/
structure Kept (s : RegistryState) : Prop where
  survives : s.Survives
  own : s.registry.Own
  tracks : ∀ b ∈ s.running, b.Tracks s.registry

theorem survives_watch : s.watch.Survives ↔ s.Survives :=
  ⟨fun h => ⟨h.sound, h.once, h.left⟩, fun h => ⟨h.sound, h.once, h.left⟩⟩

/-- What the operations of a step keep. -/
theorem Kept.watch (h : s.Kept) (new : Socket → Prop)
    (hm : s.registry.Moves new s'.registry) (hrun : ∀ b ∈ s'.running, b.Tracks s.registry)
    (hs : s'.Survives) : s'.watch.Kept := by
  refine ⟨survives_watch.mpr hs, h.own.moves hm, fun b hb => ?_⟩
  obtain ⟨b₀, hb₀, rfl⟩ := List.mem_map.mp hb
  exact (hrun b₀ hb₀).moves hm (h.own.moves hm)

/-- A step that leaves the registry alone. -/
theorem Kept.still (h : s.Kept) (hregistry : s'.registry = s.registry)
    (hrun : ∀ b ∈ s'.running, b.Tracks s.registry) (hs : s'.Survives) : s'.watch.Kept := by
  refine h.watch (fun _ => False) ?_ hrun hs
  rw [hregistry]
  exact (Registry.Shrinks.refl s.registry).moves _

/-- An operation of an endpoint keeps the registry. -/
theorem Kept.operate (h : s.Kept) {new : Socket → Prop} {r' : Registry}
    (hm : s.registry.Moves new r') (phase : Socket → SocketPhase)
    (hgone : ∀ socket, phase socket = .gone →
      s.phase socket = .gone ∧ ¬new socket ∨ ¬r'.InUser socket ∧ ¬r'.InChannel socket) :
    { s with
      registry := r'
      phase := phase }.watch.Kept := by
  refine h.watch new hm h.tracks ⟨h.survives.sound, h.survives.once, fun socket hs => ?_⟩
  rcases hgone socket hs with ⟨hs, hnew⟩ | hout
  · have hleft := h.survives.left socket hs
    exact ⟨fun hin => (hm.inUser hin).elim hleft.1 hnew,
      fun hin => (hm.inChannel hin).elim hleft.2 hnew⟩
  · exact hout

/-- A broadcast starts. -/
theorem Kept.begin (h : s.Kept) (target : Target) (next : Socket) :
    (s.begin target next).watch.Kept := by
  have htracks := Broadcast.tracks_listed h.own target next
  unfold RegistryState.begin
  dsimp only
  split
  · next hrest =>
    refine h.still rfl h.tracks ⟨h.survives.sound, fun b hb socket hstayed => ?_, h.survives.left⟩
    rcases List.mem_append.mp hb with hb | hb
    · exact h.survives.once b hb socket hstayed
    · rw [List.mem_singleton.mp hb] at hstayed ⊢
      exact htracks.once h.own hrest hstayed
  · split
    · next hnext =>
      refine h.still rfl (fun b hb => ?_)
        ⟨h.survives.sound, h.survives.once, h.survives.left⟩
      rcases List.mem_append.mp hb with hb | hb
      · exact h.tracks b hb
      · rw [List.mem_singleton.mp hb]
        exact htracks.send h.own hnext
    · exact h.still rfl h.tracks h.survives

/-- A broadcast goes on after a send: it survives its end when it finds what it discards from. -/
theorem proceed_watch (h : s.Kept) {i : Nat} {b : Broadcast} (hb : b.Tracks s.registry)
    (next : Socket) :
    ((s.proceed i b next).Survives ↔
        ((b.rest s.registry).1 = ∅ → b.dead ≠ [] → s.registry.HasEntry b.target)) ∧
      ((s.proceed i b next).Survives → (s.proceed i b next).watch.Kept) := by
  have hrunning : ∀ b ∈ s.running.eraseIdx i, b.Tracks s.registry :=
    fun b hb => h.tracks b ((List.eraseIdx_sublist s.running i).mem hb)
  unfold proceed
  split
  · next hrest =>
    have honce : ∀ b' ∈ s.finished ++ [b], ∀ socket, b'.stayed socket →
        b'.sent.count socket = 1 := by
      intro b' hb' socket hstayed
      rcases List.mem_append.mp hb' with hb' | hb'
      · exact h.survives.once b' hb' socket hstayed
      · rw [List.mem_singleton.mp hb'] at hstayed ⊢
        exact hb.once h.own hrest hstayed
    rw [forall_prop_of_true hrest, ← Registry.exists_clean_iff]
    cases hclean : s.registry.clean b.target b.dead with
    | none =>
      refine ⟨iff_of_false (fun hs => ?_) ?_, fun hs => ?_⟩
      · exact absurd hs.sound (Nat.succ_ne_zero _)
      · rintro ⟨r', hr'⟩
        cases hr'
      · exact absurd hs.sound (Nat.succ_ne_zero _)
    | some r' =>
      have hmoves := (Registry.shrinks_clean hclean).moves fun _ => False
      have hs : ({ s with
          registry := r'
          running := s.running.eraseIdx i
          finished := s.finished ++ [b] } : RegistryState).Survives := by
        refine ⟨h.survives.sound, honce, fun socket hgone => ?_⟩
        have hleft := h.survives.left socket hgone
        exact ⟨fun hin => (hmoves.inUser hin).elim hleft.1 id,
          fun hin => (hmoves.inChannel hin).elim hleft.2 id⟩
      exact ⟨iff_of_true hs ⟨r', rfl⟩, fun _ => h.watch _ hmoves hrunning hs⟩
  · next hrest =>
    refine ⟨iff_of_true ?_ fun hempty => absurd hempty hrest, fun hs => ?_⟩
    · split
      · exact ⟨h.survives.sound, h.survives.once, h.survives.left⟩
      · exact h.survives
    · split
      · next hnext =>
        refine h.still rfl (fun b' hb' => ?_)
          ⟨h.survives.sound, h.survives.once, h.survives.left⟩
        rcases List.mem_append.mp hb' with hb' | hb'
        · exact hrunning b' hb'
        · rw [List.mem_singleton.mp hb']
          exact hb.send h.own hnext
      · exact h.still rfl h.tracks h.survives

/-- Every operation of an endpoint keeps the registry. -/
theorem Kept.act (h : s.Kept) {e : RegistryEvent} (he : ∀ i ok next, e ≠ .resume i ok next) :
    (s.act e).watch.Kept := by
  have hstill : s.watch.Kept := h.still rfl h.tracks h.survives
  have hupdate : ∀ {socket other : Socket} {phase : SocketPhase}, phase ≠ .gone →
      Function.update s.phase socket phase other = .gone →
        s.phase other = .gone ∧ other ≠ socket := by
    intro socket other phase hphase hgone
    by_cases heq : other = socket
    · rw [heq, Function.update_self] at hgone
      exact absurd hgone hphase
    · rw [Function.update_of_ne heq] at hgone
      exact ⟨hgone, heq⟩
  cases e with
  | connect socket =>
    unfold RegistryState.act
    dsimp only
    split
    · exact h.operate ((Registry.Shrinks.refl s.registry).moves fun _ => False) _
        fun other hgone => Or.inl ⟨(hupdate (by decide) hgone).1, id⟩
    · exact hstill
  | accepted socket =>
    unfold RegistryState.act
    dsimp only
    split
    · obtain ⟨r', hr', hmoves⟩ := Registry.exists_connect s.registry socket
      rw [hr']
      exact h.operate hmoves _ fun other hgone => Or.inl (hupdate (by decide) hgone)
    · exact hstill
  | subscribe socket channel =>
    unfold RegistryState.act
    dsimp only
    split
    · next hopened =>
      obtain ⟨r', hr', hmoves⟩ := Registry.exists_subscribe s.registry socket channel
      rw [hr']
      refine h.operate hmoves _ fun other hgone => Or.inl ⟨hgone, fun heq => ?_⟩
      rw [heq, hopened] at hgone
      cases hgone
    · exact hstill
  | unsubscribe socket channel =>
    unfold RegistryState.act
    dsimp only
    split
    · obtain ⟨r', hr'⟩ := Registry.exists_unsubscribe s.registry socket channel
      rw [hr']
      exact h.operate ((Registry.shrinks_unsubscribe hr').moves fun _ => False) _
        fun other hgone => Or.inl ⟨hgone, id⟩
    · exact hstill
  | disconnect socket =>
    unfold RegistryState.act
    dsimp only
    split
    · obtain ⟨r', hr', hout⟩ := Registry.exists_disconnect h.own socket
      rw [hr']
      refine h.operate ((Registry.shrinks_disconnect hr').moves fun _ => False) _
        fun other hgone => ?_
      by_cases heq : other = socket
      · rw [heq]
        exact Or.inr hout
      · dsimp only at hgone
        rw [Function.update_of_ne heq] at hgone
        exact Or.inl ⟨hgone, id⟩
    · exact hstill
  | start target next => exact h.begin target next
  | resume i ok next => exact absurd rfl (he i ok next)

/-- One step survives exactly when a broadcast that ends finds what it discards from. -/
theorem survives_step_iff (h : s.Kept) (e : RegistryEvent) :
    (s.step e).Survives ↔ s.FindsEntry e := by
  unfold step
  by_cases he : ∀ i ok next, e ≠ .resume i ok next
  · refine iff_of_true (h.act he).survives ?_
    cases e with
    | resume i ok next => exact absurd rfl (he i ok next)
    | _ => trivial
  · simp only [not_forall, not_not] at he
    obtain ⟨i, ok, next, rfl⟩ := he
    rw [survives_watch]
    unfold RegistryState.act FindsEntry
    dsimp only
    cases hb : s.running[i]? with
    | none => exact iff_of_true h.survives fun b hb' => absurd hb'.symm (Option.some_ne_none b)
    | some b =>
      have htracks := (h.tracks b (List.mem_of_getElem? hb)).hear ok
      rw [(proceed_watch h htracks next).1]
      have hsame : ((b.hear ok).rest s.registry).1 = (b.rest s.registry).1 ∧
          (b.hear ok).target = b.target := by
        cases ok <;> exact ⟨rfl, rfl⟩
      rw [hsame.1, hsame.2]
      constructor
      · rintro hfinds b' hb'
        rw [← Option.some_inj.mp hb']
        exact hfinds
      · exact fun hfinds => hfinds b rfl

/-- A step that survives keeps the invariant. -/
theorem Kept.step (h : s.Kept) (e : RegistryEvent) (hs : (s.step e).Survives) :
    (s.step e).Kept := by
  unfold RegistryState.step at hs ⊢
  by_cases he : ∀ i ok next, e ≠ .resume i ok next
  · exact h.act he
  · simp only [not_forall, not_not] at he
    obtain ⟨i, ok, next, rfl⟩ := he
    rw [survives_watch] at hs
    unfold RegistryState.act at hs ⊢
    dsimp only at hs ⊢
    cases hb : s.running[i]? with
    | none => exact h.still rfl h.tracks h.survives
    | some b =>
      rw [hb] at hs
      have htracks := (h.tracks b (List.mem_of_getElem? hb)).hear ok
      exact (proceed_watch h htracks next).2 hs

theorem kept_start : RegistryState.start.Kept where
  survives := ⟨rfl, fun _ hb => absurd hb List.not_mem_nil,
    fun _ hgone => SocketPhase.noConfusion hgone⟩
  own := fun _ _ hmem => absurd hmem (Finset.notMem_empty _)
  tracks := fun _ hb => absurd hb List.not_mem_nil

/-- The registry survives a run exactly when every broadcast that ends with a failed send still
finds the set of its target. -/
theorem survives_iff_findsEntry (events : List RegistryEvent) :
    (∀ s ∈ visited step start events, s.Survives) ↔
      Guarded step FindsEntry start events :=
  forall_visited_iff_guarded_of_kept (Q := Kept) (fun _ h => h.survives)
    (fun _ e h => survives_step_iff h e) (fun _ e h => h.step e) kept_start

/-! ### A socket that dies in a broadcast -/

/-- The only subscriber of a channel is disconnected while the channel's broadcast sends to it. -/
def lostInSend : List RegistryEvent :=
  [.connect ⟨1, 0⟩, .accepted ⟨1, 0⟩, .subscribe ⟨1, 0⟩ "dashboard",
    .start (.channel "dashboard") ⟨1, 0⟩, .disconnect ⟨1, 0⟩, .resume 0 false ⟨1, 0⟩]

/-- The broadcast raises a `KeyError` when it discards the socket. -/
theorem lostInSend_not_survives :
    ¬∀ s ∈ visited step start lostInSend, s.Survives := by
  intro h
  have hlast := (h _ (foldl_mem_visited step start lostInSend)).sound
  exact absurd hlast (by decide)

end RegistryState

end PveManager.Live
