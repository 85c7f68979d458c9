import PveManager.Core.Run
import PveManager.Live.Channels

/-!
# Browsers on the live feed

Every tab has one `WebSocketManager`: it opens sockets, opens another one when a socket
closes, and tells the server which channels its pages listen to. Tabs and server run at their
own pace. What a tab sends waits on the socket until the endpoint reads it, the network may
lose a socket at any time, and either side notices later.
-/

namespace PveManager.Live

open PveManager.Core PveManager.Api

/-! ### The client of a tab -/

/-- `readyState`. -/
inductive ReadyState
  | connecting
  | opened
  | closing
  | closed
  deriving DecidableEq

/-- Connecting or open: `connect` leaves such a socket alone. -/
def ReadyState.live : ReadyState → Bool
  | .connecting | .opened => true
  | .closing | .closed => false

/-- `type` of a message. -/
def LiveMessage.type : LiveMessage → String
  | .taskList .. => "task_list"
  | .pong => "pong"
  | .metricsUpdate .. => "metrics_update"
  | .rrdResponse .. => "rrd_response"
  | .vmStatusUpdate .. => "vm_status_update"
  | .vmDeleted .. => "vm_deleted"
  | .vmCreated .. => "vm_created"

/-- `channel` of a message. -/
def LiveMessage.channel : LiveMessage → Option String
  | .metricsUpdate channel _ => some channel
  | _ => none

/-- Handlers by the name they listen to. -/
abbrev Handlers (H : Type) := KeyedTable (Prod.fst : String × List H → String)

/-- `WebSocketManager`. Sockets and timers are numbers; the options are the default ones. -/
structure WebSocketManager (H : Type) where
  ws : Option Nat
  reconnect : Bool
  reconnectAttempts : Nat
  reconnectTimer : Option Nat
  /-- `pingTimer` is set. -/
  pinging : Bool
  subscribers : Handlers H
  typeListeners : Handlers H
  isConnected : Bool

namespace WebSocketManager

variable {H : Type} [DecidableEq H] (c : WebSocketManager H)

/-- `maxReconnectAttempts`. -/
def maxReconnectAttempts : Nat := 10

def new : WebSocketManager H where
  ws := none
  reconnect := true
  reconnectAttempts := 0
  reconnectTimer := none
  pinging := false
  subscribers := .empty
  typeListeners := .empty
  isConnected := false

/-- The channels that have a handler. -/
def channels : List String := c.subscribers.rows.map Prod.fst

/-- A page listens to the channel. -/
def listens (channel : String) : Bool := (c.subscribers.get? channel).isSome

/-- `subscribe`, with the messages for `send`. -/
def subscribe (channel : String) (handler : H) : WebSocketManager H × List ClientMessage :=
  match c.subscribers.get? channel with
  | none => ({ c with subscribers := c.subscribers.set channel [handler] }, [.subscribe channel])
  | some handlers =>
    ({ c with subscribers := c.subscribers.set channel (handlers.insert handler) }, [])

/-- The function that `subscribe` returns. -/
def unsubscribe (channel : String) (handler : H) : WebSocketManager H × List ClientMessage :=
  match c.subscribers.get? channel with
  | none => (c, [])
  | some handlers =>
    if handlers.erase handler = [] then
      ({ c with subscribers := c.subscribers.erase channel }, [.unsubscribe channel])
    else ({ c with subscribers := c.subscribers.set channel (handlers.erase handler) }, [])

/-- `onType`. -/
def onType (type : String) (handler : H) : WebSocketManager H :=
  { c with
    typeListeners :=
      c.typeListeners.set type (((c.typeListeners.get? type).getD []).insert handler) }

/-- The function that `onType` returns. -/
def offType (type : String) (handler : H) : WebSocketManager H :=
  match c.typeListeners.get? type with
  | none => c
  | some handlers =>
    { c with typeListeners := c.typeListeners.set type (handlers.erase handler) }

/-- `onopen`, with what it sends: every channel again. -/
def onopen : WebSocketManager H × List ClientMessage :=
  ({ c with isConnected := true, reconnectAttempts := 0, pinging := true },
    c.channels.map .subscribe)

/-- The handlers that `onmessage` calls, in order. -/
def onmessage (m : LiveMessage) : List H :=
  (if m.type = "" then [] else (c.typeListeners.get? m.type).getD []) ++
    match m.channel with
    | none => []
    | some channel => if channel = "" then [] else (c.subscribers.get? channel).getD []

end WebSocketManager

/-- A tab: its client and the timers that are set in it. -/
structure Tab (H : Type) where
  client : WebSocketManager H
  timers : List Nat
  nextTimer : Nat

namespace Tab

variable {H : Type} (t : Tab H)

def new : Tab H := ⟨.new, [], 0⟩

/-- `tryReconnect`. -/
def tryReconnect : Tab H :=
  if t.client.reconnect = false ∨
      WebSocketManager.maxReconnectAttempts ≤ t.client.reconnectAttempts then t
  else
    { client :=
        { t.client with
          reconnectAttempts := t.client.reconnectAttempts + 1
          reconnectTimer := some t.nextTimer }
      timers := t.timers ++ [t.nextTimer]
      nextTimer := t.nextTimer + 1 }

/-- `onclose`. -/
def onclose : Tab H :=
  { t with client := { t.client with isConnected := false, pinging := false } }.tryReconnect

/-- `disconnect`, without the call of `close`. -/
def disconnect : Tab H :=
  { t with
    client :=
      { t.client with
        ws := none
        reconnect := false
        reconnectTimer := none
        pinging := false
        isConnected := false }
    timers :=
      match t.client.reconnectTimer with
      | none => t.timers
      | some timer => t.timers.erase timer }

end Tab

/-! ### Sockets -/

/-- Where the endpoint of a socket stands. -/
inductive Endpoint
  /-- The request is on its way. -/
  | waiting
  /-- The request was turned down. -/
  | refused
  /-- `accept` was sent. -/
  | accepted
  /-- The socket is registered, and the endpoint reads its messages. -/
  | serving
  | over
  deriving DecidableEq

/-- What a restart of the server leaves of an endpoint. -/
def Endpoint.ended : Endpoint → Endpoint
  | .waiting | .refused => .refused
  | .accepted | .serving | .over => .over

/-- A socket with both its ends. -/
structure Link (T : Type) where
  tab : T
  /-- Whom the token of the tab names. -/
  user : UserId
  readyState : ReadyState
  /-- What was sent and not read, the oldest first. -/
  upstream : List ClientMessage
  /-- The network has lost the connection. -/
  lost : Bool
  endpoint : Endpoint

namespace Link

variable {T : Type} (l : Link T)

/-- The server's end fails from now on. -/
def Broken : Prop := l.lost = true ∨ l.readyState = .closing ∨ l.readyState = .closed

instance : Decidable l.Broken := inferInstanceAs (Decidable (_ ∨ _))

/-- `ws.close()`. -/
def close : Link T :=
  { l with readyState := if l.readyState = .closed then .closed else .closing }

/-- `ws.send()`: only an open socket takes messages. -/
def send (messages : List ClientMessage) : Link T :=
  if l.readyState = .opened then { l with upstream := l.upstream ++ messages } else l

end Link

/-! ### The system -/

/-- The server, the tabs, and the sockets that were made. -/
structure LiveSystem (T H : Type) where
  feed : Feed
  tabs : T → Tab H
  links : Nat → Option (Link T)
  made : Nat

/-- What happens. -/
inductive LiveStep (T H : Type)
  /-- A page calls `connect`; the token names the user. -/
  | connect (tab : T) (user : UserId)
  /-- The endpoint accepts the socket of an active user. -/
  | accept (n : Nat) (w : World)
  /-- The endpoint goes on after `accept`. -/
  | register (n : Nat) (w : World)
  | opened (n : Nat)
  /-- The tab learns that the socket goes. -/
  | closing (n : Nat)
  | closed (n : Nat)
  /-- The network loses the socket. -/
  | lose (n : Nat)
  /-- The endpoint reads a message. -/
  | read (n : Nat) (w : World)
  /-- A broadcast fails to send on the socket: of one channel, or to everybody. -/
  | sendFailed (n : Nat) (channel : Option String)
  /-- The endpoint ends. -/
  | gone (n : Nat)
  | timer (tab : T) (timer : Nat) (user : UserId)
  | disconnect (tab : T)
  | subscribe (tab : T) (channel : String) (handler : H)
  | unsubscribe (tab : T) (channel : String) (handler : H)
  | onType (tab : T) (type : String) (handler : H)
  | offType (tab : T) (type : String) (handler : H)
  | ping (tab : T)
  /-- A round of a loop or a job of the server. -/
  | round (act : Act) (w : World)
  /-- The server starts anew. -/
  | restart

/-- A round of a loop or a job. -/
def Act.isRound : Act → Bool
  | .connect .. | .message .. | .disconnect .. => false
  | _ => true

namespace LiveSystem

variable {T H : Type} [DecidableEq T] [DecidableEq H] (s : LiveSystem T H)

/-- Nobody has connected. -/
def start : LiveSystem T H := ⟨.start, fun _ => .new, fun _ => none, 0⟩

/-- Change the socket of a number. -/
def onLink (n : Nat) (f : Link T → Link T) : LiveSystem T H :=
  { s with links := Function.update s.links n ((s.links n).map f) }

/-- Change a tab. -/
def onTab (tab : T) (f : Tab H → Tab H) : LiveSystem T H :=
  { s with tabs := Function.update s.tabs tab (f (s.tabs tab)) }

/-- Change the registry. -/
def onManager (f : ConnectionManager → ConnectionManager) : LiveSystem T H :=
  { s with feed := { s.feed with manager := f s.feed.manager } }

/-- The `readyState` of the socket of a tab. -/
def wsState (tab : T) : Option ReadyState :=
  (s.tabs tab).client.ws.bind fun n => (s.links n).map Link.readyState

/-- `send`. -/
def send (tab : T) (messages : List ClientMessage) : LiveSystem T H :=
  match (s.tabs tab).client.ws with
  | none => s
  | some n => s.onLink n (Link.send · messages)

/-- A method of the client, then what it sends. -/
def call (tab : T)
    (method : WebSocketManager H → WebSocketManager H × List ClientMessage) : LiveSystem T H :=
  (s.onTab tab fun t => { t with client := (method t.client).1 }).send tab
    (method (s.tabs tab).client).2

/-- The socket of a call of `new WebSocket`. -/
def newLink (tab : T) (user : UserId) : Link T := ⟨tab, user, .connecting, [], false, .waiting⟩

/-- `connect` of the client. -/
def connect (tab : T) (user : UserId) : LiveSystem T H :=
  if (s.wsState tab).any ReadyState.live = true then s
  else
    { s with
      tabs := Function.update s.tabs tab
        { s.tabs tab with client := { (s.tabs tab).client with ws := some s.made } }
      links := Function.update s.links s.made (some (newLink tab user))
      made := s.made + 1 }

/-- The client closes its socket. -/
def closeWs (tab : T) : LiveSystem T H :=
  match (s.tabs tab).client.ws with
  | none => s
  | some n => s.onLink n Link.close

/-- A step at a socket, where it is possible. -/
def atLink (n : Nat) (possible : Link T → Bool) (f : Link T → LiveSystem T H) :
    LiveSystem T H :=
  match s.links n with
  | none => s
  | some l => if possible l = true then f l else s

/-- The endpoint registers the socket and sends the first snapshot. -/
def register (n : Nat) (w : World) (l : Link T) : LiveSystem T H :=
  { s with
    feed := { s.feed with manager := s.feed.manager.connect ⟨l.user, n⟩ }.send ⟨l.user, n⟩
      (.taskList (taskSnapshot (w.tasks l.user))) }.onLink n fun l => { l with endpoint := .serving }

/-- The endpoint dispatches the oldest message. -/
def read (n : Nat) (w : World) (l : Link T) : LiveSystem T H :=
  match l.upstream with
  | [] => s
  | m :: rest =>
    { s with feed := s.feed.dispatch w ⟨l.user, n⟩ m }.onLink n fun l => { l with upstream := rest }

/-- What a broadcast does to the registry when a send fails. -/
def dropDead (socket : Socket) : Option String → ConnectionManager → ConnectionManager
  | none, m => { m with connections := m.connections.erase socket }
  | some channel, m => m.unsubscribe socket channel

/-- One step. -/
def step (toInt : String → Option Int) : LiveStep T H → LiveSystem T H
  | .connect tab user => s.connect tab user
  | .accept n w =>
    s.atLink n (fun l => decide (l.endpoint = .waiting)) fun l =>
      s.onLink n fun l' =>
        { l' with endpoint := if l.user ∈ w.users then .accepted else .refused }
  | .register n w => s.atLink n (fun l => decide (l.endpoint = .accepted)) (s.register n w)
  | .opened n =>
    s.atLink n (fun l => decide (l.readyState = .connecting ∧ l.endpoint ≠ .waiting ∧
        l.endpoint ≠ .refused)) fun l =>
      (s.onLink n fun l => { l with readyState := .opened }).call l.tab WebSocketManager.onopen
  | .closing n => s.onLink n Link.close
  | .closed n =>
    s.atLink n (fun l => decide (l.readyState ≠ .closed)) fun l =>
      (s.onLink n fun l => { l with readyState := .closed }).onTab l.tab Tab.onclose
  | .lose n => s.onLink n fun l => { l with lost := true }
  | .read n w => s.atLink n (fun l => decide (l.endpoint = .serving)) (s.read n w)
  | .sendFailed n channel =>
    s.atLink n (fun l => decide l.Broken) fun l => s.onManager (dropDead ⟨l.user, n⟩ channel)
  | .gone n =>
    s.atLink n (fun l => decide (l.endpoint = .serving ∧ l.Broken)) fun l =>
      (s.onManager (·.disconnect ⟨l.user, n⟩)).onLink n fun l => { l with endpoint := .over }
  | .timer tab timer user =>
    if timer ∈ (s.tabs tab).timers then
      (s.onTab tab fun t => { t with timers := t.timers.erase timer }).connect tab user
    else s
  | .disconnect tab => (s.closeWs tab).onTab tab Tab.disconnect
  | .subscribe tab channel handler => s.call tab (·.subscribe channel handler)
  | .unsubscribe tab channel handler => s.call tab (·.unsubscribe channel handler)
  | .onType tab type handler =>
    s.onTab tab fun t => { t with client := t.client.onType type handler }
  | .offType tab type handler =>
    s.onTab tab fun t => { t with client := t.client.offType type handler }
  | .ping tab => if (s.tabs tab).client.pinging = true then s.send tab [.ping] else s
  | .round act w =>
    if act.isRound = true then { s with feed := s.feed.step toInt ⟨act, w⟩ } else s
  | .restart =>
    { s with
      feed := .start
      links := fun n => (s.links n).map fun l =>
        { l with endpoint := l.endpoint.ended, lost := true } }

end LiveSystem

end PveManager.Live
