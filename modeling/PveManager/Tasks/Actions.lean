import PveManager.Api.Handler
import PveManager.Tasks.Queue

/-!
# The actions of bulk operations

The executor of a bulk operation takes the return of a client method for success and an
exception for failure. The methods that start and stop guests return nothing for a failure,
so they never raise; those that delete and migrate raise what Proxmox raises.
-/

namespace PveManager.Tasks

open PveManager.Core PveManager.Api

/-! ### The client -/

/-- A request to Proxmox about a guest. -/
inductive GuestRequest
  | current (container : Bool) (node : String) (vmid : Vmid)
  /-- The removal from the high availability. -/
  | unmanage (container : Bool) (vmid : Vmid)
  | power (container : Bool) (node : String) (vmid : Vmid) (command : String)
    (params : List (String × Json))
  | migrate (container : Bool) (node : String) (vmid : Vmid) (params : List (String × Json))
  | delete (container : Bool) (node : String) (vmid : Vmid) (params : List (String × Json))

/-- A request with what Proxmox answers, or with what is raised. -/
abbrev Exchange := GuestRequest × Except String Json

/-- What a method has sent, and what it returns or raises. -/
structure Performed where
  sent : List Exchange
  result : Except String Json

/-- `ProxmoxClient`. -/
structure GuestClient where
  /-- `self.proxmox` is there. -/
  connected : Bool
  answer : GuestRequest → Except String Json

/-- `result if isinstance(result, str) else None`. -/
def upidOf : Json → Json
  | .text upid => .text upid
  | _ => .null

/-- `ha_status.get('ha', {}).get('managed')`; what raises there is not managed. -/
def managed (status : Json) : Bool :=
  ((status.get? "ha").bind fun ha => ha.get? "managed").any Json.truthy

namespace GuestClient

variable (c : GuestClient) (container : Bool) (node : String) (vmid : Vmid)

def exchange (request : GuestRequest) : Exchange := (request, c.answer request)

/-- A power command; what is raised is logged, and nothing is returned. -/
def powerMethod (command : String) (params : List (String × Json)) : Performed :=
  let request := GuestRequest.power container node vmid command params
  if c.connected = false then ⟨[], .ok .null⟩
  else ⟨[c.exchange request], .ok ((c.answer request).toOption.elim .null upidOf)⟩

def startVm : Performed := c.powerMethod false node vmid "start" []

def stopVm : Performed := c.powerMethod false node vmid "stop" []

def restartVm : Performed := c.powerMethod false node vmid "reboot" []

def shutdownVm (timeout : Int) : Performed :=
  c.powerMethod false node vmid "shutdown" [("timeout", .number timeout)]

def startContainer : Performed := c.powerMethod true node vmid "start" []

def stopContainer : Performed := c.powerMethod true node vmid "stop" []

def restartContainer : Performed := c.powerMethod true node vmid "reboot" []

def shutdownContainer (timeout : Int) : Performed :=
  c.powerMethod true node vmid "shutdown" [("timeout", .number timeout)]

/-- The check before a deletion; whatever is raised in it is passed over. -/
def leaveHa : List Exchange :=
  let current := GuestRequest.current container node vmid
  c.exchange current :: if (c.answer current).toOption.any managed then
    [c.exchange (.unmanage container vmid)] else []

def deleteMethod (force : Bool) : Performed :=
  let request := GuestRequest.delete container node vmid
    (("purge", .number 1) :: if force then [("force", .number 1)] else [])
  if c.connected = false then ⟨[], .error "Proxmox client not connected"⟩
  else
    ⟨c.leaveHa container node vmid ++ [c.exchange request],
      (c.answer request).map fun result => if result.truthy then result else .bool true⟩

def deleteVm (force : Bool) : Performed := c.deleteMethod false node vmid force

def deleteContainer (force : Bool) : Performed := c.deleteMethod true node vmid force

/-- A migration; what is raised is raised again. -/
def migrateMethod (params : List (String × Json)) : Performed :=
  let request := GuestRequest.migrate container node vmid params
  if c.connected = false then ⟨[], .ok .null⟩
  else
    ⟨[c.exchange request],
      ((c.answer request).mapError fun e => "Proxmox: " ++ e).map upidOf⟩

def migrateVm (targetNode : String) (targetStorage : Option String)
    (online withLocalDisks : Bool) : Performed :=
  c.migrateMethod false node vmid
    (("target", .text targetNode) ::
      ((if online then [("online", .number 1)] else []) ++
        (if withLocalDisks then [("with-local-disks", .number 1)] else []) ++
        if truthy targetStorage then [("targetstorage", .text (targetStorage.getD ""))] else []))

def migrateContainer (targetNode : String) (targetStorage : Option String) (online : Bool) :
    Performed :=
  c.migrateMethod true node vmid
    (("target", .text targetNode) ::
      ((if truthy targetStorage then [("target-storage", .text (targetStorage.getD ""))] else []) ++
        if online then [("online", .number 1)] else []))

/-- The body of `_execute_vm_action`. -/
def perform (call : VmCall) : Performed :=
  match call.container, call.action with
  | true, "start" => c.startContainer call.node call.vmid
  | true, "stop" => c.stopContainer call.node call.vmid
  | true, "restart" => c.restartContainer call.node call.vmid
  | true, "shutdown" => c.shutdownContainer call.node call.vmid 60
  | true, "delete" => c.deleteContainer call.node call.vmid false
  | true, "migrate" =>
    if truthy call.targetNode = false then ⟨[], .error "target_node is required"⟩
    else c.migrateContainer call.node call.vmid (call.targetNode.getD "") none call.online
  | false, "start" => c.startVm call.node call.vmid
  | false, "stop" => c.stopVm call.node call.vmid
  | false, "restart" => c.restartVm call.node call.vmid
  | false, "shutdown" => c.shutdownVm call.node call.vmid 60
  | false, "delete" => c.deleteVm call.node call.vmid false
  | false, "migrate" =>
    if truthy call.targetNode = false then ⟨[], .error "target_node is required"⟩
    else c.migrateVm call.node call.vmid (call.targetNode.getD "") none call.online true
  | _, action => ⟨[], .error s!"Unknown action: {action}"⟩

end GuestClient

/-! ### What the processor finds -/

/-- What stands behind one guest when its turn comes. -/
structure GuestWorld where
  /-- The client that was built before, and whether Proxmox answers it. -/
  cached : Option Bool
  /-- The row of the server. -/
  server : Option ProxmoxServer
  /-- `ProxmoxClient.from_server`: whether the new client has a session. -/
  built : Except String Bool
  answer : GuestRequest → Except String Json

/-- The call for a guest. -/
def BulkItem.call (item : BulkItem) (action : String) : VmCall :=
  ⟨decide (item.vmType = "lxc"), action, item.node, item.vmid, item.targetNode, item.online⟩

namespace GuestWorld

variable (w : GuestWorld) (action : String) (item : BulkItem)

/-- `_get_proxmox_client`; the constructor of a client does not raise when it cannot connect. -/
def getProxmoxClient : Option GuestClient :=
  if w.cached = some true then some ⟨true, w.answer⟩
  else
    (w.server.filter hasCredentials).bind fun _ =>
      w.built.toOption.map fun connected => ⟨connected, w.answer⟩

/-- What the executor is told of the client. -/
def toItemWorld : ItemWorld where
  connects := w.getProxmoxClient.isSome
  answer call :=
    (w.getProxmoxClient.elim (.ok .null) fun c => (c.perform call).result).map fun _ => ()

/-- What is sent for a guest. -/
def exchanges : List Exchange :=
  w.getProxmoxClient.elim [] fun c => (c.perform (item.call action)).sent

end GuestWorld

/-! ### Truthful results -/

/-- The commands of Proxmox for the actions that start and stop guests. -/
def powerCommands : List (String × String) :=
  [("start", "start"), ("stop", "stop"), ("restart", "reboot"), ("shutdown", "shutdown")]

/-- The parameters that come with them. -/
def powerParams (action : String) : List (String × Json) :=
  if action = "shutdown" then [("timeout", .number 60)] else []

/-- The request asks Proxmox for the action on the guest. -/
def VmCall.Asks (call : VmCall) : GuestRequest → Prop
  | .power container node vmid command _ =>
    (container = call.container ∧ node = call.node ∧ vmid = call.vmid) ∧
      powerCommands.lookup call.action = some command
  | .migrate container node vmid params =>
    (container = call.container ∧ node = call.node ∧ vmid = call.vmid) ∧
      call.action = "migrate" ∧ ("target", .text (call.targetNode.getD "")) ∈ params
  | .delete container node vmid _ =>
    (container = call.container ∧ node = call.node ∧ vmid = call.vmid) ∧ call.action = "delete"
  | .current _ _ _ => False
  | .unmanage _ _ => False

/-- The result says success only where Proxmox accepted the action, and a request that failed is
a failure with its error. -/
structure GuestWorld.Truthful (w : GuestWorld) (action : String) (item : BulkItem)
    (result : ItemResult) : Prop where
  accepted : result.success = true → ∃ request value, (item.call action).Asks request ∧
    (request, .ok value) ∈ w.exchanges action item
  failed : ∀ request error, (item.call action).Asks request →
    (request, .error error) ∈ w.exchanges action item →
      result.success = false ∧ error.toList <:+: result.message.toList

/-- The executor gets to hear of a failure: the client has a session where its method returns
without one, and Proxmox accepts a command whose refusal the method only logs. -/
structure GuestClient.Hears (c : GuestClient) (call : VmCall) : Prop where
  power : ∀ command, powerCommands.lookup call.action = some command → c.connected = true ∧
    ∃ value, c.answer (.power call.container call.node call.vmid command
      (powerParams call.action)) = .ok value
  migrate : call.action = "migrate" → truthy call.targetNode = true → c.connected = true

/-- The same for every client that the processor can have. -/
def GuestWorld.Heard (w : GuestWorld) (action : String) (item : BulkItem) : Prop :=
  ∀ c, w.getProxmoxClient = some c → c.Hears (item.call action)

/-! ### What a method does -/

section Methods

variable {c : GuestClient} {call : VmCall}

/-- What `_execute_vm_action` comes down to. -/
inductive GuestClient.Does (c : GuestClient) (call : VmCall) : Performed → Prop
  | power (command : String) (hcommand : powerCommands.lookup call.action = some command) :
    Does c call (c.powerMethod call.container call.node call.vmid command (powerParams call.action))
  | delete (haction : call.action = "delete") :
    Does c call (c.deleteMethod call.container call.node call.vmid false)
  | migrate (haction : call.action = "migrate") (htarget : truthy call.targetNode = true)
    (params : List (String × Json))
    (hparams : ("target", .text (call.targetNode.getD "")) ∈ params) :
    Does c call (c.migrateMethod call.container call.node call.vmid params)
  | noTarget (haction : call.action = "migrate") (htarget : truthy call.targetNode = false) :
    Does c call ⟨[], .error "target_node is required"⟩
  | unknown
    (haction : call.action ∉ ["start", "stop", "restart", "shutdown", "delete", "migrate"]) :
    Does c call ⟨[], .error s!"Unknown action: {call.action}"⟩

/-- The actions that have a command are among those the executor knows. -/
theorem mem_of_powerCommands {action command : String}
    (h : powerCommands.lookup action = some command) :
    action ∈ ["start", "stop", "restart", "shutdown", "delete", "migrate"] ∧
      action ≠ "migrate" := by
  have hall : ∀ p ∈ powerCommands,
      p.1 ∈ ["start", "stop", "restart", "shutdown", "delete", "migrate"] ∧ p.1 ≠ "migrate" := by
    decide
  obtain ⟨before, after, heq, -⟩ := List.lookup_eq_some_iff.mp h
  refine hall (action, command) ?_
  rw [heq]
  exact List.mem_append_right _ List.mem_cons_self

/-- Virtual machines and containers are treated alike. -/
theorem GuestClient.does_perform (c : GuestClient) (call : VmCall) :
    c.Does call (c.perform call) := by
  obtain ⟨container, action, node, vmid, targetNode, online⟩ := call
  have hother : ∀ known, (container = true → action = known → False) →
      (container = false → action = known → False) → action ≠ known := by
    intro known htrue hfalse heq
    cases container with
    | true => exact htrue rfl heq
    | false => exact hfalse rfl heq
  unfold GuestClient.perform
  dsimp only
  split
  · exact .power "start" rfl
  · exact .power "stop" rfl
  · exact .power "reboot" rfl
  · exact .power "shutdown" rfl
  · exact .delete rfl
  · split
    · rename_i htarget
      exact .noTarget rfl htarget
    · rename_i htarget
      exact .migrate rfl (eq_true_of_ne_false htarget) _ List.mem_cons_self
  · exact .power "start" rfl
  · exact .power "stop" rfl
  · exact .power "reboot" rfl
  · exact .power "shutdown" rfl
  · exact .delete rfl
  · split
    · rename_i htarget
      exact .noTarget rfl htarget
    · rename_i htarget
      exact .migrate rfl (eq_true_of_ne_false htarget) _ List.mem_cons_self
  · rename_i hstart hstop hrestart hshutdown hdelete hmigrate hstart' hstop' hrestart' hshutdown'
      hdelete' hmigrate'
    refine .unknown ?_
    simp only [List.mem_cons, List.not_mem_nil, or_false, not_or]
    exact ⟨hother _ hstart hstart', hother _ hstop hstop', hother _ hrestart hrestart',
      hother _ hshutdown hshutdown', hother _ hdelete hdelete', hother _ hmigrate hmigrate'⟩

/-- The return of a method means what the executor takes it for. -/
structure Performed.Truthful (p : Performed) (call : VmCall) : Prop where
  accepted : ∀ value, p.result = .ok value →
    ∃ request value, call.Asks request ∧ (request, .ok value) ∈ p.sent
  failed : ∀ request error, call.Asks request → (request, .error error) ∈ p.sent →
    ∃ message, p.result = .error message ∧ error.toList <:+: message.toList

/-- Where nothing was sent, only an exception is truthful. -/
theorem Performed.truthful_nil_iff {result : Except String Json} :
    (Performed.mk [] result).Truthful call ↔ ∃ message, result = .error message := by
  constructor
  · intro h
    cases hresult : result with
    | error message => exact ⟨message, rfl⟩
    | ok value =>
      obtain ⟨_, _, _, hmem⟩ := h.accepted value hresult
      exact absurd hmem List.not_mem_nil
  · rintro ⟨message, hmessage⟩
    refine ⟨fun value hvalue => ?_, fun _ _ _ hmem => absurd hmem List.not_mem_nil⟩
    exact nomatch hvalue.symm.trans hmessage

/-- Where the last request asks for the action and no other does, its failure must be raised. -/
theorem Performed.truthful_append_iff {before : List Exchange} {request : GuestRequest}
    {answer result : Except String Json} (hasks : call.Asks request)
    (hbefore : ∀ exchange ∈ before, ¬call.Asks exchange.1) :
    (Performed.mk (before ++ [(request, answer)]) result).Truthful call ↔
      ∀ error, answer = .error error →
        ∃ message, result = .error message ∧ error.toList <:+: message.toList := by
  have hmem : ∀ request' answer', call.Asks request' →
      (request', answer') ∈ before ++ [(request, answer)] →
        request' = request ∧ answer' = answer := by
    intro request' answer' hasks' hmem
    rcases List.mem_append.mp hmem with hmem | hmem
    · exact absurd hasks' (hbefore _ hmem)
    · exact Prod.mk.inj (List.mem_singleton.mp hmem)
  have hlast : (request, answer) ∈ before ++ [(request, answer)] :=
    List.mem_append_right _ (List.mem_singleton_self _)
  constructor
  · rintro h error rfl
    exact h.failed request error hasks hlast
  · intro h
    refine ⟨fun value hvalue => ?_, fun request' error hasks' hmem' => ?_⟩
    · cases answer with
      | ok value' => exact ⟨request, value', hasks, hlast⟩
      | error error =>
        obtain ⟨message, hmessage, -⟩ := h error rfl
        exact nomatch hvalue.symm.trans hmessage
    · exact h error (hmem request' (.error error) hasks' hmem').2.symm

/-- A power command is truthful where it was sent and accepted. -/
theorem truthful_powerMethod_iff {command : String}
    (hcommand : powerCommands.lookup call.action = some command) :
    (c.powerMethod call.container call.node call.vmid command
        (powerParams call.action)).Truthful call ↔
      c.connected = true ∧ ∃ value, c.answer (.power call.container call.node call.vmid command
        (powerParams call.action)) = .ok value := by
  have hasks : call.Asks (.power call.container call.node call.vmid command
      (powerParams call.action)) := ⟨⟨rfl, rfl, rfl⟩, hcommand⟩
  unfold GuestClient.powerMethod
  dsimp only
  split
  · rename_i hnot
    rw [Performed.truthful_nil_iff]
    exact iff_of_false nofun fun h => by rw [hnot] at h; cases h.1
  · rename_i hconnected
    rw [← List.nil_append [c.exchange _], GuestClient.exchange,
      Performed.truthful_append_iff hasks fun _ h => absurd h List.not_mem_nil,
      and_iff_right (eq_true_of_ne_false hconnected)]
    constructor
    · intro h
      cases hanswer : c.answer _ with
      | ok value => exact ⟨value, rfl⟩
      | error error =>
        obtain ⟨message, hmessage, -⟩ := h error hanswer
        cases hmessage
    · rintro ⟨value, hvalue⟩ error herror
      exact nomatch hvalue.symm.trans herror

/-- The check before a deletion does not ask for the deletion. -/
theorem not_asks_of_mem_leaveHa {exchange : Exchange}
    (h : exchange ∈ c.leaveHa call.container call.node call.vmid) : ¬call.Asks exchange.1 := by
  unfold GuestClient.leaveHa at h
  dsimp only at h
  rcases List.mem_cons.mp h with rfl | h
  · exact id
  · split at h
    · rw [List.mem_singleton] at h
      exact h ▸ id
    · exact absurd h List.not_mem_nil

/-- A deletion raises whatever is raised by its request. -/
theorem truthful_deleteMethod (haction : call.action = "delete") (force : Bool) :
    (c.deleteMethod call.container call.node call.vmid force).Truthful call := by
  have hasks : call.Asks (.delete call.container call.node call.vmid
      (("purge", .number 1) :: if force then [("force", .number 1)] else [])) :=
    ⟨⟨rfl, rfl, rfl⟩, haction⟩
  unfold GuestClient.deleteMethod
  dsimp only
  split
  · exact Performed.truthful_nil_iff.mpr ⟨_, rfl⟩
  · rw [GuestClient.exchange,
      Performed.truthful_append_iff hasks fun _ h => not_asks_of_mem_leaveHa h]
    intro error herror
    rw [herror]
    exact ⟨error, rfl, List.infix_refl _⟩

/-- So does a migration, but one that cannot be sent returns. -/
theorem truthful_migrateMethod_iff (haction : call.action = "migrate")
    {params : List (String × Json)}
    (hparams : ("target", .text (call.targetNode.getD "")) ∈ params) :
    (c.migrateMethod call.container call.node call.vmid params).Truthful call ↔
      c.connected = true := by
  have hasks : call.Asks (.migrate call.container call.node call.vmid params) :=
    ⟨⟨rfl, rfl, rfl⟩, haction, hparams⟩
  unfold GuestClient.migrateMethod
  dsimp only
  split
  · rename_i hnot
    rw [Performed.truthful_nil_iff]
    exact iff_of_false nofun fun h => by rw [hnot] at h; cases h
  · rename_i hconnected
    rw [← List.nil_append [c.exchange _], GuestClient.exchange,
      Performed.truthful_append_iff hasks fun _ h => absurd h List.not_mem_nil]
    refine iff_of_true (fun error herror => ?_) (eq_true_of_ne_false hconnected)
    rw [herror]
    refine ⟨"Proxmox: " ++ error, rfl, ?_⟩
    rw [String.toList_append]
    exact (List.suffix_append _ _).isInfix

/-- A call returns truthfully exactly when its failure would be heard of. -/
theorem truthful_perform_iff (c : GuestClient) (call : VmCall) :
    (c.perform call).Truthful call ↔ c.Hears call := by
  have hdoes := c.does_perform call
  generalize c.perform call = p at hdoes
  cases hdoes with
  | power command hcommand =>
    rw [truthful_powerMethod_iff hcommand]
    constructor
    · intro h
      refine ⟨fun command' hcommand' => ?_, fun haction _ => ?_⟩
      · have hsame : command = command' := Option.some.inj (hcommand.symm.trans hcommand')
        exact hsame ▸ h
      · exact absurd haction (mem_of_powerCommands hcommand).2
    · intro h
      exact h.power command hcommand
  | delete haction =>
    refine iff_of_true (truthful_deleteMethod haction false) ⟨fun command hcommand => ?_, ?_⟩
    · rw [haction] at hcommand
      exact nomatch hcommand
    · intro hmigrate
      rw [haction] at hmigrate
      exact absurd hmigrate (by decide)
  | migrate haction htarget params hparams =>
    rw [truthful_migrateMethod_iff haction hparams]
    constructor
    · intro hconnected
      refine ⟨fun command hcommand => ?_, fun _ _ => hconnected⟩
      exact absurd haction (mem_of_powerCommands hcommand).2
    · intro h
      exact h.migrate haction htarget
  | noTarget haction htarget =>
    refine iff_of_true (Performed.truthful_nil_iff.mpr ⟨_, rfl⟩)
      ⟨fun command hcommand => ?_, fun _ htarget' => ?_⟩
    · exact absurd haction (mem_of_powerCommands hcommand).2
    · exact absurd (htarget.symm.trans htarget') Bool.false_ne_true
  | unknown haction =>
    refine iff_of_true (Performed.truthful_nil_iff.mpr ⟨_, rfl⟩)
      ⟨fun command hcommand => ?_, fun hmigrate => ?_⟩
    · exact absurd (mem_of_powerCommands hcommand).1 haction
    · rw [hmigrate] at haction
      exact absurd (by decide) haction

end Methods

/-! ### The result of a guest -/

section Items

variable {w : GuestWorld} {action : String} {item : BulkItem}

/-- What the executor makes of a return or an exception. -/
def outcomeOf (result : Except String Json) : Bool × String :=
  match result with
  | .ok _ => (true, "OK")
  | .error e => (false, e)

theorem outcomeOf_success {result : Except String Json} :
    (outcomeOf result).1 = true ↔ ∃ value, result = .ok value := by
  cases result with
  | ok value => exact iff_of_true rfl ⟨value, rfl⟩
  | error e => exact iff_of_false Bool.false_ne_true nofun

theorem outcomeOf_failure {result : Except String Json} {names : String → Prop} :
    (outcomeOf result).1 = false ∧ names (outcomeOf result).2 ↔
      ∃ message, result = .error message ∧ names message := by
  cases result with
  | ok value => exact iff_of_false (fun h => nomatch h.1) nofun
  | error e =>
    constructor
    · intro h
      exact ⟨e, rfl, h.2⟩
    · rintro ⟨message, ⟨⟩, h⟩
      exact ⟨rfl, h⟩

/-- The executor tells success from failure by the exception alone. -/
theorem executeVmAction_toItemWorld {c : GuestClient} (hc : w.getProxmoxClient = some c) :
    executeVmAction w.toItemWorld action item =
      outcomeOf (c.perform (item.call action)).result := by
  have hanswer : w.toItemWorld.answer (item.call action) =
      (c.perform (item.call action)).result.map fun _ => () := by
    unfold GuestWorld.toItemWorld
    rw [hc]
    rfl
  have hcall : item.call action = ⟨decide (item.vmType = "lxc"), action, item.node, item.vmid,
      item.targetNode, item.online⟩ := rfl
  have hdoes := c.does_perform (item.call action)
  have hpass : action ∈ ["start", "stop", "restart", "shutdown", "delete", "migrate"] →
      ¬(action = "migrate" ∧ truthy item.targetNode = false) →
      executeVmAction w.toItemWorld action item =
        outcomeOf (c.perform (item.call action)).result := by
    intro hknown htarget
    unfold executeVmAction
    dsimp only
    rw [if_neg (not_not_intro hknown), if_neg htarget, ← hcall, hanswer]
    cases (c.perform (item.call action)).result with
    | ok value => rfl
    | error e => rfl
  generalize c.perform (item.call action) = p at hdoes hpass
  cases hdoes with
  | power command hcommand =>
    obtain ⟨hknown, hne⟩ := mem_of_powerCommands hcommand
    exact hpass hknown fun h => hne h.1
  | delete haction =>
    have hdelete : action = "delete" := haction
    subst hdelete
    exact hpass (by decide) fun h => absurd h.1 (by decide)
  | migrate haction htarget params hparams =>
    have hmigrate : action = "migrate" := haction
    subst hmigrate
    exact hpass (by decide) fun h => absurd (h.2.symm.trans htarget) Bool.false_ne_true
  | noTarget haction htarget =>
    have hmigrate : action = "migrate" := haction
    subst hmigrate
    unfold executeVmAction
    dsimp only
    rw [if_neg (not_not_intro (by decide)), if_pos ⟨rfl, htarget⟩]
    rfl
  | unknown haction =>
    have hunknown : action ∉ ["start", "stop", "restart", "shutdown", "delete", "migrate"] :=
      haction
    unfold executeVmAction
    dsimp only
    rw [if_pos hunknown]
    rfl

/-- The result of a guest is what its method returned, taken as the executor does. -/
theorem processItem_of_client {c : GuestClient} (hc : w.getProxmoxClient = some c) :
    processItem w.toItemWorld action item =
      ⟨item.serverId, item.vmid, item.name, (outcomeOf (c.perform (item.call action)).result).1,
        (outcomeOf (c.perform (item.call action)).result).2⟩ := by
  have hconnects : w.toItemWorld.connects = true := by
    unfold GuestWorld.toItemWorld
    rw [hc]
    rfl
  unfold processItem
  dsimp only
  rw [if_pos hconnects, executeVmAction_toItemWorld hc]

/-- Without a client nothing is sent, and the guest fails. -/
theorem truthful_of_noClient (hc : w.getProxmoxClient = none) :
    w.Truthful action item (processItem w.toItemWorld action item) := by
  have hconnects : ¬w.toItemWorld.connects = true := by
    unfold GuestWorld.toItemWorld
    rw [hc]
    exact Bool.false_ne_true
  have hsent : w.exchanges action item = [] := by
    rw [GuestWorld.exchanges, hc]
    rfl
  unfold processItem
  dsimp only
  rw [if_neg hconnects]
  refine ⟨nofun, fun request error _ hmem => ?_⟩
  rw [hsent] at hmem
  exact absurd hmem List.not_mem_nil

/-- The result of a guest is truthful exactly when a failure would be heard of. -/
theorem truthful_processItem_iff (w : GuestWorld) (action : String) (item : BulkItem) :
    w.Truthful action item (processItem w.toItemWorld action item) ↔ w.Heard action item := by
  cases hc : w.getProxmoxClient with
  | none => exact iff_of_true (truthful_of_noClient hc) fun c h => nomatch hc.symm.trans h
  | some c =>
    have hheard : w.Heard action item ↔ c.Hears (item.call action) := by
      constructor
      · intro h
        exact h c hc
      · intro h c' hc'
        exact Option.some.inj (hc.symm.trans hc') ▸ h
    have hsent : w.exchanges action item = (c.perform (item.call action)).sent := by
      rw [GuestWorld.exchanges, hc]
      rfl
    rw [hheard, ← truthful_perform_iff, processItem_of_client hc]
    constructor
    · intro h
      refine ⟨fun value hvalue => ?_, fun request error hasks hmem => ?_⟩
      · rw [← hsent]
        exact h.accepted (outcomeOf_success.mpr ⟨value, hvalue⟩)
      · rw [← hsent] at hmem
        exact outcomeOf_failure.mp (h.failed request error hasks hmem)
    · intro h
      refine ⟨fun hsuccess => ?_, fun request error hasks hmem => ?_⟩
      · obtain ⟨value, hvalue⟩ := outcomeOf_success.mp hsuccess
        rw [hsent]
        exact h.accepted value hvalue
      · rw [hsent] at hmem
        exact outcomeOf_failure.mpr (h.failed request error hasks hmem)

end Items

end PveManager.Tasks
