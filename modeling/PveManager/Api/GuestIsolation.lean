import PveManager.Api.Guests
import PveManager.Scripts.Interference
import PveManager.Core.Outcome

/-!
# Isolation of guests

What a request about a guest does when its sender has no access to the guest. The
property is stated on the calls of the handler and on its response; the main
result says for every endpoint under which condition it holds.
-/

namespace PveManager.Api.Guests

open PveManager.Core PveManager.Rbac PveManager.Scripts

/-- A guest and a user without access to it. -/
structure Foreign where
  db : GuestDb
  user : User
  serverId : ServerId
  vmid : Vmid
  denied : Denied db.toDb user serverId vmid

/-- A call of the script engine that changes the guest or runs something in it. -/
def Foreign.RunsInGuest (f : Foreign) : ScriptCall → Prop
  | .agentExec serverId _ vmid _ _ _ => serverId = f.serverId ∧ vmid = f.vmid
  | .push host vmid _ _ | .execInCt host vmid _ _ _ | .removeInCt host vmid _ =>
    vmid = f.vmid ∧ ∃ s, f.db.servers.find? f.serverId = some s ∧ host = sshHost s
  | _ => False

/-- A call that changes the guest or runs something in it. -/
def Foreign.Touches (f : Foreign) : RouterCall GuestRouter → Prop
  | .request server r => server.id = f.serverId ∧ r.vmid = f.vmid ∧ r.op.changes = true
  | .effect (.submitReinstall serverId vmid _ _) => serverId = f.serverId ∧ vmid = f.vmid
  | .effect (.script c) => f.RunsInGuest c
  | _ => False

/-- The outcome of a request leaves the guest alone and tells nothing stored about it. -/
structure Isolated (f : Foreign) (out : List (RouterCall GuestRouter) × Except Exc Reply) :
    Prop where
  untouched : ∀ c ∈ out.1, ¬f.Touches c
  silent : ∀ reply, out.2 = .ok reply → reply.discloses = false

/-- The endpoints with the parameters they take besides server, guest and node. -/
inductive Endpoint
  | executeVmCommand (command : String) (timeout : Nat)
  | executeVmScript (script interpreter : String) (timeout : Nat)
  | execInContainer (body : Option Json)
  | getVmConfig
  | getContainerConfig
  | getVmStatus
  | getContainerStatus
  | getVmInterfaces
  | getContainerInterfaces
  | getVmRrddata (timeframe : String)
  | getContainerRrddata (timeframe : String)
  | getVmMetrics (fromTs toTs : Time)
  | getContainerMetrics (fromTs toTs : Time)
  | getSavedVmConfig
  | updateVmConfig (body : Option Json)
  | updateContainerConfig (body : Option Json)
  | resizeVmDisk (body : Option Json)
  | resizeContainerDisk (body : Option Json)
  | controlVm (action : String) (force : Bool)
  | controlContainer (action : String) (force : Bool)
  | deleteVm (force : Bool)
  | deleteContainer
  | reinstallVm
  | executeScript (scriptId : Nat) (vmType : Option String) (params : List (String × Json))
      (timeout second : Nat)

/-- The execution request that names the guest. -/
def Foreign.request (f : Foreign) (node : String) (vmType : Option String)
    (params : List (String × Json)) (timeout : Nat) : ExecuteRequest where
  node := some node
  vmid := some f.vmid
  vmType := vmType
  params := params
  timeout := timeout

/-- The handler of an endpoint, called by the user for the guest. -/
def handle (str : Json → String) (hash : String → Int) (f : Foreign) (node : String) :
    Endpoint → GuestHandler Reply
  | .executeVmCommand command timeout =>
    Guests.executeVmCommand f.db f.user f.serverId f.vmid node command timeout
  | .executeVmScript script interpreter timeout =>
    Guests.executeVmScript f.db f.user f.serverId f.vmid node script interpreter timeout
  | .execInContainer body => Guests.execInContainer f.db f.user f.serverId f.vmid node body
  | .getVmConfig => Guests.getVmConfig f.db f.user f.serverId f.vmid node
  | .getContainerConfig => Guests.getContainerConfig f.db f.user f.serverId f.vmid node
  | .getVmStatus => Guests.getVmStatus f.db f.user f.serverId f.vmid node
  | .getContainerStatus => Guests.getContainerStatus f.db f.user f.serverId f.vmid node
  | .getVmInterfaces => Guests.getVmInterfaces f.db f.user f.serverId f.vmid node
  | .getContainerInterfaces => Guests.getContainerInterfaces f.db f.user f.serverId f.vmid node
  | .getVmRrddata timeframe => Guests.getVmRrddata f.db f.user f.serverId f.vmid node timeframe
  | .getContainerRrddata timeframe =>
    Guests.getContainerRrddata f.db f.user f.serverId f.vmid node timeframe
  | .getVmMetrics fromTs toTs => Guests.getVmMetrics f.db f.user f.serverId f.vmid fromTs toTs
  | .getContainerMetrics fromTs toTs =>
    Guests.getContainerMetrics f.db f.user f.serverId f.vmid fromTs toTs
  | .getSavedVmConfig => Guests.getSavedVmConfig f.db f.user f.serverId f.vmid
  | .updateVmConfig body => Guests.updateVmConfig f.db f.user f.serverId f.vmid node body
  | .updateContainerConfig body =>
    Guests.updateContainerConfig f.db f.user f.serverId f.vmid node body
  | .resizeVmDisk body => Guests.resizeVmDisk f.db f.user f.serverId f.vmid node body
  | .resizeContainerDisk body =>
    Guests.resizeContainerDisk f.db f.user f.serverId f.vmid node body
  | .controlVm action force =>
    Guests.controlVm f.db f.user f.serverId f.vmid node action force
  | .controlContainer action force =>
    Guests.controlContainer f.db f.user f.serverId f.vmid node action force
  | .deleteVm force => Guests.deleteVm f.db f.user f.serverId f.vmid node force
  | .deleteContainer => Guests.deleteContainer f.db f.user f.serverId f.vmid node
  | .reinstallVm => Guests.reinstallVm f.db f.user f.serverId f.vmid node
  | .executeScript scriptId vmType params timeout second =>
    Guests.executeScript str hash f.db f.user f.serverId scriptId
      (f.request node vmType params timeout) second

section Condition

variable (str : Json → String) (f : Foreign) (env : Environment GuestRouter.interface)
  (node : String)

/-- The server is registered, has credentials and answers. -/
def Reached (s : ProxmoxServer) : Prop :=
  f.db.servers.find? f.serverId = some s ∧ hasCredentials s = true ∧
    env [] (.isConnected s) = true

/-- The handler gets as far as calling Proxmox about the guest. -/
def Admitted (permission : String) (s : ProxmoxServer) : Prop :=
  hasPermission f.user permission = true ∧ Reached f env s

/-- Proxmox has nothing to tell about the guest, or the user is not admitted to ask. -/
def NothingToRead (op : GuestOp) : Prop :=
  ∀ s, Admitted f env "vm:view" s →
    ∀ data, env [.isConnected s] (.request s ⟨node, f.vmid, op⟩) = .ok data → data.truthy = false

/-- The body is a JSON object whose fields pass a test. -/
def BodyWith (body : Option Json) (test : (String → Json → Json) → Bool) : Prop :=
  ∃ fields, body = some (.dict fields) ∧
    test (fun key default => (fields.lookup key).getD default) = true

/-- The background execution does not get into the guest. -/
def StaysOutside (script : ScriptCatalog) (server : ProxmoxServer) (req : ExecuteRequest)
    (params : List (String × Json)) : Prop :=
  let started : RouterCall GuestRouter := .effect (.recordExecution script.id f.serverId
    (params.map fun p => (p.1, str p.2)))
  let client : RouterCall GuestRouter := .effect (.script (.fromServer server.id))
  match (executionArgs str script server req params 0).destination with
  | .machine _ _ => env [started] client ≠ none
  | .container _ => env [started] client = none →
      env [started, client] (.effect (.script (.connect (sshHost server)))) = false
  | .host | .nowhere _ => True

/-- When a request about the guest leaves it alone and tells nothing about it: it is not admitted,
it is malformed, or there is nothing to tell. Nothing is asked of the endpoints that check the
access to the instance. -/
def Contained : Endpoint → Prop
  | .executeVmCommand _ _ | .executeVmScript _ _ _ => ∀ s, ¬Admitted f env "vm:console" s
  | .execInContainer body => BodyWith body (fun _ => true) → ∀ s, ¬Admitted f env "vm:console" s
  | .getVmConfig => NothingToRead f env node (.config .qemu)
  | .getContainerConfig => NothingToRead f env node (.config .lxc)
  | .getVmInterfaces => NothingToRead f env node (.interfaces .qemu)
  | .getContainerInterfaces => NothingToRead f env node (.interfaces .lxc)
  | .getVmRrddata timeframe => NothingToRead f env node (.rrddata .qemu timeframe)
  | .getContainerRrddata timeframe => NothingToRead f env node (.rrddata .lxc timeframe)
  | .getVmMetrics fromTs toTs | .getContainerMetrics fromTs toTs =>
    hasPermission f.user "vm:view" = true →
      metricsIn f.db f.serverId f.vmid fromTs toTs = [] ∧
        nicsIn f.db f.serverId f.vmid fromTs toTs = []
  | .getSavedVmConfig =>
    hasPermission f.user "vm:view" = true → getVmInstance f.db.toDb f.serverId f.vmid = none
  | .updateVmConfig body | .updateContainerConfig body =>
    body.isSome = true → ∀ s, ¬Admitted f env "server:manage" s
  | .resizeVmDisk body =>
    BodyWith body (fun get => validVmResize (get "disk" .null) (get "size" .null)) →
      ∀ s, ¬Admitted f env "server:manage" s
  | .resizeContainerDisk body =>
    BodyWith body (fun get => validContainerResize (get "disk" (.text "rootfs"))
        (get "size" .null)) →
      ∀ s, ¬Admitted f env "server:manage" s
  | .executeScript scriptId vmType params timeout _ =>
    hasPermission f.user "script:execute" = true →
      ∀ script, f.db.scripts.find? (fun s => decide (s.id = scriptId)) = some script →
      ∀ server, f.db.servers.find? f.serverId = some server →
      lacksGuest script (f.request node vmType params timeout) = false →
      ∀ filled, fillParams script.paramsSchema params = .ok filled →
        StaysOutside str f env script server (f.request node vmType params timeout)
          (filled.filter fun p => decide (p.1 ∈ script.paramsSchema.map ParamField.name))
  | .getVmStatus | .getContainerStatus | .controlVm _ _ | .controlContainer _ _ | .deleteVm _
  | .deleteContainer | .reinstallVm => True

end Condition

/-! ## Rules -/

section Rules

variable {f : Foreign} {env : Environment GuestRouter.interface} {h : List (RouterCall GuestRouter)}

/-- No call so far concerns the guest. -/
def Clean (f : Foreign) (h : List (RouterCall GuestRouter)) : Prop := ∀ c ∈ h, ¬f.Touches c

theorem clean_nil : Clean f [] := fun _ hc => absurd hc List.not_mem_nil

theorem Clean.append (hh : Clean f h) {c : RouterCall GuestRouter} (hc : ¬f.Touches c) :
    Clean f (h ++ [c]) := by
  intro d hd
  rcases List.mem_append.mp hd with hd | hd
  · exact hh d hd
  · rw [List.mem_singleton.mp hd]
    exact hc

/-- Continued after the calls `h`, the handler ends isolated. -/
def Iso (f : Foreign) (env : Environment GuestRouter.interface)
    (h : List (RouterCall GuestRouter)) (p : GuestHandler Reply) : Prop :=
  Isolated f (p.run env h)

theorem iso_pure (hh : Clean f h) (reply : Reply) :
    Iso f env h (pure reply) ↔ reply.discloses = false := by
  constructor
  · intro hi
    exact hi.silent reply rfl
  · intro hr
    refine ⟨hh, fun r hr' => ?_⟩
    cases hr'
    exact hr

theorem iso_throw (hh : Clean f h) (e : Exc) : Iso f env h (throw e) :=
  ⟨hh, fun _ hr => by cases hr⟩

theorem iso_ensure (hh : Clean f h) (b : Bool) (e : Exc) (k : Unit → GuestHandler Reply) :
    Iso f env h (Proc.ensure b e >>= k) ↔ (b = true → Iso f env h (k ())) := by
  cases b with
  | false => exact ⟨fun _ hb => absurd hb (by simp), fun _ => iso_throw hh e⟩
  | true => exact ⟨fun hi _ => hi, fun hi => hi rfl⟩

theorem iso_resolveServer (hh : Clean f h) (db : Db) (serverId : ServerId) (detail : String)
    (k : ProxmoxServer → GuestHandler Reply) :
    Iso f env h (resolveServer db serverId detail >>= k) ↔
      ∀ s, db.servers.find? serverId = some s → Iso f env h (k s) := by
  unfold resolveServer
  cases hs : db.servers.find? serverId with
  | none => exact ⟨fun _ s hs' => absurd hs' (by simp), fun _ => iso_throw hh _⟩
  | some s =>
    constructor
    · intro hi s' hs'
      cases hs'
      exact hi
    · intro hi
      exact hi s rfl

theorem iso_getClientOr503 (hh : Clean f h) (s : ProxmoxServer) (detail : String)
    (k : Unit → GuestHandler Reply) :
    Iso f env h (getClientOr503 s detail >>= k) ↔
      (hasCredentials s = true → env h (.isConnected s) = true →
        Iso f env (h ++ [.isConnected s]) (k ())) := by
  have hc : Clean f (h ++ [.isConnected s]) := hh.append fun ht => ht
  unfold getClientOr503 getProxmoxClient
  rw [bind_assoc, iso_ensure hh]
  refine imp_congr_right fun _ => ?_
  rw [bind_assoc]
  exact iso_ensure hc _ _ _

/-- Turning exceptions into server errors keeps calls and successful responses. -/
theorem iso_orServerError (p : GuestHandler Reply) :
    Iso f env h (orServerError p) ↔ Iso f env h p := by
  unfold Iso
  rw [run_orServerError]
  refine ⟨fun hi => ⟨hi.untouched, fun r hr => hi.silent r ?_⟩,
    fun hi => ⟨hi.untouched, fun r hr => hi.silent r ?_⟩⟩
  · dsimp only
    rw [hr]
    rfl
  · exact mapError_eq_ok_iff.mp hr

theorem iso_orServerErrorKeepHttp (p : GuestHandler Reply) :
    Iso f env h (orServerErrorKeepHttp p) ↔ Iso f env h p := by
  unfold Iso
  rw [run_orServerErrorKeepHttp]
  refine ⟨fun hi => ⟨hi.untouched, fun r hr => hi.silent r ?_⟩,
    fun hi => ⟨hi.untouched, fun r hr => hi.silent r ?_⟩⟩
  · dsimp only
    rw [hr]
    rfl
  · exact mapError_eq_ok_iff.mp hr

/-- A method that reads continues with its answer. -/
theorem iso_guestOp_read (hh : Clean f h) {s : ProxmoxServer} {node : String} {op : GuestOp}
    (hop : op.changes = false) (k : Json → GuestHandler Reply) :
    Iso f env h (guestOp s node f.vmid op >>= k) ↔
      ∀ data, env h (.request s ⟨node, f.vmid, op⟩) = .ok data →
        Iso f env (h ++ [.request s ⟨node, f.vmid, op⟩]) (k data) := by
  have hc : Clean f (h ++ [.request s ⟨node, f.vmid, op⟩]) :=
    hh.append fun ht => by simp [hop, Foreign.Touches] at ht
  unfold guestOp orRaise Iso
  rw [bind_assoc, Proc.run_bind, run_request]
  dsimp only
  cases env h (.request s ⟨node, f.vmid, op⟩) with
  | error e => exact ⟨fun _ data hd => absurd hd (by simp), fun _ => iso_throw hc _⟩
  | ok data =>
    constructor
    · intro hi data' hd
      cases hd
      exact hi
    · intro hi
      exact hi data rfl

/-- A method that changes the guest is no isolated step. -/
theorem not_iso_guestOp {s : ProxmoxServer} (hs : s.id = f.serverId) {node : String}
    {op : GuestOp} (hop : op.changes = true) (k : Json → GuestHandler Reply) :
    ¬Iso f env h (guestOp s node f.vmid op >>= k) := by
  intro hi
  refine hi.untouched (.request s ⟨node, f.vmid, op⟩) ?_ ⟨hs, rfl, hop⟩
  unfold guestOp orRaise
  rw [bind_assoc, Proc.run_bind, run_request]
  dsimp only
  exact (Proc.prefix_run env _ _).mem (List.mem_append_right h (List.mem_singleton_self _))

theorem iso_permissionChecker (hh : Clean f h) (permission : String)
    (k : Unit → GuestHandler Reply) :
    Iso f env h (permissionChecker f.user permission >>= k) ↔
      (hasPermission f.user permission = true → Iso f env h (k ())) :=
  iso_ensure hh _ _ k

theorem iso_readJson (hh : Clean f h) (body : Option Json) (k : Json → GuestHandler Reply) :
    Iso f env h (readJson body >>= k) ↔ ∀ data, body = some data → Iso f env h (k data) := by
  cases body with
  | none => exact ⟨fun _ data hd => absurd hd (by simp), fun _ => iso_throw hh _⟩
  | some data =>
    constructor
    · intro hi data' hd
      cases hd
      exact hi
    · intro hi
      exact hi data rfl

theorem iso_getField (hh : Clean f h) (data : Json) (key : String) (default : Json)
    (k : Json → GuestHandler Reply) :
    Iso f env h (getField data key default >>= k) ↔
      ∀ fields, data = .dict fields → Iso f env h (k ((fields.lookup key).getD default)) := by
  cases data with
  | dict fields =>
    constructor
    · intro hi fields' hd
      cases hd
      exact hi
    · intro hi
      exact hi fields rfl
  | _ => exact ⟨fun _ fields hd => absurd hd (by simp), fun _ => iso_throw hh _⟩

/-- A handler that asks for access stops there. -/
theorem iso_requireVmAccess (hh : Clean f h) (k : Unit → GuestHandler Reply) :
    Iso f env h (requireVmAccess f.db.toDb f.user f.serverId f.vmid >>= k) := by
  refine (iso_ensure hh _ _ k).mpr fun ha => ?_
  rw [f.denied] at ha
  exact absurd ha (by simp)

/-- The answer to a reading method is the only thing a reading endpoint tells. -/
theorem iso_callGuest_read {node : String} {op : GuestOp} (hop : op.changes = false)
    (reply : Json → Reply) :
    Iso f env [] (callGuest f.db f.serverId f.vmid node op reply) ↔
      ∀ s, Reached f env s → ∀ data,
        env [.isConnected s] (.request s ⟨node, f.vmid, op⟩) = .ok data →
          (reply data).discloses = false := by
  unfold callGuest
  rw [iso_resolveServer clean_nil]
  have hread : ∀ s, Iso f env [] (orServerError do
      getClientOr503 s "Failed to connect to Proxmox server"
      let result ← guestOp s node f.vmid op
      pure (reply result)) ↔ (hasCredentials s = true → env [] (.isConnected s) = true → ∀ data,
        env [.isConnected s] (.request s ⟨node, f.vmid, op⟩) = .ok data →
          (reply data).discloses = false) := by
    intro s
    have hc : Clean f [.isConnected s] := clean_nil.append fun ht => ht
    rw [iso_orServerError, iso_getClientOr503 clean_nil, List.nil_append]
    refine imp_congr_right fun _ => imp_congr_right fun _ => ?_
    rw [iso_guestOp_read hc hop]
    refine forall_congr' fun data => imp_congr_right fun _ => iso_pure ?_ _
    exact hc.append fun ht => by simp [hop, Foreign.Touches] at ht
  constructor
  · rintro hi s ⟨hs, hcred, hconn⟩
    exact (hread s).mp (hi s hs) hcred hconn
  · intro hi s hs
    exact (hread s).mpr fun hcred hconn => hi s ⟨hs, hcred, hconn⟩

/-- A method that changes the guest is called as soon as the server is reached. -/
theorem iso_connected_change {s : ProxmoxServer} (hs : f.db.servers.find? f.serverId = some s)
    {detail node : String} {op : GuestOp} (hop : op.changes = true)
    (k : Json → GuestHandler Reply) :
    Iso f env [] (do
      getClientOr503 s detail
      let result ← guestOp s node f.vmid op
      k result) ↔ ¬Reached f env s := by
  rw [iso_getClientOr503 clean_nil]
  have hid := f.db.servers.key_of_find? hs
  constructor
  · rintro hi ⟨_, hcred, hconn⟩
    exact not_iso_guestOp hid hop k (hi hcred hconn)
  · intro hn hcred hconn
    exact absurd ⟨hs, hcred, hconn⟩ hn

theorem iso_callGuest_change {node : String} {op : GuestOp} (hop : op.changes = true)
    (reply : Json → Reply) :
    Iso f env [] (callGuest f.db f.serverId f.vmid node op reply) ↔
      ∀ s, ¬Reached f env s := by
  unfold callGuest
  rw [iso_resolveServer clean_nil]
  constructor
  · intro hi s hr
    exact (iso_connected_change hr.1 hop _).mp ((iso_orServerError _).mp (hi s hr.1)) hr
  · intro hi s hs
    exact (iso_orServerError _).mpr ((iso_connected_change hs hop _).mpr (hi s))

end Rules

/-! ## The endpoints -/

section Endpoints

variable {f : Foreign} {env : Environment GuestRouter.interface} {node : String}

private theorem iso_read {op : GuestOp} (hop : op.changes = false) {reply : Json → Reply}
    (hreply : ∀ data, (reply data).discloses = data.truthy) :
    Iso f env [] (do
      permissionChecker f.user "vm:view"
      callGuest f.db f.serverId f.vmid node op reply) ↔ NothingToRead f env node op := by
  rw [iso_permissionChecker clean_nil, iso_callGuest_read hop]
  simp only [hreply, NothingToRead, Admitted]
  tauto

private theorem iso_command {permission : String} {op : GuestOp} (hop : op.changes = true)
    {reply : Json → Reply} :
    Iso f env [] (do
      permissionChecker f.user permission
      callGuest f.db f.serverId f.vmid node op reply) ↔ ∀ s, ¬Admitted f env permission s := by
  rw [iso_permissionChecker clean_nil, iso_callGuest_change hop]
  simp only [Admitted]
  tauto

private theorem iso_execInContainer {body : Option Json} :
    Iso f env [] (execInContainer f.db f.user f.serverId f.vmid node body) ↔
      (BodyWith body (fun _ => true) → ∀ s, ¬Admitted f env "vm:console" s) := by
  unfold execInContainer
  rw [iso_permissionChecker clean_nil, iso_resolveServer clean_nil]
  constructor
  · rintro hi ⟨fields, rfl, _⟩ s ⟨hp, hr⟩
    have hs := (iso_orServerErrorKeepHttp _).mp (hi hp s hr.1)
    rw [iso_readJson clean_nil] at hs
    have hs := (iso_getField clean_nil _ _ _ _).mp (hs _ rfl) _ rfl
    have hs := (iso_getField clean_nil _ _ _ _).mp hs _ rfl
    exact (iso_connected_change hr.1 rfl _).mp hs hr
  · intro hi hp s hs
    refine (iso_orServerErrorKeepHttp _).mpr ((iso_readJson clean_nil _ _).mpr ?_)
    intro data hd
    refine (iso_getField clean_nil _ _ _ _).mpr fun fields hf => ?_
    refine (iso_getField clean_nil _ _ _ _).mpr fun _ _ => ?_
    refine (iso_connected_change hs rfl _).mpr fun hr => ?_
    exact hi ⟨fields, hd.trans (congrArg some hf), rfl⟩ s ⟨hp, hr⟩

private theorem iso_updateGuestConfig {ty : VmType} {body : Option Json} :
    Iso f env [] (updateGuestConfig f.db f.user f.serverId f.vmid node ty body) ↔
      (body.isSome = true → ∀ s, ¬Admitted f env "server:manage" s) := by
  unfold updateGuestConfig
  rw [iso_permissionChecker clean_nil, iso_resolveServer clean_nil]
  constructor
  · rintro hi hb s ⟨hp, hr⟩
    obtain ⟨data, hd⟩ := Option.isSome_iff_exists.mp hb
    have hs := (iso_readJson clean_nil _ _).mp (hi hp s hr.1) data hd
    exact (iso_connected_change hr.1 rfl _).mp ((iso_orServerErrorKeepHttp _).mp hs) hr
  · intro hi hp s hs
    refine (iso_readJson clean_nil _ _).mpr fun data hd => ?_
    refine (iso_orServerErrorKeepHttp _).mpr ((iso_connected_change hs rfl _).mpr fun hr => ?_)
    exact hi (hd ▸ rfl) s ⟨hp, hr⟩

private theorem iso_resizeGuestDisk {ty : VmType} {defaultDisk : Json}
    {valid : Json → Json → Bool} {detail : String} {afterwards : GuestOp} {body : Option Json} :
    Iso f env [] (resizeGuestDisk f.db f.user f.serverId f.vmid node ty defaultDisk valid detail
        afterwards body) ↔
      (BodyWith body (fun get => valid (get "disk" defaultDisk) (get "size" .null)) →
        ∀ s, ¬Admitted f env "server:manage" s) := by
  unfold resizeGuestDisk
  rw [iso_permissionChecker clean_nil, iso_resolveServer clean_nil]
  constructor
  · rintro hi ⟨fields, rfl, ht⟩ s ⟨hp, hr⟩
    have hs := (iso_orServerErrorKeepHttp _).mp (hi hp s hr.1)
    rw [iso_readJson clean_nil] at hs
    have hs := (iso_getField clean_nil _ _ _ _).mp (hs _ rfl) _ rfl
    have hs := (iso_getField clean_nil _ _ _ _).mp hs _ rfl
    have hs := (iso_ensure clean_nil _ _ _).mp hs ht
    exact (iso_connected_change hr.1 rfl _).mp hs hr
  · intro hi hp s hs
    refine (iso_orServerErrorKeepHttp _).mpr ((iso_readJson clean_nil _ _).mpr ?_)
    intro data hd
    refine (iso_getField clean_nil _ _ _ _).mpr fun fields hf => ?_
    refine (iso_getField clean_nil _ _ _ _).mpr fun fields' hf' => ?_
    cases hf.symm.trans hf'
    refine (iso_ensure clean_nil _ _ _).mpr fun ht => ?_
    refine (iso_connected_change hs rfl _).mpr fun hr => ?_
    exact hi ⟨fields, hd.trans (congrArg some hf), ht⟩ s ⟨hp, hr⟩

private theorem iso_metrics {fromTs toTs : Time} :
    Iso f env [] (do
      permissionChecker f.user "vm:view"
      pure (queryInstanceMetrics f.db f.serverId f.vmid fromTs toTs)) ↔
      (hasPermission f.user "vm:view" = true →
        metricsIn f.db f.serverId f.vmid fromTs toTs = [] ∧
          nicsIn f.db f.serverId f.vmid fromTs toTs = []) := by
  rw [iso_permissionChecker clean_nil]
  refine imp_congr_right fun _ => (iso_pure clean_nil _).trans ?_
  simp [queryInstanceMetrics, Reply.discloses]

private theorem iso_getSavedVmConfig :
    Iso f env [] (getSavedVmConfig f.db f.user f.serverId f.vmid) ↔
      (hasPermission f.user "vm:view" = true →
        getVmInstance f.db.toDb f.serverId f.vmid = none) := by
  unfold getSavedVmConfig
  rw [iso_permissionChecker clean_nil]
  refine imp_congr_right fun _ => (iso_pure clean_nil _).trans ?_
  simp [Reply.discloses]

/-! ### Power, deletion, reinstallation and status -/

private theorem iso_controlVm {action : String} {force : Bool} :
    Iso f env [] (controlVm f.db f.user f.serverId f.vmid node action force) :=
  (iso_ensure clean_nil _ _ _).mpr fun _ =>
    (iso_permissionChecker clean_nil _ _).mpr fun _ => iso_requireVmAccess clean_nil _

private theorem iso_controlContainer {action : String} {force : Bool} :
    Iso f env [] (controlContainer f.db f.user f.serverId f.vmid node action force) :=
  (iso_ensure clean_nil _ _ _).mpr fun _ =>
    (iso_permissionChecker clean_nil _ _).mpr fun _ => iso_requireVmAccess clean_nil _

private theorem iso_getVmStatus :
    Iso f env [] (getVmStatus f.db f.user f.serverId f.vmid node) :=
  (iso_permissionChecker clean_nil _ _).mpr fun _ => iso_requireVmAccess clean_nil _

private theorem iso_getContainerStatus :
    Iso f env [] (getContainerStatus f.db f.user f.serverId f.vmid node) :=
  (iso_permissionChecker clean_nil _ _).mpr fun _ => iso_requireVmAccess clean_nil _

private theorem iso_deleteGuest {ty : VmType} {force : Bool} :
    Iso f env [] (deleteGuest f.db f.user f.serverId f.vmid node ty force) :=
  (iso_permissionChecker clean_nil _ _).mpr fun _ => iso_requireVmAccess clean_nil _

private theorem iso_reinstallVm :
    Iso f env [] (reinstallVm f.db f.user f.serverId f.vmid node) :=
  (iso_permissionChecker clean_nil _ _).mpr fun _ => iso_requireVmAccess clean_nil _

/-! ### Catalogue scripts -/

/-- The environment a background execution meets after the calls `h`. -/
private def scriptEnv (env : Environment GuestRouter.interface)
    (h : List (RouterCall GuestRouter)) : Environment ScriptIO :=
  Proc.pull (J := GuestRouter.interface) scriptCall (fun _ a => a) env h

private theorem run_background (h : List (RouterCall GuestRouter)) (hash : String → Int)
    (a : ExecuteArgs) :
    ((background hash a).run env h) =
      (h ++ ((execute hash a).run (scriptEnv env h) []).1.map scriptCall,
        ((execute hash a).run (scriptEnv env h) []).2.mapError Exc.other) := by
  have he := Proc.run_embed (J := GuestRouter.interface) scriptCall
    (fun _ a => a) Exc.other env h [] (execute hash a)
  rwa [List.map_nil, List.append_nil] at he

private theorem not_touches_record {scriptId : Nat} {serverId : ServerId}
    {params : List (String × String)} :
    ¬f.Touches (.effect (.recordExecution scriptId serverId params)) := fun ht => ht

/-- Recording the execution and running it is isolated when no call gets into the guest. -/
private theorem iso_background {record : GuestEffect} (hrec : ¬f.Touches (.effect record))
    {hash : String → Int} {a : ExecuteArgs} {k : GuestEffect.Answer record → Reply}
    (hk : ∀ x, (k x).discloses = false) :
    Iso f env [] (do
      let id ← effect (R := GuestRouter) record
      let _ ← background hash a
      pure (k id)) ↔
      ∀ c ∈ ((execute hash a).run (scriptEnv env [.effect record]) []).1,
        ¬f.RunsInGuest c := by
  unfold Iso
  rw [Proc.run_bind, run_effect, List.nil_append]
  dsimp only
  rw [Proc.run_bind, run_background]
  have hcalls : ∀ c ∈ ((execute hash a).run (scriptEnv env [.effect record]) []).1,
      scriptCall c ∈ [RouterCall.effect record] ++
        ((execute hash a).run (scriptEnv env [.effect record]) []).1.map scriptCall :=
    fun c hc => List.mem_append_right _ (List.mem_map_of_mem hc)
  have hclean : (∀ c ∈ ((execute hash a).run (scriptEnv env [.effect record]) []).1,
      ¬f.RunsInGuest c) → Clean f ([RouterCall.effect record] ++
        ((execute hash a).run (scriptEnv env [.effect record]) []).1.map scriptCall) := by
    intro hn c hc
    rcases List.mem_append.mp hc with hc | hc
    · rw [List.mem_singleton.mp hc]
      exact hrec
    · obtain ⟨d, hd, rfl⟩ := List.mem_map.mp hc
      exact hn d hd
  cases ((execute hash a).run (scriptEnv env [.effect record]) []).2 with
  | ok r =>
    constructor
    · intro hi c hc
      exact hi.untouched _ (hcalls c hc)
    · intro hn
      exact (@iso_pure f env _ (hclean hn) _).mpr (hk _)
  | error e =>
    constructor
    · intro hi c hc
      exact hi.untouched _ (hcalls c hc)
    · intro hn
      exact @iso_throw f env _ (hclean hn) _

private theorem runsInGuest_of_request {a : ExecuteArgs}
    (hs : f.db.servers.find? f.serverId = some a.server) :
    f.RunsInGuest (.removeInCt (sshHost a.server) f.vmid (tmpCt f.vmid)) :=
  ⟨rfl, a.server, hs, rfl⟩

/-- An execution for the guest stays outside of it where it cannot connect, or is none of a guest
script. -/
private theorem execute_outside {hash : String → Int} {a : ExecuteArgs}
    (hs : f.db.servers.find? f.serverId = some a.server) (hv : a.vmid = some f.vmid)
    (e : Environment ScriptIO) :
    (∀ c ∈ ((execute hash a).run e []).1, ¬f.RunsInGuest c) ↔
      match a.destination with
      | .machine _ _ => e [] (.fromServer a.server.id) ≠ none
      | .container _ => e [] (.fromServer a.server.id) = none →
          e [.fromServer a.server.id] (.connect (sshHost a.server)) = false
      | .host | .nowhere _ => True := by
  have hid := f.db.servers.key_of_find? hs
  have hfirst : ∀ c ∈ [ScriptCall.fromServer a.server.id], ¬f.RunsInGuest c := by
    intro c hc hr
    rw [List.mem_singleton.mp hc] at hr
    exact hr
  unfold execute
  rw [Proc.run_ask_bind, List.nil_append]
  cases hr : e [] (.fromServer a.server.id) with
  | some x =>
    refine ⟨fun _ => ?_, fun _ => hfirst⟩
    cases a.destination <;> simp
  | none =>
    dsimp only
    cases hd : a.destination with
    | host =>
      refine ⟨fun _ => trivial, fun _ => Proc.run_only ?_ e hfirst⟩
      exact only_runOnNode id id id id
    | container vmid =>
      have hvm := a.destination_container hd
      rw [hv, Option.some.injEq] at hvm
      subst hvm
      dsimp only
      cases hc : e [.fromServer a.server.id] (.connect (sshHost a.server)) with
      | true =>
        constructor
        · intro hn
          exact absurd (runsInGuest_of_request hs) (hn _ (removeInCt_mem_run hc _ _ _ _ _))
        · intro hn
          exact absurd (hn rfl) (by simp)
      | false =>
        refine ⟨fun _ _ => rfl, fun _ => ?_⟩
        rw [run_runOnLxc_of_not_connected hc]
        intro c hm hrun
        rcases List.mem_append.mp hm with hm | hm
        · exact hfirst c hm hrun
        · rw [List.mem_singleton.mp hm] at hrun
          exact hrun
    | machine node vmid =>
      obtain ⟨_, hvm⟩ := a.destination_machine hd
      rw [hv, Option.some.injEq] at hvm
      subst hvm
      refine ⟨fun hn => ?_, fun hn => absurd rfl hn⟩
      refine absurd ⟨hid, rfl⟩ (hn (.agentExec a.server.id node f.vmid a.interpreter
        (String.ofList (normalizeNewlines a.script.toList)) a.timeout) ?_)
      dsimp only
      unfold runOnQemu Scripts.executeScript
      rw [Proc.run_ask_bind]
      exact (Proc.prefix_run e _ _).mem (List.mem_append_right _ (List.mem_singleton_self _))
    | nowhere x => exact ⟨fun _ => trivial, fun _ => hfirst⟩

private theorem iso_executeScript {str : Json → String} {hash : String → Int} {scriptId : Nat}
    {vmType : Option String} {params : List (String × Json)} {timeout second : Nat} :
    Iso f env [] (handle str hash f node
        (.executeScript scriptId vmType params timeout second)) ↔
      Contained str f env node (.executeScript scriptId vmType params timeout second) := by
  unfold handle Guests.executeScript Contained
  rw [iso_permissionChecker clean_nil]
  refine imp_congr_right fun _ => ?_
  cases hscript : f.db.scripts.find? fun s => decide (s.id = scriptId) with
  | none => exact ⟨fun _ script hs => absurd hs (by simp), fun _ => iso_throw clean_nil _⟩
  | some script =>
    have hid : script.id = scriptId := by simpa using List.find?_some hscript
    subst hid
    dsimp only
    rw [iso_resolveServer clean_nil]
    have hbody : ∀ server, f.db.servers.find? f.serverId = some server →
        (∀ params', (∀ c ∈ ((execute hash (executionArgs str script server
            (f.request node vmType params timeout) params' second)).run
            (scriptEnv env [.effect (.recordExecution script.id f.serverId
              (params'.map fun p => (p.1, str p.2)))]) []).1, ¬f.RunsInGuest c) ↔
          StaysOutside str f env script server (f.request node vmType params timeout) params') :=
      fun server hs params' => execute_outside hs rfl _
    constructor
    · intro hi script' hs' server hserver hlacks filled hfilled
      cases hs'
      have h1 := (iso_ensure clean_nil _ _ _).mp (hi server hserver) (by rw [hlacks]; rfl)
      rw [show (f.request node vmType params timeout).params = params from rfl, hfilled] at h1
      exact (hbody server hserver _).mp ((iso_background not_touches_record fun _ => rfl).mp h1)
    · intro hc server hserver
      refine (iso_ensure clean_nil _ _ _).mpr fun hlacks => ?_
      rw [show (f.request node vmType params timeout).params = params from rfl]
      cases hfilled : fillParams script.paramsSchema params with
      | error e => exact iso_throw clean_nil _
      | ok filled =>
        refine (iso_background not_touches_record fun _ => rfl).mpr ((hbody server hserver _).mpr ?_)
        exact hc script rfl server hserver (by simpa using hlacks) filled hfilled

end Endpoints

/-- A request of a user without access is isolated exactly when it is contained. -/
theorem isolated_iff (str : Json → String) (hash : String → Int) (f : Foreign)
    (env : Environment GuestRouter.interface) (node : String) (endpoint : Endpoint) :
    Isolated f ((handle str hash f node endpoint).run env []) ↔
      Contained str f env node endpoint := by
  cases endpoint with
  | executeVmCommand command timeout => exact iso_command rfl
  | executeVmScript script interpreter timeout => exact iso_command rfl
  | execInContainer body => exact iso_execInContainer
  | getVmConfig => exact iso_read rfl fun _ => rfl
  | getContainerConfig => exact iso_read rfl fun _ => rfl
  | getVmStatus => exact iff_of_true iso_getVmStatus trivial
  | getContainerStatus => exact iff_of_true iso_getContainerStatus trivial
  | getVmInterfaces => exact iso_read rfl fun _ => rfl
  | getContainerInterfaces => exact iso_read rfl fun _ => rfl
  | getVmRrddata timeframe => exact iso_read rfl fun _ => rfl
  | getContainerRrddata timeframe => exact iso_read rfl fun _ => rfl
  | getVmMetrics fromTs toTs => exact iso_metrics
  | getContainerMetrics fromTs toTs => exact iso_metrics
  | getSavedVmConfig => exact iso_getSavedVmConfig
  | updateVmConfig body => exact iso_updateGuestConfig
  | updateContainerConfig body => exact iso_updateGuestConfig
  | resizeVmDisk body => exact iso_resizeGuestDisk
  | resizeContainerDisk body => exact iso_resizeGuestDisk
  | controlVm action force => exact iff_of_true iso_controlVm trivial
  | controlContainer action force => exact iff_of_true iso_controlContainer trivial
  | deleteVm force => exact iff_of_true iso_deleteGuest trivial
  | deleteContainer => exact iff_of_true iso_deleteGuest trivial
  | reinstallVm => exact iff_of_true iso_reinstallVm trivial
  | executeScript scriptId vmType params timeout second => exact iso_executeScript

/-! ## A tenant with console permission -/

/-- A role that may open consoles. -/
def consoleRole : Role := ⟨"user", ⟨[("vm:view", true), ("vm:console", true)], by decide⟩⟩

/-- The guest 100 of user 7, asked for by user 8. -/
def otherTenant : Foreign where
  db :=
    { servers := scriptServers
      vms := ⟨[{
        serverId := 1, vmid := 100, node := "pve", vmType := .qemu, name := "web"
        ownerId := some 7, status := "running", isTemplate := false, cores := none
        memory := none, diskSize := none, osType := none, ipAddress := none, ipPrefix := none
        gateway := none, nameserver := none, cloudInitUser := none
        cloudInitPassword := some "secret", sshKeys := none, templateId := none
        templateName := none, description := none, deletedAt := none, lastSyncAt := none }],
        by decide⟩
      ipam := ⟨.empty, []⟩
      metrics := []
      nicMetrics := []
      templates := []
      scripts := [] }
  user := ⟨8, "tenant", false, some consoleRole, []⟩
  serverId := 1
  vmid := 100
  denied := by unfold Denied; decide

/-- A Proxmox that is connected and answers every method. -/
def answering : Environment GuestRouter.interface
  | _, .isConnected _ => true
  | _, .request _ _ => .ok (.text "uid=0(root)")
  | _, .effect (.updateDiskSize ..) | _, .effect (.saveInstance ..)
  | _, .effect (.archiveSnapshot ..) | _, .effect (.forgetInstance ..) => .ok ()
  | _, .effect (.setStatus ..) => ()
  | _, .effect (.submitReinstall ..) | _, .effect (.recordExecution ..) => 0
  | _, .effect (.script c) => fine.answer c

/-- The console permission alone runs a command in another tenant's machine. -/
theorem otherTenant_not_isolated :
    ¬Isolated otherTenant ((handle (fun _ => "") (fun _ => 0) otherTenant "pve"
      (.executeVmCommand "id" 30)).run answering []) := by
  intro h
  exact h.untouched (.request scriptServer ⟨"pve", 100, .executeCommand "id" 30⟩)
    (List.mem_cons_of_mem _ List.mem_cons_self) ⟨rfl, rfl, rfl⟩

end PveManager.Api.Guests
