import PveManager.Api.GuestIsolation
import PveManager.Api.Visibility
import PveManager.Core.Contract
import PveManager.Core.Outcome
import PveManager.Core.Run
import PveManager.Owners.Instances
import PveManager.Sync.Tick

/-!
# Deleting a guest

The two deletions start a task on Proxmox and write to the tables without
waiting for it. Here the effects of their handler are carried out on the tables,
against whatever Proxmox answers and however the task ends. The deletion of the
application store waits for its task.
-/

namespace PveManager.Api.Guests

open PveManager.Core PveManager.Owners

/-! ### The configuration that is saved first -/

/-- `data.get(key)` on a dictionary. -/
def field (data : Json) (key : String) : Option Json :=
  match data with
  | .dict fields => fields.lookup key
  | _ => none

/-- A value for a nullable text column. -/
def textValue : Json → Option String
  | .text s => some s
  | _ => none

/-- A value for a nullable number column; Proxmox writes some numbers as texts. -/
def natValue : Json → Option Nat
  | .number n => if 0 ≤ n then some n.toNat else none
  | .text s => (parseInt s).bind fun n => if 0 ≤ n then some n.toNat else none
  | _ => none

/-- What a nullable column takes from a key of the configuration; a value of another kind is
refused by the database. -/
def column {α : Type} (config : Json) (key : String) (value : Json → Option α) :
    Except String (Option α) :=
  match field config key with
  | none => .ok none
  | some .null => .ok none
  | some found =>
    match value found with
    | some a => .ok (some a)
    | none => .error ("invalid value of " ++ key)

/-- The first IPv4 entry of an interface. -/
def ipv4Of (iface : Json) : Option Json :=
  match field iface "ips" with
  | some (.list ips) => ips.find? fun info => info.fieldIs "type" "ipv4"
  | _ => none

/-- The address and the prefix of the first interface with an address. -/
def firstAddress : List Json → Option String × Option Nat → Option String × Option Nat
  | [], found => found
  | iface :: rest, found =>
    match ipv4Of iface with
    | none => firstAddress rest found
    | some info =>
      let entry := ((field info "address").bind textValue,
        ((field info "prefix").getD (.number 24) |> natValue))
      if truthy entry.1 then entry else firstAddress rest entry

/-- The size of the boot disk as it is written to the row. Proxmox describes a disk by a text,
which is passed over; a disk that the configuration does not name counts as empty. -/
def bootDiskSize (config : Json) : Except String (Option Nat) :=
  match (field config "bootdisk").getD (.text "scsi0") with
  | .text bootdisk =>
    match field config bootdisk with
    | some (.dict fields) =>
      match (fields.lookup "size").getD (.text "0G") with
      | .text size =>
        match parseInt (String.ofList (size.toList.filter fun c => decide (c ≠ 'G'))) with
        | some n => .ok (some n.toNat)
        | none => .error "invalid literal for int()"
      | _ => .ok none
    | some _ => .ok none
    | none => .ok (some 0)
  | .list _ => .error "unhashable type: 'list'"
  | .dict _ => .error "unhashable type: 'dict'"
  | _ => .ok (some 0)

/-- `config.get('name', f'VM-{vmid}')`, for a column that is not nullable. -/
def savedName (config : Json) (vmid : Vmid) : Except String String :=
  match field config "name" with
  | none => .ok s!"VM-{vmid}"
  | some (.text name) => .ok name
  | some _ => .error "invalid value of name"

/-- The arguments `delete_vm` saves the machine with; the link to the template is carried over
from the live row. -/
def savedArgs (db : Db) (serverId : ServerId) (vmid : Vmid) (node : String)
    (config interfaces : Json) : Except String SaveArgs := do
  let address := firstAddress
    (match interfaces with
      | .list ifaces => ifaces
      | _ => []) (none, some 24)
  let prev := getVmInstance db serverId vmid
  let diskSize ← bootDiskSize config
  let name ← savedName config vmid
  let cores ← column config "cores" natValue
  let memory ← column config "memory" natValue
  let description ← column config "description" textValue
  .ok
    { serverId := serverId
      vmid := vmid
      node := node
      vmType := .qemu
      name := name
      cores := cores
      memory := memory
      diskSize := diskSize
      ipAddress := address.1
      ipPrefix := address.2
      description := description
      templateId := prev.bind VMInstance.templateId
      templateName := prev.bind VMInstance.templateName }

/-- The tables after the save; where its arguments raise nothing is written. -/
def savedWith (db : Db) : Except String SaveArgs → Db
  | .ok args => saveVmInstance db args
  | .error _ => db

/-- The machine is saved under its own key. -/
theorem key_of_savedArgs {db : Db} {serverId : ServerId} {vmid : Vmid} {node : String}
    {config interfaces : Json} {args : SaveArgs}
    (h : savedArgs db serverId vmid node config interfaces = .ok args) :
    args.key = (serverId, vmid) := by
  obtain ⟨diskSize, -, h⟩ := bind_ok h
  obtain ⟨name, -, h⟩ := bind_ok h
  obtain ⟨cores, -, h⟩ := bind_ok h
  obtain ⟨memory, -, h⟩ := bind_ok h
  obtain ⟨description, -, h⟩ := bind_ok h
  cases h
  rfl

/-! ### A request and its task -/

/-- How the destroy task ends. -/
inductive TaskEnd
  | succeeded
  | failed
  | never
  deriving DecidableEq

/-- A deletion request, with what Proxmox answers and how the task it may start ends. -/
structure Deletion where
  user : User
  serverId : ServerId
  vmid : Vmid
  node : String
  ty : VmType
  force : Bool
  env : Environment GuestRouter.interface
  now : Time
  taskEnd : TaskEnd

/-- The tables while the request is served, the calls made so far, and whether Proxmox has
accepted the destruction. -/
structure Site where
  db : Db
  calls : List (RouterCall GuestRouter)
  started : Bool

namespace Deletion

variable (d : Deletion)

/-- `soft_delete_vm_instance`, and the release that follows it. -/
def forgetInstance (db : Db) (serverId : ServerId) (vmid : Vmid) : Db :=
  let db' := softDeleteVmInstance d.now db serverId vmid
  { db' with
    ipam := (db'.ipam.releaseIpByVmid serverId vmid (some d.user.username)
      (some (match d.ty with
        | .qemu => s!"VM {vmid} deleted"
        | .lxc => s!"Container {vmid} deleted"))).1 }

/-- What an effect writes; what raised has written nothing. -/
def effectOn (db : Db) : (e : GuestEffect) → e.Answer → Db
  | .saveInstance serverId vmid config interfaces, .ok _ =>
    savedWith db (savedArgs db serverId vmid d.node config interfaces)
  | .forgetInstance serverId vmid, _ => d.forgetInstance db serverId vmid
  | _, _ => db

/-- The answer of the client's delete method, when it starts a task. -/
def startsTask : (op : GuestRequest) → Except String Json → Bool
  | ⟨_, _, .delete _⟩, .ok result => result.truthy
  | _, _ => false

/-- Proxmox answers, and the tables take the writes. -/
def host : Host GuestRouter.interface Site where
  answer site c := d.env site.calls c
  next site c :=
    { db := match c with
        | .effect e => d.effectOn site.db e (d.env site.calls (.effect e))
        | _ => site.db
      calls := site.calls ++ [c]
      started := site.started || (match c with
        | .request server op => startsTask op (d.env site.calls (.request server op))
        | _ => false) }

/-- The end of the request. -/
def site (g : GuestDb) : Site :=
  (d.host.exec ⟨g.toDb, [], false⟩
    (deleteGuest g d.user d.serverId d.vmid d.node d.ty d.force)).1

/-- The guest has really been destroyed. -/
def Destroyed (g : GuestDb) : Prop := (d.site g).started = true ∧ d.taskEnd = .succeeded

/-- The row goes and addresses are released only for a destroyed guest, and a task that fails
leaves the row with its owner and the addresses as they were. -/
structure Lawful (g : GuestDb) : Prop where
  row : (getVmInstance g.toDb d.serverId d.vmid).isSome = true →
    getVmInstance (d.site g).db d.serverId d.vmid = none → d.Destroyed g
  addresses : ∀ a ∈ g.ipam.allocations.rows, a ∉ (d.site g).db.ipam.allocations.rows →
    d.Destroyed g
  failed : (d.site g).started = true → d.taskEnd = .failed →
    getVmInstance (d.site g).db d.serverId d.vmid = getVmInstance g.toDb d.serverId d.vmid ∧
      (d.site g).db.ipam.allocations = g.ipam.allocations

/-- Proxmox accepts no destruction, or it succeeds, or there is nothing to lose. -/
def Harmless (g : GuestDb) : Prop :=
  (d.site g).started = true → d.taskEnd ≠ .succeeded →
    getVmInstance g.toDb d.serverId d.vmid = none ∧
      g.ipam.releaseTargets d.serverId d.vmid = []

/-! ### The end of a request -/

/-- A call that neither writes the row nor starts the destruction. -/
def Quiet : RouterCall GuestRouter → Prop
  | .isConnected _ => True
  | .request _ op => ∀ ty, op.op ≠ .delete ty
  | .effect (.saveInstance ..) => False
  | .effect (.forgetInstance ..) => False
  | .effect _ => True

/-- The tables as they are until the destruction starts: the configuration may be saved. -/
def Kept (g : GuestDb) (db : Db) : Prop :=
  db = g.toDb ∨ ∃ args : SaveArgs, args.key = (d.serverId, d.vmid) ∧ db = saveVmInstance g.toDb args

/-- The row is forgotten exactly when the destruction has started. -/
def Ended (g : GuestDb) (site : Site) : Prop :=
  (site.started = false ∧ d.Kept g site.db) ∨
    site.started = true ∧ ∃ db, d.Kept g db ∧ site.db = d.forgetInstance db d.serverId d.vmid

variable {d} {g : GuestDb}

private theorem startsTask_of_quiet {op : GuestRequest} (h : ∀ ty, op.op ≠ .delete ty)
    (a : Except String Json) : startsTask op a = false := by
  obtain ⟨node, vmid, op⟩ := op
  cases op with
  | delete ty => exact absurd rfl (h ty)
  | _ => rfl

/-- A quiet call leaves the tables and the guest alone. -/
private theorem keeps_of_quiet {db : Db} (site : Site) (c : RouterCall GuestRouter)
    (hc : Quiet c) (h : site.db = db ∧ site.started = false) :
    (d.host.next site c).db = db ∧ (d.host.next site c).started = false := by
  obtain ⟨hdb, hstarted⟩ := h
  cases c with
  | isConnected server => exact ⟨hdb, by simp [host, hstarted]⟩
  | request server op =>
    refine ⟨hdb, ?_⟩
    change (site.started || startsTask op _) = false
    rw [hstarted, startsTask_of_quiet hc, Bool.or_false]
  | effect e =>
    refine ⟨?_, by simp [host, hstarted]⟩
    cases e with
    | saveInstance => exact hc.elim
    | forgetInstance => exact hc.elim
    | _ => exact hdb

/-! The calls of a handler that are quiet. -/

private theorem quiet_guestOp {server : ProxmoxServer} {node : String} {vmid : Vmid} {op : GuestOp}
    (h : ∀ ty, op ≠ .delete ty) : (guestOp server node vmid op).Only Quiet := by
  refine Proc.only_bind (Proc.only_ask h) fun a => ?_
  cases a with
  | ok a => exact Proc.only_pure a
  | error e => exact Proc.only_throw _

private theorem quiet_swallow {α : Type} {p : GuestHandler α} (h : p.Only Quiet) :
    (swallow p).Only Quiet :=
  Proc.only_tryCatch (Proc.only_bind h fun _ => Proc.only_pure ()) fun _ => Proc.only_pure ()

private theorem quiet_waitStopped {vmid : Vmid} {node : String} {server : ProxmoxServer}
    {ty : VmType} (n : Nat) : (waitStopped vmid node server ty n).Only Quiet := by
  induction n with
  | zero => exact Proc.only_pure false
  | succ n ih =>
    refine Proc.only_bind (quiet_guestOp fun _ h => by cases h) fun status => ?_
    cases status.fieldIs "status" "running" with
    | true => exact ih
    | false => exact Proc.only_pure true

private theorem quiet_removeSnapshots {sid : ServerId} {vmid : Vmid} {node : String}
    {server : ProxmoxServer} {ty : VmType} (snapshots : List Json) :
    (removeSnapshots sid vmid node server ty snapshots).Only Quiet := by
  induction snapshots with
  | nil => exact Proc.only_pure ()
  | cons snapshot rest ih =>
    refine Proc.only_bind ?_ fun _ => ih
    unfold removeSnapshot
    split
    · split
      · exact Proc.only_pure ()
      · refine Proc.only_bind (quiet_swallow ?_) fun _ =>
          quiet_swallow (quiet_guestOp fun _ h => by cases h)
        refine Proc.only_bind (Proc.only_ask trivial) fun a => ?_
        cases a with
        | ok a => exact Proc.only_pure a
        | error e => exact Proc.only_throw _
    · exact Proc.only_pure ()

private theorem quiet_archive {sid : ServerId} {vmid : Vmid} {node : String}
    {server : ProxmoxServer} {ty : VmType} :
    (archiveAndDeleteSnapshots sid vmid node server ty).Only Quiet := by
  refine quiet_swallow (Proc.only_bind (quiet_guestOp fun _ h => by cases h) fun a => ?_)
  split
  · exact quiet_removeSnapshots _
  · exact Proc.only_throw _

private theorem quiet_getClientOr503 {server : ProxmoxServer} {detail : String} :
    (getClientOr503 server detail : GuestHandler Unit).Only Quiet :=
  Proc.only_bind (Proc.only_ensure _ _) fun _ =>
    Proc.only_bind (Proc.only_ask trivial) fun _ => Proc.only_ensure _ _

private theorem quiet_resolveServer {db : Db} {sid : ServerId} {detail : String} :
    (resolveServer db sid detail : GuestHandler ProxmoxServer).Only Quiet := by
  unfold resolveServer
  split
  · exact Proc.only_throw _
  · exact Proc.only_pure _

/-- What follows a quiet part may rely on the tables and the guest. -/
private theorem meets_quiet_bind {α β : Type} {db : Db} {site : Site} {p : GuestHandler α}
    {f : α → GuestHandler β} (hp : p.Only Quiet) (h : site.db = db ∧ site.started = false)
    (hkept : d.Kept g db)
    (hf : ∀ site' a, site'.db = db ∧ site'.started = false →
      d.host.Meets (fun _ _ => True) (fun site _ => d.Ended g site) site' (f a)) :
    d.host.Meets (fun _ _ => True) (fun site _ => d.Ended g site) site (p >>= f) := by
  refine Host.meets_bind_of_only (J := fun site => site.db = db ∧ site.started = false)
    keeps_of_quiet hp h hf fun site' _ h' => Or.inl ⟨h'.2, ?_⟩
  rw [h'.1]
  exact hkept

/-- A client method raises or goes on with its result. -/
private theorem meets_guestOp_bind {β : Type} {site : Site} {server : ProxmoxServer}
    {node : String} {vmid : Vmid} {op : GuestOp} {f : Json → GuestHandler β}
    {post : Site → Except Exc β → Prop}
    (hok : ∀ result, d.env site.calls (.request server ⟨node, vmid, op⟩) = .ok result →
      d.host.Meets (fun _ _ => True) post (d.host.next site (.request server ⟨node, vmid, op⟩))
        (f result))
    (herror : ∀ e, d.env site.calls (.request server ⟨node, vmid, op⟩) = .error e →
      post (d.host.next site (.request server ⟨node, vmid, op⟩)) (.error (.other e))) :
    d.host.Meets (fun _ _ => True) post site (guestOp server node vmid op >>= f) := by
  refine ⟨trivial, ?_⟩
  generalize ha : d.host.answer site (.request server ⟨node, vmid, op⟩) = a
  cases a with
  | ok result => exact hok result ha
  | error e => exact herror e ha

/-- A step that may raise, where nothing depends on whether it did. -/
private theorem meets_swallow_bind {α β : Type} {site : Site} {p : GuestHandler (Except String α)}
    {f : Unit → GuestHandler β} {post : Site → Except Exc β → Prop}
    (h : d.host.Meets (fun _ _ => True)
      (fun site' _ => d.host.Meets (fun _ _ => True) post site' (f ())) site p) :
    d.host.Meets (fun _ _ => True) post site (swallow (orRaise p) >>= f) := by
  refine Host.meets_bind.mpr (Host.meets_tryCatch.mpr (Host.meets_bind.mpr (Host.meets_bind.mpr
    (Host.meets_mono (fun site' r h' => ?_) h))))
  cases r with
  | ok a =>
    cases a with
    | ok a => exact h'
    | error e => exact h'
  | error e => exact h'

/-- From the snapshots on: the destruction is started, and the row forgotten. -/
private theorem meets_destroy {server : ProxmoxServer} {site : Site} {db : Db}
    (h : site.db = db ∧ site.started = false) (hkept : d.Kept g db) :
    d.host.Meets (fun _ _ => True) (fun site _ => d.Ended g site) site (do
      archiveAndDeleteSnapshots d.serverId d.vmid d.node server d.ty
      let result ← guestOp server d.node d.vmid (.delete d.ty)
      Proc.ensure result.truthy (.http 500 "Не удалось удалить")
      swallow (orRaise (effect (R := GuestRouter) (.forgetInstance d.serverId d.vmid)))
      pure (Reply.success "success") : GuestHandler Reply) := by
  refine meets_quiet_bind quiet_archive h hkept fun site' _ h' => ?_
  obtain ⟨hdb, hstarted⟩ := h'
  refine meets_guestOp_bind (fun result hresult => ?_) fun e he => ?_
  · have hstart : (d.host.next site' (.request server ⟨d.node, d.vmid, .delete d.ty⟩)).started =
        result.truthy := by
      change (site'.started || startsTask _ _) = _
      rw [hresult, hstarted]
      rfl
    refine Host.meets_ensure_bind.mpr ⟨fun htrue => ?_, fun hfalse => ?_⟩
    · refine meets_swallow_bind ⟨trivial, Or.inr ⟨?_, db, hkept, ?_⟩⟩
      · change ((d.host.next site' _).started || false) = true
        rw [hstart, htrue]
        rfl
      · change d.forgetInstance site'.db d.serverId d.vmid = _
        rw [hdb]
    · refine Or.inl ⟨hstart.trans hfalse, ?_⟩
      change d.Kept g site'.db
      rw [hdb]
      exact hkept
  · refine Or.inl ⟨?_, ?_⟩
    · change (site'.started || startsTask _ _) = false
      rw [he, hstarted]
      rfl
    · change d.Kept g site'.db
      rw [hdb]
      exact hkept

/-- Whatever Proxmox answers, the row is forgotten exactly when the destruction has started. -/
theorem meets_deleteGuest (site : Site) (h : site.db = g.toDb ∧ site.started = false) :
    d.host.Meets (fun _ _ => True) (fun site _ => d.Ended g site) site
      (deleteGuest g d.user d.serverId d.vmid d.node d.ty d.force) := by
  have hself : d.Kept g g.toDb := Or.inl rfl
  unfold deleteGuest
  refine meets_quiet_bind (Proc.only_ensure _ _) h hself fun site _ h => ?_
  refine meets_quiet_bind (Proc.only_ensure _ _) h hself fun site _ h => ?_
  refine meets_quiet_bind quiet_resolveServer h hself fun site server h => ?_
  refine Host.meets_tryCatch.mpr (Host.meets_mono ?_
    (?_ : d.host.Meets (fun _ _ => True) (fun site _ => d.Ended g site) site _))
  · intro site r hended
    cases r with
    | ok a => exact hended
    | error e =>
      cases e with
      | http status detail => exact hended
      | other text => exact hended
  refine meets_quiet_bind quiet_getClientOr503 h hself fun site _ h => ?_
  refine meets_quiet_bind (quiet_guestOp fun _ h => by cases h) h hself fun site status h => ?_
  have hsaved : ∀ site : Site, site.db = g.toDb ∧ site.started = false →
      d.host.Meets (fun _ _ => True) (fun site _ => d.Ended g site) site
        (if d.ty = VmType.qemu ∧ d.force = false then do
            let config ← guestOp server d.node d.vmid (.config VmType.qemu)
            let interfaces ← guestOp server d.node d.vmid (.interfaces VmType.qemu)
            swallow (orRaise (effect (R := GuestRouter)
              (.saveInstance d.serverId d.vmid config interfaces)))
            archiveAndDeleteSnapshots d.serverId d.vmid d.node server d.ty
            let result ← guestOp server d.node d.vmid (.delete d.ty)
            Proc.ensure result.truthy (.http 500 "Не удалось удалить")
            swallow (orRaise (effect (R := GuestRouter) (.forgetInstance d.serverId d.vmid)))
            pure (Reply.success "success")
          else do
            archiveAndDeleteSnapshots d.serverId d.vmid d.node server d.ty
            let result ← guestOp server d.node d.vmid (.delete d.ty)
            Proc.ensure result.truthy (.http 500 "Не удалось удалить")
            swallow (orRaise (effect (R := GuestRouter) (.forgetInstance d.serverId d.vmid)))
            pure (Reply.success "success") : GuestHandler Reply) := by
    intro site h
    split
    · refine meets_quiet_bind (quiet_guestOp fun _ h => by cases h) h hself
        fun site config h => ?_
      refine meets_quiet_bind (quiet_guestOp fun _ h => by cases h) h hself
        fun site interfaces h => meets_swallow_bind ⟨trivial, ?_⟩
      cases ha : d.env site.calls (.effect (.saveInstance d.serverId d.vmid config interfaces)) with
      | ok a =>
        have hstarted : (site.started || false) = false := by
          rw [h.2]
          rfl
        have hdb : d.effectOn site.db (.saveInstance d.serverId d.vmid config interfaces)
            (d.env site.calls (.effect (.saveInstance d.serverId d.vmid config interfaces))) =
              savedWith g.toDb (savedArgs g.toDb d.serverId d.vmid d.node config interfaces) := by
          rw [ha, h.1]
          rfl
        cases hargs : savedArgs g.toDb d.serverId d.vmid d.node config interfaces with
        | ok args =>
          rw [hargs] at hdb
          exact meets_destroy ⟨hdb, hstarted⟩ (Or.inr ⟨args, key_of_savedArgs hargs, rfl⟩)
        | error e =>
          rw [hargs] at hdb
          exact meets_destroy ⟨hdb, hstarted⟩ hself
      | error e =>
        refine meets_destroy ⟨?_, ?_⟩ hself
        · change d.effectOn site.db _ _ = _
          rw [ha, ← h.1]
          rfl
        · change (site.started || false) = false
          rw [h.2]
          rfl
    · exact meets_destroy h hself
  dsimp only
  split
  · refine meets_quiet_bind (quiet_swallow (quiet_guestOp fun _ h => by cases h)) h hself
      fun site _ h => ?_
    refine meets_quiet_bind (quiet_waitStopped 30) h hself fun site _ h => ?_
    exact meets_quiet_bind (Proc.only_ensure _ _) h hself fun site _ h => hsaved site h
  · exact hsaved site h

/-- The end of a request, read off the tables and the guest. -/
theorem ended_site (d : Deletion) (g : GuestDb) : d.Ended g (d.site g) :=
  Host.post_exec (meets_deleteGuest ⟨g.toDb, [], false⟩ ⟨rfl, rfl⟩)

/-! ### What is lost -/

theorem Kept.ipam {db : Db} (h : d.Kept g db) : db.ipam = g.ipam := by
  rcases h with rfl | ⟨args, -, rfl⟩
  · rfl
  · rfl

/-- Saving the configuration leaves a live row live. -/
theorem Kept.live {db : Db} (h : d.Kept g db)
    (hg : (getVmInstance g.toDb d.serverId d.vmid).isSome = true) :
    (getVmInstance db d.serverId d.vmid).isSome = true := by
  rcases h with rfl | ⟨args, hkey, rfl⟩
  · exact hg
  · have hfind := find?_saveVmInstance g.toDb args (d.serverId, d.vmid)
    rw [if_pos hkey] at hfind
    rw [getVmInstance_eq_some_iff.mpr ⟨hfind, live_row _⟩]
    rfl

/-- Forgetting a guest leaves it without a live row. -/
theorem getVmInstance_forgetInstance (db : Db) (sid : ServerId) (vmid : Vmid) :
    getVmInstance (d.forgetInstance db sid vmid) sid vmid = none := by
  have hfind : (d.forgetInstance db sid vmid).vms.find? (sid, vmid) =
      (db.vms.find? (sid, vmid)).map fun row =>
        if row.live = true then { row with deletedAt := some d.now } else row := by
    refine (find?_softDeleteVmInstance d.now db sid vmid (sid, vmid)).trans ?_
    simp only [true_and]
  cases hg : getVmInstance (d.forgetInstance db sid vmid) sid vmid with
  | none => rfl
  | some row =>
    obtain ⟨hrow, hlive⟩ := getVmInstance_eq_some_iff.mp hg
    rw [hfind, Option.map_eq_some_iff] at hrow
    obtain ⟨row₀, -, rfl⟩ := hrow
    split at hlive
    · cases hlive
    · rename_i hnot
      exact absurd hlive hnot

/-- The first release of the two already takes everything a release by the number takes. -/
theorem not_mem_forgetInstance {db : Db} {sid : ServerId} {vmid : Vmid} {a : IPAMAllocation}
    (ha : a ∈ db.ipam.releaseTargets sid vmid) :
    a ∉ (d.forgetInstance db sid vmid).ipam.allocations.rows := by
  intro hmem
  have hsecond := (Ipam.mem_releaseIpByVmid _ _ _ _ _ _).mp hmem
  unfold softDeleteVmInstance at hsecond
  cases hg : getVmInstance db sid vmid with
  | none =>
    rw [hg] at hsecond
    exact hsecond.2 ha
  | some row =>
    rw [hg] at hsecond
    exact ((Ipam.mem_releaseIpByVmid _ _ _ _ _ _).mp hsecond.1).2 ha

theorem releaseIpByVmid_of_nil {ipam : Ipam} {sid : ServerId} {vmid : Vmid}
    (h : ipam.releaseTargets sid vmid = []) (releasedBy reason : Option String) :
    (ipam.releaseIpByVmid sid vmid releasedBy reason).1 = ipam := by
  unfold Ipam.releaseIpByVmid
  rw [h]

/-- Without addresses of the guest none is released. -/
theorem ipam_forgetInstance_of_nil {db : Db} {sid : ServerId} {vmid : Vmid}
    (h : db.ipam.releaseTargets sid vmid = []) :
    (d.forgetInstance db sid vmid).ipam = db.ipam := by
  have hsoft : (softDeleteVmInstance d.now db sid vmid).ipam = db.ipam := by
    unfold softDeleteVmInstance
    split
    · rfl
    · exact releaseIpByVmid_of_nil h _ _
  unfold forgetInstance
  dsimp only
  rw [hsoft]
  exact releaseIpByVmid_of_nil h _ _

/-- A request is lawful exactly when Proxmox accepts no destruction, it succeeds, or the guest
has neither a live row nor an address. -/
theorem lawful_iff (d : Deletion) (g : GuestDb) : d.Lawful g ↔ d.Harmless g := by
  rcases d.ended_site g with ⟨hstarted, hkept⟩ | ⟨hstarted, db, hkept, hdb⟩
  · have hno : ¬(d.site g).started = true := by
      rw [hstarted]
      exact Bool.false_ne_true
    refine iff_of_true ⟨fun hg hnone => ?_, fun a ha hn => ?_, fun hs => absurd hs hno⟩
      fun hs => absurd hs hno
    · have hlive := hkept.live hg
      rw [hnone] at hlive
      cases hlive
    · rw [hkept.ipam] at hn
      exact absurd ha hn
  · have hnone : getVmInstance (d.site g).db d.serverId d.vmid = none := by
      rw [hdb]
      exact getVmInstance_forgetInstance db d.serverId d.vmid
    constructor
    · intro h _ hend
      have hnot : ¬d.Destroyed g := fun hd => hend hd.2
      constructor
      · cases hg : getVmInstance g.toDb d.serverId d.vmid with
        | none => rfl
        | some row => exact absurd (h.row (by rw [hg]; rfl) hnone) hnot
      · refine List.eq_nil_iff_forall_not_mem.mpr fun a ha => hnot (h.addresses a ?_ ?_)
        · exact (Ipam.mem_releaseTargets ha).1
        · rw [hdb]
          exact not_mem_forgetInstance (by rw [hkept.ipam]; exact ha)
    · intro h
      by_cases hend : d.taskEnd = .succeeded
      · refine ⟨fun _ _ => ⟨hstarted, hend⟩, fun _ _ _ => ⟨hstarted, hend⟩, fun _ hfailed => ?_⟩
        rw [hend] at hfailed
        cases hfailed
      · obtain ⟨hrow, htargets⟩ := h hstarted hend
        have hipam : (d.site g).db.ipam = g.ipam := by
          rw [hdb, ipam_forgetInstance_of_nil (by rw [hkept.ipam]; exact htargets), hkept.ipam]
        refine ⟨fun hg => ?_, fun a ha hn => ?_, fun _ _ => ⟨hnone.trans hrow.symm, ?_⟩⟩
        · rw [hrow] at hg
          cases hg
        · rw [hipam] at hn
          exact absurd ha hn
        · rw [hipam]

end Deletion

/-! ### The application store -/

/-- The deletion of an installed application, with what Proxmox answers. -/
structure AppDeletion where
  serverId : ServerId
  vmid : Vmid
  /-- The server is registered and the client can be built. -/
  prepared : Except String Unit
  /-- `delete_container`: accepted, or the text of the error. -/
  accepted : Except String Unit
  taskEnd : TaskEnd
  /-- The task ends before `wait_for_task` gives up. -/
  inTime : Bool
  now : Time
  reason : String

namespace AppDeletion

variable (a : AppDeletion)

/-- Proxmox has no such container any more. -/
def reportsAbsent (message : String) : Bool :=
  decide ("does not exist".toList <:+: message.toLower.toList ∨
    "no such".toList <:+: message.toLower.toList)

/-- `wait_for_task`. -/
def waitForTask : Bool := decide (a.taskEnd = .succeeded) && a.inTime

/-- `poc_teardown`, once the container is stopped. -/
def pocTeardown : Except String Unit := do
  a.prepared
  match a.accepted with
  | .error message => if reportsAbsent message then pure () else throw message
  | .ok () =>
    if a.waitForTask then pure ()
    else throw s!"Удаление LXC {a.vmid}: Proxmox не подтвердил завершение задачи"

/-- `_run_delete`. -/
def runDelete (db : Db) : Db :=
  match a.pocTeardown with
  | .error _ => db
  | .ok () =>
    softDeleteVmInstance a.now
      { db with
        ipam := (db.ipam.releaseIpByVmid a.serverId a.vmid (some "appstore") (some a.reason)).1 }
      a.serverId a.vmid

/-- The store writes nothing unless the container is gone: destroyed, or absent before. -/
theorem runDelete_of_not_gone (db : Db)
    (hdestroyed : a.accepted = .ok () → a.taskEnd ≠ .succeeded)
    (habsent : ∀ message, a.accepted = .error message → reportsAbsent message = false) :
    a.runDelete db = db := by
  have hfails : ∃ e, a.pocTeardown = .error e := by
    unfold pocTeardown
    cases a.prepared with
    | error e => exact ⟨e, rfl⟩
    | ok u =>
      cases ha : a.accepted with
      | error message =>
        refine ⟨message, ?_⟩
        change (if reportsAbsent message = true then pure () else throw message) = _
        rw [habsent message ha]
        rfl
      | ok u =>
        have hwait : a.waitForTask = false := by
          unfold waitForTask
          rw [decide_eq_false (hdestroyed ha), Bool.false_and]
        refine ⟨s!"Удаление LXC {a.vmid}: Proxmox не подтвердил завершение задачи", ?_⟩
        change (if a.waitForTask = true then pure () else throw _) = _
        rw [hwait]
        rfl
  obtain ⟨e, he⟩ := hfails
  unfold runDelete
  rw [he]

end AppDeletion

/-! ### Requests between ticks -/

/-- The tables and the worker's throttle marks. -/
structure Office where
  tables : GuestDb
  last : Sync.LastIpDetect

/-- A deletion request, a tick of the cache, or anything else. -/
inductive Happening
  | delete (d : Deletion)
  | tick (env : Sync.TickEnv)
  | other (change : GuestDb → GuestDb)

/-- What happens to the tables. -/
def Office.next (o : Office) : Happening → Office
  | .delete d => { o with tables := { o.tables with toDb := (d.site o.tables).db } }
  | .tick env =>
    let out := Sync.syncVmCache env o.last o.tables.toDb
    ⟨{ o.tables with toDb := out.db }, out.lastIpDetect⟩
  | .other change => { o with tables := change o.tables }

/-- Every deletion request of the run is lawful. -/
def LawfulRun : Office → List Happening → Prop :=
  Guarded Office.next fun o e => ∀ d, e = .delete d → d.Lawful o.tables

/-- A run is lawful exactly when none of its requests deletes on a destruction that fails or
never ends. -/
theorem lawfulRun_iff (o : Office) (es : List Happening) :
    LawfulRun o es ↔ Guarded Office.next (fun o e => ∀ d, e = .delete d → d.Harmless o.tables) o es :=
  guarded_congr fun o _ => forall_congr' fun d => imp_congr_right fun _ => d.lawful_iff o.tables

/-- The administrator deletes a tenant's machine, and the destroy task fails. -/
def failingDeletion : Deletion where
  user := ⟨1, "admin", true, none, []⟩
  serverId := 1
  vmid := 100
  node := "pve"
  ty := .qemu
  force := false
  env := answering
  now := 5
  taskEnd := .failed

/-- The machine is still there, and its row is gone. -/
theorem failing_task_not_lawful : ¬LawfulRun ⟨otherTenant.db, .empty⟩ [.delete failingDeletion] := by
  rintro ⟨h, -⟩
  have hgone := (h failingDeletion rfl).row rfl (by decide)
  exact absurd hgone.2 (by decide)

end PveManager.Api.Guests
