import PveManager.Api.GuestDeletion
import PveManager.Api.Plain

/-!
# A deletion that fails

Before a machine is destroyed its configuration is written to the row of the guest
by the general save, which has no arguments for the gateway, the name server, the
login of cloud-init, the keys and the extra configuration. Nothing undoes the
write when the deletion then fails.
-/

namespace PveManager.Api.DeleteFailure

open PveManager.Core PveManager.Rbac PveManager.Owners PveManager.Api.Guests

/-! ### The two endpoints -/

/-- A deletion request with everything it is answered. -/
structure Attempt where
  user : User
  serverId : ServerId
  vmid : Vmid
  node : String
  ty : VmType
  force : Bool
  /-- `_get_proxmox_client` and `is_connected`. -/
  connected : Except Exc Bool
  status : Except String Json
  /-- The answers while the panel waits for the guest to stop. -/
  polls : Nat → Except String Json
  config : Except String Json
  interfaces : Except String Json
  /-- Whether the database takes the save. -/
  commits : SaveArgs → Bool
  delete : Except String Json
  /-- Whether the database takes the deletion of the row. -/
  forgets : Bool
  now : Time

/-- The loop after the stop, for so many rounds. -/
def stopped (polls : Nat → Except String Json) : Nat → Except Exc Bool
  | 0 => .ok false
  | rounds + 1 =>
    match polls 0 with
    | .error e => .error (.other e)
    | .ok status =>
      if status.fieldIs "status" "running" then stopped (fun i => polls (i + 1)) rounds
      else .ok true

/-- The answer says whether the guest is running. -/
def Says (running : Bool) (answer : Except String Json) : Prop :=
  ∃ status, answer = .ok status ∧ status.fieldIs "status" "running" = running

namespace Attempt

variable (a : Attempt) (db : Db)

/-- The wait for a running guest; what the stop request answers or raises is not looked at. -/
def gone (status : Json) : Except Exc Bool :=
  if status.fieldIs "status" "running" then stopped a.polls 30 else .ok true

/-- Up to the point where the guest is not running. -/
def prepare : Except Exc Unit := do
  ensure (hasPermission a.user "vm:delete") (.http 403 "Permission denied: vm:delete")
  ensure (checkVmAccess db a.user a.serverId a.vmid)
    (.http 403 "You do not have access to this virtual machine")
  ensure (db.servers.find? a.serverId).isSome (.http 404 "server_not_found")
  let connected ← a.connected
  ensure connected (.http 503 "failed_to_connect")
  let status ← a.status.mapError .other
  let gone ← a.gone status
  ensure gone (.http 400 "cannot_delete_running")

/-- What is written before the deletion; an exception of the save itself is only logged. -/
def savedFirst : Except Exc (Option SaveArgs) :=
  if a.ty = .qemu ∧ a.force = false then do
    let config ← a.config.mapError .other
    let interfaces ← a.interfaces.mapError .other
    let args := savedArgs db a.serverId a.vmid a.node config interfaces
    .ok (args.toOption.filter a.commits)
  else .ok none

/-- `delete_vm` and `delete_container`. -/
def deleteGuest : Db × Except Exc Unit :=
  match a.prepare db with
  | .error e => (db, .error (serverError e))
  | .ok _ =>
    match a.savedFirst db with
    | .error e => (db, .error (serverError e))
    | .ok args =>
      let db' := args.elim db (saveVmInstance db)
      match a.delete with
      | .error e => (db', .error (.http 500 e))
      | .ok result =>
        if result.truthy then
          (if a.forgets then softDeleteVmInstance a.now db' a.serverId a.vmid else db', .ok ())
        else (db', .error (.http 500 "Не удалось удалить"))

/-- A failed request leaves the row of the guest as it was, or leaves it absent. -/
def KeepsRow : Prop :=
  ∀ e, (a.deleteGuest db).2 = .error e →
    (a.deleteGuest db).1.vms.find? (a.serverId, a.vmid) = db.vms.find? (a.serverId, a.vmid)

/-- Nothing stands in the way of the deletion. -/
structure Prepared : Prop where
  permission : hasPermission a.user "vm:delete" = true
  access : checkVmAccess db a.user a.serverId a.vmid = true
  server : (db.servers.find? a.serverId).isSome = true
  connected : a.connected = .ok true
  gone : Says false a.status ∨
    Says true a.status ∧ ∃ n < 30, (∀ i < n, Says true (a.polls i)) ∧ Says false (a.polls n)

/-- The configuration of a machine is written, and then Proxmox refuses the deletion. -/
structure WritesThenFails (args : SaveArgs) : Prop where
  machine : a.ty = .qemu ∧ a.force = false
  prepared : a.Prepared db
  read : ∃ config interfaces, a.config = .ok config ∧ a.interfaces = .ok interfaces ∧
    savedArgs db a.serverId a.vmid a.node config interfaces = .ok args
  commits : a.commits args = true
  refused : ∀ result, a.delete = .ok result → result.truthy = false

end Attempt

/-- The live row already says what is written, and nothing that the save cannot say. -/
structure SaysTheSame (args : SaveArgs) (row : VMInstance) : Prop where
  live : row.live = true
  machine : row.node = args.node ∧ row.vmType = .qemu ∧ row.name = args.name
  size : row.cores = args.cores ∧ row.memory = args.memory ∧ row.diskSize = args.diskSize
  address : row.ipAddress = args.ipAddress ∧ row.ipPrefix = args.ipPrefix
  network : row.gateway = none ∧ row.nameserver = none
  login : row.cloudInitUser = none ∧ row.cloudInitPassword = none ∧ row.sshKeys = none
  description : row.description = args.description
  extraConfig : row.extraConfig = none

/-! ### When the row is kept -/

variable {a : Attempt} {db : Db} {args : SaveArgs} {row : VMInstance}

/-- The wait ends well when an answer within the rounds says that the guest is not running. -/
theorem stopped_eq_ok_true_iff {polls : Nat → Except String Json} {rounds : Nat} :
    stopped polls rounds = .ok true ↔
      ∃ n < rounds, (∀ i < n, Says true (polls i)) ∧ Says false (polls n) := by
  induction rounds generalizing polls with
  | zero => exact iff_of_false (fun h => by cases h) fun ⟨n, hn, _⟩ => absurd hn (Nat.not_lt_zero n)
  | succ rounds ih =>
    have hgo : Says true (polls 0) → (stopped (fun i => polls (i + 1)) rounds = .ok true ↔
        ∃ n < rounds + 1, (∀ i < n, Says true (polls i)) ∧ Says false (polls n)) := by
      intro hfirst
      rw [ih]
      constructor
      · rintro ⟨n, hn, hbefore, hlast⟩
        refine ⟨n + 1, Nat.succ_lt_succ hn, fun i hi => ?_, hlast⟩
        cases i with
        | zero => exact hfirst
        | succ i => exact hbefore i (Nat.lt_of_succ_lt_succ hi)
      · rintro ⟨n, hn, hbefore, hlast⟩
        cases n with
        | zero =>
          obtain ⟨status, hstatus, hrunning⟩ := hfirst
          obtain ⟨status', hstatus', hnot⟩ := hlast
          rw [hstatus] at hstatus'
          cases hstatus'
          rw [hrunning] at hnot
          cases hnot
        | succ n =>
          exact ⟨n, Nat.lt_of_succ_lt_succ hn, fun i hi => hbefore (i + 1) (Nat.succ_lt_succ hi),
            hlast⟩
    unfold stopped
    cases hpoll : polls 0 with
    | error e =>
      refine iff_of_false (fun h => by cases h) ?_
      rintro ⟨n, -, hbefore, hlast⟩
      cases n with
      | zero =>
        obtain ⟨status, hstatus, -⟩ := hlast
        rw [hpoll] at hstatus
        cases hstatus
      | succ n =>
        obtain ⟨status, hstatus, -⟩ := hbefore 0 (Nat.succ_pos n)
        rw [hpoll] at hstatus
        cases hstatus
    | ok status =>
      dsimp only
      cases hrunning : status.fieldIs "status" "running" with
      | true => exact hgo ⟨status, hpoll, hrunning⟩
      | false =>
        refine iff_of_true rfl ⟨0, Nat.succ_pos rounds, fun i hi => absurd hi (Nat.not_lt_zero i), ?_⟩
        exact ⟨status, hpoll, hrunning⟩

theorem prepare_eq_ok_iff : a.prepare db = .ok () ↔ a.Prepared db := by
  have hgone : ∀ status, a.status = .ok status → (a.gone status = .ok true ↔
      Says false a.status ∨ Says true a.status ∧
        ∃ n < 30, (∀ i < n, Says true (a.polls i)) ∧ Says false (a.polls n)) := by
    intro status hstatus
    unfold Attempt.gone
    have hstate : ∀ running, Says running a.status ↔
        status.fieldIs "status" "running" = running := by
      intro running
      constructor
      · rintro ⟨status', hstatus', h⟩
        rw [hstatus] at hstatus'
        cases hstatus'
        exact h
      · exact fun h => ⟨status, hstatus, h⟩
    rw [hstate, hstate, ← stopped_eq_ok_true_iff]
    cases status.fieldIs "status" "running" with
    | true => simp
    | false => simp
  simp only [Attempt.prepare, bind_eq_ok_iff, ensure_eq_ok_iff, mapError_eq_ok_iff]
  constructor
  · rintro ⟨_, hpermission, _, haccess, _, hserver, connected, hconnected, _, hyes, status, hstatus,
      gone, hend, hgone'⟩
    rw [hyes] at hconnected
    rw [hgone'] at hend
    exact ⟨hpermission, haccess, hserver, hconnected, (hgone status hstatus).mp hend⟩
  · rintro ⟨hpermission, haccess, hserver, hconnected, hend⟩
    have hstatus : ∃ status, a.status = .ok status := by
      rcases hend with ⟨status, h, -⟩ | ⟨⟨status, h, -⟩, -⟩
      · exact ⟨status, h⟩
      · exact ⟨status, h⟩
    obtain ⟨status, hstatus⟩ := hstatus
    exact ⟨(), hpermission, (), haccess, (), hserver, true, hconnected, (), rfl, status, hstatus,
      true, (hgone status hstatus).mpr hend, rfl⟩

/-- What is written first was read from Proxmox and taken by the database. -/
theorem savedFirst_eq_ok_some_iff : a.savedFirst db = .ok (some args) ↔
    (a.ty = .qemu ∧ a.force = false) ∧ (∃ config interfaces, a.config = .ok config ∧
      a.interfaces = .ok interfaces ∧
        savedArgs db a.serverId a.vmid a.node config interfaces = .ok args) ∧
          a.commits args = true := by
  unfold Attempt.savedFirst
  by_cases hmachine : a.ty = .qemu ∧ a.force = false
  · rw [if_pos hmachine]
    simp only [bind_eq_ok_iff, mapError_eq_ok_iff, Except.ok.injEq, Option.filter_eq_some_iff]
    constructor
    · rintro ⟨config, hconfig, interfaces, hinterfaces, hargs, hcommits⟩
      refine ⟨hmachine, ⟨config, interfaces, hconfig, hinterfaces, ?_⟩, hcommits⟩
      cases hsaved : savedArgs db a.serverId a.vmid a.node config interfaces with
      | ok found =>
        rw [hsaved] at hargs
        cases hargs
        rfl
      | error e =>
        rw [hsaved] at hargs
        cases hargs
    · rintro ⟨-, ⟨config, interfaces, hconfig, hinterfaces, hargs⟩, hcommits⟩
      refine ⟨config, hconfig, interfaces, hinterfaces, ?_, hcommits⟩
      rw [hargs]
      rfl
  · rw [if_neg hmachine]
    exact iff_of_false (fun h => by cases h) fun h => hmachine h.1

/-- What the save cannot say, and what it says anyway. -/
theorem eq_of_savedArgs {serverId : ServerId} {vmid : Vmid} {node : String}
    {config interfaces : Json} (h : savedArgs db serverId vmid node config interfaces = .ok args) :
    args = { args with
      serverId := serverId
      vmid := vmid
      vmType := .qemu
      gateway := none
      nameserver := none
      cloudInitUser := none
      cloudInitPassword := none
      sshKeys := none
      extraConfig := none
      ownerId := none
      templateId := (getVmInstance db serverId vmid).bind VMInstance.templateId
      templateName := (getVmInstance db serverId vmid).bind VMInstance.templateName } := by
  obtain ⟨diskSize, -, h⟩ := bind_ok h
  obtain ⟨name, -, h⟩ := bind_ok h
  obtain ⟨cores, -, h⟩ := bind_ok h
  obtain ⟨memory, -, h⟩ := bind_ok h
  obtain ⟨description, -, h⟩ := bind_ok h
  cases h
  rfl

/-- The save leaves a row alone exactly when the row says the same. -/
theorem row_eq_iff {serverId : ServerId} {vmid : Vmid} {node : String} {config interfaces : Json}
    (h : savedArgs db serverId vmid node config interfaces = .ok args)
    (hrow : db.vms.find? (serverId, vmid) = some row) :
    args.row (some row) = row ↔ SaysTheSame args row := by
  have hargs := eq_of_savedArgs h
  constructor
  · intro heq
    have hlive : row.live = true := by
      rw [← heq]
      exact live_row _
    rw [row_of_live hlive, hargs] at heq
    exact
      { live := hlive
        machine := ⟨(congrArg VMInstance.node heq).symm, (congrArg VMInstance.vmType heq).symm,
          (congrArg VMInstance.name heq).symm⟩
        size := ⟨(congrArg VMInstance.cores heq).symm, (congrArg VMInstance.memory heq).symm,
          (congrArg VMInstance.diskSize heq).symm⟩
        address := ⟨(congrArg VMInstance.ipAddress heq).symm,
          (congrArg VMInstance.ipPrefix heq).symm⟩
        network := ⟨(congrArg VMInstance.gateway heq).symm,
          (congrArg VMInstance.nameserver heq).symm⟩
        login := ⟨(congrArg VMInstance.cloudInitUser heq).symm,
          (congrArg VMInstance.cloudInitPassword heq).symm,
          (congrArg VMInstance.sshKeys heq).symm⟩
        description := (congrArg VMInstance.description heq).symm
        extraConfig := (congrArg VMInstance.extraConfig heq).symm }
  · intro hsame
    have hprev : getVmInstance db serverId vmid = some row :=
      getVmInstance_eq_some_iff.mpr ⟨hrow, hsame.live⟩
    rw [row_of_live hsame.live, hargs, hprev]
    obtain ⟨-, ⟨hnode, htype, hname⟩, ⟨hcores, hmemory, hdisk⟩, ⟨hip, hbits⟩,
      ⟨hgateway, hnameserver⟩, ⟨huser, hpassword, hkeys⟩, hdescription, hextra⟩ := hsame
    cases row
    simp only [SaveArgs.update, Option.bind_some, Option.none_or] at *
    subst hnode htype hname hcores hmemory hdisk hip hbits hgateway hnameserver huser hpassword
      hkeys hdescription hextra
    rfl

/-- A request that Proxmox refuses leaves what was written first. -/
theorem deleteGuest_of_refused {saved : Option SaveArgs} (hprepared : a.Prepared db)
    (hsaved : a.savedFirst db = .ok saved)
    (hrefused : ∀ result, a.delete = .ok result → result.truthy = false) :
    (a.deleteGuest db).1 = saved.elim db (saveVmInstance db) ∧
      ∃ e, (a.deleteGuest db).2 = .error e := by
  unfold Attempt.deleteGuest
  rw [prepare_eq_ok_iff.mpr hprepared, hsaved]
  dsimp only
  cases hdelete : a.delete with
  | error e => exact ⟨rfl, _, rfl⟩
  | ok result =>
    dsimp only
    rw [hrefused result hdelete]
    exact ⟨rfl, _, rfl⟩

/-- A failed request stopped before the save, or was refused. -/
theorem deleteGuest_eq_error {e : Exc} (h : (a.deleteGuest db).2 = .error e) :
    (a.deleteGuest db).1 = db ∨ ∃ args, a.WritesThenFails db args ∧
      (a.deleteGuest db).1 = saveVmInstance db args := by
  cases hprepared : a.prepare db with
  | error e' =>
    left
    rw [Attempt.deleteGuest, hprepared]
  | ok u =>
    cases hsaved : a.savedFirst db with
    | error e' =>
      left
      rw [Attempt.deleteGuest, hprepared, hsaved]
    | ok saved =>
      have hrefused : ∀ result, a.delete = .ok result → result.truthy = false := by
        intro result hresult
        rw [Attempt.deleteGuest, hprepared, hsaved, hresult] at h
        cases htruthy : result.truthy with
        | false => rfl
        | true =>
          dsimp only at h
          rw [htruthy] at h
          cases h
      have hdb := (deleteGuest_of_refused (prepare_eq_ok_iff.mp hprepared) hsaved hrefused).1
      cases saved with
      | none => exact Or.inl hdb
      | some args =>
        obtain ⟨hmachine, hread, hcommits⟩ := savedFirst_eq_ok_some_iff.mp hsaved
        exact Or.inr ⟨args, ⟨hmachine, prepare_eq_ok_iff.mp hprepared, hread, hcommits, hrefused⟩,
          hdb⟩

/-- A failed request leaves the row of the guest exactly when the save that came before wrote
nothing new. -/
theorem keepsRow_iff : a.KeepsRow db ↔ ∀ args, a.WritesThenFails db args →
    ∃ row, db.vms.find? (a.serverId, a.vmid) = some row ∧ SaysTheSame args row := by
  have hwritten : ∀ args, a.WritesThenFails db args →
      (saveVmInstance db args).vms.find? (a.serverId, a.vmid) =
        some (args.row (db.vms.find? (a.serverId, a.vmid))) := by
    rintro args ⟨-, -, ⟨config, interfaces, -, -, hargs⟩, -, -⟩
    rw [find?_saveVmInstance, key_of_savedArgs hargs, if_pos rfl]
  constructor
  · intro h args hw
    have hsaved := savedFirst_eq_ok_some_iff.mpr ⟨hw.machine, hw.read, hw.commits⟩
    obtain ⟨hdb, e, he⟩ := deleteGuest_of_refused hw.prepared hsaved hw.refused
    have hkept := h e he
    rw [hdb, Option.elim_some, hwritten args hw] at hkept
    obtain ⟨config, interfaces, -, -, hargs⟩ := hw.read
    refine ⟨_, hkept.symm, (row_eq_iff hargs hkept.symm).mp ?_⟩
    rw [hkept]
  · intro h e he
    rcases deleteGuest_eq_error he with hdb | ⟨args, hw, hdb⟩
    · rw [hdb]
    · obtain ⟨row, hrow, hsame⟩ := h args hw
      obtain ⟨config, interfaces, -, -, hargs⟩ := hw.read
      rw [hdb, hwritten args hw, hrow, (row_eq_iff hargs hrow).mpr hsame]

/-! ### A refused deletion -/

/-- A machine of a tenant with a cloud-init login. -/
def tenantMachine : VMInstance :=
  ⟨1, 100, "pve1", .qemu, "web", some 7, "stopped", false, some 2, some 2048, some 20, none, none,
    some 24, some "10.0.0.1", none, some "ann", some "secret", some "ssh-ed25519 AAAA", none, none,
    none, none, none, none⟩

def tenantDb : Db where
  servers := KeyedTable.empty.save ⟨1, "pve", "pve", "pve", 8006, "root@pam", some "panel",
    some "secret", false, none, false, none, none, some true, none, none, none⟩
  vms := KeyedTable.empty.save tenantMachine
  ipam := ⟨.empty, []⟩

/-- An administrator deletes the machine, and Proxmox answers as it is told. -/
def deleting (delete : Except String Json) : Attempt where
  user := ⟨1, "root", true, none, []⟩
  serverId := 1
  vmid := 100
  node := "pve1"
  ty := .qemu
  force := false
  connected := .ok true
  status := .ok (.dict [("status", .text "stopped"), ("name", .text "web")])
  polls := fun _ => .error "not asked"
  config := .ok (.dict [("name", .text "web"), ("cores", .number 2), ("memory", .text "2048"),
    ("scsi0", .text "local-lvm:vm-100-disk-0,size=20G")])
  interfaces := .ok (.list [])
  commits := fun _ => true
  delete := delete
  forgets := true
  now := 5

/-- The refused deletion takes the login, the keys, the gateway and the size of the disk away. -/
theorem refused_not_keepsRow : ¬∀ (a : Attempt) (db : Db), a.KeepsRow db := by
  intro h
  have hkept := h (deleting (.error "403 Forbidden")) tenantDb _ rfl
  have hlost : (((deleting (.error "403 Forbidden")).deleteGuest tenantDb).1.vms.find? (1, 100)).bind
      VMInstance.cloudInitPassword = none := by decide
  have hstored : (tenantDb.vms.find? (1, 100)).bind VMInstance.cloudInitPassword =
      some "secret" := by decide
  have hsame := congrArg (fun row => row.bind VMInstance.cloudInitPassword) hkept
  exact absurd (hlost.symm.trans (hsame.trans hstored)) (by decide)

end PveManager.Api.DeleteFailure
