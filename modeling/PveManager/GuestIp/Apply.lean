import PveManager.GuestIp.Interfaces
import PveManager.Ipam.Service

/-!
# Applying an address

`apply_address` sends the list of all alias addresses of an interface to the guest and records one
outcome for all of them. The list is read anew from the table, so a success is about the chosen
address when it is one of the rows that the list is made of.
-/

namespace PveManager.GuestIp

open PveManager.Core PveManager.Net PveManager.Ipam

/-- A row of `ipam_allocations` with the outcome of its last application. -/
structure GuestAddress extends IPAMAllocation where
  applyError : Option String
  appliedAt : Option Time
  deriving DecidableEq

/-- The unique index on the address. -/
def GuestAddress.key (a : GuestAddress) : String := a.ipAddress

/-- The tables that an application reads and writes. -/
structure ApplyTables where
  servers : KeyedTable ProxmoxServer.id
  vms : KeyedTable VMInstance.key
  networks : KeyedTable IPAMNetwork.id
  addresses : KeyedTable GuestAddress.key

structure ApplyResult where
  success : Bool
  status : ApplyStatus
  persist : Option String := none
  error : Option String := none
  output : String := ""

def ApplyStatus.text : ApplyStatus → String
  | .applied => "applied"
  | .runtimeOnly => "runtime_only"
  | .pending => "pending"
  | .failed => "failed"

/-! ### What is sent -/

/-- A run of the script in a guest, with the two parameters that it is given. -/
structure Order where
  server : ProxmoxServer
  node : String
  vmid : Option Vmid
  vmType : VmType
  iface : String
  addresses : List String

/-- `_shell_quote`. -/
def shellQuote (value : String) : String :=
  "'" ++ String.join (value.toList.map fun c => if c.toNat = 39 then "'\\''" else c.toString) ++ "'"

/-- `render_params`. -/
def renderParams (content : String) (params : List (String × String)) : String :=
  if params.isEmpty then content
  else
    let lines := ["#!/bin/sh", "# --- параметры, подставленные каталогом скриптов ---"] ++
      (params.map fun param => s!"export {param.1}={shellQuote param.2}") ++
      ["# --- конец параметров ---"]
    "\n".intercalate lines ++ "\n" ++ content

def Order.script (order : Order) (content : String) : String :=
  renderParams content
    [("IFACE", order.iface), ("ADDRESSES", " ".intercalate order.addresses)]

/-- The result of `script_engine.execute`. -/
structure ExecResult where
  success : Bool
  output : Option String
  exitCode : Int
  error : Option String

/-- What an application finds beside the tables. -/
structure Transport where
  /-- The text of `sync_aliases.sh`. -/
  content : String
  execute : ProxmoxServer → String → Option Vmid → VmType → String → ExecResult
  now : Time
  /-- Whether the database takes the commit. -/
  commits : Bool

def Transport.run (tr : Transport) (order : Order) : ExecResult :=
  tr.execute order.server order.node order.vmid order.vmType (order.script tr.content)

/-! ### What comes back -/

/-- The lines of an output. -/
def linesOfOutput (output : String) : List (List Char) := output.toList.splitOn '\n'

/-- `_OK_RE`. -/
def saysOk (output : String) : Bool :=
  (linesOfOutput output).any fun line => decide (String.ofList line = "PVEMANAGER_OK=1")

/-- `_PERSIST_RE`: the value in the first line that has one. -/
def persistIn (output : String) : Option String :=
  (linesOfOutput output).findSome? fun line =>
    let value := line.drop "PVEMANAGER_PERSIST=".length
    if "PVEMANAGER_PERSIST=".toList.isPrefixOf line ∧ value ≠ [] ∧
        value.all (fun c => Grep.isWordChar c || c == '+') = true then
      some (String.ofList value)
    else none

/-- `a or b`. -/
def orText (a b : Option String) : Option String := if truthy a then a else b

/-! ### The service -/

/-- `prefix_for`. -/
def prefixFor (t : ApplyTables) (a : GuestAddress) : Option Nat :=
  ((t.networks.find? a.networkId).bind fun network =>
    IpNetwork.parse network.network).map IpNetwork.prefixLen

/-- The order of `alias_allocations`: by address, and rows without one last. -/
def sortsBefore (a b : GuestAddress) : Bool :=
  match IpAddress.parse a.ipAddress, IpAddress.parse b.ipAddress with
  | some x, some y => decide (x.toNat ≤ y.toNat)
  | some _, none => true
  | none, some _ => false
  | none, none => true

/-- The row is an alias address of the interface in use. -/
def isAlias (sid : Option ServerId) (vmid : Option Vmid) (interface : String) (a : GuestAddress) :
    Bool :=
  decide (a.proxmoxServerId = sid ∧ a.proxmoxVmid = vmid ∧ a.assignmentKind = "alias" ∧
    a.targetInterface = some interface) && a.active

/-- `alias_allocations`. -/
def aliasAllocations (t : ApplyTables) (sid : Option ServerId) (vmid : Option Vmid)
    (interface : String) : List GuestAddress :=
  (t.addresses.rows.filter (isAlias sid vmid interface)).insertionSort fun a b => sortsBefore a b

/-- The two kinds of guest in the column `resource_type`. -/
def guestType : Option String → Option VmType
  | some "qemu" => some .qemu
  | some "lxc" => some .lxc
  | _ => none

/-- `_guest_target`. -/
def guestTarget (t : ApplyTables) (sid : Option ServerId) (vmid : Option Vmid)
    (allocation : Option GuestAddress) : Option ProxmoxServer × Option String × Option VmType :=
  let guest := (sid.bind fun sid => vmid.bind fun vmid =>
    t.vms.find? (sid, vmid)).filter VMInstance.live
  (sid.bind t.servers.find?,
    orText (guest.map VMInstance.node) (allocation.bind fun a => a.proxmoxNode),
    (guest.map VMInstance.vmType).or (allocation.bind fun a => guestType a.resourceType))

/-- The addresses with their prefixes; the error names the first one without a network. -/
def addressList (t : ApplyTables) : List GuestAddress → Except String (List String)
  | [] => .ok []
  | row :: rows =>
    match prefixFor t row with
    | none => .error s!"Не удалось определить префикс сети для {row.ipAddress}"
    | some n => (addressList t rows).map fun rest => s!"{row.ipAddress}/{n}" :: rest

/-- A row with the outcome. -/
def withOutcome (now : Time) (result : ApplyResult) (a : GuestAddress) : GuestAddress :=
  { a with
    applyStatus := some result.status.text
    applyError := result.error
    appliedAt := if result.success then some now else a.appliedAt }

/-- The row with the outcome, if it is one of the rows of the list. -/
def settle (rows : List GuestAddress) (now : Time) (result : ApplyResult) (a : GuestAddress) :
    GuestAddress :=
  if a ∈ rows then withOutcome now result a else a

theorem key_settle (rows : List GuestAddress) (now : Time) (result : ApplyResult)
    (a : GuestAddress) : (settle rows now result a).key = a.key := by
  unfold settle
  split
  · rfl
  · rfl

/-- `_finish`. -/
def finish (t : ApplyTables) (tr : Transport) (rows : List GuestAddress) (result : ApplyResult) :
    ApplyTables × Except String ApplyResult :=
  if tr.commits then
    let addresses := t.addresses.mapRows (settle rows tr.now result) (key_settle rows tr.now result)
    ({ t with addresses := addresses }, .ok result)
  else (t, .error "OperationalError")

/-- `_IFACE_RE`; the end of the pattern is also before a last line feed. -/
def acceptsInterface (interface : String) : Bool :=
  validInterface interface ||
    (interface.toList.getLast? == some '\n' &&
      validInterface (String.ofList interface.toList.dropLast))

/-- What the output of the script means. -/
def readOutput (result : ExecResult) : ApplyResult :=
  let output := result.output.getD ""
  if result.success = false ∨ saysOk output = false then
    let error := String.ofList ((strip ((orText result.error (some output)).getD "")).toList.take 1000)
    { success := false
      status := if result.exitCode = -1 then .pending else .failed
      error := some (if error = "" then "Скрипт не завершился успешно" else error)
      output := output }
  else
    let persist := (persistIn output).getD "none"
    { success := true
      status := if persist = "none" then .runtimeOnly else .applied
      persist := some persist
      output := output }

/-- The end of a call: the tables, the result and what was sent to a guest. -/
structure Applied where
  tables : ApplyTables
  result : Except String ApplyResult
  sent : Option Order

/-- The end of a call that records an outcome. -/
def Applied.of (done : ApplyTables × Except String ApplyResult) (sent : Option Order) : Applied :=
  ⟨done.1, done.2, sent⟩

/-- `sync_interface`. -/
def syncInterface (t : ApplyTables) (tr : Transport) (sid : Option ServerId) (vmid : Option Vmid)
    (interface : String) (allocation : Option GuestAddress) : Applied :=
  if acceptsInterface interface = false then
    let result : ApplyResult :=
      { success := false
        status := .failed
        error := some s!"Некорректное имя интерфейса: {interface}" }
    ⟨t, .ok result, none⟩
  else
    let rows := aliasAllocations t sid vmid interface
    match guestTarget t sid vmid allocation with
    | (none, _, _) => .of (finish t tr rows
        { success := false, status := .pending, error := some "Сервер Proxmox не найден" }) none
    | (some server, node, vmType) =>
      match node.filter (· ≠ ""), vmType with
      | some node, some vmType =>
        match addressList t rows with
        | .error e => .of (finish t tr rows
            { success := false, status := .failed, error := some e }) none
        | .ok addresses =>
          let order : Order := ⟨server, node, vmid, vmType, interface, addresses⟩
          .of (finish t tr rows (readOutput (tr.run order))) (some order)
      | _, _ =>
        let result : ApplyResult :=
          { success := false
            status := .pending
            error := some "Гость не найден в кэше — синхронизируйте инстансы" }
        .of (finish t tr rows result) none

/-- `apply_address`. -/
def applyAddress (t : ApplyTables) (tr : Transport) (a : GuestAddress) : Applied :=
  if a.assignmentKind ≠ "alias" then
    let result : ApplyResult :=
      { success := true
        status := .applied
        persist := some "primary"
        output := "Основной адрес задаётся конфигом Proxmox" }
    ⟨t, .ok result, none⟩
  else
    syncInterface t tr a.proxmoxServerId a.proxmoxVmid
      (if truthy a.targetInterface then a.targetInterface.getD "" else "eth0") (some a)

/-! ### What a success says -/

section Success

variable {t : ApplyTables} {tr : Transport} {sid : Option ServerId} {vmid : Option Vmid}
  {interface : String} {allocation : Option GuestAddress} {rows : List GuestAddress}
  {r : ApplyResult} {a : GuestAddress}

theorem mem_aliasAllocations :
    a ∈ aliasAllocations t sid vmid interface ↔
      a ∈ t.addresses.rows ∧ isAlias sid vmid interface a = true := by
  unfold aliasAllocations
  rw [List.mem_insertionSort, List.mem_filter]

/-- Every row of the list is in what is sent, with the prefix of its network. -/
theorem mem_addressList {addresses : List String} (h : addressList t rows = .ok addresses)
    (ha : a ∈ rows) : ∃ n, prefixFor t a = some n ∧ s!"{a.ipAddress}/{n}" ∈ addresses := by
  induction rows generalizing addresses with
  | nil => exact absurd ha List.not_mem_nil
  | cons row rows ih =>
    unfold addressList at h
    cases hlen : prefixFor t row with
    | none => simp [hlen] at h
    | some n =>
      cases hrest : addressList t rows with
      | error e => simp [hlen, hrest, Except.map] at h
      | ok rest =>
        simp only [hlen, hrest, Except.map, Except.ok.injEq] at h
        subst h
        rcases List.mem_cons.mp ha with rfl | ha
        · exact ⟨n, hlen, List.mem_cons_self⟩
        · obtain ⟨m, hm, hmem⟩ := ih hrest ha
          exact ⟨m, hm, List.mem_cons_of_mem _ hmem⟩

theorem finish_eq_ok {result : ApplyResult} (h : (finish t tr rows result).2 = .ok r) :
    r = result ∧ (finish t tr rows result).1 = { t with
      addresses := t.addresses.mapRows (settle rows tr.now result)
        (key_settle rows tr.now result) } := by
  unfold finish at h ⊢
  split at h
  · rename_i hcommits
    rw [if_pos hcommits]
    exact ⟨(Except.ok.inj h).symm, rfl⟩
  · cases h

/-- A successful synchronisation has sent the list and recorded the outcome for its rows. -/
theorem syncInterface_success
    (h : (syncInterface t tr sid vmid interface allocation).result = .ok r)
    (hsuccess : r.success = true) :
    ∃ order addresses, (syncInterface t tr sid vmid interface allocation).sent = some order ∧
      addressList t (aliasAllocations t sid vmid interface) = .ok addresses ∧
      sid.bind t.servers.find? = some order.server ∧ order.vmid = vmid ∧
      order.iface = interface ∧ order.addresses = addresses ∧ r = readOutput (tr.run order) ∧
      (syncInterface t tr sid vmid interface allocation).tables = { t with
        addresses := t.addresses.mapRows
          (settle (aliasAllocations t sid vmid interface) tr.now r)
          (key_settle (aliasAllocations t sid vmid interface) tr.now r) } := by
  unfold syncInterface at h ⊢
  by_cases haccepts : acceptsInterface interface = false
  · rw [if_pos haccepts] at h
    rw [← Except.ok.inj h] at hsuccess
    cases hsuccess
  · rw [if_neg haccepts] at h ⊢
    have hrefused : ∀ {result : ApplyResult}, result.success = false →
        (finish t tr (aliasAllocations t sid vmid interface) result).2 = .ok r → False := by
      intro result hno h
      rw [(finish_eq_ok h).1, hno] at hsuccess
      cases hsuccess
    cases htarget : guestTarget t sid vmid allocation with
    | mk server rest =>
      obtain ⟨node, vmType⟩ := rest
      rw [htarget] at h
      cases server with
      | none => exact (hrefused rfl h).elim
      | some server =>
        have hserver : sid.bind t.servers.find? = some server := congrArg Prod.fst htarget
        dsimp only at h ⊢
        cases hnode : node.filter (· ≠ "") with
        | none =>
          rw [hnode] at h
          exact (hrefused rfl h).elim
        | some node' =>
          cases vmType with
          | none =>
            rw [hnode] at h
            exact (hrefused rfl h).elim
          | some vmType =>
            rw [hnode] at h
            dsimp only at h ⊢
            cases haddresses : addressList t (aliasAllocations t sid vmid interface) with
            | error e =>
              rw [haddresses] at h
              exact (hrefused rfl h).elim
            | ok addresses =>
              rw [haddresses] at h
              obtain ⟨hr, htables⟩ := finish_eq_ok h
              refine ⟨⟨server, node', vmid, vmType, interface, addresses⟩, addresses, rfl, rfl,
                hserver, rfl, rfl, rfl, hr, ?_⟩
              rw [hr]
              exact htables

/-- A successful run has one of two outcomes, by whether the address will survive a restart. -/
theorem readOutput_success {result : ExecResult} (h : (readOutput result).success = true) :
    (readOutput result).status =
      if (readOutput result).persist = some "none" then .runtimeOnly else .applied := by
  unfold readOutput at h ⊢
  dsimp only at h ⊢
  split at h
  · cases h
  · rename_i hok
    rw [if_neg hok]
    simp

end Success

/-- The chosen address was in the list that was sent for its interface, and its row says so. -/
def AppliedAs (t : ApplyTables) (a : GuestAddress) (done : Applied) (status : ApplyStatus) : Prop :=
  ∃ order n, done.sent = some order ∧ a.proxmoxServerId.bind t.servers.find? = some order.server ∧
    order.vmid = a.proxmoxVmid ∧ a.targetInterface = some order.iface ∧ prefixFor t a = some n ∧
    s!"{a.ipAddress}/{n}" ∈ order.addresses ∧
    (done.tables.addresses.find? a.ipAddress).map (fun row => row.applyStatus) =
      some (some status.text)

/-- A success for an address in use with a recorded interface: an alias was sent to the guest and
is recorded as applied, or as raised until the next restart when the script has not found where to
write it; another address is not sent and nothing changes. -/
theorem appliedAs_of_success (t : ApplyTables) (tr : Transport) (a : GuestAddress)
    (ha : a ∈ t.addresses.rows) (hactive : a.active = true) (hiface : truthy a.targetInterface = true)
    (r : ApplyResult) (h : (applyAddress t tr a).result = .ok r) (hsuccess : r.success = true) :
    (a.assignmentKind = "alias" ∧ AppliedAs t a (applyAddress t tr a)
        (if r.persist = some "none" then .runtimeOnly else .applied)) ∨
      a.assignmentKind ≠ "alias" ∧ (applyAddress t tr a).sent = none ∧
        (applyAddress t tr a).tables = t := by
  unfold applyAddress at h ⊢
  by_cases halias : a.assignmentKind = "alias"
  · rw [if_neg (not_not.mpr halias), if_pos hiface] at h ⊢
    left
    refine ⟨halias, ?_⟩
    cases hname : a.targetInterface with
    | none => rw [hname] at hiface; cases hiface
    | some interface =>
      rw [hname, Option.getD_some] at h
      rw [Option.getD_some]
      obtain ⟨order, addresses, hsent, haddresses, hserver, hvmid, horder, hlist, hr, htables⟩ :=
        syncInterface_success h hsuccess
      have hmem : a ∈ aliasAllocations t a.proxmoxServerId a.proxmoxVmid interface := by
        refine mem_aliasAllocations.mpr ⟨ha, ?_⟩
        unfold isAlias
        rw [hactive, Bool.and_true]
        exact decide_eq_true ⟨rfl, rfl, halias, hname⟩
      obtain ⟨n, hn, hin⟩ := mem_addressList haddresses hmem
      refine ⟨order, n, hsent, hserver, hvmid, by rw [hname, horder], hn, hlist ▸ hin, ?_⟩
      have hfind : t.addresses.find? a.ipAddress = some a := t.addresses.find?_key ha
      rw [htables, KeyedTable.find?_mapRows, hfind, Option.map_some, Option.map_some]
      unfold settle
      rw [if_pos hmem]
      have hstatus := readOutput_success (hr ▸ hsuccess)
      rw [← hr] at hstatus
      rw [← hstatus]
      rfl
  · rw [if_pos halias]
    exact Or.inr ⟨halias, rfl, rfl⟩

/-! ### A guest without a known stack -/

/-- One alias address of one container. -/
def aliasAddress : GuestAddress where
  id := 1
  networkId := 1
  ipAddress := "10.0.0.7"
  resourceType := some "lxc"
  resourceId := none
  resourceName := some "web"
  proxmoxServerId := some 1
  proxmoxVmid := some 100
  proxmoxNode := some "pve"
  status := "allocated"
  isPrimary := false
  assignmentKind := "alias"
  targetInterface := some "eth0"
  applyStatus := some "pending"
  applyError := none
  appliedAt := none

def aliasTables : ApplyTables where
  servers := ⟨[⟨1, "pve", "pve", "10.0.0.2", 8006, "root@pam", none, none, true, none, false, none,
    none, none, none, none, none⟩], by decide⟩
  vms := .empty
  networks := (Surroundings.office 1).networks
  addresses := ⟨[aliasAddress], by decide⟩

/-- A guest that prints this line before the one that says that all went well. -/
def answering (line : String) : Transport where
  content := ""
  execute := fun _ _ _ _ _ => ⟨true, some (line ++ "\nPVEMANAGER_OK=1\n"), 0, none⟩
  now := 0
  commits := true

/-- An address that is raised but not kept is a success without being recorded as applied. -/
theorem success_not_applied :
    ¬∀ (t : ApplyTables) (tr : Transport), ∀ a ∈ t.addresses.rows, ∀ r,
      (applyAddress t tr a).result = .ok r → r.success = true →
        AppliedAs t a (applyAddress t tr a) .applied := by
  intro h
  have hresult : (applyAddress aliasTables (answering "PVEMANAGER_PERSIST=none")
      aliasAddress).result.map (fun r => r.success) = .ok true := by decide +kernel
  have hrow : (((applyAddress aliasTables (answering "PVEMANAGER_PERSIST=none")
      aliasAddress).tables.addresses.find? "10.0.0.7").map fun row => row.applyStatus) =
        some (some "runtime_only") := by decide +kernel
  cases hr : (applyAddress aliasTables (answering "PVEMANAGER_PERSIST=none")
      aliasAddress).result with
  | error e =>
    rw [hr] at hresult
    cases hresult
  | ok r =>
    rw [hr] at hresult
    have hmem : aliasAddress ∈ aliasTables.addresses.rows := List.mem_cons_self
    obtain ⟨order, n, -, -, -, -, -, -, hstatus⟩ :=
      h aliasTables (answering "PVEMANAGER_PERSIST=none") aliasAddress hmem r hr
        (Except.ok.inj hresult)
    have hboth := hrow.symm.trans hstatus
    exact absurd hboth (by decide)

theorem appliedAs_of_success_netplan : ∃ r,
    (applyAddress aliasTables (answering "PVEMANAGER_PERSIST=netplan") aliasAddress).result =
        .ok r ∧ r.success = true ∧
      ((aliasAddress.assignmentKind = "alias" ∧ AppliedAs aliasTables aliasAddress
          (applyAddress aliasTables (answering "PVEMANAGER_PERSIST=netplan") aliasAddress)
            (if r.persist = some "none" then .runtimeOnly else .applied)) ∨
        aliasAddress.assignmentKind ≠ "alias" ∧
          (applyAddress aliasTables (answering "PVEMANAGER_PERSIST=netplan")
            aliasAddress).sent = none ∧
          (applyAddress aliasTables (answering "PVEMANAGER_PERSIST=netplan")
            aliasAddress).tables = aliasTables) := by
  have hresult : (applyAddress aliasTables (answering "PVEMANAGER_PERSIST=netplan")
      aliasAddress).result.map (fun r => r.success) = .ok true := by decide +kernel
  cases hr : (applyAddress aliasTables (answering "PVEMANAGER_PERSIST=netplan")
      aliasAddress).result with
  | error e =>
    rw [hr] at hresult
    cases hresult
  | ok r =>
    rw [hr] at hresult
    have hsuccess : r.success = true := Except.ok.inj hresult
    exact ⟨r, rfl, hsuccess, appliedAs_of_success aliasTables
      (answering "PVEMANAGER_PERSIST=netplan") aliasAddress List.mem_cons_self (by decide) (by decide)
      r hr hsuccess⟩

end PveManager.GuestIp
