import PveManager.Deploy.Workers

/-!
# What a failed deploy leaves behind

A run that stops before it has reserved an address changes no allocation. After
a reservation nothing gives the address back: the early returns do not try, and
the handler looks for an address that is the row's number. So the allocations
are as before exactly when no step fails once an address is reserved.
-/

namespace PveManager.Deploy

open PveManager.Core PveManager.Ipam

/-! ### Reservations -/

section Reservations

variable {r : Reservation} {sur : Surroundings} {ipam ipam' : Ipam}

/-- IPAM grants this allocation to the reservation. -/
def Reservation.Grants (r : Reservation) (sur : Surroundings) (ipam : Ipam)
    (a : IPAMAllocation) : Prop :=
  ∃ networkId ipam', r.networkId = some networkId ∧ networkId ≠ 0 ∧
    r.allocate networkId sur ipam = (ipam', .done a)

theorem Reservation.Grants.unique {a b : IPAMAllocation} (ha : r.Grants sur ipam a)
    (hb : r.Grants sur ipam b) : a = b := by
  obtain ⟨n, ipam', hn, -, hdone⟩ := ha
  obtain ⟨m, ipam'', hm, -, hdone'⟩ := hb
  rw [hn] at hm
  cases hm
  rw [hdone] at hdone'
  cases hdone'
  rfl

/-- What a granted allocation is like. -/
structure Granted (r : Reservation) (ipam ipam' : Ipam) (a : IPAMAllocation) : Prop where
  new : ipam.allocations.find? a.ipAddress = none
  isAddress : (Net.IpAddress.parse a.ipAddress).isSome = true
  rows : ipam'.allocations.rows = ipam.allocations.rows ++ [a]
  keyed : a.keyedTo r.server r.vmid = true
  given : truthy r.ipAddress = true → r.ipAddress = some a.ipAddress

/-- An allocation is granted, or nothing changes. -/
theorem Reservation.allocate_cases (r : Reservation) (networkId : Nat) (sur : Surroundings)
    (ipam : Ipam) :
    (∃ ipam' a, r.allocate networkId sur ipam = (ipam', .done a) ∧ Granted r ipam ipam' a) ∨
    (∃ e, r.allocate networkId sur ipam = (ipam, .refused e)) ∨
    ∃ e, r.allocate networkId sur ipam = (ipam, .raised e) := by
  have hcases : ∀ req : AllocationRequest, req.proxmoxServerId = some r.server →
      req.proxmoxVmid = some r.vmid → (truthy r.ipAddress = true → r.ipAddress = some req.ipAddress) →
      (∃ ipam' a, allocateIp sur ipam req = (ipam', .done a) ∧ Granted r ipam ipam' a) ∨
      (∃ e, allocateIp sur ipam req = (ipam, .refused e)) ∨
      ∃ e, allocateIp sur ipam req = (ipam, .raised e) := by
    intro req hserver hvmid hgiven
    rcases allocateIp_cases sur ipam req with
      ⟨network, poolId, -, hnew, hparse, -, he⟩ | hrefused | hraised
    · exact Or.inl ⟨_, _, he, hnew, hparse, rows_record_of_new hnew,
        decide_eq_true ⟨hserver, hvmid⟩, hgiven⟩
    · exact Or.inr (Or.inl hrefused)
    · exact Or.inr (Or.inr hraised)
  unfold Reservation.allocate
  split
  · rename_i hip
    refine hcases _ rfl rfl fun _ => ?_
    cases hr : r.ipAddress with
    | none => simp [truthy, hr] at hip
    | some ip => rfl
  · rename_i hip
    unfold autoAllocateIp
    split
    · exact Or.inr (Or.inl ⟨_, rfl⟩)
    · exact hcases _ rfl rfl fun h => absurd h hip

/-- A reservation that is granted adds one row; any other leaves the tables as they are. -/
theorem Reservation.reserve_cases (r : Reservation) (sur : Surroundings) (ipam : Ipam) :
    (∃ ipam' a, r.reserve sur ipam = (ipam', .ok (some a)) ∧ r.Grants sur ipam a ∧
      Granted r ipam ipam' a) ∨
    (∀ a, ¬r.Grants sur ipam a) ∧
      (r.reserve sur ipam = (ipam, .ok none) ∨ ∃ e, r.reserve sur ipam = (ipam, .error e)) := by
  unfold Reservation.reserve Reservation.Grants
  cases hn : r.networkId.filter (· ≠ 0) with
  | none =>
    refine Or.inr ⟨?_, Or.inl rfl⟩
    rintro a ⟨networkId, ipam', hid, hne, -⟩
    rw [hid, Option.filter_some, if_pos (by simpa using hne)] at hn
    cases hn
  | some networkId =>
    have hid : r.networkId = some networkId ∧ networkId ≠ 0 := by
      simpa [Option.filter_eq_some_iff] using hn
    dsimp only
    rcases r.allocate_cases networkId sur ipam with ⟨ipam', a, he, hg⟩ | ⟨e, he⟩ | ⟨e, he⟩
    · refine Or.inl ⟨ipam', a, ?_, ⟨networkId, ipam', hid.1, hid.2, he⟩, hg⟩
      rw [he]
    · refine Or.inr ⟨?_, Or.inl ?_⟩
      · rintro a ⟨id, ipam', hid', -, hdone⟩
        rw [hid.1] at hid'
        cases hid'
        rw [he] at hdone
        cases hdone
      · rw [he]
    · refine Or.inr ⟨?_, Or.inr ⟨e, ?_⟩⟩
      · rintro a ⟨id, ipam', hid', -, hdone⟩
        rw [hid.1] at hid'
        cases hid'
        rw [he] at hdone
        cases hdone
      · rw [he]

end Reservations

/-! ### Stops -/

/-- A worker that returns early has closed its task as failed. -/
def Stop.Failed : Stop → Prop
  | .returned closing => closing.status = "failed"
  | .raised _ => True

section Stops

variable {α : Type} {w : World}

theorem failed_ask (answer : Except String α) : ErrorsMeet Stop.Failed (ask answer) := by
  cases answer with
  | ok a => exact errorsMeet_ok
  | error e => exact errorsMeet_error trivial

theorem failed_fail (step : String) (progress : Nat) (error : String) :
    ErrorsMeet Stop.Failed (fail step progress error : Step α) :=
  errorsMeet_error rfl

theorem failed_required (value : Option α) (step : String) (progress : Nat) (error : String) :
    ErrorsMeet Stop.Failed (required value step progress error) := by
  cases value with
  | some a => exact errorsMeet_ok
  | none => exact failed_fail step progress error

theorem failed_ensured (b : Bool) (step : String) (progress : Nat) (error : String) :
    ErrorsMeet Stop.Failed (ensured b step progress error) := by
  cases b with
  | true => exact errorsMeet_ok
  | false => exact failed_fail step progress error

theorem failed_prefixOf (mask : String) : ErrorsMeet Stop.Failed (prefixOf mask) := by
  unfold prefixOf
  cases Api.parseInt mask with
  | some n => exact errorsMeet_ok
  | none => exact errorsMeet_error trivial

theorem failed_finish (start : Bool) (step : String) (progress : Nat) (p : Place) (mask : String)
    (row : Int → InstanceParams) (closing : TaskUpdate) :
    ErrorsMeet Stop.Failed (finish w start step progress p mask row closing) := by
  have hstarted : ErrorsMeet Stop.Failed (started w start step progress p) := by
    cases start with
    | false => exact errorsMeet_ok
    | true =>
      refine errorsMeet_bind (failed_ask _) fun _ _ => ?_
      exact errorsMeet_bind (failed_ask _) fun _ _ => errorsMeet_ok
  refine errorsMeet_bind hstarted fun _ _ => ?_
  refine errorsMeet_bind (failed_ask _) fun _ _ => ?_
  refine errorsMeet_bind (failed_prefixOf _) fun _ _ => ?_
  refine errorsMeet_bind (failed_ask _) fun _ _ => ?_
  exact errorsMeet_bind (failed_ask _) fun _ _ => failed_ask _

theorem failed_lxcCreated (answer : Except String (Option String)) :
    ErrorsMeet Stop.Failed (lxcCreated answer) := by
  cases answer with
  | error e => exact failed_fail _ _ _
  | ok upid => exact failed_required _ _ _ _

end Stops

/-! ### Runs that succeed -/

section Success

variable {α : Type} {w : World}

theorem ask_eq_ok_iff {answer : Except String α} {a : α} : ask answer = .ok a ↔ answer = .ok a :=
  mapError_eq_ok_iff

theorem required_eq_ok_iff {value : Option α} {step : String} {progress : Nat} {error : String}
    {a : α} : required value step progress error = .ok a ↔ value = some a := by
  cases value with
  | some b => exact ⟨fun h => by cases h; rfl, fun h => by cases h; rfl⟩
  | none => exact ⟨fun h => (by cases h), fun h => (by cases h)⟩

theorem ensured_eq_ok_iff {b : Bool} {step : String} {progress : Nat} {error : String} {u : Unit} :
    ensured b step progress error = .ok u ↔ b = true := by
  cases b with
  | true => exact ⟨fun _ => rfl, fun _ => rfl⟩
  | false => exact ⟨fun h => (by cases h), fun h => (by cases h)⟩

theorem prefixOf_eq_ok_iff {mask : String} {n : Int} :
    prefixOf mask = .ok n ↔ Api.parseInt mask = some n := by
  unfold prefixOf
  cases Api.parseInt mask with
  | some m => exact ⟨fun h => by cases h; rfl, fun h => by cases h; rfl⟩
  | none => exact ⟨fun h => (by cases h), fun h => (by cases h)⟩

theorem upidOf_eq_some_iff {answer : Option String} {upid : String} :
    upidOf answer = some upid ↔ answer = some upid ∧ upid ≠ "" := by
  unfold upidOf
  rw [Option.filter_eq_some_iff, decide_eq_true_eq]

/-- Everything the last steps ask for goes well. -/
structure Finished (w : World) (start : Bool) (step : String) (progress : Nat) (p : Place)
    (mask : String) (row : Int → InstanceParams) (closing : TaskUpdate) : Prop where
  started : start = true → w.running step progress (some p.vmid) (some p.node) = .ok () ∧
    ∃ answer, w.start p.node p.vmid = .ok answer
  announced : w.running "Сохранение в базе данных..." 95 (some p.vmid) (some p.node) = .ok ()
  saved : ∃ n, Api.parseInt mask = some n ∧ w.saveVmInstance (row n) = .ok ()
  logged : w.logCreated p.vmid = .ok ()
  closed : w.updateTask closing = .ok ()

theorem finish_eq_ok_iff {start : Bool} {step : String} {progress : Nat} {p : Place} {mask : String}
    {row : Int → InstanceParams} {closing : TaskUpdate} :
    finish w start step progress p mask row closing = .ok () ↔
      Finished w start step progress p mask row closing := by
  have hstarted : Deploy.started w start step progress p = .ok () ↔
      (start = true → w.running step progress (some p.vmid) (some p.node) = .ok () ∧
        ∃ answer, w.start p.node p.vmid = .ok answer) := by
    cases start with
    | false => exact ⟨fun _ h => (by cases h), fun _ => rfl⟩
    | true =>
      simp only [Deploy.started, if_true, bind_eq_ok_iff, ask_eq_ok_iff, forall_true_left]
      constructor
      · rintro ⟨_, hr, answer, hs, -⟩
        exact ⟨hr, answer, hs⟩
      · rintro ⟨hr, answer, hs⟩
        exact ⟨(), hr, answer, hs, trivial⟩
  simp only [finish, bind_eq_ok_iff, ask_eq_ok_iff, prefixOf_eq_ok_iff]
  constructor
  · rintro ⟨_, hs, _, ha, n, hn, _, hrow, _, hl, hc⟩
    exact ⟨hstarted.mp hs, ha, ⟨n, hn, hrow⟩, hl, hc⟩
  · rintro ⟨hs, ha, ⟨n, hn, hrow⟩, hl, hc⟩
    exact ⟨(), hstarted.mpr hs, (), ha, n, hn, (), hrow, (), hl, hc⟩

end Success

section Ready

variable (w : World)

/-- The server of a request is there and answers. -/
structure Connects (serverId server : ServerId) : Prop where
  registered : w.server serverId = .ok true
  same : server = serverId
  announced : w.running "Подключение к Proxmox..." 10 none none = .ok ()
  answers : w.isConnected serverId = .ok true

/-- Everything goes well before a container's address is reserved. -/
structure LxcReady (req : LXCDeployRequest) (p : Place) : Prop where
  announced : w.running "Подготовка..." 5 none none = .ok ()
  connects : Connects w req.serverId p.server
  node : deployNode w req.node = .ok p.node
  numbering : w.running "Генерация VMID..." 20 none none = .ok ()
  vmid : newVmid w p.server req.vmid = .ok p.vmid
  reserving : w.running "Выделение IP-адреса..." 25 none none = .ok ()

/-- Everything goes well before the address of a machine without a system is reserved. -/
structure IsoReady (req : ISOVMCreateRequest) (p : Place) : Prop where
  announced : w.running "Подготовка..." 5 none none = .ok ()
  connects : Connects w req.serverId p.server
  node : p.node = req.node
  numbering : w.running "Генерация VMID..." 20 none none = .ok ()
  vmid : newVmid w p.server req.vmid = .ok p.vmid
  reserving : Deploy.announced w req.ipamNetworkId req.ipAddress
    "Резервирование IP-адреса (IPAM)..." 25 p = .ok ()

/-- The machine is cloned, and nothing fails before its address is reserved. -/
structure TemplateReady (req : VMDeployRequest) (sender : Sender) (p : ClonePlace) : Prop where
  announced : w.running "Подготовка..." 5 none none = .ok ()
  template : w.template req.templateId = .ok (some p.template)
  connects : Connects w p.template.serverId p.server
  searching : w.running "Поиск шаблона..." 20 none none = .ok ()
  numbering : w.running "Генерация VMID..." 25 none none = .ok ()
  vmid : newVmid w p.server req.vmid = .ok p.vmid
  node : p.node = targetNode req p.template
  cloning : w.running s!"Клонирование шаблона → VMID {p.vmid}..." 30 none none = .ok ()
  cloned : ∃ source upid, templateNode w p.template = .ok source ∧
    w.cloneVmFromTemplate (cloneParams req sender p.template source p.vmid) = .ok (some upid) ∧
    upid ≠ "" ∧ w.waitForTask source upid = .ok true
  waiting : w.running "Клонирование диска..." 45 (some p.vmid) none = .ok ()
  finished : w.running "Клонирование завершено" 65 (some p.vmid) (some p.node) = .ok ()
  unlocking : w.running "Ожидание разблокировки VM..." 66 (some p.vmid) (some p.node) = .ok ()
  unlocked : ∃ answer, w.waitForVmUnlock p.node p.vmid = .ok answer
  reserving : Deploy.announced w req.ipamNetworkId req.ipAddress "Выделение IP-адреса (IPAM)..." 68
    p.toPlace = .ok ()

variable {w}

theorem connected_eq_ok_iff {serverId server : ServerId} :
    connected w serverId = .ok server ↔ Connects w serverId server := by
  simp only [connected, bind_eq_ok_iff, ask_eq_ok_iff, ensured_eq_ok_iff]
  constructor
  · rintro ⟨found, hserver, _, hfound, _, hann, answers, hans, _, hyes, hid⟩
    cases hid
    rw [hfound] at hserver
    rw [hyes] at hans
    exact ⟨hserver, rfl, hann, hans⟩
  · rintro ⟨hserver, rfl, hann, hans⟩
    exact ⟨true, hserver, (), rfl, (), hann, true, hans, (), rfl, rfl⟩

theorem lxcPrepare_eq_ok_iff {req : LXCDeployRequest} {p : Place} :
    lxcPrepare w req = .ok p ↔ LxcReady w req p := by
  simp only [lxcPrepare, bind_eq_ok_iff, connected_eq_ok_iff]
  constructor
  · rintro ⟨_, hann, server, hconn, node, hnode, _, hnum, vmid, hvmid, _, hres, hp⟩
    cases hp
    exact ⟨hann, hconn, hnode, hnum, hvmid, hres⟩
  · rintro ⟨hann, hconn, hnode, hnum, hvmid, hres⟩
    exact ⟨(), hann, p.server, hconn, p.node, hnode, (), hnum, p.vmid, hvmid, (), hres, rfl⟩

theorem isoPrepare_eq_ok_iff {req : ISOVMCreateRequest} {p : Place} :
    isoPrepare w req = .ok p ↔ IsoReady w req p := by
  simp only [isoPrepare, bind_eq_ok_iff, connected_eq_ok_iff]
  constructor
  · rintro ⟨_, hann, server, hconn, _, hnum, vmid, hvmid, _, hres, hp⟩
    cases hp
    exact ⟨hann, hconn, rfl, hnum, hvmid, hres⟩
  · obtain ⟨server, node, vmid⟩ := p
    rintro ⟨hann, hconn, rfl, hnum, hvmid, hres⟩
    exact ⟨(), hann, server, hconn, (), hnum, vmid, hvmid, (), hres, rfl⟩

theorem templatePrepare_eq_ok_iff {req : VMDeployRequest} {sender : Sender} {p : ClonePlace} :
    templatePrepare w req sender = .ok p ↔ TemplateReady w req sender p := by
  simp only [templatePrepare, bind_eq_ok_iff, ask_eq_ok_iff, required_eq_ok_iff,
    ensured_eq_ok_iff, connected_eq_ok_iff, upidOf_eq_some_iff]
  constructor
  · rintro ⟨_, hann, given, htemplate, t, ht, server, hconn, _, hsearch, source, hsource, _, hnum,
      vmid, hvmid, _, hcloning, answer, hclone, upid, ⟨hupid, hne⟩, _, hwait, success, htask, _,
      hsuccess, _, hfin, _, hunlock, answer', hanswer, _, hres, hp⟩
    cases hp
    rw [ht] at htemplate
    rw [hupid] at hclone
    rw [hsuccess] at htask
    exact ⟨hann, htemplate, hconn, hsearch, hnum, hvmid, rfl, hcloning,
      ⟨source, upid, hsource, hclone, hne, htask⟩, hwait, hfin, hunlock, ⟨answer', hanswer⟩, hres⟩
  · obtain ⟨⟨server, node, vmid⟩, t⟩ := p
    rintro ⟨hann, htemplate, hconn, hsearch, hnum, hvmid, hnode, hcloning,
      ⟨source, upid, hsource, hclone, hne, htask⟩, hwait, hfin, hunlock, ⟨answer', hanswer⟩, hres⟩
    dsimp only at hnode
    subst hnode
    exact ⟨(), hann, some t, htemplate, t, rfl, server, hconn, (), hsearch, source, hsource, (),
      hnum, vmid, hvmid, (), hcloning, some upid, hclone, upid, ⟨rfl, hne⟩, (), hwait, true, htask,
      (), rfl, (), hfin, (), hunlock, answer', hanswer, (), hres, rfl⟩

end Ready

section Built

variable (w : World) (sender : Sender)

/-- Everything goes well after a container's address is reserved. -/
structure LxcBuilt (req : LXCDeployRequest) (p : Place) (a : Option IPAMAllocation) : Prop where
  announced : w.running s!"Создание LXC контейнера VMID {p.vmid}..." 35 (some p.vmid)
    (some p.node) = .ok ()
  created : ∃ upid, w.createLxcContainer (lxcParams req sender p (lxcNet w req sender p a)) =
    .ok (some upid) ∧ upid ≠ "" ∧ w.waitForTask p.node upid = .ok true
  waiting : w.running "Ожидание завершения создания..." 50 (some p.vmid) (some p.node) = .ok ()
  ready : w.running "Контейнер создан" 70 (some p.vmid) (some p.node) = .ok ()
  finished : Finished w req.startAfterCreate "Запуск контейнера..." 85 p (lxcNet w req sender p a).mask
    (lxcInstance req sender p (lxcNet w req sender p a)) (lxcClosing p)

/-- Everything goes well after the address of a machine without a system is reserved. -/
structure IsoBuilt (req : ISOVMCreateRequest) (p : Place) (a : Option IPAMAllocation) : Prop where
  announced : w.running s!"Создание ВМ VMID {p.vmid}..." 40 (some p.vmid) (some p.node) = .ok ()
  created : ∃ upid, w.createVmFromIso (isoParams req sender p) = .ok (some upid) ∧ upid ≠ "" ∧
    w.waitForTask p.node upid = .ok true
  waiting : w.running "Ожидание создания диска..." 60 (some p.vmid) (some p.node) = .ok ()
  finished : Finished w req.startAfterCreate "Запуск ВМ..." 85 p (isoNet w req sender p a).mask
    (isoInstance req sender p (isoNet w req sender p a)) (isoClosing p (isoNet w req sender p a))

/-- Everything goes well after the address of a cloned machine is reserved. -/
structure TemplateBuilt (req : VMDeployRequest) (p : ClonePlace) (a : Option IPAMAllocation) :
    Prop where
  announced : w.running "Настройка VM (CPU, RAM, Cloud-Init)..." 72 (some p.vmid)
    (some p.node) = .ok ()
  finished : ∃ result, w.configureVm (configParams req p (templateNet w req sender p a)) =
      .ok result ∧
    Finished w req.startAfterCreate "Запуск VM..." 88 p.toPlace (templateNet w req sender p a).mask
      (templateInstance req sender p (templateNet w req sender p a))
      (templateClosing p result.errors)

variable {w sender}

theorem lxcCreated_eq_ok_iff {answer : Except String (Option String)} {upid : String} :
    lxcCreated answer = .ok upid ↔ answer = .ok (some upid) ∧ upid ≠ "" := by
  cases answer with
  | error e => exact ⟨fun h => (by cases h), fun h => (by cases h.1)⟩
  | ok given =>
    rw [lxcCreated, required_eq_ok_iff, upidOf_eq_some_iff, Except.ok.injEq]

theorem lxcBuild_eq_ok_iff {req : LXCDeployRequest} {p : Place} {a : Option IPAMAllocation}
    {d : Deployed} : lxcBuild w req sender p a = .ok d ↔
      LxcBuilt w sender req p a ∧
        d = ⟨lxcClosing p, p.server, p.vmid, (lxcNet w req sender p a).ip⟩ := by
  simp only [lxcBuild, bind_eq_ok_iff, ask_eq_ok_iff, ensured_eq_ok_iff, lxcCreated_eq_ok_iff]
  constructor
  · rintro ⟨_, hann, upid, ⟨hcreate, hne⟩, _, hwait, success, htask, _, hsuccess, _, hready, _,
      hfin, hd⟩
    cases hd
    rw [hsuccess] at htask
    exact ⟨⟨hann, ⟨upid, hcreate, hne, htask⟩, hwait, hready, finish_eq_ok_iff.mp hfin⟩, rfl⟩
  · rintro ⟨⟨hann, ⟨upid, hcreate, hne, htask⟩, hwait, hready, hfin⟩, rfl⟩
    exact ⟨(), hann, upid, ⟨hcreate, hne⟩, (), hwait, true, htask, (), rfl, (), hready, (),
      finish_eq_ok_iff.mpr hfin, rfl⟩

theorem isoBuild_eq_ok_iff {req : ISOVMCreateRequest} {p : Place} {a : Option IPAMAllocation}
    {d : Deployed} : isoBuild w req sender p a = .ok d ↔
      IsoBuilt w sender req p a ∧ d = ⟨isoClosing p (isoNet w req sender p a), p.server, p.vmid,
        (isoNet w req sender p a).ip⟩ := by
  simp only [isoBuild, bind_eq_ok_iff, ask_eq_ok_iff, ensured_eq_ok_iff, required_eq_ok_iff,
    upidOf_eq_some_iff]
  constructor
  · rintro ⟨_, hann, given, hcreate, upid, ⟨hgiven, hne⟩, _, hwait, success, htask, _, hsuccess, _,
      hfin, hd⟩
    cases hd
    rw [hsuccess] at htask
    rw [hgiven] at hcreate
    exact ⟨⟨hann, ⟨upid, hcreate, hne, htask⟩, hwait, finish_eq_ok_iff.mp hfin⟩, rfl⟩
  · rintro ⟨⟨hann, ⟨upid, hcreate, hne, htask⟩, hwait, hfin⟩, rfl⟩
    exact ⟨(), hann, some upid, hcreate, upid, ⟨rfl, hne⟩, (), hwait, true, htask, (), rfl, (),
      finish_eq_ok_iff.mpr hfin, rfl⟩

/-- The address of a machine from a template is set only with its cloud-init settings. -/
theorem templateBuild_eq_ok_iff {req : VMDeployRequest} {p : ClonePlace} {a : Option IPAMAllocation}
    {d : Deployed} : templateBuild w req sender p a = .ok d ↔
      TemplateBuilt w sender req p a ∧
        ∃ result, w.configureVm (configParams req p (templateNet w req sender p a)) = .ok result ∧
          d = ⟨templateClosing p result.errors, p.server, p.vmid,
            if "cloudinit" ∈ result.applied then (templateNet w req sender p a).ip else none⟩ := by
  simp only [templateBuild, bind_eq_ok_iff, ask_eq_ok_iff]
  constructor
  · rintro ⟨_, hann, result, hconf, _, hfin, hd⟩
    cases hd
    exact ⟨⟨hann, result, hconf, finish_eq_ok_iff.mp hfin⟩, result, hconf, rfl⟩
  · rintro ⟨⟨hann, result, hconf, hfin⟩, result', hconf', rfl⟩
    rw [hconf] at hconf'
    cases hconf'
    exact ⟨(), hann, result, hconf, (), finish_eq_ok_iff.mpr hfin, rfl⟩

end Built

/-! ### Runs -/

/-- A worker's parts report what they do: an early return a failure, the end a completion. -/
structure Worker.Honest (worker : Worker) : Prop where
  stops : ∀ ctx a, ErrorsMeet Stop.Failed (worker.build ctx a)
  completes : ∀ ctx a d, worker.build ctx a = .ok d → d.closing.status = "completed"

section Honest

variable (w : World) (sender : Sender)

theorem lxcWorker_honest (req : LXCDeployRequest) : (lxcWorker w req sender).Honest where
  stops p a := by
    refine errorsMeet_bind (failed_ask _) fun _ _ => ?_
    refine errorsMeet_bind (failed_lxcCreated _) fun _ _ => ?_
    refine errorsMeet_bind (failed_ask _) fun _ _ => ?_
    refine errorsMeet_bind (failed_ask _) fun _ _ => ?_
    refine errorsMeet_bind (failed_ensured _ _ _ _) fun _ _ => ?_
    refine errorsMeet_bind (failed_ask _) fun _ _ => ?_
    exact errorsMeet_bind (failed_finish _ _ _ _ _ _ _) fun _ _ => errorsMeet_ok
  completes p a d h := by
    obtain ⟨-, rfl⟩ := lxcBuild_eq_ok_iff.mp h
    rfl

theorem isoWorker_honest (req : ISOVMCreateRequest) : (isoWorker w req sender).Honest where
  stops p a := by
    refine errorsMeet_bind (failed_ask _) fun _ _ => ?_
    refine errorsMeet_bind (failed_ask _) fun _ _ => ?_
    refine errorsMeet_bind (failed_required _ _ _ _) fun _ _ => ?_
    refine errorsMeet_bind (failed_ask _) fun _ _ => ?_
    refine errorsMeet_bind (failed_ask _) fun _ _ => ?_
    refine errorsMeet_bind (failed_ensured _ _ _ _) fun _ _ => ?_
    exact errorsMeet_bind (failed_finish _ _ _ _ _ _ _) fun _ _ => errorsMeet_ok
  completes p a d h := by
    obtain ⟨-, rfl⟩ := isoBuild_eq_ok_iff.mp h
    rfl

theorem templateWorker_honest (req : VMDeployRequest) : (templateWorker w req sender).Honest where
  stops p a := by
    refine errorsMeet_bind (failed_ask _) fun _ _ => ?_
    refine errorsMeet_bind (failed_ask _) fun _ _ => ?_
    exact errorsMeet_bind (failed_finish _ _ _ _ _ _ _) fun _ _ => errorsMeet_ok
  completes p a d h := by
    obtain ⟨-, result, -, rfl⟩ := templateBuild_eq_ok_iff.mp h
    rfl

end Honest

/-- A stop is recorded as a failure, unless the database does not take it. -/
theorem stopped_of_recordsFailure {w : World} {stop : Stop} (h : stop.Failed) :
    (w.recordsFailure = true → ∃ u, stopped w stop = some u ∧ u.status = "failed") ∧
      (w.recordsFailure = false → stopped w stop = none) := by
  cases stop with
  | returned closing =>
    constructor
    · intro hr
      exact ⟨closing, by rw [stopped, if_pos hr], h⟩
    · intro hr
      rw [stopped, if_neg (by simp [hr])]
  | raised err =>
    constructor
    · intro hr
      rw [stopped, failedTask, if_pos hr]
      exact ⟨_, rfl, rfl⟩
    · intro hr
      rw [stopped, failedTask, if_neg (by simp [hr])]

/-- A failed task leaves the allocations as they were. -/
def Clean (ipam : Ipam) (result : Result) : Prop :=
  ∀ closing, result.closing = some closing → closing.status = "failed" →
    result.ipam.allocations = ipam.allocations

theorem afterStop_none (w : World) (releases : Bool) (ipam : Ipam) (stop : Stop) :
    afterStop w releases none ipam stop = ipam := by
  have hhandled : handled w releases none ipam = ipam := by
    cases releases with
    | true => rfl
    | false => rfl
  cases stop with
  | returned closing => rw [afterStop, hhandled, ite_self]
  | raised err => exact hhandled

/-- The handler's release never meets the granted address. -/
theorem mem_afterStop {w : World} {releases : Bool} {a : IPAMAllocation} {ipam : Ipam} {stop : Stop}
    (hparse : (Net.IpAddress.parse a.ipAddress).isSome = true) (ha : a ∈ ipam.allocations.rows) :
    a ∈ (afterStop w releases (some a) ipam stop).allocations.rows := by
  have hrelease : a ∈ (releaseById w ipam a).allocations.rows := by
    unfold releaseById
    split
    · refine (mem_releaseIp ipam _ none none a).mpr ⟨ha, fun he => ?_⟩
      rw [he, Net.IpAddress.parse_toString_nat] at hparse
      cases hparse
    · exact ha
  have hhandled : a ∈ (handled w releases (some a) ipam).allocations.rows := by
    cases releases with
    | true => exact hrelease
    | false => exact ha
  cases stop with
  | returned closing =>
    rw [afterStop]
    split
    · exact ha
    · exact hhandled
  | raised err => exact hhandled

/-- A run leaves the allocations as they were exactly when it does not stop with a granted
allocation and a recorded failure. -/
theorem Worker.Honest.clean_run_iff {worker : Worker} (h : worker.Honest) (w : World)
    (ipam : Ipam) : Clean ipam (worker.run w ipam) ↔
      ¬(w.recordsFailure = true ∧ ∃ ctx a, worker.prepare = .ok ctx ∧
        (worker.reservation ctx).Grants w.sur ipam a ∧ ∀ d, worker.build ctx (some a) ≠ .ok d) := by
  unfold Worker.run
  cases hprep : worker.prepare with
  | error stop =>
    refine iff_of_true (fun closing _ _ => ?_) ?_
    · change (afterStop w worker.releases none ipam stop).allocations = _
      rw [afterStop_none]
    · rintro ⟨-, ctx, a, hctx, -⟩
      cases hctx
  | ok ctx =>
    dsimp only
    rcases (worker.reservation ctx).reserve_cases w.sur ipam with
      ⟨ipam', a, hres, hgrants, hgranted⟩ | ⟨hno, hres⟩
    · rw [hres]
      dsimp only
      have hmem : a ∈ ipam'.allocations.rows := by
        rw [hgranted.rows]
        exact List.mem_append_right _ (List.mem_singleton_self a)
      have hnew : a ∉ ipam.allocations.rows := by
        intro ha
        exact ipam.allocations.find?_eq_none_iff.mp hgranted.new a ha rfl
      cases hbuild : worker.build ctx (some a) with
      | ok d =>
        refine iff_of_true (fun closing hc hs => ?_) ?_
        · cases hc
          rw [h.completes ctx (some a) d hbuild] at hs
          exact absurd hs (by decide)
        · rintro ⟨-, ctx', a', hctx', hg, hfail⟩
          cases hctx'
          rw [hg.unique hgrants] at hfail
          exact hfail d hbuild
      | error stop =>
        obtain ⟨hrecorded, hlost⟩ :=
          stopped_of_recordsFailure (w := w) (h.stops ctx (some a) stop hbuild)
        have hafter : a ∈ (afterStop w worker.releases (some a) ipam' stop).allocations.rows :=
          mem_afterStop hgranted.isAddress hmem
        cases hr : w.recordsFailure with
        | true =>
          obtain ⟨u, hu, hs⟩ := hrecorded hr
          refine iff_of_false (fun hclean => ?_) fun hn => hn ⟨rfl, ctx, a, rfl, hgrants, ?_⟩
          · rw [hclean u hu hs] at hafter
            exact hnew hafter
          · intro d hd
            rw [hbuild] at hd
            cases hd
        | false =>
          refine iff_of_true (fun closing hc _ => ?_) fun hn => by cases hn.1
          have hstopped : stopped w stop = some closing := hc
          rw [hlost hr] at hstopped
          cases hstopped
    · refine iff_of_true ?_ ?_
      · rcases hres with hres | ⟨e, hres⟩
        · rw [hres]
          dsimp only
          cases hbuild : worker.build ctx none with
          | ok d =>
            intro closing hc hs
            rfl
          | error stop =>
            intro closing hc hs
            change (afterStop w worker.releases none ipam stop).allocations = _
            rw [afterStop_none]
        · rw [hres]
          intro closing hc hs
          rfl
      · rintro ⟨-, ctx', a, hctx', hg, -⟩
        cases hctx'
        exact hno a hg

/-! ### Requests -/

section Requests

variable (w : World) (sender : Sender) (ipam : Ipam)

/-- IPAM grants an address to the run, and a later step fails. -/
def FailsLate : Request → Prop
  | .lxc req => ∃ p a, LxcReady w req p ∧ (lxcReservation req sender p).Grants w.sur ipam a ∧
      ¬LxcBuilt w sender req p (some a)
  | .iso req => ∃ p a, IsoReady w req p ∧ (isoReservation req sender p).Grants w.sur ipam a ∧
      ¬IsoBuilt w sender req p (some a)
  | .template req => ∃ p a, TemplateReady w req sender p ∧
      (templateReservation req sender p).Grants w.sur ipam a ∧ ¬TemplateBuilt w sender req p (some a)

/-- A failed deploy leaves the allocations as they were exactly when nothing fails once an
address is granted, as far as failures are recorded. -/
theorem clean_deploy_iff (request : Request) : Clean ipam (deploy w sender request ipam) ↔
    ¬(w.recordsFailure = true ∧ FailsLate w sender ipam request) := by
  cases request with
  | lxc req =>
    rw [deploy, Request.worker, (lxcWorker_honest w sender req).clean_run_iff w ipam]
    refine not_congr (and_congr_right fun _ => exists₂_congr fun p a => ?_)
    refine and_congr lxcPrepare_eq_ok_iff (and_congr_right fun _ => ?_)
    constructor
    · exact fun hno hb => hno _ (lxcBuild_eq_ok_iff.mpr ⟨hb, rfl⟩)
    · exact fun hno d hd => hno (lxcBuild_eq_ok_iff.mp hd).1
  | iso req =>
    rw [deploy, Request.worker, (isoWorker_honest w sender req).clean_run_iff w ipam]
    refine not_congr (and_congr_right fun _ => exists₂_congr fun p a => ?_)
    refine and_congr isoPrepare_eq_ok_iff (and_congr_right fun _ => ?_)
    constructor
    · exact fun hno hb => hno _ (isoBuild_eq_ok_iff.mpr ⟨hb, rfl⟩)
    · exact fun hno d hd => hno (isoBuild_eq_ok_iff.mp hd).1
  | template req =>
    rw [deploy, Request.worker, (templateWorker_honest w sender req).clean_run_iff w ipam]
    refine not_congr (and_congr_right fun _ => exists₂_congr fun p a => ?_)
    refine and_congr templatePrepare_eq_ok_iff (and_congr_right fun _ => ?_)
    constructor
    · intro hno hb
      obtain ⟨result, hconf, -⟩ := hb.finished
      exact hno _ (templateBuild_eq_ok_iff.mpr ⟨hb, result, hconf, rfl⟩)
    · exact fun hno d hd => hno (templateBuild_eq_ok_iff.mp hd).1

end Requests

/-! ### A refused container -/

/-- A container with an address of the office network. -/
def officeContainer (ip : String) : LXCDeployRequest where
  serverId := 1
  ostemplate := "local:vztmpl/debian.tar.zst"
  node := some "pve"
  name := "web"
  vmid := some 100
  cores := 1
  memory := 512
  swap := 512
  disk := 8
  storage := "local-lvm"
  bridge := "vmbr0"
  ipAddress := some ip
  gateway := none
  ipamNetworkId := some 1
  ipamPoolId := none
  password := none
  sshKeys := none
  nameserver := none
  searchdomain := none
  unprivileged := true
  startAfterCreate := true
  onboot := false

/-- A world in which everything goes well. -/
def calm : World where
  sur := .office 1
  updateTask _ := .ok ()
  recordsFailure := true
  comparesNumbers := true
  server _ := .ok true
  template _ := .ok none
  isConnected _ := .ok true
  nodes := .ok ["pve"]
  storageContents _ := .ok []
  vmStatus _ _ := .ok true
  findTemplateOnNodes _ := .ok none
  nextVmid _ := .ok 100
  createLxcContainer _ := .ok (some "UPID")
  createVmFromIso _ := .ok (some "UPID")
  cloneVmFromTemplate _ := .ok (some "UPID")
  waitForTask _ _ := .ok true
  waitForVmUnlock _ _ := .ok true
  configureVm _ := .ok ⟨["compute", "network", "cloudinit"], []⟩
  start _ _ := .ok true
  saveVmInstance _ := .ok ()
  logCreated _ := .ok ()

/-- Proxmox refuses the container after its address is granted. -/
def refusing : World := { calm with createLxcContainer := fun _ => .error "storage is full" }

/-- The address stays allocated to a guest that was never created. -/
theorem refused_not_clean :
    ¬Clean ⟨.empty, []⟩
      (deploy refusing ⟨1, "admin", none⟩ (.lxc (officeContainer "10.0.0.5")) ⟨.empty, []⟩) := by
  intro h
  have hclosing : (deploy refusing ⟨1, "admin", none⟩ (.lxc (officeContainer "10.0.0.5"))
      ⟨.empty, []⟩).closing.map TaskUpdate.status = some "failed" := by decide
  have hrows : (deploy refusing ⟨1, "admin", none⟩ (.lxc (officeContainer "10.0.0.5"))
      ⟨.empty, []⟩).ipam.allocations.rows.map IPAMAllocation.ipAddress = ["10.0.0.5"] := by decide
  obtain ⟨closing, hc, hs⟩ := Option.map_eq_some_iff.mp hclosing
  rw [h closing hc hs] at hrows
  cases hrows

end PveManager.Deploy
