import PveManager.Deploy.Cleanup

/-!
# The addresses of deployed guests

An address that the service chooses is allocated to the guest that gets it. A
given address goes to the guest whatever the service answers: where it is
refused, or where the request names no network, the guest and the allocations
need not agree.
-/

namespace PveManager.Deploy

open PveManager.Core PveManager.Ipam PveManager.Net

/-- The address lies in a network of the panel. -/
def LiesIn (sur : Surroundings) (ip : String) : Prop :=
  ∃ network ∈ sur.networks.rows, ∃ net a, IpNetwork.parse network.network = some net ∧
    IpAddress.parse ip = some a ∧ net.contains a = true

/-- The address is allocated to the guest, in whatever spelling. -/
def AllocatedTo (ipam : Ipam) (ip : String) (server : ServerId) (vmid : Vmid) : Prop :=
  ∃ a ∈ ipam.allocations.rows, IpAddress.parse a.ipAddress = IpAddress.parse ip ∧
    a.keyedTo server vmid = true

/-- `allocate_ip` reports the address as taken, outside of the network or its gateway. -/
def Refuses (sur : Surroundings) (ipam : Ipam) (networkId : Nat) (ip : String) : Prop :=
  ∃ e, checkAllocation sur ipam { ipAddress := ip, networkId := networkId } = .error e

/-- The given address of a request. -/
def Request.ipAddress : Request → Option String
  | .lxc req => req.ipAddress
  | .iso req => req.ipAddress
  | .template req => req.ipAddress

/-- The network of a request. -/
def Request.networkId : Request → Option Nat
  | .lxc req => req.ipamNetworkId.filter (· ≠ 0)
  | .iso req => req.ipamNetworkId.filter (· ≠ 0)
  | .template req => req.ipamNetworkId.filter (· ≠ 0)

/-- A completed deploy and the allocations agree on the address of the guest. -/
structure Agree (sur : Surroundings) (ipam : Ipam) (request : Request) (result : Result) : Prop where
  allocated : ∀ d ip, result.deployed = some d → d.address = some ip → LiesIn sur ip →
    AllocatedTo result.ipam ip d.server d.vmid
  refused : ∀ d ip networkId, result.deployed = some d → request.ipAddress = some ip → ip ≠ "" →
    request.networkId = some networkId → Refuses sur ipam networkId ip → d.address ≠ some ip

/-- The given address is not the service's to give: there is no network, or it is refused. -/
def Unheeded (sur : Surroundings) (ipam : Ipam) (request : Request) (ip : String)
    (server : ServerId) (vmid : Vmid) : Prop :=
  request.ipAddress = some ip ∧ ip ≠ "" ∧
    match request.networkId with
    | none => LiesIn sur ip ∧ ¬AllocatedTo ipam ip server vmid
    | some networkId => Refuses sur ipam networkId ip

theorem not_liesIn_empty (sur : Surroundings) : ¬LiesIn sur "" := by
  rintro ⟨network, -, net, a, -, ha, -⟩
  have hnone : IpAddress.parse "" = none := by decide
  rw [hnone] at ha
  cases ha

section Reservations

variable {r : Reservation} {sur : Surroundings} {ipam : Ipam}

/-- A granted address is the guest's. -/
theorem address_of_granted {ipam' : Ipam} {a : IPAMAllocation} (h : Granted r ipam ipam' a) :
    r.address (some a) = some a.ipAddress := by
  unfold Reservation.address
  split
  · rename_i hip
    exact h.given hip
  · rfl

theorem address_none (r : Reservation) : r.address none = r.ipAddress := by
  unfold Reservation.address
  split
  · rfl
  · rfl

/-- The service refuses a given address exactly by its checks. -/
theorem allocate_refused_iff {networkId : Nat} {ip : String} (hip : r.ipAddress = some ip)
    (hne : ip ≠ "") : (∃ e, (r.allocate networkId sur ipam).2 = .refused e) ↔
      Refuses sur ipam networkId ip := by
  have htruthy : truthy r.ipAddress = true := by
    rw [hip]
    exact decide_eq_true hne
  unfold Reservation.allocate
  rw [if_pos htruthy, hip]
  unfold Refuses allocateIp
  have hsame : checkAllocation sur ipam (r.request networkId ((some ip).getD "") r.manualNotes) =
      checkAllocation sur ipam { ipAddress := ip, networkId := networkId } := rfl
  rw [hsame]
  cases checkAllocation sur ipam { ipAddress := ip, networkId := networkId } with
  | error e => exact ⟨fun _ => ⟨e, rfl⟩, fun _ => ⟨e, rfl⟩⟩
  | ok found =>
    constructor
    · rintro ⟨e, he⟩
      dsimp only at he
      split at he
      · cases he
      · split at he
        · cases he
        · cases he
    · rintro ⟨e, he⟩
      cases he

end Reservations

/-- A worker whose guest is the one it reserves for, and gets the reserved address or none. -/
structure Worker.Serves (worker : Worker) (request : Request) : Prop where
  ipAddress : ∀ ctx, (worker.reservation ctx).ipAddress = request.ipAddress
  networkId : ∀ ctx, (worker.reservation ctx).networkId.filter (· ≠ 0) = request.networkId
  guest : ∀ ctx a d, worker.build ctx a = .ok d →
    d.server = (worker.reservation ctx).server ∧ d.vmid = (worker.reservation ctx).vmid
  address : ∀ ctx a d ip, worker.build ctx a = .ok d → d.address = some ip →
    (worker.reservation ctx).address a = some ip

/-- Without a network, or after a refusal, the worker goes on without an allocation. -/
theorem reserve_of_unheeded {r : Reservation} {sur : Surroundings} {ipam : Ipam} {ip : String}
    (hip : r.ipAddress = some ip) (hne : ip ≠ "")
    (h : ∀ networkId, r.networkId.filter (· ≠ 0) = some networkId →
      Refuses sur ipam networkId ip) : r.reserve sur ipam = (ipam, .ok none) := by
  unfold Reservation.reserve
  cases hn : r.networkId.filter (· ≠ 0) with
  | none => rfl
  | some networkId =>
    obtain ⟨e, he⟩ := (allocate_refused_iff hip hne).mpr (h networkId hn)
    dsimp only
    rcases r.allocate_cases networkId sur ipam with ⟨ipam', a, ha, -⟩ | ⟨e', ha⟩ | ⟨e', ha⟩
    · rw [ha] at he
      cases he
    · rw [ha]
    · rw [ha] at he
      cases he

/-- A worker goes on without an allocation only without a network or after a refusal. -/
theorem refuses_of_reserve {r : Reservation} {sur : Surroundings} {ipam : Ipam} {ip : String}
    {networkId : Nat} (hip : r.ipAddress = some ip) (hne : ip ≠ "")
    (hn : r.networkId.filter (· ≠ 0) = some networkId)
    (h : r.reserve sur ipam = (ipam, .ok none)) : Refuses sur ipam networkId ip := by
  refine (allocate_refused_iff hip hne).mp ?_
  unfold Reservation.reserve at h
  rw [hn] at h
  dsimp only at h
  rcases r.allocate_cases networkId sur ipam with ⟨ipam', a, ha, -⟩ | ⟨e', ha⟩ | ⟨e', ha⟩
  · rw [ha] at h
    cases h
  · exact ⟨e', by rw [ha]⟩
  · rw [ha] at h
    cases h

/-- The run that ends with a guest. -/
theorem Worker.deployed_run {worker : Worker} {w : World} {ipam : Ipam} {d : Deployed}
    (hd : (worker.run w ipam).deployed = some d) : ∃ ctx a, worker.prepare = .ok ctx ∧
      (worker.reservation ctx).reserve w.sur ipam = ((worker.run w ipam).ipam, .ok a) ∧
      worker.build ctx a = .ok d := by
  unfold Worker.run at hd ⊢
  cases hprep : worker.prepare with
  | error stop =>
    rw [hprep] at hd
    cases hd
  | ok ctx =>
    rw [hprep] at hd
    dsimp only at hd ⊢
    rcases hres : (worker.reservation ctx).reserve w.sur ipam with ⟨ipam', e | a⟩
    · rw [hres] at hd
      cases hd
    · rw [hres] at hd
      dsimp only at hd ⊢
      cases hbuild : worker.build ctx a with
      | error stop =>
        rw [hbuild] at hd
        cases hd
      | ok d' =>
        rw [hbuild] at hd
        cases hd
        exact ⟨ctx, a, rfl, hres, hbuild⟩

theorem Worker.run_of_deployed {worker : Worker} {w : World} {ipam ipam' : Ipam} {d : Deployed}
    {ctx : worker.Context} {a : Option IPAMAllocation} (hprep : worker.prepare = .ok ctx)
    (hres : (worker.reservation ctx).reserve w.sur ipam = (ipam', .ok a))
    (hbuild : worker.build ctx a = .ok d) : worker.run w ipam = ⟨ipam', some d.closing, some d⟩ := by
  unfold Worker.run
  rw [hprep]
  dsimp only
  rw [hres]
  dsimp only
  rw [hbuild]

/-- A run agrees with the allocations exactly when it does not complete with an address that the
service has no say in. -/
theorem Worker.Serves.agree_run_iff {worker : Worker} {request : Request}
    (h : worker.Serves request) (w : World) (ipam : Ipam) :
    Agree w.sur ipam request (worker.run w ipam) ↔
      ¬∃ ctx d ip, worker.prepare = .ok ctx ∧ worker.build ctx none = .ok d ∧ d.address = some ip ∧
        Unheeded w.sur ipam request ip d.server d.vmid := by
  constructor
  · rintro hagree ⟨ctx, d, ip, hprep, hbuild, haddress, hip, hne, hun⟩
    have hrip : (worker.reservation ctx).ipAddress = some ip := (h.ipAddress ctx).trans hip
    have hres : (worker.reservation ctx).reserve w.sur ipam = (ipam, .ok none) := by
      refine reserve_of_unheeded hrip hne fun networkId hn => ?_
      rw [h.networkId ctx] at hn
      rw [hn] at hun
      exact hun
    have hrun := Worker.run_of_deployed hprep hres hbuild
    rw [hrun] at hagree
    cases hn : request.networkId with
    | none =>
      rw [hn] at hun
      exact hun.2 (hagree.allocated d ip rfl haddress hun.1)
    | some networkId =>
      rw [hn] at hun
      exact hagree.refused d ip networkId rfl hip hne hn hun haddress
  · intro hno
    have hgoes : ∀ d ip, (worker.run w ipam).deployed = some d → d.address = some ip →
        (∀ ctx, worker.prepare = .ok ctx → worker.build ctx none = .ok d →
          (worker.reservation ctx).reserve w.sur ipam = (ipam, .ok none) →
          (worker.run w ipam).ipam = ipam → False) →
        AllocatedTo (worker.run w ipam).ipam ip d.server d.vmid := by
      intro d ip hd haddress hbad
      obtain ⟨ctx, a, hprep, hres, hbuild⟩ := Worker.deployed_run hd
      rcases (worker.reservation ctx).reserve_cases w.sur ipam with
        ⟨ipam', a', hres', -, hgranted⟩ | ⟨-, hres' | ⟨e, hres'⟩⟩
      · rw [hres, Prod.mk.injEq, Except.ok.injEq] at hres'
        obtain ⟨hipam, ha⟩ := hres'
        subst ha
        rw [← hipam] at hgranted
        have hip := h.address ctx (some a') d ip hbuild haddress
        rw [address_of_granted hgranted] at hip
        cases hip
        obtain ⟨hserver, hvmid⟩ := h.guest ctx (some a') d hbuild
        refine ⟨a', ?_, rfl, by rw [hserver, hvmid]; exact hgranted.keyed⟩
        rw [hgranted.rows]
        exact List.mem_append_right _ (List.mem_singleton_self a')
      · have hsame := hres.symm.trans hres'
        rw [Prod.mk.injEq, Except.ok.injEq] at hsame
        rw [hsame.2] at hbuild
        exact (hbad ctx hprep hbuild hres' hsame.1).elim
      · have hsame := (Prod.mk.inj (hres.symm.trans hres')).2
        cases hsame
    constructor
    · intro d ip hd haddress hlies
      by_contra hnot
      refine hnot (hgoes d ip hd haddress fun ctx hprep hbuild hres hipam => ?_)
      have hrip : (worker.reservation ctx).ipAddress = some ip := by
        rw [← address_none]
        exact h.address ctx none d ip hbuild haddress
      have hne : ip ≠ "" := fun he => not_liesIn_empty w.sur (he ▸ hlies)
      refine hno ⟨ctx, d, ip, hprep, hbuild, haddress, (h.ipAddress ctx).symm.trans hrip, hne, ?_⟩
      cases hn : request.networkId with
      | none => exact ⟨hlies, hipam ▸ hnot⟩
      | some networkId =>
        exact refuses_of_reserve hrip hne ((h.networkId ctx).trans hn) hres
    · intro d ip networkId hd hip hne hn hrefuses haddress
      obtain ⟨ctx, a, hprep, hres, hbuild⟩ := Worker.deployed_run hd
      have hrip : (worker.reservation ctx).ipAddress = some ip := (h.ipAddress ctx).trans hip
      have hres' : (worker.reservation ctx).reserve w.sur ipam = (ipam, .ok none) := by
        refine reserve_of_unheeded hrip hne fun networkId' hn' => ?_
        rw [h.networkId ctx, hn] at hn'
        cases hn'
        exact hrefuses
      have hsame := hres.symm.trans hres'
      rw [Prod.mk.injEq, Except.ok.injEq] at hsame
      rw [hsame.2] at hbuild
      refine hno ⟨ctx, d, ip, hprep, hbuild, haddress, hip, hne, ?_⟩
      rw [hn]
      exact hrefuses

/-! ### Requests -/

section Requests

variable (w : World) (sender : Sender) (ipam : Ipam)

theorem ip_netConfig (sur : Surroundings) (ip : Option String) (networkId : Option Nat)
    (gateway : Option String) : (netConfig sur ip networkId gateway).ip = ip := by
  unfold netConfig
  split
  · rfl
  · rfl

theorem ip_lxcNet (req : LXCDeployRequest) (p : Place) (a : Option IPAMAllocation) :
    (lxcNet w req sender p a).ip = (lxcReservation req sender p).address a :=
  ip_netConfig _ _ _ _

theorem ip_isoNet (req : ISOVMCreateRequest) (p : Place) (a : Option IPAMAllocation) :
    (isoNet w req sender p a).ip = (isoReservation req sender p).address a :=
  ip_netConfig _ _ _ _

theorem ip_templateNet (req : VMDeployRequest) (p : ClonePlace) (a : Option IPAMAllocation) :
    (templateNet w req sender p a).ip = (templateReservation req sender p).address a :=
  ip_netConfig _ _ _ _

theorem lxcWorker_serves (req : LXCDeployRequest) : (lxcWorker w req sender).Serves (.lxc req) where
  ipAddress _ := rfl
  networkId _ := rfl
  guest p a d h := by
    obtain ⟨-, rfl⟩ := lxcBuild_eq_ok_iff.mp h
    exact ⟨rfl, rfl⟩
  address p a d ip h haddress := by
    obtain ⟨-, rfl⟩ := lxcBuild_eq_ok_iff.mp h
    exact (ip_lxcNet w sender req p a).symm.trans haddress

theorem isoWorker_serves (req : ISOVMCreateRequest) :
    (isoWorker w req sender).Serves (.iso req) where
  ipAddress _ := rfl
  networkId _ := rfl
  guest p a d h := by
    obtain ⟨-, rfl⟩ := isoBuild_eq_ok_iff.mp h
    exact ⟨rfl, rfl⟩
  address p a d ip h haddress := by
    obtain ⟨-, rfl⟩ := isoBuild_eq_ok_iff.mp h
    exact (ip_isoNet w sender req p a).symm.trans haddress

theorem templateWorker_serves (req : VMDeployRequest) :
    (templateWorker w req sender).Serves (.template req) where
  ipAddress _ := rfl
  networkId _ := rfl
  guest p a d h := by
    obtain ⟨-, result, -, rfl⟩ := templateBuild_eq_ok_iff.mp h
    exact ⟨rfl, rfl⟩
  address p a d ip h haddress := by
    obtain ⟨-, result, -, rfl⟩ := templateBuild_eq_ok_iff.mp h
    dsimp only at haddress
    split at haddress
    · exact (ip_templateNet w sender req p a).symm.trans haddress
    · cases haddress

/-- The deploy goes through with a given address that the service has no say in. -/
def Overruled : Request → Prop
  | .lxc req => ∃ p ip, LxcReady w req p ∧ LxcBuilt w sender req p none ∧
      Unheeded w.sur ipam (.lxc req) ip p.server p.vmid
  | .iso req => ∃ p ip, IsoReady w req p ∧ IsoBuilt w sender req p none ∧
      Unheeded w.sur ipam (.iso req) ip p.server p.vmid
  | .template req => ∃ p ip, TemplateReady w req sender p ∧ TemplateBuilt w sender req p none ∧
      (∃ result, w.configureVm (configParams req p (templateNet w req sender p none)) =
        .ok result ∧ "cloudinit" ∈ result.applied) ∧
      Unheeded w.sur ipam (.template req) ip p.server p.vmid

/-- Guest and allocations agree after a deploy exactly when it does not go through with an
address that the service has no say in. -/
theorem agree_deploy_iff (request : Request) :
    Agree w.sur ipam request (deploy w sender request ipam) ↔
      ¬Overruled w sender ipam request := by
  cases request with
  | lxc req =>
    rw [deploy, Request.worker, (lxcWorker_serves w sender req).agree_run_iff w ipam]
    refine not_congr ⟨?_, ?_⟩
    · rintro ⟨p, d, ip, hprep, hbuild, -, hun⟩
      obtain ⟨hbuilt, rfl⟩ := lxcBuild_eq_ok_iff.mp hbuild
      exact ⟨p, ip, lxcPrepare_eq_ok_iff.mp hprep, hbuilt, hun⟩
    · rintro ⟨p, ip, hready, hbuilt, hun⟩
      refine ⟨p, _, ip, lxcPrepare_eq_ok_iff.mpr hready, lxcBuild_eq_ok_iff.mpr ⟨hbuilt, rfl⟩, ?_,
        hun⟩
      exact (ip_lxcNet w sender req p none).trans ((address_none _).trans hun.1)
  | iso req =>
    rw [deploy, Request.worker, (isoWorker_serves w sender req).agree_run_iff w ipam]
    refine not_congr ⟨?_, ?_⟩
    · rintro ⟨p, d, ip, hprep, hbuild, -, hun⟩
      obtain ⟨hbuilt, rfl⟩ := isoBuild_eq_ok_iff.mp hbuild
      exact ⟨p, ip, isoPrepare_eq_ok_iff.mp hprep, hbuilt, hun⟩
    · rintro ⟨p, ip, hready, hbuilt, hun⟩
      refine ⟨p, _, ip, isoPrepare_eq_ok_iff.mpr hready, isoBuild_eq_ok_iff.mpr ⟨hbuilt, rfl⟩, ?_,
        hun⟩
      exact (ip_isoNet w sender req p none).trans ((address_none _).trans hun.1)
  | template req =>
    rw [deploy, Request.worker, (templateWorker_serves w sender req).agree_run_iff w ipam]
    refine not_congr ⟨?_, ?_⟩
    · rintro ⟨p, d, ip, hprep, hbuild, haddress, hun⟩
      obtain ⟨hbuilt, result, hconf, rfl⟩ := templateBuild_eq_ok_iff.mp hbuild
      refine ⟨p, ip, templatePrepare_eq_ok_iff.mp hprep, hbuilt, ⟨result, hconf, ?_⟩, hun⟩
      by_contra hno
      dsimp only at haddress
      rw [if_neg hno] at haddress
      cases haddress
    · rintro ⟨p, ip, hready, hbuilt, ⟨result, hconf, happlied⟩, hun⟩
      refine ⟨p, _, ip, templatePrepare_eq_ok_iff.mpr hready,
        templateBuild_eq_ok_iff.mpr ⟨hbuilt, result, hconf, rfl⟩, ?_, hun⟩
      dsimp only
      rw [if_pos happlied]
      exact (ip_templateNet w sender req p none).trans ((address_none _).trans hun.1)

end Requests

/-! ### A taken address -/

/-- Another guest has the address already. -/
def taken : Ipam :=
  ⟨⟨[{ id := 7, networkId := 1, ipAddress := "10.0.0.5", resourceType := some "vm",
       resourceId := none, resourceName := some "db", proxmoxServerId := some 1,
       proxmoxVmid := some 101, proxmoxNode := some "pve", status := "allocated",
       isPrimary := true }], by decide⟩, []⟩

/-- The container gets the address of the other guest. -/
theorem taken_not_agree :
    ¬Agree calm.sur taken (.lxc (officeContainer "10.0.0.5"))
      (deploy calm ⟨1, "admin", none⟩ (.lxc (officeContainer "10.0.0.5")) taken) := by
  intro h
  have haddress : (deploy calm ⟨1, "admin", none⟩ (.lxc (officeContainer "10.0.0.5"))
      taken).deployed.map Deployed.address = some (some "10.0.0.5") := by decide
  obtain ⟨d, hd, hip⟩ := Option.map_eq_some_iff.mp haddress
  have hrefuses : Refuses calm.sur taken 1 "10.0.0.5" :=
    ⟨"IP 10.0.0.5 is already allocated to db", rfl⟩
  exact h.refused d "10.0.0.5" 1 hd rfl (by decide) rfl hrefuses hip

end PveManager.Deploy
