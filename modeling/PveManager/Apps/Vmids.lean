import PveManager.Apps.Workers
import PveManager.Core.Outcome

/-!
# The number of a new app

The number of a new app is the first one from Proxmox's answer on that no app
row of the server has. Proxmox is asked once, so a guest behind a run of taken
numbers is not noticed, and the pipeline takes over the container it finds.
-/

namespace PveManager.Apps

open PveManager.Core PveManager.Api

/-- A guest on the Proxmox side. -/
structure Guest where
  vmid : Vmid
  vmType : VmType
  node : String
  deriving DecidableEq, Repr

/-- `cluster/nextid`: the smallest number from `base` on that no guest has. -/
structure IsNextid (base : Nat) (guests : List Guest) (n : Vmid) : Prop where
  le : base ≤ n
  free : ∀ g ∈ guests, g.vmid ≠ n
  least : ∀ k, base ≤ k → k < n → ∃ g ∈ guests, g.vmid = k

/-- A request to install an app, with the guests there are. -/
structure Installation where
  site : Site
  request : InstallRequest
  guests : List Guest
  base : Nat
  base_pos : 0 < base
  first : Vmid
  answered : site.nextid request.serverId = some first
  nextid : IsNextid base guests first

/-- The node reports a container exactly when there is one. -/
def Truthful (guests : List Guest) (env : Environment engine) : Prop :=
  ∀ h node vmid, env h (.remote (.containerStatus node vmid)) =
    .ok (decide (∃ g ∈ guests, g.vmid = vmid ∧ g.vmType = .lxc ∧ g.node = node))

namespace Installation

variable (i : Installation)

/-- No guest and no other app row of the server has the number. -/
def Fresh (ia : InstalledApp) : Prop :=
  ∃ vmid, ia.vmid = some vmid ∧ (∀ g ∈ i.guests, g.vmid ≠ vmid) ∧
    ∀ row ∈ i.site.installed.rows, row.serverId = some i.request.serverId → row.vmid ≠ some vmid

/-- The pipeline creates the container and takes over none. -/
def Creates (job : InstallJob) : Prop :=
  ∀ vmid, job.vmid = some vmid → ∀ env, Truthful i.guests env → ∀ node,
    EngineCall.remote (.createContainer node vmid job) ∈
      (Proc.run env [] (prepareContainer job node vmid)).1

/-- The numbers of the app rows of the server. -/
def taken : List Vmid := takenVmids i.site i.request.serverId

/-- A guest without an app row stands right behind a run of taken numbers that begins with
Proxmox's answer. -/
def Shadowed : Prop :=
  ∃ g ∈ i.guests, i.first ≤ g.vmid ∧ g.vmid ∉ i.taken ∧
    ∀ k, i.first ≤ k → k < g.vmid → k ∈ i.taken

variable {i}

theorem mem_taken {vmid : Vmid} :
    vmid ∈ i.taken ↔ ∃ row ∈ i.site.installed.rows, row.serverId = some i.request.serverId ∧
      row.vmid = some vmid := by
  simp [taken, takenVmids, and_assoc]

/-- Proxmox's answer is used when it is positive. -/
theorem getNextVmid_eq {first : Vmid}
    (h : getNextVmid i.site i.request.serverId = .ok first) : first = i.first := by
  have hpos : positive (some i.first) = some i.first := by
    have hne : i.first ≠ 0 := fun h0 => by
      have hle := i.nextid.le
      have hbase := i.base_pos
      rw [h0] at hle
      omega
    simp [positive, hne]
  unfold getNextVmid at h
  split at h
  · rw [i.answered, hpos] at h
    cases h
    rfl
  · cases h

/-- What an accepted request stores. -/
theorem vmid_of_install {ia : InstalledApp} {job : InstallJob}
    (h : install i.site i.request = .ok (ia, job)) :
    ia.vmid = some (skipTaken i.taken i.taken.length i.first) ∧ job.vmid = ia.vmid := by
  unfold install at h
  iterate 8 obtain ⟨_, -, h⟩ := bind_ok h
  obtain ⟨first, hfirst, h⟩ := bind_ok h
  obtain ⟨address, -, h⟩ := bind_ok h
  rw [getNextVmid_eq hfirst] at h
  cases h
  exact ⟨rfl, rfl⟩

/-- The loop stops behind a guest exactly when it meets none before. -/
theorem exists_guest_iff_shadowed :
    (∃ g ∈ i.guests, g.vmid = skipTaken i.taken i.taken.length i.first) ↔ i.Shadowed := by
  have hmem := skipTaken_not_mem i.taken i.first
  constructor
  · rintro ⟨g, hg, heq⟩
    refine ⟨g, hg, ?_, ?_, ?_⟩
    · rw [heq]
      exact le_skipTaken _ _
    · rwa [heq]
    · intro k hle hlt
      rw [heq] at hlt
      exact mem_of_lt_skipTaken hle hlt
  · rintro ⟨g, hg, hle, hnot, hrun⟩
    refine ⟨g, hg, ?_⟩
    rcases Nat.lt_trichotomy g.vmid (skipTaken i.taken i.taken.length i.first) with hlt | heq | hgt
    · exact absurd (mem_of_lt_skipTaken hle hlt) hnot
    · exact heq
    · exact absurd (hrun _ (le_skipTaken _ _) hgt) hmem

/-- The creation begins with the call to the node. -/
theorem mem_run_createContainer (env : Environment engine) (h : List EngineCall)
    (job : InstallJob) (node : String) (vmid : Vmid) :
    EngineCall.remote (.createContainer node vmid job) ∈
      (Proc.run env h (createContainer job node vmid)).1 := by
  have hpre : h ++ [EngineCall.remote (.createContainer node vmid job)] <+:
      (Proc.run env h (createContainer job node vmid)).1 := by
    change _ <+: (Proc.run env (h ++ [_]) _).1
    exact Proc.prefix_run env _ _
  exact hpre.subset (List.mem_append_right h (List.mem_singleton_self _))

/-- The node says of a number that no guest has that there is no container. -/
theorem run_alreadyExists {env : Environment engine} (henv : Truthful i.guests env)
    (job : InstallJob) {vmid : Vmid} (hfree : ∀ g ∈ i.guests, g.vmid ≠ vmid)
    (h : List EngineCall) (node : String) :
    (Proc.run env h (alreadyExists job node vmid)).2 = .ok false := by
  unfold alreadyExists
  split
  · have habsent : ¬∃ g ∈ i.guests, g.vmid = vmid ∧ g.vmType = .lxc ∧ g.node = node := by
      rintro ⟨g, hg, heq, -⟩
      exact hfree g hg heq
    rw [Proc.run_tryCatch, remote, Proc.run_ask_bind, henv, decide_eq_false habsent]
    rfl
  · rfl

/-- A container with a number that no guest has is created. -/
theorem creates_of_free {job : InstallJob}
    (hfree : ∀ vmid, job.vmid = some vmid → ∀ g ∈ i.guests, g.vmid ≠ vmid) : i.Creates job := by
  intro vmid hvmid env henv node
  have hnone := run_alreadyExists henv job (hfree vmid hvmid) [] node
  unfold prepareContainer
  rw [Proc.run_bind]
  rcases hrun : Proc.run env [] (alreadyExists job node vmid) with ⟨h', r⟩
  rw [hrun] at hnone
  rw [show r = .ok false from hnone]
  exact mem_run_createContainer env h' job node vmid

/-- The number of a new app is free and its container is a new one exactly when no guest
without an app row stands behind the numbers the loop passes. -/
theorem fresh_iff (i : Installation) {ia : InstalledApp} {job : InstallJob}
    (h : install i.site i.request = .ok (ia, job)) :
    (i.Fresh ia ∧ i.Creates job) ↔ ¬i.Shadowed := by
  obtain ⟨hvmid, hjob⟩ := vmid_of_install h
  rw [← exists_guest_iff_shadowed]
  constructor
  · rintro ⟨⟨vmid, hia, hfree, -⟩, -⟩ ⟨g, hg, heq⟩
    rw [hvmid] at hia
    cases hia
    exact hfree g hg heq
  · intro hno
    have hfree : ∀ g ∈ i.guests, g.vmid ≠ skipTaken i.taken i.taken.length i.first :=
      fun g hg heq => hno ⟨g, hg, heq⟩
    refine ⟨⟨_, hvmid, hfree, ?_⟩, ?_⟩
    · intro row hrow hserver heq
      exact skipTaken_not_mem i.taken i.first (mem_taken.mpr ⟨row, hrow, hserver, heq⟩)
    · refine creates_of_free fun vmid hv => ?_
      rw [hjob, hvmid] at hv
      cases hv
      exact hfree

end Installation

/-! ### Two installations of one app -/

namespace Shop

/-- The catalog entry of a wiki. -/
def wiki : CatalogApp where
  appId := "wiki"
  source := some "runtipi"
  version := some "1.0"
  tipiVersion := some 1
  port := some 80
  composeYaml := some "services:"
  dataFiles := []
  available := true

/-- A blog whose installation has not created its container yet. -/
def blog : InstalledApp where
  id := 1
  appId := some "blog"
  serverId := some 1
  vmid := some 100
  node := some "pve"
  name := "blog"
  versionInstalled := none
  tipiVersionInstalled := none
  envEncrypted := none
  ip := none
  port := some 80
  status := .installing
  updateAvailable := false
  lastSnapshot := none
  installParams := none
  snapshotVersion := none
  snapshotTipiVersion := none
  ownerId := some 1

/-- A site with the row of the blog, where Proxmox answers with `first`. -/
def site (first : Vmid) : Site where
  catalog := ⟨[wiki], by decide⟩
  installed := ⟨[blog], by decide⟩
  nextId := 2
  id_fresh := by decide
  setting := fun _ => none
  goldenDefault := some "local:vztmpl/golden.tar.zst"
  hasServer := fun serverId => decide (serverId = 1)
  buildEnv := fun _ answers => .ok answers
  nextid := fun _ => some first
  usedVmids := fun _ => []
  allocateIpam := fun _ => .error "-"

/-- A wiki on the node of the blog. -/
def request : InstallRequest where
  appId := "wiki"
  name := "wiki"
  formAnswers := []
  serverId := 1
  node := some "pve"
  cores := 2
  memory := 2048
  disk := 8
  storage := "local-lvm"
  bridge := "vmbr0"
  ostemplate := none
  port := none
  ipamNetworkId := none
  userId := 1

/-- The container of the blog is there, and Proxmox answers with the number behind it. -/
def settled : Installation where
  site := site 101
  request := request
  guests := [⟨100, .lxc, "pve"⟩]
  base := 100
  base_pos := by decide
  first := 101
  answered := rfl
  nextid :=
    { le := by decide
      free := by decide
      least := fun k hle hlt => ⟨_, List.mem_singleton_self _, by
        have h : k = 100 := by omega
        exact h.symm⟩ }

/-- The container of the blog is still missing, and another one has the next number. -/
def hurried : Installation where
  site := site 100
  request := request
  guests := [⟨101, .lxc, "pve"⟩]
  base := 100
  base_pos := by decide
  first := 100
  answered := rfl
  nextid :=
    { le := by decide
      free := by decide
      least := fun k hle hlt => by omega }

/-- The wiki gets a container of its own when the container of the blog is there. -/
theorem settled_fresh :
    ∃ ia job, install settled.site settled.request = .ok (ia, job) ∧
      settled.Fresh ia ∧ settled.Creates job := by
  refine ⟨_, _, rfl, (Installation.fresh_iff settled rfl).mpr ?_⟩
  rintro ⟨g, hg, hle, -⟩
  rw [List.mem_singleton.mp hg] at hle
  exact absurd hle (by decide)

/-- The wiki is installed into a container that is there while the one of the blog is not. -/
theorem hurried_not_fresh :
    ¬∀ (i : Installation) (ia : InstalledApp) (job : InstallJob),
      install i.site i.request = .ok (ia, job) → i.Fresh ia ∧ i.Creates job := by
  intro h
  obtain ⟨⟨vmid, hvmid, hfree, -⟩, -⟩ := h hurried _ _ rfl
  cases hvmid
  exact hfree _ (List.mem_singleton_self _) rfl

end Shop

end PveManager.Apps
