import PveManager.Core.Run
import PveManager.Quotas.Service

/-!
# Quotas over runs

Requests and the ends of their tasks in any order. The rows that count are written when
a task ends, so what is committed is what the rows say together with what the running
tasks will add. It stays within the limits exactly as long as the requests are measured
against it.
-/

namespace PveManager.Quotas

open PveManager.Core PveManager.Owners

/-- A request to create a guest. -/
inductive Entry
  | lxc (user : User) (req : Deploy.LXCDeployRequest) (ownerId : Option UserId)
      (keyIds : List Nat)
  | iso (user : User) (req : Deploy.ISOVMCreateRequest) (ownerId : Option UserId)
  | template (user : User) (req : Deploy.VMDeployRequest) (ownerId : Option UserId)
      (keyIds : List Nat)
  | clone (user : User) (vmType : VmType) (serverId : ServerId) (vmid : Vmid) (node : String)
      (body : CloneRequest)
  | install (site : Apps.Site) (req : Apps.InstallRequest)

/-- The cached guests and the tasks that run. -/
structure Site where
  vms : Instances
  pending : List Job

/-- The tables that an access check reads. -/
def Site.db (s : Site) : Db := ⟨.empty, s.vms, ⟨.empty, []⟩⟩

/-- The task of an accepted request. -/
def submit (panel : Panel) (s : Site) : Entry → Option Job
  | .lxc user req ownerId keyIds => (deployLxc panel s.vms user req ownerId keyIds).toOption
  | .iso user req ownerId => (createVmFromIso panel s.vms user req ownerId).toOption
  | .template user req ownerId keyIds =>
    (deployTemplate panel s.vms user req ownerId keyIds).toOption
  | .clone user vmType serverId vmid node body =>
    (clone panel user s.db vmType serverId vmid node body).toOption
  | .install site req => (Apps.install site req).toOption.map fun installed => .app installed.2

/-- How a task ends: without a row, or with one for a guest at a place. -/
inductive Ending
  | failed
  | saved (p : Deploy.Place) (net : Deploy.NetConfig) (ipPrefix : Int)

/-- What happens at the panel. -/
inductive Event
  | request (e : Entry)
  /-- One of the running tasks ends. -/
  | ends (i : Nat) (ending : Ending)
  | resize (r : ResizeRequest)

/-- The rows when a task has ended. -/
def endTask (panel : Panel) (vms : Instances) (job : Job) : Ending → Instances
  | .failed => vms
  | .saved p net ipPrefix =>
    match job.saved panel p net ipPrefix with
    | none => vms
    | some args => vms.save (args.row (vms.find? args.key))

def step (panel : Panel) (s : Site) : Event → Site
  | .request e =>
    match submit panel s e with
    | none => s
    | some job => { s with pending := job :: s.pending }
  | .ends i ending =>
    match s.pending[i]? with
    | none => s
    | some job => ⟨endTask panel s.vms job ending, s.pending.eraseIdx i⟩
  | .resize r => { s with vms := resizeDisk s.vms r }

/-! ### What is committed -/

/-- What a guest takes up for a user. -/
def weight (userId : UserId) (m : Metric) (row : VMInstance) : Nat :=
  if counts userId row then amount m row else 0

/-- What the row of a task will take up. -/
def demand (panel : Panel) (userId : UserId) (m : Metric) : Job → Nat
  | .deploy sender request =>
    if sender.owner = userId then
      match request with
      | .lxc req => newGuest req.cores req.memory req.disk m
      | .iso req => newGuest req.cores req.memory req.disk m
      | .template req =>
        match panel.template req.templateId with
        | none => 0
        | some t => newGuest (Deploy.templateCores req t.toOSTemplate)
            (Deploy.templateMemory req t.toOSTemplate) (Deploy.templateDisk req t.toOSTemplate) m
    else 0
  | .clone job => if job.owner = userId then newGuest 0 0 0 m else 0
  | .app _ => 0

/-- The rows of a user together with the rows to come. -/
def committed (panel : Panel) (s : Site) (userId : UserId) (m : Metric) : Nat :=
  getUserUsage s.vms userId m + (s.pending.map (demand panel userId m)).sum

/-- Every user with a quota is within its limits. -/
def Within (panel : Panel) (s : Site) : Prop :=
  ∀ quota ∈ panel.quotas.rows, ∀ m limit, quota.limit m = some limit →
    getUserUsage s.vms quota.userId m ≤ limit

/-- The limits hold of what is committed. -/
def Covered (panel : Panel) (s : Site) : Prop :=
  ∀ quota ∈ panel.quotas.rows, ∀ m limit, quota.limit m = some limit →
    committed panel s quota.userId m ≤ limit

/-- An accepted request fits in beside what is committed already; a disk may grow by as much as
is left. -/
def Fits (panel : Panel) (s : Site) : Event → Prop
  | .request e => ∀ job, submit panel s e = some job →
    ∀ quota ∈ panel.quotas.rows, ∀ m limit, quota.limit m = some limit →
      committed panel s quota.userId m + demand panel quota.userId m job ≤ limit
  | .ends _ _ => True
  | .resize r => ∀ gb row, r.written = some gb →
    s.vms.find? (r.serverId, r.vmid) = some row →
    ∀ quota ∈ panel.quotas.rows, counts quota.userId row = true →
      ∀ limit, quota.limit .diskGb = some limit →
        committed panel s quota.userId .diskGb + gb ≤ limit + row.diskSize.getD 0

section Steps

variable {panel : Panel} {s : Site}

theorem getUserUsage_eq_total (vms : Instances) (userId : UserId) (m : Metric) :
    getUserUsage vms userId m = vms.total (weight userId m) := by
  unfold getUserUsage KeyedTable.total
  induction vms.rows with
  | nil => rfl
  | cons row rows ih =>
    by_cases h : counts userId row = true
    · rw [List.filter_cons_of_pos h, List.map_cons, List.map_cons, List.sum_cons, List.sum_cons, ih,
        weight, if_pos h]
    · rw [List.filter_cons_of_neg h, List.map_cons, List.sum_cons, ih, weight, if_neg h,
        Nat.zero_add]

/-- What the arguments of a save say about the sizes. -/
def savedAmount (m : Metric) (args : SaveArgs) : Nat :=
  newGuest (args.cores.getD 0) (args.memory.getD 0) (args.diskSize.getD 0) m

/-- A saved row has the sizes of the save. -/
theorem amount_row (args : SaveArgs) (old : Option VMInstance) (m : Metric) :
    amount m (args.row old) = savedAmount m args := by
  have hrow : (args.row old).cores = args.cores ∧ (args.row old).memory = args.memory ∧
      (args.row old).diskSize = args.diskSize := by
    cases old with
    | none => exact ⟨rfl, rfl, rfl⟩
    | some row =>
      by_cases h : row.live = true
      · rw [row_of_live h]
        exact ⟨rfl, rfl, rfl⟩
      · rw [row_of_not_live h]
        exact ⟨rfl, rfl, rfl⟩
  cases m with
  | instances => rfl
  | cores => rw [amount, hrow.1]; rfl
  | memoryMb => rw [amount, hrow.2.1]; rfl
  | diskGb => rw [amount, hrow.2.2]; rfl

/-- A task saves what it was accepted for. -/
theorem demand_of_saved {job : Job} {p : Deploy.Place} {net : Deploy.NetConfig} {ipPrefix : Int}
    {args : SaveArgs} (h : job.saved panel p net ipPrefix = some args) :
    ∃ owner, args.ownerId = some owner ∧
      ∀ userId m, demand panel userId m job = if owner = userId then savedAmount m args else 0 := by
  cases job with
  | deploy sender request =>
    cases request with
    | lxc req =>
      cases h
      exact ⟨sender.owner, rfl, fun _ _ => rfl⟩
    | iso req =>
      cases h
      exact ⟨sender.owner, rfl, fun _ _ => rfl⟩
    | template req =>
      obtain ⟨t, ht, rfl⟩ := Option.map_eq_some_iff.mp h
      refine ⟨sender.owner, rfl, fun userId m => ?_⟩
      simp only [demand, ht]
      rfl
  | clone job =>
    cases h
    exact ⟨job.owner, rfl, fun _ _ => rfl⟩
  | app job => cases h

/-- A row counts for its owner only. -/
theorem weight_row_le {args : SaveArgs} {owner : UserId} (h : args.ownerId = some owner)
    (old : Option VMInstance) (userId : UserId) (m : Metric) :
    weight userId m (args.row old) ≤ if owner = userId then savedAmount m args else 0 := by
  unfold weight
  split
  · rename_i hcounts
    have howner : (args.row old).ownerId = some userId := by
      simp only [counts, Bool.and_eq_true, decide_eq_true_eq] at hcounts
      exact hcounts.1.1
    rw [ownerId_row, h, Option.some_or] at howner
    rw [if_pos (Option.some.inj howner), amount_row]
  · exact Nat.zero_le _

/-- The end of a task adds at most what it was accepted for. -/
theorem usage_endTask_le (panel : Panel) (vms : Instances) (job : Job) (ending : Ending)
    (userId : UserId) (m : Metric) : getUserUsage (endTask panel vms job ending) userId m ≤
      getUserUsage vms userId m + demand panel userId m job := by
  cases ending with
  | failed => exact Nat.le_add_right _ _
  | saved p net ipPrefix =>
    cases hsaved : job.saved panel p net ipPrefix with
    | none =>
      rw [endTask, hsaved]
      exact Nat.le_add_right _ _
    | some args =>
      rw [endTask, hsaved]
      obtain ⟨owner, howner, hdemand⟩ := demand_of_saved hsaved
      have hsave := vms.total_save_le (args.row (vms.find? args.key)) (weight userId m)
      have hrow := weight_row_le howner (vms.find? args.key) userId m
      rw [getUserUsage_eq_total, getUserUsage_eq_total, hdemand]
      exact hsave.trans (Nat.add_le_add_left hrow _)

/-- The end of a task adds nothing to what is committed. -/
theorem committed_ends_le {i : Nat} {job : Job} (hjob : s.pending[i]? = some job) (ending : Ending)
    (userId : UserId) (m : Metric) :
    committed panel ⟨endTask panel s.vms job ending, s.pending.eraseIdx i⟩ userId m ≤
      committed panel s userId m := by
  have hsum : ((s.pending.eraseIdx i).map (demand panel userId m)).sum +
      demand panel userId m job = (s.pending.map (demand panel userId m)).sum := by
    obtain ⟨hi, rfl⟩ := List.getElem?_eq_some_iff.mp hjob
    have hperm := (List.getElem_cons_eraseIdx_perm hi).map (demand panel userId m)
    have hsum := hperm.sum_nat
    rw [List.map_cons, List.sum_cons] at hsum
    omega
  have husage := usage_endTask_le panel s.vms job ending userId m
  unfold committed
  dsimp only
  omega

/-- Growing a disk changes the disk total of the owner of the guest only. -/
theorem usage_resizeDisk {r : ResizeRequest} {gb : Nat} {row : VMInstance}
    (hgb : r.written = some gb)
    (hrow : (s.vms.find? (r.serverId, r.vmid)).filter VMInstance.live = some row)
    (userId : UserId) (m : Metric) :
    getUserUsage (resizeDisk s.vms r) userId m + weight userId m row =
      getUserUsage s.vms userId m + weight userId m { row with diskSize := some gb } := by
  obtain ⟨hfind, -⟩ := Option.filter_eq_some_iff.mp hrow
  have hkey : row.key = (r.serverId, r.vmid) := s.vms.key_of_find? hfind
  have hsave := s.vms.total_save { row with diskSize := some gb } (weight userId m)
  have hold : s.vms.find? (VMInstance.key { row with diskSize := some gb }) = some row := by
    rw [← hfind, ← hkey]
    rfl
  rw [hold] at hsave
  rw [resizeDisk, hgb, hrow, getUserUsage_eq_total, getUserUsage_eq_total]
  exact hsave

theorem weight_grown (row : VMInstance) (gb : Nat) (userId : UserId) (m : Metric) :
    weight userId m { row with diskSize := some gb } =
      if counts userId row = true ∧ m = .diskGb then gb else weight userId m row := by
  have hcounts : counts userId { row with diskSize := some gb } = counts userId row := rfl
  unfold weight
  rw [hcounts]
  cases m with
  | instances => simp [amount]
  | cores => simp [amount]
  | memoryMb => simp [amount]
  | diskGb =>
    by_cases h : counts userId row = true
    · simp [h, amount]
    · simp [h]

/-- A step that fits keeps the limits over what is committed. -/
theorem Covered.step (h : Covered panel s) {e : Event} (hfits : Fits panel s e) :
    Covered panel (Quotas.step panel s e) := by
  intro quota hquota m limit hlimit
  have hold := h quota hquota m limit hlimit
  cases e with
  | request entry =>
    cases hjob : submit panel s entry with
    | none =>
      rw [Quotas.step, hjob]
      exact hold
    | some job =>
      have hnew := hfits job hjob quota hquota m limit hlimit
      rw [Quotas.step, hjob]
      unfold committed at hnew ⊢
      simp only [List.map_cons, List.sum_cons]
      omega
  | ends i ending =>
    cases hjob : s.pending[i]? with
    | none =>
      rw [Quotas.step, hjob]
      exact hold
    | some job =>
      rw [Quotas.step, hjob]
      exact (committed_ends_le hjob ending quota.userId m).trans hold
  | resize r =>
    cases hgb : r.written with
    | none =>
      rw [Quotas.step, resizeDisk, hgb]
      exact hold
    | some gb =>
      cases hrow : (s.vms.find? (r.serverId, r.vmid)).filter VMInstance.live with
      | none =>
        rw [Quotas.step, resizeDisk, hgb, hrow]
        exact hold
      | some row =>
        have husage := usage_resizeDisk hgb hrow quota.userId m
        rw [weight_grown] at husage
        unfold committed at hold ⊢
        by_cases hdisk : counts quota.userId row = true ∧ m = .diskGb
        · rw [if_pos hdisk] at husage
          obtain ⟨hcounts, rfl⟩ := hdisk
          have hfind := (Option.filter_eq_some_iff.mp hrow).1
          have hroom := hfits gb row hgb hfind quota hquota hcounts limit hlimit
          have hweight : weight quota.userId .diskGb row = row.diskSize.getD 0 := if_pos hcounts
          unfold committed at hroom
          rw [hweight] at husage
          simp only [Quotas.step]
          omega
        · rw [if_neg hdisk] at husage
          simp only [Quotas.step]
          omega

/-- What is committed bounds what is there. -/
theorem Covered.within (h : Covered panel s) : Within panel s :=
  fun quota hquota m limit hlimit => (Nat.le_add_right _ _).trans (h quota hquota m limit hlimit)

end Steps

/-- Requests, resizes and ends of tasks at a panel where every user is within its limits and no
task is running. -/
structure Run where
  panel : Panel
  start : Site
  idle : start.pending = []
  within : Within panel start
  events : List Event

namespace Run

variable (r : Run)

theorem covered_start : Covered r.panel r.start := by
  intro quota hquota m limit hlimit
  rw [committed, r.idle]
  exact r.within quota hquota m limit hlimit

/-- A container for the user. -/
def container (name : String) : Deploy.LXCDeployRequest where
  serverId := 1
  ostemplate := "local:vztmpl/debian-13.tar.zst"
  node := some "pve"
  name := name
  vmid := none
  cores := 1
  memory := 512
  swap := 512
  disk := 8
  storage := "local-lvm"
  bridge := "vmbr0"
  ipAddress := none
  gateway := none
  ipamNetworkId := none
  ipamPoolId := none
  password := none
  sshKeys := none
  nameserver := none
  searchdomain := none
  unprivileged := true
  startAfterCreate := true
  onboot := false

/-- The panel of one user, who may have one guest. -/
def office : Panel where
  hasServer := fun _ => true
  hasUser := fun _ => true
  template := fun _ => none
  quotas := ⟨[⟨1, some 1, none, none, none⟩], by decide⟩
  deploySshKeys := fun _ _ _ _ => .ok ""

/-- A request of the user for a container. -/
def asks (name : String) : Event :=
  .request (.lxc ⟨1, "admin", true, none, []⟩ (container name) none [])

/-- The end of the first running task, with a container. -/
def builds (vmid : Vmid) : Event := .ends 0 (.saved ⟨1, "pve", vmid⟩ ⟨none, "24", none⟩ 24)

theorem within_empty : Within office ⟨.empty, []⟩ := by
  intro quota hquota m limit hlimit
  exact Nat.zero_le _

/-- Two containers are asked for before the first one is there. -/
def hasty : Run := ⟨office, ⟨.empty, []⟩, rfl, within_empty,
  [asks "web", asks "db", builds 100, builds 101]⟩

/-- One container is asked for and built. -/
def patient : Run := ⟨office, ⟨.empty, []⟩, rfl, within_empty, [asks "web", builds 100]⟩

end Run

end PveManager.Quotas
