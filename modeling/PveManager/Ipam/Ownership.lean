import PveManager.Ipam.Release

/-!
# Whose addresses a release frees

A release looks for the addresses recorded for the guest, and where it finds none
for rows without a server whose resource id is the number of the guest. A second
release in a row finds none of the first kind, so it always comes to the second.
-/

namespace PveManager.Ipam

/-- Whom an address belongs to. -/
inductive Resource
  | guest (sid : ServerId) (vmid : Vmid)
  /-- A physical machine or something else that is no guest. -/
  | other
  deriving DecidableEq, Repr

/-- The address tables with what they do not say: whose the rows without a server are. -/
structure Register where
  ipam : Ipam
  unkeyed : IPAMAllocation → Resource

/-- The guest a row is recorded for, or else what it belongs to. -/
def Register.belongs (r : Register) (a : IPAMAllocation) : Resource :=
  match a.proxmoxServerId, a.proxmoxVmid with
  | some sid, some vmid => .guest sid vmid
  | _, _ => r.unkeyed a

/-- Releases for one guest in a row, each with who releases and why. -/
def releaseAgain (ipam : Ipam) (sid : ServerId) (vmid : Vmid)
    (calls : List (Option String × Option String)) : Ipam :=
  calls.foldl (fun ipam c => (ipam.releaseIpByVmid sid vmid c.1 c.2).1) ipam

/-- An active row that is recorded for the guest. -/
def ownFor (a : IPAMAllocation) (sid : ServerId) (vmid : Vmid) : Bool :=
  a.keyedTo sid vmid && a.active

section Release

variable {ipam : Ipam} {sid : ServerId} {vmid : Vmid} {a : IPAMAllocation}

/-- The fallback is left out exactly where an active row is recorded for the guest. -/
theorem mem_releaseTargets_iff : a ∈ ipam.releaseTargets sid vmid ↔
    a ∈ ipam.allocations.rows ∧ (ownFor a sid vmid = true ∨
      legacyFor a vmid = true ∧ ∀ b ∈ ipam.allocations.rows, ownFor b sid vmid = false) := by
  have hmem : ∀ b, b ∈ ipam.findAllocationsByResource sid vmid ↔
      b ∈ ipam.allocations.rows ∧ ownFor b sid vmid = true := by
    intro b
    rw [mem_findAllocationsByResource, ownFor, Bool.and_eq_true]
  unfold releaseTargets
  split
  · rename_i hnil
    have hnone : ∀ b ∈ ipam.allocations.rows, ownFor b sid vmid = false := by
      intro b hb
      have hnot := mt (hmem b).mpr (by rw [hnil]; exact List.not_mem_nil)
      simpa [hb] using hnot
    rw [List.mem_filter]
    refine and_congr_right fun ha => ?_
    rw [hnone a ha]
    simp only [Bool.false_eq_true, false_or]
    exact (and_iff_left hnone).symm
  · rename_i htargets
    obtain ⟨b, hb⟩ := List.exists_mem_of_ne_nil _ htargets
    obtain ⟨hbrows, hbown⟩ := (hmem b).mp hb
    rw [hmem]
    refine and_congr_right fun _ => ?_
    constructor
    · exact Or.inl
    · rintro (hown | ⟨-, hnone⟩)
      · exact hown
      · rw [hnone b hbrows] at hbown
        cases hbown

/-- A row that was released was recorded for the guest or is a row without a server. -/
theorem mem_releaseAgain_of_not {calls : List (Option String × Option String)}
    (ha : a ∈ ipam.allocations.rows) (hown : ownFor a sid vmid = false)
    (hlegacy : legacyFor a vmid = false) :
    a ∈ (ipam.releaseAgain sid vmid calls).allocations.rows := by
  induction calls generalizing ipam with
  | nil => exact ha
  | cons c calls ih =>
    refine ih ((mem_releaseIpByVmid ipam sid vmid c.1 c.2 a).mpr ⟨ha, fun ht => ?_⟩)
    rcases (mem_releaseTargets_iff.mp ht).2 with h | ⟨h, -⟩
    · rw [hown] at h
      cases h
    · rw [hlegacy] at h
      cases h

/-- A release brings no row back. -/
theorem mem_of_mem_releaseAgain {calls : List (Option String × Option String)}
    (ha : a ∈ (ipam.releaseAgain sid vmid calls).allocations.rows) :
    a ∈ ipam.allocations.rows := by
  induction calls generalizing ipam with
  | nil => exact ha
  | cons c calls ih => exact ((mem_releaseIpByVmid ipam sid vmid c.1 c.2 a).mp (ih ha)).1

/-- The releases come to the rows without a server: nothing is recorded for the guest, or a
second release follows the one that freed it. -/
def Falls (ipam : Ipam) (sid : ServerId) (vmid : Vmid)
    (calls : List (Option String × Option String)) : Prop :=
  2 ≤ calls.length ∨ 1 ≤ calls.length ∧ ∀ b ∈ ipam.allocations.rows, ownFor b sid vmid = false

/-- Nothing is recorded for the guest behind a release. -/
theorem not_own_of_released {releasedBy reason : Option String} :
    ∀ b ∈ (ipam.releaseIpByVmid sid vmid releasedBy reason).1.allocations.rows,
      ownFor b sid vmid = false := by
  intro b hb
  obtain ⟨hrows, hnot⟩ := (mem_releaseIpByVmid ipam sid vmid releasedBy reason b).mp hb
  by_contra hown
  exact hnot (mem_releaseTargets_iff.mpr ⟨hrows, Or.inl (by simpa using hown)⟩)

/-- The first release frees the rows without a server where nothing is recorded for the guest. -/
theorem not_mem_of_first {c : Option String × Option String}
    {calls : List (Option String × Option String)} (hlegacy : legacyFor a vmid = true)
    (hnone : ∀ b ∈ ipam.allocations.rows, ownFor b sid vmid = false) :
    a ∉ (ipam.releaseAgain sid vmid (c :: calls)).allocations.rows := by
  intro h
  have hfirst : a ∈ (ipam.releaseIpByVmid sid vmid c.1 c.2).1.allocations.rows :=
    mem_of_mem_releaseAgain h
  obtain ⟨hrows, hnot⟩ := (mem_releaseIpByVmid ipam sid vmid c.1 c.2 a).mp hfirst
  exact hnot (mem_releaseTargets_iff.mpr ⟨hrows, Or.inr ⟨hlegacy, hnone⟩⟩)

/-- Releases that come to the rows without a server leave none of the number. -/
theorem not_mem_of_falls {calls : List (Option String × Option String)}
    (h : Falls ipam sid vmid calls) (hlegacy : legacyFor a vmid = true) :
    a ∉ (ipam.releaseAgain sid vmid calls).allocations.rows := by
  cases calls with
  | nil => simp [Falls] at h
  | cons c calls =>
    rcases h with htwo | ⟨-, hnone⟩
    · cases calls with
      | nil => simp at htwo
      | cons d calls =>
        change a ∉ ((ipam.releaseIpByVmid sid vmid c.1 c.2).1.releaseAgain sid vmid
          (d :: calls)).allocations.rows
        exact not_mem_of_first hlegacy not_own_of_released
    · exact not_mem_of_first hlegacy hnone

theorem not_legacyFor_of_own (hown : ownFor a sid vmid = true) : legacyFor a vmid = false := by
  simp only [ownFor, IPAMAllocation.keyedTo, Bool.and_eq_true, decide_eq_true_eq] at hown
  simp [legacyFor, hown.1.1]

/-- A row without a server that is gone shows that the releases came to such rows. -/
theorem falls_of_not_mem {calls : List (Option String × Option String)}
    (ha : a ∈ ipam.allocations.rows) (hlegacy : legacyFor a vmid = true)
    (hgone : a ∉ (ipam.releaseAgain sid vmid calls).allocations.rows) :
    Falls ipam sid vmid calls := by
  cases calls with
  | nil => exact absurd ha hgone
  | cons c calls =>
    cases calls with
    | cons d calls => exact Or.inl (Nat.le_add_left 2 calls.length)
    | nil =>
      refine Or.inr ⟨le_rfl, ?_⟩
      have htarget : a ∈ ipam.releaseTargets sid vmid := by
        by_contra hnot
        exact hgone ((mem_releaseIpByVmid ipam sid vmid c.1 c.2 a).mpr ⟨ha, hnot⟩)
      rcases (mem_releaseTargets_iff.mp htarget).2 with hown | ⟨-, hnone⟩
      · rw [not_legacyFor_of_own hown] at hlegacy
        cases hlegacy
      · exact hnone

end Release

/-- A row recorded for a guest belongs to it. -/
theorem Register.belongs_of_own (r : Register) {sid : ServerId} {vmid : Vmid} {a : IPAMAllocation}
    (hown : ownFor a sid vmid = true) : r.belongs a = .guest sid vmid := by
  simp only [ownFor, IPAMAllocation.keyedTo, Bool.and_eq_true, decide_eq_true_eq] at hown
  simp only [Register.belongs, hown.1.1, hown.1.2]

/-- Releases for a guest free its own rows only exactly when they do not come to the rows
without a server, or all of these of its number are its own. -/
theorem released_own_iff (r : Register) (sid : ServerId) (vmid : Vmid)
    (calls : List (Option String × Option String)) :
    (∀ a ∈ r.ipam.allocations.rows,
        a ∉ (r.ipam.releaseAgain sid vmid calls).allocations.rows → r.belongs a = .guest sid vmid) ↔
      (Falls r.ipam sid vmid calls → ∀ a ∈ r.ipam.allocations.rows,
        legacyFor a vmid = true → r.belongs a = .guest sid vmid) := by
  constructor
  · intro h hfalls a ha hlegacy
    exact h a ha (not_mem_of_falls hfalls hlegacy)
  · intro h a ha hgone
    by_cases hown : ownFor a sid vmid = true
    · exact r.belongs_of_own hown
    · by_cases hlegacy : legacyFor a vmid = true
      · exact h (falls_of_not_mem ha hlegacy hgone) a ha hlegacy
      · rw [Bool.not_eq_true] at hown hlegacy
        exact absurd (mem_releaseAgain_of_not ha hown hlegacy) hgone

/-! ### A guest with the number of a machine -/

/-- A guest with the number 100 and the hundredth machine, each with an address. -/
def hundred : Register where
  ipam :=
    { allocations :=
        { rows :=
            [{ id := 1, networkId := 1, ipAddress := "10.0.0.5", resourceType := some "vm"
               resourceId := some 100, resourceName := some "web", proxmoxServerId := some 1
               proxmoxVmid := some 100, proxmoxNode := some "pve", status := "allocated"
               isPrimary := true },
             { id := 2, networkId := 1, ipAddress := "10.0.0.6", resourceType := some "physical"
               resourceId := some 100, resourceName := some "printer", proxmoxServerId := none
               proxmoxVmid := none, proxmoxNode := none, status := "allocated"
               isPrimary := false }]
          keys_nodup := by decide }
      history := [] }
  unkeyed := fun _ => .other

/-- Deleting the guest frees the address of the machine with the second release. -/
theorem hundred_not_own : ¬∀ (r : Register) (sid : ServerId) (vmid : Vmid)
    (calls : List (Option String × Option String)), ∀ a ∈ r.ipam.allocations.rows,
      a ∉ (r.ipam.releaseAgain sid vmid calls).allocations.rows →
        r.belongs a = .guest sid vmid := by
  intro h
  have hrows : (hundred.ipam.releaseAgain 1 100 [(some "system", none), (some "admin", none)]
      ).allocations.rows = [] := by
    decide
  have hmachine := h hundred 1 100 [(some "system", none), (some "admin", none)]
    _ (List.mem_cons_of_mem _ List.mem_cons_self) (by rw [hrows]; exact List.not_mem_nil)
  exact absurd hmachine (by decide)

end PveManager.Ipam
