import PveManager.Core.Listed
import PveManager.Ipam.MainAddress
import PveManager.Ipam.Ownership
import PveManager.Sync.Upsert

/-!
# The readers of the main address

Three places look for the main address of a guest: the address service sorts the
rows of the guest, the cache worker goes through all rows and keeps the first one
unless a flagged one follows, and the topology page keeps the last one. The queries
have no order, so each reader may see the rows in another one.
-/

namespace PveManager.Ipam

open PveManager.Core PveManager.Sync

/-- `find_allocation_by_resource`. -/
def findAllocationByResource (ipam : Ipam) (sid : ServerId) (vmid : Vmid) : Option IPAMAllocation :=
  (ipam.findAllocationsByResource sid vmid).head?

/-- The guest of a row in the lookups; a missing number is none, and so is a zero. -/
def guestKey (a : IPAMAllocation) : Option (ServerId × Vmid) :=
  match a.proxmoxServerId, a.proxmoxVmid with
  | some sid, some vmid => if sid ≠ 0 ∧ vmid ≠ 0 then some (sid, vmid) else none
  | _, _ => none

/-- A row replaces none, and a flagged row replaces one without the flag. -/
def pickMain : Option IPAMAllocation → IPAMAllocation → Option IPAMAllocation
  | none, a => some a
  | some current, a => if a.isPrimary && !current.isPrimary then some a else some current

/-- The lookup that `sync_vm_cache` builds from the active rows. -/
def cacheLookup (ipam : Ipam) : ServerId × Vmid → Option IPAMAllocation :=
  (ipam.allocations.rows.filter IPAMAllocation.active).foldl
    (fun lookup a =>
      match guestKey a with
      | none => lookup
      | some key => Function.update lookup key (pickMain (lookup key) a))
    fun _ => none

/-- The lookup of the topology page. -/
def topologyLookup (ipam : Ipam) : ServerId × Vmid → Option String :=
  (ipam.allocations.rows.filter IPAMAllocation.active).foldl
    (fun lookup a =>
      match guestKey a with
      | none => lookup
      | some key =>
        if a.ipAddress = "" then lookup else Function.update lookup key (some a.ipAddress))
    fun _ => none

/-! ### What the lookups say -/

/-- The row comes before the other one as the main address. -/
def Precedes (a b : IPAMAllocation) : Prop :=
  a.isPrimary = true ∧ b.isPrimary = false ∨ a.isPrimary = b.isPrimary ∧ a.id ≤ b.id

/-- The main address of the guest: the flagged one, or else the one with the smallest id. -/
def IsMain (ipam : Ipam) (sid : ServerId) (vmid : Vmid) (a : IPAMAllocation) : Prop :=
  a ∈ ipam.allocations.rows ∧ ownFor a sid vmid = true ∧
    ∀ b ∈ ipam.allocations.rows, ownFor b sid vmid = true → Precedes a b

section Main

variable {ipam : Ipam} {sid : ServerId} {vmid : Vmid} {a b : IPAMAllocation}

/-- The order of the service is that of the main addresses. -/
theorem precedes_iff :
    ((a.isPrimary && !b.isPrimary) ||
      (a.isPrimary == b.isPrimary && decide (a.id ≤ b.id))) = true ↔ Precedes a b := by
  simp only [Precedes, Bool.or_eq_true, Bool.and_eq_true, Bool.not_eq_true', beq_iff_eq,
    decide_eq_true_eq]

theorem Precedes.total (a b : IPAMAllocation) : Precedes a b ∨ Precedes b a := by
  unfold Precedes
  cases a.isPrimary <;> cases b.isPrimary <;> simp [Nat.le_total]

theorem Precedes.trans {c : IPAMAllocation} (hab : Precedes a b) (hbc : Precedes b c) :
    Precedes a c := by
  unfold Precedes at *
  cases ha : a.isPrimary <;> cases hb : b.isPrimary <;> cases hc : c.isPrimary <;>
    simp_all <;> omega

theorem Precedes.antisymm (hids : ipam.IdsUnique) (ha : a ∈ ipam.allocations.rows)
    (hb : b ∈ ipam.allocations.rows) (hab : Precedes a b) (hba : Precedes b a) : a = b := by
  apply hids a ha b hb
  rcases hab with ⟨hap, hbp⟩ | ⟨hp, hle⟩
  · rcases hba with ⟨-, hap'⟩ | ⟨hp', -⟩
    · rw [hap] at hap'
      cases hap'
    · rw [hap, hbp] at hp'
      cases hp'
  · rcases hba with ⟨hbp, hap⟩ | ⟨-, hle'⟩
    · rw [hap, hbp] at hp
      cases hp
    · exact Nat.le_antisymm hle hle'

theorem IsMain.unique (hids : ipam.IdsUnique) (ha : IsMain ipam sid vmid a)
    (hb : IsMain ipam sid vmid b) : a = b :=
  (ha.2.2 b hb.1 hb.2.1).antisymm hids ha.1 hb.1 (hb.2.2 a ha.1 ha.2.1)

/-- The service finds the main address. -/
theorem findAllocationByResource_eq_some_iff (hids : ipam.IdsUnique) :
    ipam.findAllocationByResource sid vmid = some a ↔ IsMain ipam sid vmid a := by
  have hfound : ∀ {a}, ipam.findAllocationByResource sid vmid = some a → IsMain ipam sid vmid a := by
    intro a h
    obtain ⟨ha, hall⟩ := rel_of_head?_insertionSort
      (fun a b => (Precedes.total a b).imp precedes_iff.mpr precedes_iff.mpr)
      (fun a b c hab hbc => precedes_iff.mpr
        ((precedes_iff.mp hab).trans (precedes_iff.mp hbc))) h
    rw [List.mem_filter] at ha
    refine ⟨ha.1, ha.2, fun b hb hown => ?_⟩
    exact precedes_iff.mp (hall b (List.mem_filter.mpr ⟨hb, hown⟩))
  constructor
  · exact hfound
  · intro hmain
    have hmem : a ∈ ipam.findAllocationsByResource sid vmid := by
      have hown := hmain.2.1
      rw [ownFor, Bool.and_eq_true] at hown
      exact (mem_findAllocationsByResource ipam sid vmid a).mpr ⟨hmain.1, hown⟩
    cases hfind : ipam.findAllocationByResource sid vmid with
    | none =>
      rw [findAllocationByResource, List.head?_eq_none_iff] at hfind
      rw [hfind] at hmem
      cases hmem
    | some b => rw [(hfound hfind).unique hids hmain]

end Main

/-! ### What the lookups find -/

section Lookups

variable {ipam : Ipam} {sid : ServerId} {vmid : Vmid} {a : IPAMAllocation}

theorem guestKey_eq_some_iff :
    guestKey a = some (sid, vmid) ↔ a.keyedTo sid vmid = true ∧ sid ≠ 0 ∧ vmid ≠ 0 := by
  unfold guestKey IPAMAllocation.keyedTo
  cases hs : a.proxmoxServerId with
  | none => simp
  | some s =>
    cases hv : a.proxmoxVmid with
    | none => simp
    | some v =>
      simp only [decide_eq_true_eq, Option.some.injEq]
      split
      · rename_i hne
        rw [Option.some.injEq, Prod.mk.injEq]
        constructor
        · rintro ⟨rfl, rfl⟩
          exact ⟨⟨rfl, rfl⟩, hne⟩
        · exact fun h => h.1
      · rename_i hne
        refine iff_of_false (by simp) ?_
        rintro ⟨⟨rfl, rfl⟩, h⟩
        exact hne h

/-- The active rows that a lookup has under a key. -/
theorem filter_guestKey (hsid : sid ≠ 0) (hvmid : vmid ≠ 0) (rows : List IPAMAllocation) :
    ((rows.filter IPAMAllocation.active).filter fun a => decide (guestKey a = some (sid, vmid))) =
      rows.filter fun a => ownFor a sid vmid := by
  rw [List.filter_filter]
  congr 1
  funext a
  rw [Bool.eq_iff_iff, ownFor]
  simp [guestKey_eq_some_iff, hsid, hvmid]

/-- Nothing is looked up under a zero. -/
theorem filter_guestKey_zero (h : ¬(sid ≠ 0 ∧ vmid ≠ 0)) (rows : List IPAMAllocation) :
    (rows.filter fun a => decide (guestKey a = some (sid, vmid))) = [] := by
  rw [List.filter_eq_nil_iff]
  intro a _
  rw [decide_eq_true_eq, guestKey_eq_some_iff]
  exact fun hk => h hk.2

theorem cacheLookup_eq_foldl : ipam.cacheLookup (sid, vmid) =
    ((ipam.allocations.rows.filter IPAMAllocation.active).filter fun a =>
      decide (guestKey a = some (sid, vmid))).foldl pickMain none := by
  refine foldl_update_apply (fun lookup a key hkey => ?_) (fun lookup a key hkey => ?_) _ _ _
  · simp [hkey]
  · cases hk : guestKey a with
    | none => rfl
    | some key' =>
      have hne : key ≠ key' := fun h => hkey (by rw [hk, h])
      exact Function.update_of_ne hne _ _

theorem topologyLookup_eq_foldl : ipam.topologyLookup (sid, vmid) =
    ((ipam.allocations.rows.filter IPAMAllocation.active).filter fun a =>
      decide (guestKey a = some (sid, vmid))).foldl
        (fun current a => if a.ipAddress = "" then current else some a.ipAddress) none := by
  refine foldl_update_apply (fun lookup a key hkey => ?_) (fun lookup a key hkey => ?_) _ _ _
  · simp only [hkey]
    split
    · rfl
    · exact Function.update_self ..
  · cases hk : guestKey a with
    | none => rfl
    | some key' =>
      have hne : key ≠ key' := fun h => hkey (by rw [hk, h])
      dsimp only
      split
      · rfl
      · exact Function.update_of_ne hne _ _

/-- The cache worker finds the first flagged row of the guest, or else the first one. -/
theorem cacheLookup_eq (hsid : sid ≠ 0) (hvmid : vmid ≠ 0) : ipam.cacheLookup (sid, vmid) =
    (ipam.allocations.rows.find? fun a => ownFor a sid vmid && a.isPrimary).or
      (ipam.allocations.rows.find? fun a => ownFor a sid vmid) := by
  rw [cacheLookup_eq_foldl, filter_guestKey hsid hvmid,
    foldl_pick IPAMAllocation.isPrimary (fun _ => rfl) (fun _ _ => rfl), List.find?_filter,
    List.head?_filter]
  simp only [Bool.decide_and, Bool.decide_eq_true]

/-- The topology page finds the last row of the guest. -/
theorem topologyLookup_eq (hsid : sid ≠ 0) (hvmid : vmid ≠ 0) :
    ipam.topologyLookup (sid, vmid) = (ipam.allocations.rows.reverse.find? fun a =>
      ownFor a sid vmid && decide (a.ipAddress ≠ "")).map IPAMAllocation.ipAddress := by
  rw [topologyLookup_eq_foldl, filter_guestKey hsid hvmid,
    foldl_last (fun a => decide (a.ipAddress ≠ "")) IPAMAllocation.ipAddress
      (fun _ a ha => if_neg (of_decide_eq_true ha)) (fun _ a ha => if_pos (by simpa using ha)),
    ← List.filter_reverse, List.find?_filter]
  simp only [Bool.decide_and, Bool.decide_eq_true]

/-- A tick of the cache worker reads its lookup under the keys of the guests. -/
theorem ipamByServerVmid_eq_cacheLookup (hsid : sid ≠ 0) (hvmid : vmid ≠ 0) :
    ipamByServerVmid ipam (sid, vmid) = ipam.cacheLookup (sid, vmid) := by
  rw [cacheLookup_eq_foldl, filter_guestKey hsid hvmid, ipamByServerVmid]
  have hrows : (ipam.allocations.rows.filter fun a => a.active && a.keyedTo sid vmid) =
      ipam.allocations.rows.filter fun a => ownFor a sid vmid :=
    List.filter_congr fun a _ => Bool.and_comm _ _
  rw [hrows]
  congr 1
  funext current a
  cases current with
  | none => rfl
  | some c => rfl

end Lookups

/-- One table as the queries of the three readers list it. -/
structure Readings where
  service : Ipam
  cache : Ipam
  topology : Ipam
  ids_unique : service.IdsUnique
  cache_perm : cache.allocations.rows.Perm service.allocations.rows
  topology_perm : topology.allocations.rows.Perm service.allocations.rows

namespace Readings

variable (r : Readings) (sid : ServerId) (vmid : Vmid)

/-- The service finds the main address, and the lookups of the cache and of the topology page say
the same. -/
def Agree : Prop :=
  (∀ a, r.service.findAllocationByResource sid vmid = some a ↔ IsMain r.service sid vmid a) ∧
    r.cache.cacheLookup (sid, vmid) = r.service.findAllocationByResource sid vmid ∧
    r.topology.topologyLookup (sid, vmid) =
      (r.service.findAllocationByResource sid vmid).map IPAMAllocation.ipAddress

/-- The cache query lists the main address before the other rows of the guest, where it is
flagged before the other flagged ones, and the topology query lists it behind all of them. -/
def Settled : Prop :=
  ∀ a, IsMain r.service sid vmid a → sid ≠ 0 ∧ vmid ≠ 0 ∧ a.ipAddress ≠ "" ∧
    (∀ b ∈ r.cache.allocations.rows, ownFor b sid vmid = true → b ≠ a →
      (a.isPrimary = true → b.isPrimary = true) → Before r.cache.allocations.rows a b) ∧
    ∀ b ∈ r.topology.allocations.rows, ownFor b sid vmid = true → b.ipAddress ≠ "" → b ≠ a →
      Before r.topology.allocations.rows b a

variable {r sid vmid} {a : IPAMAllocation}

/-- The cache worker finds the main address exactly where its query lists it first. -/
theorem cacheLookup_eq_some_iff (hsid : sid ≠ 0) (hvmid : vmid ≠ 0)
    (hmain : IsMain r.service sid vmid a) :
    r.cache.cacheLookup (sid, vmid) = some a ↔
      ∀ b ∈ r.cache.allocations.rows, ownFor b sid vmid = true → b ≠ a →
        (a.isPrimary = true → b.isPrimary = true) → Before r.cache.allocations.rows a b := by
  have hnodup : r.cache.allocations.rows.Nodup := List.Nodup.of_map _ r.cache.allocations.keys_nodup
  obtain ⟨ha, hown, hall⟩ := hmain
  have ha' : a ∈ r.cache.allocations.rows := r.cache_perm.mem_iff.mpr ha
  rw [cacheLookup_eq hsid hvmid]
  cases hp : a.isPrimary with
  | true =>
    have hfound : (r.cache.allocations.rows.find? fun b =>
        ownFor b sid vmid && b.isPrimary).isSome = true := by
      rw [List.find?_isSome]
      exact ⟨a, ha', by rw [hown, hp]; rfl⟩
    obtain ⟨c, hc⟩ := Option.isSome_iff_exists.mp hfound
    rw [hc, Option.some_or, ← hc, find?_eq_some_iff_before hnodup]
    simp only [Bool.and_eq_true, hown, hp, ha', true_and, forall_const]
    exact forall₂_congr fun b _ =>
      ⟨fun h ho hne hbp => h ⟨ho, hbp⟩ hne, fun h hob hne => h hob.1 hne hob.2⟩
  | false =>
    have hnone : (r.cache.allocations.rows.find? fun b =>
        ownFor b sid vmid && b.isPrimary) = none := by
      rw [List.find?_eq_none]
      intro b hb hob
      rw [Bool.and_eq_true] at hob
      rcases hall b (r.cache_perm.mem_iff.mp hb) hob.1 with ⟨hap, -⟩ | ⟨hab, -⟩
      · rw [hp] at hap
        cases hap
      · rw [hp, hob.2] at hab
        cases hab
    rw [hnone, Option.none_or, find?_eq_some_iff_before hnodup]
    simp [hown, ha']

/-- The topology page finds the main address exactly where its query lists it last. -/
theorem topologyLookup_eq_some_iff (hsid : sid ≠ 0) (hvmid : vmid ≠ 0)
    (hmain : IsMain r.service sid vmid a) :
    r.topology.topologyLookup (sid, vmid) = some a.ipAddress ↔ a.ipAddress ≠ "" ∧
      ∀ b ∈ r.topology.allocations.rows, ownFor b sid vmid = true → b.ipAddress ≠ "" → b ≠ a →
        Before r.topology.allocations.rows b a := by
  have hnodup : r.topology.allocations.rows.Nodup :=
    List.Nodup.of_map _ r.topology.allocations.keys_nodup
  have ha : a ∈ r.topology.allocations.rows := r.topology_perm.mem_iff.mpr hmain.1
  have hrow : ∀ found : Option IPAMAllocation, (∀ b, found = some b →
      b ∈ r.topology.allocations.rows) →
      (found.map IPAMAllocation.ipAddress = some a.ipAddress ↔ found = some a) := by
    intro found hfound
    rw [Option.map_eq_some_iff]
    constructor
    · rintro ⟨b, hb, hip⟩
      rw [hb, r.topology.allocations.eq_of_key_eq (hfound b hb) ha hip]
    · exact fun h => ⟨a, h, rfl⟩
  rw [topologyLookup_eq hsid hvmid, hrow _ fun b hb =>
    List.mem_reverse.mp (List.mem_of_find?_eq_some hb), find?_reverse_eq_some_iff_before hnodup]
  simp [hmain.2.1, ha]

/-- Nothing is looked up for a guest with a zero or without a row. -/
theorem lookups_eq_none {ipam : Ipam} (h : ¬(sid ≠ 0 ∧ vmid ≠ 0) ∨
    ∀ b ∈ ipam.allocations.rows, ownFor b sid vmid = false) :
    ipam.cacheLookup (sid, vmid) = none ∧ ipam.topologyLookup (sid, vmid) = none := by
  rw [cacheLookup_eq_foldl, topologyLookup_eq_foldl]
  have hrows : ((ipam.allocations.rows.filter IPAMAllocation.active).filter fun a =>
      decide (guestKey a = some (sid, vmid))) = [] := by
    by_cases hz : sid ≠ 0 ∧ vmid ≠ 0
    · rw [filter_guestKey hz.1 hz.2, List.filter_eq_nil_iff]
      intro b hb
      rw [(h.resolve_left (not_not_intro hz)) b hb]
      exact Bool.false_ne_true
    · exact filter_guestKey_zero hz _
  rw [hrows]
  exact ⟨rfl, rfl⟩

/-- The readers name the same main address exactly in settled orders of the rows. -/
theorem agree_iff (r : Readings) (sid : ServerId) (vmid : Vmid) :
    r.Agree sid vmid ↔ r.Settled sid vmid := by
  have hservice : ∀ a, r.service.findAllocationByResource sid vmid = some a ↔
      IsMain r.service sid vmid a := fun a => findAllocationByResource_eq_some_iff r.ids_unique
  unfold Agree Settled
  cases hfind : r.service.findAllocationByResource sid vmid with
  | none =>
    have hnone : ∀ a, ¬IsMain r.service sid vmid a := by
      intro a ha
      rw [(hservice a).mpr ha] at hfind
      cases hfind
    have hrows : ∀ b ∈ r.service.allocations.rows, ownFor b sid vmid = false := by
      intro b hb
      have hnil := List.head?_eq_none_iff.mp hfind
      have hnot : b ∉ r.service.findAllocationsByResource sid vmid := by
        rw [hnil]
        exact List.not_mem_nil
      rw [mem_findAllocationsByResource] at hnot
      simpa [ownFor, hb] using hnot
    refine iff_of_true ⟨fun a => ?_, ?_, ?_⟩ fun a ha => absurd ha (hnone a)
    · exact iff_of_false (by simp) (hnone a)
    · exact (lookups_eq_none (Or.inr fun b hb => hrows b (r.cache_perm.mem_iff.mp hb))).1
    · exact (lookups_eq_none (Or.inr fun b hb => hrows b (r.topology_perm.mem_iff.mp hb))).2
  | some a =>
    have hmain := (hservice a).mp hfind
    have hsettled : ∀ {P : IPAMAllocation → Prop},
        (∀ b, IsMain r.service sid vmid b → P b) ↔ P a := by
      intro P
      constructor
      · exact fun h => h a hmain
      · intro h b hb
        rwa [hb.unique r.ids_unique hmain]
    rw [hsettled]
    have hfirst : ∀ b, some a = some b ↔ IsMain r.service sid vmid b := by
      intro b
      rw [← hfind, hservice]
    rw [Option.map_some]
    by_cases hz : sid ≠ 0 ∧ vmid ≠ 0
    · rw [cacheLookup_eq_some_iff hz.1 hz.2 hmain, topologyLookup_eq_some_iff hz.1 hz.2 hmain]
      constructor
      · rintro ⟨-, hcache, hip, htopology⟩
        exact ⟨hz.1, hz.2, hip, hcache, htopology⟩
      · rintro ⟨-, -, hip, hcache, htopology⟩
        exact ⟨hfirst, hcache, hip, htopology⟩
    · refine iff_of_false (fun h => ?_) fun h => hz ⟨h.1, h.2.1⟩
      rw [(lookups_eq_none (Or.inl hz)).1] at h
      cases h.2.1

/-! ### A guest with an alias -/

/-- A guest with its main address and an alias, in the order of their ids. -/
def aliased : Readings :=
  let ipam : Ipam :=
    { allocations :=
        { rows :=
            [{ id := 1, networkId := 1, ipAddress := "10.0.0.5", resourceType := some "vm"
               resourceId := some 100, resourceName := some "web", proxmoxServerId := some 1
               proxmoxVmid := some 100, proxmoxNode := some "pve", status := "allocated"
               isPrimary := true },
             { id := 2, networkId := 1, ipAddress := "10.0.0.6", resourceType := some "vm"
               resourceId := some 100, resourceName := some "web", proxmoxServerId := some 1
               proxmoxVmid := some 100, proxmoxNode := some "pve", status := "allocated"
               isPrimary := false, assignmentKind := "alias" }]
          keys_nodup := by decide }
      history := [] }
  { service := ipam
    cache := ipam
    topology := ipam
    ids_unique := by
      unfold IdsUnique
      decide
    cache_perm := List.Perm.refl _
    topology_perm := List.Perm.refl _ }

/-- The topology page then shows the alias. -/
theorem aliased_not_agree :
    ¬∀ (r : Readings) (sid : ServerId) (vmid : Vmid), r.Agree sid vmid := by
  intro h
  have htopology := (h aliased 1 100).2.2
  have hshown : aliased.topology.topologyLookup (1, 100) = some "10.0.0.6" := by decide
  have hfound : (aliased.service.findAllocationByResource 1 100).map IPAMAllocation.ipAddress =
      some "10.0.0.5" := by decide
  rw [hshown, hfound] at htopology
  exact absurd htopology (by decide)

end Readings

end PveManager.Ipam
