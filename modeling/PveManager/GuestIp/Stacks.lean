import PveManager.GuestIp.Run

/-!
# What the network stacks store

For each way of keeping the addresses over a reboot, what a lookup reads in the files
afterwards.
-/

namespace PveManager.GuestIp

open PveManager.Core

variable {files : Files} {iface : String} {addresses : List Cidr}

/-! ### ifupdown -/

theorem find?_sourced_of_ne {p : Path} (hp : p ≠ .interfaces) :
    (sourced files).find? p = files.find? p := by
  unfold sourced
  cases hf : files.find? .interfaces with
  | none => rfl
  | some f =>
    dsimp only
    split
    · rfl
    · have hpath : f.path = .interfaces := files.key_of_find? hf
      rw [KeyedTable.find?_save, if_neg]
      exact fun h => hp (h.symm.trans hpath)

/-- The interfaces file only grows. -/
theorem find?_sourced_interfaces {f : File} (hf : files.find? .interfaces = some f) :
    ∃ f', (sourced files).find? .interfaces = some f' ∧ f'.ours = f.ours ∧ f.lines <+: f'.lines := by
  unfold sourced
  rw [hf]
  dsimp only
  split
  · exact ⟨f, hf, rfl, List.prefix_refl _⟩
  · refine ⟨{ f with lines := f.lines ++ ["source /etc/network/interfaces.d/*"] }, ?_, rfl,
      List.prefix_append _ _⟩
    rw [KeyedTable.find?_save, if_pos (files.key_of_find? hf)]

theorem find?_persistIfupdown (p : Path) : (persistIfupdown files iface addresses).find? p =
    if p = .ifup iface then
      if addresses = [] then none else some ⟨.ifup iface, ifupLines iface addresses, true⟩
    else (sourced files).find? p := by
  unfold persistIfupdown
  by_cases hnil : addresses = []
  · rw [if_pos hnil, if_pos hnil, KeyedTable.find?_erase]
  · rw [if_neg hnil, if_neg hnil, KeyedTable.find?_save]
    simp only [eq_comm]

/-! ### netplan -/

theorem find?_persistNetplan (p : Path) : (persistNetplan files iface addresses).find? p =
    if p = .netplan then
      if addresses = [] then none else some ⟨.netplan, netplanLines iface addresses, true⟩
    else files.find? p := by
  unfold persistNetplan
  by_cases hnil : addresses = []
  · rw [if_pos hnil, if_pos hnil, KeyedTable.find?_erase]
  · rw [if_neg hnil, if_neg hnil, KeyedTable.find?_save]
    simp only [eq_comm]

/-! ### sysconfig -/

/-- A file is one of the new alias files, or an old file that is not removed. -/
theorem find?_persistSysconfig (files : Files) (iface : String) (addresses : List Cidr) (p : Path) :
    (∃ x ∈ numbered addresses, Path.ifcfg (aliasName iface x.2) = p ∧
      (persistSysconfig files iface addresses).find? p = some (ifcfgFile iface x.1 x.2)) ∨
    (∀ x ∈ numbered addresses, Path.ifcfg (aliasName iface x.2) ≠ p) ∧
      (persistSysconfig files iface addresses).find? p =
        (files.find? p).filter fun f => !(f.path.isAliasOf iface && f.marked) := by
  have h := KeyedTable.find?_foldl_save (fun x : Cidr × Nat => ifcfgFile iface x.1 x.2)
    (numbered addresses) (files.filter fun f => !(f.path.isAliasOf iface && f.marked)) p
  rwa [KeyedTable.find?_filter] at h

/-! ### The unit -/

theorem find?_persistUnit (g : Guest) (p : Path) : (persistUnit g).files.find? p =
    if g.systemd = true ∧ (p = .helper ∨ p = .unit) then
      if g.remaining = true then
        if p = .unit then some ⟨.unit, unitLines, true⟩ else some ⟨.helper, helperLines, true⟩
      else none
    else g.files.find? p := by
  unfold persistUnit
  cases hsystemd : g.systemd with
  | false => simp
  | true =>
    cases hremaining : g.remaining with
    | true =>
      simp only [if_true, KeyedTable.find?_save, true_and]
      by_cases hunit : p = .unit
      · simp [hunit]
      · by_cases hhelper : p = .helper
        · simp [hhelper]
        · simp [hunit, hhelper, eq_comm]
    | false =>
      simp only [if_true, KeyedTable.find?_erase, true_and, Bool.false_eq_true, if_false]
      by_cases hhelper : p = .helper
      · simp [hhelper]
      · by_cases hunit : p = .unit
        · simp [hunit]
        · simp [hunit, hhelper]

/-! ### The stack of a run -/

section Run

variable {w : Refusals} {g : Guest}

/-- The loops write no file and edit no connection. -/
theorem syncLink_eq (w : Refusals) (g : Guest) (iface : String) (addresses : List Cidr) :
    ∃ links added, (syncLink w g iface addresses).2 = { g with links := links, added := added } := by
  cases hlink : g.links.find? iface with
  | none => exact ⟨g.links, g.added, by rw [syncLink_of_none hlink]⟩
  | some link => exact ⟨_, _, by rw [syncLink_of_link hlink]⟩

theorem listed_eq (w : Refusals) (g : Guest) (iface : String) (addresses : List Cidr) :
    ∃ links added, g.listed w iface addresses = { g with
      links := links
      added := added
      states := g.states.save ⟨iface, addresses⟩ } := by
  obtain ⟨links, added, he⟩ := syncLink_eq w g iface addresses
  exact ⟨links, added, by rw [Guest.listed, he]⟩

theorem files_listed : (g.listed w iface addresses).files = g.files := by
  obtain ⟨links, added, he⟩ := listed_eq w g iface addresses
  rw [he]

theorem connections_listed : (g.listed w iface addresses).connections = g.connections := by
  obtain ⟨links, added, he⟩ := listed_eq w g iface addresses
  rw [he]

theorem systemd_listed : (g.listed w iface addresses).systemd = g.systemd := by
  obtain ⟨links, added, he⟩ := listed_eq w g iface addresses
  rw [he, Guest.systemd, Guest.systemd]

/-- The loops do not change what the recognition of the stack looks at. -/
theorem connectionOf_syncLink (other : String) :
    (syncLink w g iface addresses).2.connectionOf other = g.connectionOf other := by
  cases hlink : g.links.find? iface with
  | none => rw [syncLink_of_none hlink]
  | some link =>
    obtain ⟨entries, he⟩ := synced_eq g w addresses link
    rw [syncLink_of_link hlink, Guest.connectionOf, Guest.connectionOf, KeyedTable.find?_save, he]
    by_cases hother : link.name = other
    · have hsame : g.links.find? other = some link := by
        rw [← hother, g.links.key_of_find? hlink]
        exact hlink
      simp [hother, hsame]
    · simp [hother]

theorem stack_listed (other : String) :
    (g.listed w iface addresses).stack other = g.stack other := by
  have hconnection : (g.listed w iface addresses).connectionOf other = g.connectionOf other :=
    connectionOf_syncLink other
  obtain ⟨links, added, he⟩ := listed_eq w g iface addresses
  unfold Guest.stack
  rw [hconnection, he]

theorem systemd_persistNative (g : Guest) (prev : List Cidr) :
    (persistNative g iface prev addresses).systemd = g.systemd := by
  obtain ⟨files, connections, he⟩ := persistNative_eq g iface prev addresses
  rw [he, Guest.systemd, Guest.systemd]

theorem enabled_persistNative_listed {prev : List Cidr} :
    (persistNative (g.listed w iface addresses) iface prev addresses).enabled = g.enabled := by
  obtain ⟨files, connections, hnative⟩ :=
    persistNative_eq (g.listed w iface addresses) iface prev addresses
  obtain ⟨links, added, he⟩ := listed_eq w g iface addresses
  rw [hnative, he]

/-- A run that does not complete writes no file and edits no connection. -/
theorem syncAliases_of_not_eq (h : ¬Completes w g iface addresses) :
    ∃ links added, (syncAliases w g iface addresses).guest =
      { g with links := links, added := added } := by
  rw [(syncAliases_of_not h).2]
  split
  · exact ⟨g.links, g.added, rfl⟩
  · exact syncLink_eq w g iface addresses

theorem files_syncAliases_of_not (h : ¬Completes w g iface addresses) :
    (syncAliases w g iface addresses).guest.files = g.files := by
  obtain ⟨links, added, he⟩ := syncAliases_of_not_eq h
  rw [he]

/-- No run changes which connection a device has. -/
theorem connectionOf_syncAliases (other : String) :
    (syncAliases w g iface addresses).guest.connectionOf other = g.connectionOf other := by
  by_cases hname : iface = ""
  · rw [(syncAliases_of_not fun h => h.1 hname).2, if_pos hname]
  · rw [Guest.connectionOf, links_syncAliases hname]
    exact connectionOf_syncLink other

end Run

end PveManager.GuestIp
