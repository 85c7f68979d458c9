import PveManager.Core.Run
import PveManager.GuestIp.Stacks

/-!
# What is set up by hand

The script should remove no address that it never added and replace no file that it did
not write. It takes the addresses of its state file for its own, and the list it was
asked for goes there whether an address was added or found; the files it takes for its
own by their names.
-/

namespace PveManager.GuestIp

open PveManager.Core

/-- The file is still there and still the administrator's; something may stand after its
lines. -/
def StillThere (f : File) (o : Option File) : Prop :=
  ∃ f', o = some f' ∧ f'.ours = false ∧ f.lines <+: f'.lines

/-- A run leaves the addresses that the script never added and the files that it did not
write. -/
def Spares (g : Guest) : Event → Prop
  | .sync w iface addresses =>
    let after := (syncAliases w g iface addresses).guest
    (∀ other link, g.links.find? other = some link → ∀ e ∈ link.entries,
      (other, e.cidr) ∉ g.added →
        ∃ link', after.links.find? other = some link' ∧ e ∈ link'.entries) ∧
    ∀ f ∈ g.files.rows, f.ours = false → StillThere f (after.files.find? f.path)
  | _ => True

/-- The run writes the file anew or deletes it. -/
def Replaces (g : Guest) (iface : String) (addresses : List Cidr) (f : File) : Prop :=
  (match g.stack iface with
    | .none | .nm _ => False
    | .ifupdown => f.path = .ifup iface
    | .netplan => f.path = .netplan
    | .sysconfig => f.path.isAliasOf iface = true ∧ f.marked = true ∨
        ∃ x ∈ numbered addresses, f.path = .ifcfg (aliasName iface x.2)) ∨
  g.systemd = true ∧ (f.path = .helper ∨ f.path = .unit)

/-- No address that the script never added is listed, not asked for any more and there to
be removed; and no file of the administrator stands where the run writes. -/
def Careful (g : Guest) : Event → Prop
  | .sync w iface addresses =>
    (iface ≠ "" → ∀ link, g.links.find? iface = some link → ∀ e ∈ link.entries,
      (iface, e.cidr) ∉ g.added → e.cidr ∈ g.prev iface → e.cidr ∉ addresses →
        w.del e.cidr = true) ∧
    (Completes w g iface addresses → ∀ f ∈ g.files.rows, f.ours = false →
      ¬Replaces g iface addresses f)
  | _ => True

section Run

variable {w : Refusals} {g : Guest} {iface : String} {addresses : List Cidr} {link : Interface}

/-! ### Addresses -/

/-- After the loops an address is one that was left, or one that was asked for. -/
theorem mem_entries_synced {e : Entry} (h : e ∈ (g.synced w addresses link).entries) :
    e ∈ (g.cleared w addresses link).entries ∨ e.cidr ∈ addresses := by
  rw [Guest.synced] at h
  rcases goesThrough_or_stopsAt w (g.cleared w addresses link) addresses with
    hgo | ⟨before, a, after, rfl, hstop⟩
  · rw [addMissing_of_goesThrough hgo] at h
    exact mem_entries_foldl_raise h
  · rw [addMissing_of_stopsAt hstop] at h
    exact (mem_entries_foldl_raise h).imp_right (List.mem_append_left _)

theorem mem_synced_of_mem_cleared {e : Entry} (h : e ∈ (g.cleared w addresses link).entries) :
    e ∈ (g.synced w addresses link).entries := by
  rw [Guest.synced]
  rcases goesThrough_or_stopsAt w (g.cleared w addresses link) addresses with
    hgo | ⟨before, a, after, rfl, hstop⟩
  · rw [addMissing_of_goesThrough hgo]
    exact mem_foldl_raise_of_mem h
  · rw [addMissing_of_stopsAt hstop]
    exact mem_foldl_raise_of_mem h

/-- An address of the interface stays unless the run drops it and succeeds. -/
theorem mem_synced_iff {e : Entry} (hmem : e ∈ link.entries) :
    e ∈ (g.synced w addresses link).entries ↔
      (e.cidr ∈ g.prev link.name → e.cidr ∉ addresses → w.del e.cidr = true) := by
  constructor
  · intro h hprev hnot
    rcases mem_entries_synced h with h | h
    · exact (mem_entries_removeDropped_iff.mp h).2 hprev hnot
    · exact absurd h hnot
  · exact fun h => mem_synced_of_mem_cleared (mem_entries_removeDropped_iff.mpr ⟨hmem, h⟩)

/-- The addresses that a run leaves on all devices. -/
theorem addresses_spared_iff (w : Refusals) (g : Guest) (iface : String) (addresses : List Cidr) :
    (∀ other link, g.links.find? other = some link → ∀ e ∈ link.entries,
      (other, e.cidr) ∉ g.added →
        ∃ link', (syncAliases w g iface addresses).guest.links.find? other = some link' ∧
          e ∈ link'.entries) ↔
    (iface ≠ "" → ∀ link, g.links.find? iface = some link → ∀ e ∈ link.entries,
      (iface, e.cidr) ∉ g.added → e.cidr ∈ g.prev iface → e.cidr ∉ addresses →
        w.del e.cidr = true) := by
  constructor
  · intro h hname link hlink e he hforeign
    obtain ⟨link', hlink', he'⟩ := h iface link hlink e he hforeign
    rw [find?_links_syncAliases hname hlink] at hlink'
    cases hlink'
    have hkept := (mem_synced_iff he).mp he'
    rwa [g.links.key_of_find? hlink] at hkept
  · intro h other link hlink e he hforeign
    by_cases hother : other = iface
    · subst hother
      by_cases hname : other = ""
      · refine ⟨link, ?_, he⟩
        rw [(syncAliases_of_not fun hdone => hdone.1 hname).2, if_pos hname, hlink]
      · refine ⟨_, find?_links_syncAliases hname hlink, (mem_synced_iff he).mpr ?_⟩
        rw [g.links.key_of_find? hlink]
        exact h hname link hlink e he hforeign
    · exact ⟨link, (find?_links_syncAliases_of_ne hother).trans hlink, he⟩

/-! ### Files -/

theorem stillThere_self {f : File} (hours : f.ours = false) : StillThere f (some f) :=
  ⟨f, rfl, hours, List.prefix_refl _⟩

theorem not_stillThere_none {f : File} : ¬StillThere f none := by
  rintro ⟨f', h, -, -⟩
  cases h

/-- What the script has written is not the administrator's any more. -/
theorem not_stillThere_ours {f f' : File} (hours : f'.ours = true) : ¬StillThere f (some f') := by
  rintro ⟨f'', h, hnot, -⟩
  cases h
  rw [hours] at hnot
  cases hnot

theorem stillThere_sourced {files : Files} {f : File} (hf : files.find? f.path = some f)
    (hours : f.ours = false) : StillThere f ((sourced files).find? f.path) := by
  by_cases hpath : f.path = .interfaces
  · obtain ⟨f', hf', hours', hlines⟩ := find?_sourced_interfaces (hpath ▸ hf)
    exact ⟨f', hpath ▸ hf', hours'.trans hours, hlines⟩
  · rw [find?_sourced_of_ne hpath, hf]
    exact stillThere_self hours

/-- The native stack leaves a file that it does not replace. -/
theorem stillThere_persistNative_iff {f : File} (iface : String) (addresses prev : List Cidr)
    (hf : g.files.find? f.path = some f) (hours : f.ours = false) :
    StillThere f ((persistNative g iface prev addresses).files.find? f.path) ↔
      ¬(match g.stack iface with
        | .none | .nm _ => False
        | .ifupdown => f.path = .ifup iface
        | .netplan => f.path = .netplan
        | .sysconfig => f.path.isAliasOf iface = true ∧ f.marked = true ∨
            ∃ x ∈ numbered addresses, f.path = .ifcfg (aliasName iface x.2)) := by
  have hsame : StillThere f (g.files.find? f.path) := by
    rw [hf]
    exact stillThere_self hours
  unfold persistNative
  cases g.stack iface with
  | none => exact iff_of_true hsame not_false
  | nm con => exact iff_of_true hsame not_false
  | ifupdown =>
    dsimp only
    rw [find?_persistIfupdown]
    by_cases hpath : f.path = .ifup iface
    · rw [if_pos hpath]
      refine iff_of_false ?_ fun h => h hpath
      split
      · exact not_stillThere_none
      · exact not_stillThere_ours rfl
    · rw [if_neg hpath]
      exact iff_of_true (stillThere_sourced hf hours) hpath
  | netplan =>
    dsimp only
    rw [find?_persistNetplan]
    by_cases hpath : f.path = .netplan
    · rw [if_pos hpath]
      refine iff_of_false ?_ fun h => h hpath
      split
      · exact not_stillThere_none
      · exact not_stillThere_ours rfl
    · rw [if_neg hpath]
      exact iff_of_true hsame hpath
  | sysconfig =>
    dsimp only
    rcases find?_persistSysconfig g.files iface addresses f.path with
      ⟨x, hx, hpath, hfind⟩ | ⟨hnone, hfind⟩
    · rw [hfind]
      exact iff_of_false (not_stillThere_ours rfl) fun h => h (Or.inr ⟨x, hx, hpath.symm⟩)
    · rw [hfind, hf, Option.filter_some]
      have hnot : ¬∃ x ∈ numbered addresses, f.path = .ifcfg (aliasName iface x.2) := by
        rintro ⟨x, hx, hpath⟩
        exact hnone x hx hpath.symm
      by_cases hmine : f.path.isAliasOf iface = true ∧ f.marked = true
      · rw [if_neg (by simp [hmine])]
        exact iff_of_false not_stillThere_none fun h => h (Or.inl hmine)
      · have hother : (f.path.isAliasOf iface && f.marked) = false := by
          rw [Bool.eq_false_iff, ne_eq, Bool.and_eq_true]
          exact hmine
        rw [if_pos (by rw [hother]; rfl)]
        exact iff_of_true (stillThere_self hours) fun h => h.elim hmine hnot

/-- A run that completes leaves a file of the administrator exactly when it does not
replace it. -/
theorem stillThere_syncAliases_iff {f : File} (hdone : Completes w g iface addresses)
    (hf : f ∈ g.files.rows) (hours : f.ours = false) :
    StillThere f ((syncAliases w g iface addresses).guest.files.find? f.path) ↔
      ¬Replaces g iface addresses f := by
  have hfind : (g.listed w iface addresses).files.find? f.path = some f := by
    rw [files_listed]
    exact g.files.find?_key hf
  have hnative := stillThere_persistNative_iff iface addresses (g.prev iface) hfind hours
  rw [stack_listed] at hnative
  rw [(syncAliases_of_completes hdone).2.1, find?_persistUnit, systemd_persistNative,
    systemd_listed, Replaces]
  by_cases hunit : g.systemd = true ∧ (f.path = .helper ∨ f.path = .unit)
  · rw [if_pos hunit]
    refine iff_of_false ?_ fun h => h (Or.inr hunit)
    split
    · split
      · exact not_stillThere_ours rfl
      · exact not_stillThere_ours rfl
    · exact not_stillThere_none
  · rw [if_neg hunit, hnative, not_or]
    exact (and_iff_left hunit).symm

/-- A run spares what is set up by hand exactly when it is careful. -/
theorem spares_iff (g : Guest) (e : Event) : Spares g e ↔ Careful g e := by
  cases e with
  | sync w iface addresses =>
    refine and_congr (addresses_spared_iff w g iface addresses) ?_
    by_cases hdone : Completes w g iface addresses
    · constructor
      · exact fun h _ f hf hours => (stillThere_syncAliases_iff hdone hf hours).mp (h f hf hours)
      · exact fun h f hf hours => (stillThere_syncAliases_iff hdone hf hours).mpr (h hdone f hf hours)
    · refine iff_of_true (fun f hf hours => ?_) fun h => absurd h hdone
      rw [files_syncAliases_of_not hdone, g.files.find?_key hf]
      exact stillThere_self hours
  | addAddress iface e => exact Iff.rfl
  | dropAddress iface a => exact Iff.rfl
  | writeFile path lines => exact Iff.rfl
  | dropFile path => exact Iff.rfl

end Run

/-- An interface with an address that was set by hand. -/
def handMade : Interface :=
  ⟨"eth0", "2: eth0: <BROADCAST,MULTICAST,UP,LOWER_UP> mtu 1500",
    [{ cidr := cidr 10 9 9 50 24, rest := "scope global eth0" }], none⟩

end PveManager.GuestIp
