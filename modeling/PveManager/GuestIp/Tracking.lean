import PveManager.Core.Run
import PveManager.GuestIp.Run

/-!
# Whether the script knows its addresses

An address that the script added should be in the state file for as long as it is on the
interface, because only what the state file lists is ever removed. The file is written
at the end of a run, over what it listed before, so a run loses an address that it added
before it stopped, and one that it failed to remove.
-/

namespace PveManager.GuestIp

open PveManager.Core

/-- Every address that the script added is in the state file of its interface. -/
def Tracked (g : Guest) : Prop :=
  ∀ iface link, g.links.find? iface = some link →
    ∀ e ∈ link.entries, e.ours = true → e.cidr ∈ g.prev iface

/-- A run that stops has added nothing that the state file does not list, and one that
goes through fails to remove nothing that the script added. -/
def Accounted (g : Guest) : Event → Prop
  | .sync w iface addresses => iface ≠ "" → ∀ link, g.links.find? iface = some link →
      (∀ before a after, addresses = before ++ a :: after →
        StopsAt w (g.cleared w addresses link) before a →
          ∀ e ∈ (before.foldl Interface.raise (g.cleared w addresses link)).entries,
            e.ours = true → e.cidr ∈ g.prev iface) ∧
      (GoesThrough w (g.cleared w addresses link) addresses →
        ∀ e ∈ link.entries, e.ours = true → e.cidr ∉ addresses → w.del e.cidr = false)
  | _ => True

variable {g : Guest}

/-- What a list of the script's addresses says about an address once it is not asked for:
the next run that completes removes it. -/
theorem not_mem_synced_of_dropped {w : Refusals} {iface : String} {addresses : List Cidr}
    {link : Interface} {e : Entry} (htracked : Tracked g)
    (hlink : g.links.find? iface = some link) (hours : e.ours = true) (hmem : e ∈ link.entries)
    (hdropped : e.cidr ∉ addresses) (hdel : w.del e.cidr = false)
    (hdone : Completes w g iface addresses) : e ∉ (g.synced w addresses link).entries := by
  have hname := g.links.key_of_find? hlink
  rw [Guest.synced, addMissing_of_goesThrough (hdone.2.2 link hlink)]
  intro h
  rcases mem_entries_foldl_raise h with h | h
  · have hprev : e.cidr ∈ g.prev link.name := hname ▸ htracked iface link hlink e hmem hours
    have := (mem_entries_removeDropped_iff.mp h).2 hprev hdropped
    rw [hdel] at this
    cases this
  · exact hdropped h

/-- The addresses of the interface in a run that completes. -/
theorem accounted_of_goesThrough_iff {w : Refusals} {iface : String} {addresses : List Cidr}
    {link : Interface} (htracked : Tracked g) (hlink : g.links.find? iface = some link)
    (hgo : GoesThrough w (g.cleared w addresses link) addresses) :
    (∀ e ∈ (g.synced w addresses link).entries, e.ours = true → e.cidr ∈ addresses) ↔
      ∀ e ∈ link.entries, e.ours = true → e.cidr ∉ addresses → w.del e.cidr = false := by
  have hname := g.links.key_of_find? hlink
  rw [Guest.synced, addMissing_of_goesThrough hgo]
  constructor
  · intro h e he hours hnot
    by_contra hdel
    rw [Bool.not_eq_false] at hdel
    have hkept : e ∈ (g.cleared w addresses link).entries :=
      mem_entries_removeDropped_iff.mpr ⟨he, fun _ _ => hdel⟩
    exact hnot (h e (mem_foldl_raise_of_mem hkept) hours)
  · intro h e he hours
    rcases mem_entries_foldl_raise he with he | he
    · by_contra hnot
      obtain ⟨hmem, hdel⟩ := mem_entries_removeDropped_iff.mp he
      have hprev : e.cidr ∈ g.prev link.name := hname ▸ htracked iface link hlink e hmem hours
      have hfails := hdel hprev hnot
      rw [h e hmem hours hnot] at hfails
      cases hfails
    · exact he

/-- A run keeps track exactly when it accounts for its own interface. -/
theorem tracked_sync_iff (htracked : Tracked g) (w : Refusals) (iface : String)
    (addresses : List Cidr) :
    Tracked (step g (.sync w iface addresses)) ↔ Accounted g (.sync w iface addresses) := by
  have hothers : ∀ other, other ≠ iface → ∀ link,
      (step g (.sync w iface addresses)).links.find? other = some link →
        ∀ e ∈ link.entries, e.ours = true →
          e.cidr ∈ (step g (.sync w iface addresses)).prev other := by
    intro other hne link hlink e he hours
    have hlink' := (find?_links_syncAliases_of_ne hne).symm.trans hlink
    have hprev : (step g (.sync w iface addresses)).prev other = g.prev other := by
      by_cases hdone : Completes w g iface addresses
      · exact (prev_syncAliases_of_completes hdone other).trans (if_neg hne.symm)
      · exact prev_syncAliases_of_not hdone other
    rw [hprev]
    exact htracked other link hlink' e he hours
  have hown : Tracked (step g (.sync w iface addresses)) ↔ ∀ link,
      (step g (.sync w iface addresses)).links.find? iface = some link →
        ∀ e ∈ link.entries, e.ours = true →
          e.cidr ∈ (step g (.sync w iface addresses)).prev iface := by
    refine ⟨fun h => h iface, fun h other => ?_⟩
    by_cases hne : other = iface
    · exact hne ▸ h
    · exact hothers other hne
  rw [hown, Accounted]
  by_cases hname : iface = ""
  · have hsame : step g (.sync w iface addresses) = g :=
      ((syncAliases_of_not fun h => h.1 hname).2).trans (if_pos hname)
    rw [hsame]
    exact iff_of_true (htracked iface) fun h => absurd hname h
  · cases hlink : g.links.find? iface with
    | none =>
      have hnone : (step g (.sync w iface addresses)).links.find? iface = none :=
        find?_links_syncAliases_none hlink
      rw [hnone]
      exact iff_of_true (fun _ h => by cases h) fun _ _ h => by cases h
    | some link =>
      have hsynced : (step g (.sync w iface addresses)).links.find? iface =
          some (g.synced w addresses link) := find?_links_syncAliases hname hlink
      simp only [hsynced, Option.some.injEq, forall_eq', hname, ne_eq, not_false_eq_true,
        forall_true_left]
      rcases goesThrough_or_stopsAt w (g.cleared w addresses link) addresses with
        hgo | ⟨before, a, after, he, hstop⟩
      · have hprev : (step g (.sync w iface addresses)).prev iface = addresses :=
          (prev_syncAliases_of_completes (completes_of_goesThrough hname hlink hgo) iface).trans
            (if_pos rfl)
        rw [hprev, accounted_of_goesThrough_iff htracked hlink hgo]
        refine ⟨fun h => ⟨?_, fun _ => h⟩, fun h => h.2 hgo⟩
        rintro before a after rfl hstop
        exact absurd hstop hgo.not_stopsAt
      · subst he
        have hnot : ¬GoesThrough w (g.cleared w (before ++ a :: after) link) (before ++ a :: after) :=
          fun hgo => hgo.not_stopsAt hstop
        have hprev : (step g (.sync w iface (before ++ a :: after))).prev iface = g.prev iface :=
          prev_syncAliases_of_not (fun hdone => hnot (hdone.2.2 link hlink)) iface
        rw [hprev, Guest.synced, addMissing_of_stopsAt hstop]
        refine ⟨fun h => ⟨?_, fun hgo => absurd hgo hnot⟩, fun h => h.1 before a after rfl hstop⟩
        -- the run stops in one round only
        intro before' a' after' he hstop'
        have hsame := addMissing_of_stopsAt hstop' after'
        rw [← he, addMissing_of_stopsAt hstop after] at hsame
        have hlinks : before.foldl Interface.raise _ = before'.foldl Interface.raise _ :=
          (Prod.ext_iff.mp hsame).2
        rw [← hlinks]
        exact h

/-- What an administrator does to a device takes no track away. -/
theorem Tracked.save (h : Tracked g) {iface : String} {link link' : Interface}
    (hlink : g.links.find? iface = some link) (hname : link'.name = link.name)
    (hsub : ∀ e ∈ link'.entries, e.ours = true → e ∈ link.entries) :
    Tracked { g with links := g.links.save link' } := by
  intro other found hfound e he hours
  have hfound' : (if link'.name = other then some link' else g.links.find? other) = some found :=
    (g.links.find?_save link' other).symm.trans hfound
  split at hfound'
  · next hother =>
    cases hfound'
    have hkey : iface = other := (g.links.key_of_find? hlink).symm.trans (hname.symm.trans hother)
    subst hkey
    exact h iface link hlink e (hsub e he hours) hours
  · exact h other found hfound' e he hours

theorem Tracked.addAddress (h : Tracked g) (iface : String) (e : Entry) :
    Tracked (addAddress g iface e) := by
  unfold GuestIp.addAddress
  cases hlink : g.links.find? iface with
  | none => exact h
  | some link =>
    dsimp only
    split
    · exact h
    · refine h.save hlink rfl fun e' he' hours => ?_
      rcases List.mem_append.mp he' with he' | he'
      · exact he'
      · rw [List.mem_singleton.mp he'] at hours
        cases hours

theorem Tracked.dropAddress (h : Tracked g) (iface : String) (a : Cidr) :
    Tracked (dropAddress g iface a) := by
  unfold GuestIp.dropAddress
  cases hlink : g.links.find? iface with
  | none => exact h
  | some link => exact h.save hlink rfl fun e he _ => (List.mem_filter.mp he).1

/-- A step keeps track exactly when it accounts for its addresses. -/
theorem tracked_step_iff (g : Guest) (e : Event) (h : Tracked g) :
    Tracked (step g e) ↔ Accounted g e := by
  cases e with
  | sync w iface addresses => exact tracked_sync_iff h w iface addresses
  | addAddress iface e => exact iff_of_true (h.addAddress iface e) trivial
  | dropAddress iface a => exact iff_of_true (h.dropAddress iface a) trivial
  | writeFile path lines => exact iff_of_true h trivial
  | dropFile path => exact iff_of_true h trivial

/-- A guest on which the script has added nothing yet, and what happens to it. -/
structure History where
  start : Guest
  untouched : ∀ link ∈ start.links.rows, ∀ e ∈ link.entries, e.ours = false
  events : List Event

namespace History

/-- An interface without addresses. -/
def bare : Interface :=
  ⟨"eth0", "2: eth0: <BROADCAST,MULTICAST,UP,LOWER_UP> mtu 1500", [], none⟩

/-- The kernel takes the first of two addresses and refuses the second. -/
def halfWay : History where
  start := .ofLink bare
  untouched := by decide
  events := [.sync ⟨fun a => decide (a = cidr 10 9 9 6 24), fun _ => false⟩ "eth0"
    [cidr 10 9 9 5 24, cidr 10 9 9 6 24]]

end History

end PveManager.GuestIp
