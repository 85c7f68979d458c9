import PveManager.GuestIp.Script

/-!
# What one run does

The loop that adds goes through the addresses round by round: an address that the
listing shows is left, another one is added unless it is refused, and then the run ends.
The facts about a whole run say which parts of the guest it changes.
-/

namespace PveManager.GuestIp

open PveManager.Core

/-! ### The listing -/

/-- An address of the interface is shown. -/
theorem shows_of_has {link : Interface} {ip : IPv4} (h : link.Has ip) : link.shows ip = true := by
  obtain ⟨e, he, rfl⟩ := h
  rw [Interface.shows, List.any_eq_true]
  refine ⟨_, List.mem_cons_of_mem _ (List.mem_flatMap.mpr ⟨e, he, List.mem_cons_self⟩), ?_⟩
  apply Grep.hasWord_of_between
  · decide
  · cases e.peer with
    | none => rfl
    | some p => rfl

/-- A new address hides none. -/
theorem shows_with {link : Interface} {ip : IPv4} (a : Cidr) (h : link.shows ip = true) :
    (link.with a).shows ip = true := by
  rw [Interface.shows, List.any_eq_true] at h ⊢
  obtain ⟨line, hline, hword⟩ := h
  refine ⟨line, ?_, hword⟩
  simp only [Interface.addrShow, Interface.with, List.mem_cons, List.flatMap_append,
    List.mem_append] at hline ⊢
  tauto

theorem has_with_iff {link : Interface} {ip : IPv4} {a : Cidr} :
    (link.with a).Has ip ↔ link.Has ip ∨ a.ip = ip := by
  simp only [Interface.Has, Interface.with, List.mem_append, List.mem_singleton, or_and_right,
    exists_or, exists_eq_left]

/-! ### The loop that adds -/

/-- What the loop makes of the interface when nothing refuses. -/
def Interface.raise (link : Interface) (a : Cidr) : Interface :=
  if link.shows a.ip then link else link.with a

theorem Interface.Has.raise {link : Interface} {ip : IPv4} (h : link.Has ip) (a : Cidr) :
    (link.raise a).Has ip := by
  unfold Interface.raise
  split
  · exact h
  · exact has_with_iff.mpr (Or.inl h)

/-- An address that is shown without being there stays so. -/
theorem not_has_raise {link : Interface} {ip : IPv4} (hshows : link.shows ip = true)
    (hnot : ¬link.Has ip) (a : Cidr) :
    (link.raise a).shows ip = true ∧ ¬(link.raise a).Has ip := by
  unfold Interface.raise
  split
  · exact ⟨hshows, hnot⟩
  · next hmissing =>
    refine ⟨shows_with a hshows, fun h => ?_⟩
    rcases has_with_iff.mp h with h | rfl
    · exact hnot h
    · exact hmissing hshows

/-- No later round assigns it. -/
theorem not_has_foldl_raise {ip : IPv4} (as : List Cidr) {link : Interface}
    (hshows : link.shows ip = true) (hnot : ¬link.Has ip) : ¬(as.foldl Interface.raise link).Has ip := by
  induction as generalizing link with
  | nil => exact hnot
  | cons a as ih =>
    have h := not_has_raise hshows hnot a
    exact ih h.1 h.2

/-- The loop adds addresses of its list only. -/
theorem mem_entries_raise {link : Interface} {a : Cidr} {e : Entry}
    (h : e ∈ (link.raise a).entries) : e ∈ link.entries ∨ e.cidr = a := by
  unfold Interface.raise at h
  split at h
  · exact Or.inl h
  · rcases List.mem_append.mp h with h | h
    · exact Or.inl h
    · rw [List.mem_singleton] at h
      exact Or.inr (by rw [h])

theorem mem_entries_foldl_raise {as : List Cidr} {link : Interface} {e : Entry}
    (h : e ∈ (as.foldl Interface.raise link).entries) : e ∈ link.entries ∨ e.cidr ∈ as := by
  induction as generalizing link with
  | nil => exact Or.inl h
  | cons a as ih =>
    rcases ih h with h | h
    · rcases mem_entries_raise h with h | h
      · exact Or.inl h
      · exact Or.inr (h ▸ List.mem_cons_self)
    · exact Or.inr (List.mem_cons_of_mem _ h)

/-- It leaves what is there. -/
theorem mem_foldl_raise_of_mem {as : List Cidr} {link : Interface} {e : Entry}
    (h : e ∈ link.entries) : e ∈ (as.foldl Interface.raise link).entries := by
  induction as generalizing link with
  | nil => exact h
  | cons a as ih =>
    apply ih
    unfold Interface.raise
    split
    · exact h
    · exact List.mem_append_left _ h

/-! ### Round by round -/

/-- A condition on an interface and the address of the round, in every round. -/
def EachRound (Q : Interface → Cidr → Prop) (link : Interface) (addresses : List Cidr) : Prop :=
  ∀ before a after, addresses = before ++ a :: after → Q (before.foldl Interface.raise link) a

theorem eachRound_nil (Q : Interface → Cidr → Prop) (link : Interface) : EachRound Q link [] := by
  intro before a after he
  simp at he

theorem eachRound_cons_iff {Q : Interface → Cidr → Prop} {link : Interface} {a : Cidr}
    {as : List Cidr} : EachRound Q link (a :: as) ↔ Q link a ∧ EachRound Q (link.raise a) as := by
  constructor
  · intro h
    refine ⟨h [] a as rfl, fun before b after he => ?_⟩
    exact h (a :: before) b after (by rw [he, List.cons_append])
  · rintro ⟨hfirst, hrest⟩ before b after he
    cases before with
    | nil =>
      injection he with hb _
      exact hb ▸ hfirst
    | cons c before =>
      injection he with hc he
      subst hc
      exact hrest before b after he

/-- The kernel accepts every address that the listing does not show in its round. -/
def GoesThrough (w : Refusals) (link : Interface) (addresses : List Cidr) : Prop :=
  EachRound (fun link a => link.shows a.ip = false → w.add a = false) link addresses

/-- The rounds before the address go through and its own does not. -/
def StopsAt (w : Refusals) (link : Interface) (before : List Cidr) (a : Cidr) : Prop :=
  GoesThrough w link before ∧ (before.foldl Interface.raise link).shows a.ip = false ∧
    w.add a = true

/-- One round of the loop: an address that is not shown can only be refused by the kernel. -/
theorem addMissing_cons (w : Refusals) (a : Cidr) (as : List Cidr) (link : Interface) :
    addMissing w (a :: as) link =
      if link.shows a.ip = false ∧ w.add a = true then (some a, link)
      else addMissing w as (link.raise a) := by
  rw [addMissing, Interface.raise]
  by_cases hs : link.shows a.ip = true
  · simp [hs]
  · have hfresh : (link.entries.any fun e => decide (e.cidr = a)) = false := by
      rw [List.any_eq_false]
      intro e he hea
      exact hs (shows_of_has ⟨e, he, by rw [of_decide_eq_true hea]⟩)
    rw [if_neg hs, ipAddrAdd, hfresh]
    cases hw : w.add a with
    | true => simp [hs]
    | false => simp [hs]

/-- The loop goes through. -/
theorem addMissing_of_goesThrough {w : Refusals} {as : List Cidr} {link : Interface}
    (h : GoesThrough w link as) : addMissing w as link = (none, as.foldl Interface.raise link) := by
  induction as generalizing link with
  | nil => rfl
  | cons a as ih =>
    obtain ⟨hfirst, hrest⟩ := eachRound_cons_iff.mp h
    rw [addMissing_cons, if_neg (fun hs => by simp [hfirst hs.1] at hs), ih hrest, List.foldl_cons]

/-- The loop ends in the first round that does not go through. -/
theorem addMissing_of_stopsAt {w : Refusals} {before : List Cidr} {a : Cidr} {link : Interface}
    (h : StopsAt w link before a) (after : List Cidr) :
    addMissing w (before ++ a :: after) link = (some a, before.foldl Interface.raise link) := by
  induction before generalizing link with
  | nil =>
    have hstop : link.shows a.ip = false ∧ w.add a = true := h.2
    rw [List.nil_append, addMissing_cons, if_pos hstop, List.foldl_nil]
  | cons b before ih =>
    obtain ⟨hgo, hstop⟩ := h
    obtain ⟨hfirst, hrest⟩ := eachRound_cons_iff.mp hgo
    rw [List.cons_append, addMissing_cons, if_neg (fun hs => by simp [hfirst hs.1] at hs),
      ih ⟨hrest, hstop⟩, List.foldl_cons]

/-- It goes through or there is such a round. -/
theorem goesThrough_or_stopsAt (w : Refusals) (link : Interface) (as : List Cidr) :
    GoesThrough w link as ∨ ∃ before a after, as = before ++ a :: after ∧ StopsAt w link before a := by
  induction as generalizing link with
  | nil => exact Or.inl (eachRound_nil _ link)
  | cons a as ih =>
    by_cases hstop : link.shows a.ip = false ∧ w.add a = true
    · exact Or.inr ⟨[], a, as, rfl, eachRound_nil _ link, hstop⟩
    · have hfirst : link.shows a.ip = false → w.add a = false := by
        intro hs
        simpa [hs] using hstop
      rcases ih (link.raise a) with hgo | ⟨before, b, after, rfl, hgo, hb⟩
      · exact Or.inl (eachRound_cons_iff.mpr ⟨hfirst, hgo⟩)
      · exact Or.inr ⟨a :: before, b, after, rfl, eachRound_cons_iff.mpr ⟨hfirst, hgo⟩, hb⟩

/-- What goes through does not stop. -/
theorem GoesThrough.not_stopsAt {w : Refusals} {before after : List Cidr} {a : Cidr}
    {link : Interface} (hgo : GoesThrough w link (before ++ a :: after)) :
    ¬StopsAt w link before a := by
  intro hstop
  have haccepts := hgo before a after rfl hstop.2.1
  rw [hstop.2.2] at haccepts
  cases haccepts

theorem addMissing_eq_none_iff {w : Refusals} {as : List Cidr} {link : Interface} :
    (addMissing w as link).1 = none ↔ GoesThrough w link as := by
  rcases goesThrough_or_stopsAt w link as with h | ⟨before, a, after, rfl, h⟩
  · rw [addMissing_of_goesThrough h]
    exact iff_of_true rfl h
  · rw [addMissing_of_stopsAt h]
    exact iff_of_false (by simp) fun hgo => hgo.not_stopsAt h

/-! ### The loop that removes -/

/-- An address goes when the state file lists it, nobody asks for it and `ip addr del`
does not fail. -/
theorem mem_entries_removeDropped_iff {w : Refusals} {prev addresses : List Cidr}
    {link : Interface} {e : Entry} : e ∈ (removeDropped w prev addresses link).entries ↔
      e ∈ link.entries ∧ (e.cidr ∈ prev → e.cidr ∉ addresses → w.del e.cidr = true) := by
  unfold removeDropped
  induction prev generalizing link with
  | nil => simp
  | cons old prev ih =>
    rw [List.foldl_cons, ih]
    by_cases hkeep : old ∈ addresses
    · rw [if_pos hkeep]
      refine and_congr_right fun _ =>
        ⟨fun h hmem hnot => ?_, fun h hmem => h (List.mem_cons_of_mem _ hmem)⟩
      rcases List.mem_cons.mp hmem with he | hmem
      · exact absurd (he ▸ hkeep) hnot
      · exact h hmem hnot
    · rw [if_neg hkeep, ipAddrDel]
      by_cases hdel : w.del old = true
      · rw [if_pos hdel]
        refine and_congr_right fun _ =>
          ⟨fun h hmem hnot => ?_, fun h hmem => h (List.mem_cons_of_mem _ hmem)⟩
        rcases List.mem_cons.mp hmem with he | hmem
        · exact he ▸ hdel
        · exact h hmem hnot
      · rw [if_neg hdel]
        simp only [List.mem_filter, decide_eq_true_eq]
        constructor
        · rintro ⟨⟨hmem, hne⟩, h⟩
          exact ⟨hmem, fun hm => h ((List.mem_cons.mp hm).resolve_left hne)⟩
        · rintro ⟨hmem, h⟩
          refine ⟨⟨hmem, ?_⟩, fun hm => h (List.mem_cons_of_mem _ hm)⟩
          rintro rfl
          exact hdel (h List.mem_cons_self hkeep)

/-! ### The interface in a whole run -/

/-- Only the addresses of the device change. -/
theorem removeDropped_eq (w : Refusals) (prev addresses : List Cidr) (link : Interface) :
    ∃ entries, removeDropped w prev addresses link = { link with entries := entries } := by
  unfold removeDropped
  induction prev generalizing link with
  | nil => exact ⟨_, rfl⟩
  | cons old prev ih =>
    rw [List.foldl_cons]
    unfold ipAddrDel
    split
    · exact ih link
    · split
      · exact ih link
      · obtain ⟨entries, he⟩ := ih _
        exact ⟨entries, he⟩

theorem addMissing_eq (w : Refusals) (as : List Cidr) (link : Interface) :
    ∃ entries, (addMissing w as link).2 = { link with entries := entries } := by
  induction as generalizing link with
  | nil => exact ⟨_, rfl⟩
  | cons a as ih =>
    rw [addMissing_cons]
    split
    · exact ⟨_, rfl⟩
    · obtain ⟨entries, he⟩ := ih (link.raise a)
      refine ⟨entries, he.trans ?_⟩
      unfold Interface.raise
      split
      · rfl
      · rfl

/-- The interface when the loop that adds begins. -/
def Guest.cleared (g : Guest) (w : Refusals) (addresses : List Cidr) (link : Interface) :
    Interface :=
  removeDropped w (g.prev link.name) addresses link

/-- The interface when both loops are done. -/
def Guest.synced (g : Guest) (w : Refusals) (addresses : List Cidr) (link : Interface) :
    Interface :=
  (addMissing w addresses (g.cleared w addresses link)).2

theorem synced_eq (g : Guest) (w : Refusals) (addresses : List Cidr) (link : Interface) :
    ∃ entries, g.synced w addresses link = { link with entries := entries } := by
  obtain ⟨cleared, hcleared⟩ := removeDropped_eq w (g.prev link.name) addresses link
  obtain ⟨entries, hentries⟩ := addMissing_eq w addresses (g.cleared w addresses link)
  refine ⟨entries, hentries.trans ?_⟩
  rw [Guest.cleared, hcleared]

@[simp] theorem name_synced (g : Guest) (w : Refusals) (addresses : List Cidr) (link : Interface) :
    (g.synced w addresses link).name = link.name := by
  obtain ⟨entries, he⟩ := synced_eq g w addresses link
  rw [he]

/-! ### The guest in a whole run -/

section Run

variable {w : Refusals} {g : Guest} {iface : String} {addresses : List Cidr} {link : Interface}

/-- The run gets as far as writing the state file. -/
def Completes (w : Refusals) (g : Guest) (iface : String) (addresses : List Cidr) : Prop :=
  iface ≠ "" ∧ (g.links.find? iface = none → addresses = []) ∧
    ∀ link, g.links.find? iface = some link → GoesThrough w (g.cleared w addresses link) addresses

theorem completes_of_goesThrough (hname : iface ≠ "") (hlink : g.links.find? iface = some link)
    (hgo : GoesThrough w (g.cleared w addresses link) addresses) :
    Completes w g iface addresses := by
  refine ⟨hname, by simp [hlink], fun link' hlink' => ?_⟩
  rwa [Option.some.inj (hlink'.symm.trans hlink)]

theorem syncLink_of_link (hlink : g.links.find? iface = some link) :
    syncLink w g iface addresses =
      ((addMissing w addresses (g.cleared w addresses link)).1, { g with
        links := g.links.save (g.synced w addresses link)
        added := g.added ++ (((g.synced w addresses link).entries.filter Entry.ours).map
          fun e => (iface, e.cidr)) }) := by
  have hname := g.links.key_of_find? hlink
  subst hname
  unfold syncLink
  simp only [hlink]
  rfl

/-- A device that is not there takes no address. -/
theorem syncLink_of_none (hlink : g.links.find? iface = none) :
    syncLink w g iface addresses = (addresses.head?, g) := by
  unfold syncLink
  rw [hlink]

theorem syncLink_eq_none_iff (hname : iface ≠ "") :
    (syncLink w g iface addresses).1 = none ↔ Completes w g iface addresses := by
  cases hlink : g.links.find? iface with
  | none =>
    rw [syncLink_of_none hlink, List.head?_eq_none_iff, Completes]
    simp [hname, hlink]
  | some link =>
    rw [syncLink_of_link hlink, Completes]
    simp [hname, hlink, addMissing_eq_none_iff]

/-- The guest when the state file is written. -/
def Guest.listed (g : Guest) (w : Refusals) (iface : String) (addresses : List Cidr) : Guest :=
  { (syncLink w g iface addresses).2 with states := g.states.save ⟨iface, addresses⟩ }

theorem states_syncLink : (syncLink w g iface addresses).2.states = g.states := by
  cases hlink : g.links.find? iface with
  | none => rw [syncLink_of_none hlink]
  | some link => rw [syncLink_of_link hlink]

/-- A run that completes. -/
theorem syncAliases_of_completes (h : Completes w g iface addresses) :
    (syncAliases w g iface addresses).exit = 0 ∧
      (syncAliases w g iface addresses).guest =
        persistUnit (persistNative (g.listed w iface addresses) iface (g.prev iface) addresses) ∧
      "PVEMANAGER_OK=1" ∈ (syncAliases w g iface addresses).output := by
  have hnone := (syncLink_eq_none_iff h.1).mpr h
  have hstates : (syncLink w g iface addresses).2.states = g.states := states_syncLink
  unfold syncAliases Guest.listed
  rw [if_neg h.1]
  cases hs : syncLink w g iface addresses with
  | mk failed g' =>
    rw [hs] at hnone hstates
    cases hnone
    refine ⟨rfl, ?_, List.mem_cons_of_mem _ List.mem_cons_self⟩
    dsimp only at hstates ⊢
    rw [hstates]

/-- A run that does not. -/
theorem syncAliases_of_not (h : ¬Completes w g iface addresses) :
    (syncAliases w g iface addresses).exit ≠ 0 ∧
      (syncAliases w g iface addresses).guest =
        if iface = "" then g else (syncLink w g iface addresses).2 := by
  unfold syncAliases
  by_cases hname : iface = ""
  · simp [hname]
  · rw [if_neg hname, if_neg hname]
    have hsome := mt (syncLink_eq_none_iff hname).mp h
    cases hs : syncLink w g iface addresses with
    | mk failed g' =>
      rw [hs] at hsome
      cases failed with
      | none => exact absurd rfl hsome
      | some a => exact ⟨by simp, rfl⟩

theorem exit_eq_zero_iff : (syncAliases w g iface addresses).exit = 0 ↔
    Completes w g iface addresses := by
  by_cases h : Completes w g iface addresses
  · exact iff_of_true (syncAliases_of_completes h).1 h
  · exact iff_of_false (syncAliases_of_not h).1 h

/-- The panel records success exactly when the script exits with zero. -/
theorem status_ne_failed_iff : (syncAliases w g iface addresses).status ≠ .failed ↔
    (syncAliases w g iface addresses).exit = 0 := by
  unfold Result.status
  constructor
  · intro h
    by_contra hne
    exact h (if_pos (Or.inl hne))
  · intro h
    have hok := (syncAliases_of_completes (exit_eq_zero_iff.mp h)).2.2
    rw [if_neg (by simp [h, hok])]
    split
    · decide
    · decide

/-- The native stack changes files and connections only. -/
theorem persistNative_eq (g : Guest) (iface : String) (prev addresses : List Cidr) :
    ∃ files connections, persistNative g iface prev addresses =
      { g with files := files, connections := connections } := by
  unfold persistNative
  cases g.stack iface with
  | none => exact ⟨_, _, rfl⟩
  | ifupdown => exact ⟨_, _, rfl⟩
  | netplan => exact ⟨_, _, rfl⟩
  | nm _ => exact ⟨_, _, rfl⟩
  | sysconfig => exact ⟨_, _, rfl⟩

theorem links_persistNative (g : Guest) (iface : String) (prev addresses : List Cidr) :
    (persistNative g iface prev addresses).links = g.links := by
  obtain ⟨files, connections, he⟩ := persistNative_eq g iface prev addresses
  rw [he]

/-- The unit is two files and a flag. -/
theorem persistUnit_eq (g : Guest) :
    ∃ files enabled, persistUnit g = { g with files := files, enabled := enabled } := by
  unfold persistUnit
  split
  · split
    · exact ⟨_, _, rfl⟩
    · exact ⟨_, _, rfl⟩
  · exact ⟨_, _, rfl⟩

theorem links_persistUnit (g : Guest) : (persistUnit g).links = g.links := by
  obtain ⟨files, enabled, he⟩ := persistUnit_eq g
  rw [he]

/-- The devices change in the two loops only. -/
theorem links_syncAliases (hname : iface ≠ "") :
    (syncAliases w g iface addresses).guest.links = (syncLink w g iface addresses).2.links := by
  by_cases h : Completes w g iface addresses
  · rw [(syncAliases_of_completes h).2.1, links_persistUnit, links_persistNative]
    rfl
  · rw [(syncAliases_of_not h).2, if_neg hname]

/-- The device in the end. -/
theorem find?_links_syncAliases (hname : iface ≠ "") (hlink : g.links.find? iface = some link) :
    (syncAliases w g iface addresses).guest.links.find? iface =
      some (g.synced w addresses link) := by
  rw [links_syncAliases hname, syncLink_of_link hlink, KeyedTable.find?_save,
    if_pos ((name_synced g w addresses link).trans (g.links.key_of_find? hlink))]

/-- The other devices stay as they are. -/
theorem find?_links_syncAliases_of_ne {other : String} (hne : other ≠ iface) :
    (syncAliases w g iface addresses).guest.links.find? other = g.links.find? other := by
  by_cases hname : iface = ""
  · rw [(syncAliases_of_not fun h => h.1 hname).2, if_pos hname]
  · rw [links_syncAliases hname]
    cases hlink : g.links.find? iface with
    | none => rw [syncLink_of_none hlink]
    | some link =>
      have hsynced := (name_synced g w addresses link).trans (g.links.key_of_find? hlink)
      rw [syncLink_of_link hlink, KeyedTable.find?_save, if_neg (hsynced.trans_ne hne.symm)]

/-- A device that is not there does not appear. -/
theorem find?_links_syncAliases_none (hlink : g.links.find? iface = none) :
    (syncAliases w g iface addresses).guest.links.find? iface = none := by
  by_cases hname : iface = ""
  · rw [(syncAliases_of_not fun h => h.1 hname).2, if_pos hname, hlink]
  · rw [links_syncAliases hname, syncLink_of_none hlink, hlink]

theorem states_persistNative (g : Guest) (iface : String) (prev addresses : List Cidr) :
    (persistNative g iface prev addresses).states = g.states := by
  obtain ⟨files, connections, he⟩ := persistNative_eq g iface prev addresses
  rw [he]

theorem states_persistUnit (g : Guest) : (persistUnit g).states = g.states := by
  obtain ⟨files, enabled, he⟩ := persistUnit_eq g
  rw [he]

/-- A run that completes leaves its list in the state file. -/
theorem prev_syncAliases_of_completes (h : Completes w g iface addresses) (other : String) :
    (syncAliases w g iface addresses).guest.prev other =
      if iface = other then addresses else g.prev other := by
  rw [(syncAliases_of_completes h).2.1, Guest.prev, states_persistUnit, states_persistNative,
    Guest.listed, KeyedTable.find?_save]
  split
  · rfl
  · rfl

/-- A run that does not leaves the state file of before. -/
theorem prev_syncAliases_of_not (h : ¬Completes w g iface addresses) (other : String) :
    (syncAliases w g iface addresses).guest.prev other = g.prev other := by
  rw [(syncAliases_of_not h).2]
  split
  · rfl
  · rw [Guest.prev, states_syncLink, Guest.prev]

end Run

/-! ### The guest over time -/

/-- Runs of the script, and what an administrator changes by hand. -/
inductive Event
  | sync (w : Refusals) (iface : String) (addresses : List Cidr)
  | addAddress (iface : String) (e : Entry)
  | dropAddress (iface : String) (a : Cidr)
  | writeFile (path : Path) (lines : List String)
  | dropFile (path : Path)

def addAddress (g : Guest) (iface : String) (e : Entry) : Guest :=
  match g.links.find? iface with
  | none => g
  | some link =>
    if link.entries.any (fun old => decide (old.cidr = e.cidr)) then g
    else
      let link' := { link with entries := link.entries ++ [{ e with ours := false }] }
      { g with links := g.links.save link' }

def dropAddress (g : Guest) (iface : String) (a : Cidr) : Guest :=
  match g.links.find? iface with
  | none => g
  | some link =>
    let link' := { link with entries := link.entries.filter fun e => decide (e.cidr ≠ a) }
    { g with links := g.links.save link' }

def step (g : Guest) : Event → Guest
  | .sync w iface addresses => (syncAliases w g iface addresses).guest
  | .addAddress iface e => addAddress g iface e
  | .dropAddress iface a => dropAddress g iface a
  | .writeFile path lines => { g with files := g.files.save ⟨path, lines, false⟩ }
  | .dropFile path => { g with files := g.files.erase path }

/-- An address from its numbers. -/
def cidr (a b c d plen : Nat) : Cidr :=
  ⟨⟨Fin.ofNat 256 a, Fin.ofNat 256 b, Fin.ofNat 256 c, Fin.ofNat 256 d⟩, Fin.ofNat 33 plen⟩

/-- A guest with one device, without files and without a network stack. -/
def Guest.ofLink (link : Interface) : Guest where
  links := ⟨[link], List.nodup_singleton _⟩
  states := .empty
  files := .empty
  connections := .empty
  ifup := false
  nmcli := false
  systemctl := false
  interfacesDir := false
  netplanDir := false
  sysconfigDir := false
  systemdDir := false
  enabled := false
  added := []

end PveManager.GuestIp
