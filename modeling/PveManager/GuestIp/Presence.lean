import PveManager.GuestIp.Run

/-!
# Whether the addresses are there

The script takes an address for present when its text, read as a regular expression,
matches a word of the listing. An address that is there always matches. Another one
matches too when its dots fall on digits or on other dots of a longer address, or on a
broadcast address, and is then neither added nor missed.
-/

namespace PveManager.GuestIp

open PveManager.Core

/-- Every address that was asked for is assigned to the interface. -/
def AllAssigned (g : Guest) (iface : String) (addresses : List Cidr) : Prop :=
  ∀ a ∈ addresses, ∃ link, g.links.find? iface = some link ∧ link.Has a.ip

/-- In each round the listing shows the address of the round only if it is there. -/
def Unmistaken (link : Interface) (addresses : List Cidr) : Prop :=
  EachRound (fun link a => link.shows a.ip = true → link.Has a.ip) link addresses

/-- Every address is there in the end exactly when none is mistaken for another. -/
theorem has_foldl_raise_iff {link : Interface} {addresses : List Cidr} :
    (∀ a ∈ addresses, (addresses.foldl Interface.raise link).Has a.ip) ↔
      Unmistaken link addresses := by
  have hkeep : ∀ (as : List Cidr) (link : Interface) (ip : IPv4), link.Has ip →
      (as.foldl Interface.raise link).Has ip := by
    intro as
    induction as with
    | nil => exact fun _ _ h => h
    | cons a as ih => exact fun link ip h => ih _ ip (h.raise a)
  constructor
  · intro h before a after he hshows
    subst he
    by_contra hnot
    have hlast := h a (List.mem_append_right _ List.mem_cons_self)
    rw [List.foldl_append] at hlast
    exact not_has_foldl_raise (a :: after) hshows hnot hlast
  · intro h a ha
    obtain ⟨before, after, rfl⟩ := List.append_of_mem ha
    rw [List.foldl_append, List.foldl_cons]
    apply hkeep
    unfold Interface.raise
    split
    · next hshows => exact h before a after rfl hshows
    · exact has_with_iff.mpr (Or.inr rfl)

/-- However `ip addr add` answers, a run that exits with zero has assigned every address,
exactly when no address that the interface lacks is mistaken for one that is shown. -/
theorem allAssigned_iff (g : Guest) (iface : String) (addresses : List Cidr) (del : Cidr → Bool) :
    (∀ add, (syncAliases ⟨add, del⟩ g iface addresses).exit = 0 →
        AllAssigned (syncAliases ⟨add, del⟩ g iface addresses).guest iface addresses) ↔
      (iface ≠ "" → ∀ link, g.links.find? iface = some link →
        Unmistaken (g.cleared ⟨fun _ => false, del⟩ addresses link) addresses) := by
  constructor
  · intro h hname link hlink
    let w : Refusals := ⟨fun _ => false, del⟩
    have hgo : GoesThrough w (g.cleared w addresses link) addresses := fun _ _ _ _ _ => rfl
    have hdone : Completes w g iface addresses :=
      ⟨hname, by simp [hlink], fun link' hlink' => by rwa [Option.some.inj (hlink'.symm.trans hlink)]⟩
    have hall := h w.add (exit_eq_zero_iff.mpr hdone)
    rw [AllAssigned, find?_links_syncAliases hname hlink, Guest.synced,
      addMissing_of_goesThrough hgo] at hall
    rw [← has_foldl_raise_iff]
    intro a ha
    obtain ⟨link', hlink', hhas⟩ := hall a ha
    cases hlink'
    exact hhas
  · intro h add hexit
    have hdone := exit_eq_zero_iff.mp hexit
    have hname := hdone.1
    cases hlink : g.links.find? iface with
    | none =>
      intro a ha
      rw [hdone.2.1 hlink] at ha
      cases ha
    | some link =>
      rw [AllAssigned, find?_links_syncAliases hname hlink, Guest.synced,
        addMissing_of_goesThrough (hdone.2.2 link hlink)]
      intro a ha
      exact ⟨_, rfl, has_foldl_raise_iff.mpr (h hname link hlink) a ha⟩

/-- A guest without a network stack, whose one interface has `10.111.1.5/24`. -/
def plain : Guest := .ofLink
  ⟨"eth0", "2: eth0: <BROADCAST,MULTICAST,UP,LOWER_UP> mtu 1500 qdisc noqueue state UP",
    [{ cidr := cidr 10 111 1 5 24, rest := "scope global eth0" }], none⟩

/-- `10.1.1.1` as a pattern matches the start of `10.111.1.5`: the run ends well and the
address is not there. -/
theorem plain_not_assigned : ¬∀ (w : Refusals) (g : Guest) (iface : String) (addresses : List Cidr),
    (syncAliases w g iface addresses).exit = 0 →
      AllAssigned (syncAliases w g iface addresses).guest iface addresses := by
  intro h
  let w : Refusals := ⟨fun _ => false, fun _ => false⟩
  let a : Cidr := cidr 10 1 1 1 24
  have hexit : (syncAliases w plain "eth0" [a]).exit = 0 := by decide
  obtain ⟨link, hlink, e, he, hip⟩ := h w plain "eth0" [a] hexit a List.mem_cons_self
  have hrow : link ∈ (syncAliases w plain "eth0" [a]).guest.links.rows := KeyedTable.mem_of_find? _ hlink
  have hnone : ∀ link ∈ (syncAliases w plain "eth0" [a]).guest.links.rows, ∀ e ∈ link.entries,
      e.cidr.ip ≠ a.ip := by
    decide
  exact hnone link hrow e he hip

end PveManager.GuestIp
