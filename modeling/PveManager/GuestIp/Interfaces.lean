import PveManager.GuestIp.Stacks
import Mathlib.Data.List.TakeWhile

/-!
# Two interfaces

What is kept for one interface should not change when the script runs for another. The
stacks with a file for each interface keep them apart; the netplan file is one for all
interfaces and a run writes it with its own interface only.
-/

namespace PveManager.GuestIp

open PveManager.Core

/-- `_IFACE_RE`. -/
def validInterface (name : String) : Bool :=
  name.toList.all (fun c => c.isAlphanum || c ∈ ['_', '.', ':', '-']) &&
    (1 ≤ name.length && name.length ≤ 15)

/-- Two different interfaces that the panel accepts. -/
structure TwoInterfaces where
  i : String
  j : String
  validJ : validInterface j = true
  different : i ≠ j

/-- The lines that give an interface its addresses in a netplan file. -/
def netplanOf (iface : String) (lines : List String) : List String :=
  ((lines.dropWhile fun l => decide (l ≠ "    " ++ iface ++ ":")).drop 2).takeWhile
    fun l => "        - ".toList.isPrefixOf l.toList

/-- The lines of a file, none when it is missing. -/
def linesOf (o : Option File) : List String := (o.map File.lines).getD []

/-- The unit restores addresses when the guest starts. -/
def Guest.installed (g : Guest) : Bool :=
  (g.files.find? .helper).isSome && (g.files.find? .unit).isSome && g.enabled

/-- What is kept for an interface over a reboot. -/
@[ext] structure Config where
  ifup : Option (List String)
  netplan : List String
  nm : Option (List Cidr)
  ifcfg : Nat → Option (List String)
  restored : List Cidr

def Guest.config (g : Guest) (iface : String) : Config where
  ifup := (g.files.find? (.ifup iface)).map File.lines
  netplan := netplanOf iface (linesOf (g.files.find? .netplan))
  nm := (g.connectionOf iface).bind fun con =>
    (g.connections.find? con).map Connection.addresses
  ifcfg n := (g.files.find? (.ifcfg (aliasName iface (n + 1)))).map File.lines
  restored := if g.installed then g.prev iface else []

/-- What a run for one interface has to leave alone for the other: netplan's file holds
nothing for it, its connection is not edited, none of its ifcfg files falls under the
pattern of the run, and the unit is there if it restores anything. -/
structure Independent (g : Guest) (t : TwoInterfaces) (addresses : List Cidr) : Prop where
  netplan : g.stack t.i = .netplan → netplanOf t.j (linesOf (g.files.find? .netplan)) = []
  nm : ∀ con, g.stack t.i = .nm con → g.connectionOf t.j = some con →
    ∀ c, g.connections.find? con = some c →
      editConnection (g.prev t.i) addresses c.addresses = c.addresses
  ifcfg : g.stack t.i = .sysconfig → ∀ n f,
    g.files.find? (.ifcfg (aliasName t.j (n + 1))) = some f →
      f.marked = true → f.path.isAliasOf t.i = false
  restored : g.systemd = true → g.prev t.j ≠ [] → g.installed = true

/-! ### Names -/

/-- Two texts that end after their last colon differ before it or not at all. -/
theorem eq_of_append_colon {a b c d : List Char} (hb : ':' ∉ b) (hd : ':' ∉ d)
    (h : a ++ ':' :: b = c ++ ':' :: d) : a = c := by
  rcases List.append_eq_append_iff.mp h with ⟨as, rfl, hrest⟩ | ⟨as, rfl, hrest⟩
  · cases as with
    | nil => exact (List.append_nil a).symm
    | cons x as =>
      injection hrest with _ hrest
      exact absurd (hrest ▸ List.mem_append_right as List.mem_cons_self) hb
  · cases as with
    | nil => exact List.append_nil c
    | cons x as =>
      injection hrest with _ hrest
      exact absurd (hrest ▸ List.mem_append_right as List.mem_cons_self) hd

theorem colon_notMem_toDigits (n : Nat) : ':' ∉ Nat.toDigits 10 n := by
  intro h
  have hdigit := Nat.isDigit_of_mem_toDigits (by decide) (by decide) h
  exact absurd hdigit (by decide)

/-- Alias names of different interfaces differ. -/
theorem aliasName_inj {i j : String} {n m : Nat} (h : aliasName i n = aliasName j m) : i = j := by
  have hlist := congrArg String.toList h
  simp only [aliasName, String.toList_append, Nat.toString_eq_repr, Nat.repr, String.toList_ofList,
    List.append_assoc] at hlist
  exact String.toList_inj.mp
    (eq_of_append_colon (colon_notMem_toDigits n) (colon_notMem_toDigits m) hlist)

theorem not_space_of_valid {name : String} (h : validInterface name = true) : ' ' ∉ name.toList := by
  intro hmem
  simp only [validInterface, Bool.and_eq_true, List.all_eq_true] at h
  exact absurd (h.1 ' ' hmem) (by decide)

/-- The first line of a section is indented by four blanks exactly. -/
theorem section_cases {l name : String} (h : l = "    " ++ name ++ ":") :
    l.toList.take 4 = "    ".toList ∧ l.toList.drop 4 = name.toList ++ ":".toList := by
  have hlist : l.toList = "    ".toList ++ (name.toList ++ ":".toList) := by
    rw [h, String.toList_append, String.toList_append, List.append_assoc]
  have hlength : "    ".toList.length = 4 := by decide
  rw [hlist]
  exact ⟨List.take_left' hlength, List.drop_left' hlength⟩

theorem blank_ne_section {name : String} (h : validInterface name = true) (rest : List Char) :
    ' ' :: rest ≠ name.toList ++ ":".toList := by
  intro he
  have hspace := not_space_of_valid h
  cases hname : name.toList with
  | nil =>
    rw [hname] at he
    injection he with hc _
    exact absurd hc (by decide)
  | cons c cs =>
    rw [hname] at he hspace
    injection he with hc _
    exact hspace (hc ▸ List.mem_cons_self)

/-- No line of a run's file begins the section of another interface. -/
theorem ne_section_of_mem {i j : String} (hj : validInterface j = true) (hne : i ≠ j)
    {addresses : List Cidr} {l : String} (hl : l ∈ netplanLines i addresses) :
    l ≠ "    " ++ j ++ ":" := by
  intro he
  obtain ⟨htake, hdrop⟩ := section_cases he
  rw [netplanLines, List.mem_append, List.mem_map] at hl
  rcases hl with hl | ⟨a, -, rfl⟩
  · simp only [List.mem_cons, List.not_mem_nil, or_false] at hl
    rcases hl with rfl | rfl | rfl | rfl | rfl | rfl
    · exact absurd htake (by decide)
    · exact absurd htake (by decide)
    · exact absurd htake (by decide)
    · exact absurd htake (by decide)
    · have hi : ("    " ++ i ++ ":").toList.drop 4 = i.toList ++ ":".toList := (section_cases rfl).2
      rw [hi] at hdrop
      exact hne (String.toList_inj.mp (List.append_cancel_right hdrop))
    · exact blank_ne_section hj "  addresses:".toList.tail hdrop
  · rw [String.toList_append] at hdrop
    exact blank_ne_section hj (("    - ".toList ++ a.text.toList).tail) hdrop

/-- A run writes no section of another interface. -/
theorem netplanOf_netplanLines {i j : String} (hj : validInterface j = true) (hne : i ≠ j)
    (addresses : List Cidr) : netplanOf j (netplanLines i addresses) = [] := by
  have hall : (netplanLines i addresses).dropWhile
      (fun l => decide (l ≠ "    " ++ j ++ ":")) = [] := by
    rw [List.dropWhile_eq_nil_iff]
    exact fun l hl => decide_eq_true (ne_section_of_mem hj hne hl)
  rw [netplanOf, hall]
  rfl

/-! ### The unit -/

theorem connections_persistUnit (g : Guest) : (persistUnit g).connections = g.connections := by
  obtain ⟨files, enabled, he⟩ := persistUnit_eq g
  rw [he]

/-- A state file that lists an address is left to restore. -/
theorem remaining_of_prev {g : Guest} {j : String} (h : g.prev j ≠ []) : g.remaining = true := by
  unfold Guest.prev at h
  cases hf : g.states.find? j with
  | none =>
    rw [hf] at h
    exact absurd rfl h
  | some s =>
    rw [hf] at h
    refine List.any_eq_true.mpr ⟨s, g.states.mem_of_find? hf, ?_⟩
    cases hs : s.addresses with
    | nil => exact absurd hs h
    | cons _ _ => rfl

/-- While anything is left to restore, a run sees to the unit. -/
theorem installed_persistUnit {g : Guest} (hsystemd : g.systemd = true)
    (hremaining : (persistUnit g).remaining = true) : (persistUnit g).installed = true := by
  have hleft : g.remaining = true := by
    rwa [Guest.remaining, states_persistUnit] at hremaining
  have henabled : (persistUnit g).enabled = true := by
    rw [persistUnit, if_pos hsystemd, if_pos hleft]
  rw [Guest.installed, find?_persistUnit, find?_persistUnit, henabled]
  simp [hsystemd, hleft]

/-! ### A run that completes -/

section Run

variable {w : Refusals} {g : Guest} {t : TwoInterfaces} {addresses : List Cidr}

/-- The files that the native stack writes, as a lookup finds them after the run. -/
theorem find?_syncAliases (hdone : Completes w g t.i addresses) {p : Path}
    (hp : ¬(p = .helper ∨ p = .unit)) :
    (syncAliases w g t.i addresses).guest.files.find? p =
      (persistNative (g.listed w t.i addresses) t.i (g.prev t.i) addresses).files.find? p := by
  rw [(syncAliases_of_completes hdone).2.1, find?_persistUnit, if_neg fun h => hp h.2]

/-- Every stack leaves a file that no stack but sysconfig and netplan writes. -/
theorem find?_persistNative_of_apart {p : Path} {prev : List Cidr} (hifup : p ≠ .ifup t.i)
    (hinterfaces : p ≠ .interfaces) (hnetplan : g.stack t.i = .netplan → p ≠ .netplan)
    (hifcfg : ∀ name, p ≠ .ifcfg name) :
    (persistNative (g.listed w t.i addresses) t.i prev addresses).files.find? p =
      g.files.find? p := by
  unfold persistNative
  rw [stack_listed]
  cases hstack : g.stack t.i with
  | none => rw [files_listed]
  | nm con => dsimp only; rw [files_listed]
  | ifupdown =>
    dsimp only
    rw [find?_persistIfupdown, if_neg hifup, find?_sourced_of_ne hinterfaces, files_listed]
  | netplan =>
    dsimp only
    rw [find?_persistNetplan, if_neg (hnetplan hstack), files_listed]
  | sysconfig =>
    dsimp only
    rcases find?_persistSysconfig (g.listed w t.i addresses).files t.i addresses p with
      ⟨x, -, hpath, -⟩ | ⟨-, hfind⟩
    · exact absurd hpath.symm (hifcfg _)
    · have halias : ∀ f : File, f.path = p → f.path.isAliasOf t.i = false := by
        intro f hf
        cases p with
        | ifcfg name => exact absurd rfl (hifcfg name)
        | _ => rw [hf]; rfl
      rw [hfind, files_listed]
      cases hf : g.files.find? p with
      | none => rfl
      | some f =>
        rw [Option.filter_some, halias f (g.files.key_of_find? hf)]
        rfl

theorem ifup_config (hdone : Completes w g t.i addresses) :
    ((syncAliases w g t.i addresses).guest.config t.j).ifup = (g.config t.j).ifup := by
  have hifup : Path.ifup t.j ≠ .ifup t.i := fun h => t.different (Path.ifup.inj h).symm
  unfold Guest.config
  dsimp only
  rw [find?_syncAliases hdone (by simp), find?_persistNative_of_apart hifup (by simp)
    (fun _ => by simp) (by simp)]

/-- A netplan file of the run holds nothing for the other interface. -/
theorem netplan_config_iff (hdone : Completes w g t.i addresses) :
    ((syncAliases w g t.i addresses).guest.config t.j).netplan = (g.config t.j).netplan ↔
      (g.stack t.i = .netplan → netplanOf t.j (linesOf (g.files.find? .netplan)) = []) := by
  unfold Guest.config
  dsimp only
  rw [find?_syncAliases hdone (by simp)]
  by_cases hstack : g.stack t.i = .netplan
  · have hafter : netplanOf t.j (linesOf ((persistNative (g.listed w t.i addresses) t.i (g.prev t.i)
        addresses).files.find? .netplan)) = [] := by
      unfold persistNative
      rw [stack_listed, hstack]
      dsimp only
      rw [find?_persistNetplan, if_pos rfl]
      split
      · rfl
      · exact netplanOf_netplanLines t.validJ t.different addresses
    rw [hafter]
    exact ⟨fun h _ => h.symm, fun h => (h hstack).symm⟩
  · rw [find?_persistNative_of_apart (by simp) (by simp) (fun h => absurd h hstack) (by simp)]
    exact iff_of_true rfl fun h => absurd h hstack

/-- An ifcfg file of the other interface goes when it falls under the run's pattern. -/
theorem ifcfg_config_iff (hdone : Completes w g t.i addresses) :
    ((syncAliases w g t.i addresses).guest.config t.j).ifcfg = (g.config t.j).ifcfg ↔
      (g.stack t.i = .sysconfig → ∀ n f,
        g.files.find? (.ifcfg (aliasName t.j (n + 1))) = some f →
          f.marked = true → f.path.isAliasOf t.i = false) := by
  rw [funext_iff]
  by_cases hstack : g.stack t.i = .sysconfig
  · have hafter : ∀ n, (syncAliases w g t.i addresses).guest.files.find?
        (.ifcfg (aliasName t.j (n + 1))) =
          (g.files.find? (.ifcfg (aliasName t.j (n + 1)))).filter
            fun f => !(f.path.isAliasOf t.i && f.marked) := by
      intro n
      rw [find?_syncAliases hdone (by simp)]
      unfold persistNative
      rw [stack_listed, hstack]
      dsimp only
      rcases find?_persistSysconfig (g.listed w t.i addresses).files t.i addresses
        (.ifcfg (aliasName t.j (n + 1))) with ⟨x, -, hpath, -⟩ | ⟨-, hfind⟩
      · exact absurd (aliasName_inj (Path.ifcfg.inj hpath)) t.different
      · rw [hfind, files_listed]
    rw [forall_prop_of_true hstack]
    refine forall_congr' fun n => ?_
    unfold Guest.config
    dsimp only
    rw [hafter n]
    cases hf : g.files.find? (.ifcfg (aliasName t.j (n + 1))) with
    | none => simp
    | some f =>
      cases hmarked : f.marked with
      | false => simp [Option.filter_some, hmarked]
      | true =>
        cases halias : f.path.isAliasOf t.i with
        | false => simp [Option.filter_some, hmarked, halias]
        | true => simp [Option.filter_some, hmarked, halias]
  · refine iff_of_true (fun n => ?_) fun h => absurd h hstack
    unfold Guest.config
    dsimp only
    rw [find?_syncAliases hdone (by simp)]
    unfold persistNative
    rw [stack_listed]
    cases hother : g.stack t.i with
    | none => rw [files_listed]
    | nm con => dsimp only; rw [files_listed]
    | ifupdown =>
      dsimp only
      rw [find?_persistIfupdown, if_neg (by simp), find?_sourced_of_ne (by simp), files_listed]
    | netplan =>
      dsimp only
      rw [find?_persistNetplan, if_neg (by simp), files_listed]
    | sysconfig => exact absurd hother hstack

/-- The connection of the other interface changes when it is the one that is edited. -/
theorem nm_config_iff (hdone : Completes w g t.i addresses) :
    ((syncAliases w g t.i addresses).guest.config t.j).nm = (g.config t.j).nm ↔
      ∀ con, g.stack t.i = .nm con → g.connectionOf t.j = some con →
        ∀ c, g.connections.find? con = some c →
          editConnection (g.prev t.i) addresses c.addresses = c.addresses := by
  unfold Guest.config
  dsimp only
  rw [connectionOf_syncAliases, (syncAliases_of_completes hdone).2.1, connections_persistUnit]
  unfold persistNative
  rw [stack_listed]
  cases hstack : g.stack t.i with
  | nm con =>
    dsimp only
    rw [connections_listed]
    simp only [Stack.nm.injEq, forall_eq']
    cases hj : g.connectionOf t.j with
    | none => simp
    | some other =>
      rw [Option.bind_some, Option.bind_some, persistConnection, KeyedTable.find?_mapRows]
      cases hc : g.connections.find? other with
      | none =>
        refine iff_of_true rfl fun he c hc' => ?_
        rw [← Option.some.inj he, hc] at hc'
        cases hc'
      | some c =>
        have hname : c.name = other := g.connections.key_of_find? hc
        by_cases hother : other = con
        · subst hother
          simp [hname, hc]
        · simp [hname, hother]
  | none => simp [connections_listed]
  | ifupdown => simp [connections_listed]
  | netplan => simp [connections_listed]
  | sysconfig => simp [connections_listed]

/-- Without systemd the unit is not touched. -/
theorem find?_syncAliases_unit (hdone : Completes w g t.i addresses) (hsystemd : g.systemd = false)
    {p : Path} (hp : p = .helper ∨ p = .unit) :
    (syncAliases w g t.i addresses).guest.files.find? p = g.files.find? p := by
  rw [(syncAliases_of_completes hdone).2.1, find?_persistUnit, systemd_persistNative,
    systemd_listed, hsystemd, if_neg (by simp)]
  apply find?_persistNative_of_apart
  all_goals rcases hp with rfl | rfl <;> simp

theorem enabled_syncAliases (hdone : Completes w g t.i addresses) (hsystemd : g.systemd = false) :
    (syncAliases w g t.i addresses).guest.enabled = g.enabled := by
  have hnative : (persistNative (g.listed w t.i addresses) t.i (g.prev t.i) addresses).systemd =
      false := by
    rw [systemd_persistNative, systemd_listed, hsystemd]
  rw [(syncAliases_of_completes hdone).2.1, persistUnit, if_neg (by simp [hnative])]
  exact enabled_persistNative_listed

/-- The unit is there for the other interface if it was, or if systemd is missing. -/
theorem restored_config_iff (hdone : Completes w g t.i addresses) :
    ((syncAliases w g t.i addresses).guest.config t.j).restored = (g.config t.j).restored ↔
      (g.systemd = true → g.prev t.j ≠ [] → g.installed = true) := by
  have hprev : (syncAliases w g t.i addresses).guest.prev t.j = g.prev t.j :=
    (prev_syncAliases_of_completes hdone t.j).trans (if_neg t.different)
  unfold Guest.config
  dsimp only
  rw [hprev]
  by_cases hnil : g.prev t.j = []
  · rw [hnil]
    exact iff_of_true (by simp) fun _ h => absurd rfl h
  · cases hsystemd : g.systemd with
    | true =>
      have hinstalled : (syncAliases w g t.i addresses).guest.installed = true := by
        have hstates : (syncAliases w g t.i addresses).guest.remaining = true := remaining_of_prev
          (show (syncAliases w g t.i addresses).guest.prev t.j ≠ [] by rwa [hprev])
        rw [(syncAliases_of_completes hdone).2.1] at hstates ⊢
        exact installed_persistUnit (by rw [systemd_persistNative, systemd_listed, hsystemd]) hstates
      rw [hinstalled]
      cases hbefore : g.installed with
      | true => simp
      | false => simp [hnil]
    | false =>
      have hsame : (syncAliases w g t.i addresses).guest.installed = g.installed := by
        have hhelper := find?_syncAliases_unit hdone hsystemd (Or.inl rfl)
        have hunit := find?_syncAliases_unit hdone hsystemd (Or.inr rfl)
        rw [Guest.installed, hhelper, hunit, enabled_syncAliases hdone hsystemd, Guest.installed]
      rw [hsame]
      simp

end Run

/-- Running the script for one interface leaves what is kept for the other exactly when
the run does not complete or the guest keeps the two apart. -/
theorem config_iff (w : Refusals) (g : Guest) (t : TwoInterfaces) (addresses : List Cidr) :
    (syncAliases w g t.i addresses).guest.config t.j = g.config t.j ↔
      (Completes w g t.i addresses → Independent g t addresses) := by
  by_cases hdone : Completes w g t.i addresses
  · have hifup := ifup_config hdone
    constructor
    · intro h _
      exact ⟨(netplan_config_iff hdone).mp (by rw [h]), (nm_config_iff hdone).mp (by rw [h]),
        (ifcfg_config_iff hdone).mp (by rw [h]), (restored_config_iff hdone).mp (by rw [h])⟩
    · intro h
      obtain ⟨hnetplan, hnm, hifcfg, hrestored⟩ := h hdone
      exact Config.ext hifup ((netplan_config_iff hdone).mpr hnetplan)
        ((nm_config_iff hdone).mpr hnm) ((ifcfg_config_iff hdone).mpr hifcfg)
        ((restored_config_iff hdone).mpr hrestored)
  · refine iff_of_true ?_ fun h => absurd h hdone
    obtain ⟨links, added, he⟩ := syncAliases_of_not_eq hdone
    have hactive : (syncAliases w g t.i addresses).guest.connectionOf t.j = g.connectionOf t.j :=
      connectionOf_syncAliases t.j
    rw [he] at hactive ⊢
    exact Config.ext rfl rfl (by rw [Guest.config, Guest.config, hactive]) rfl rfl

/-- A guest with two interfaces and netplan, before any run. -/
def twoPorts : Guest :=
  { Guest.ofLink ⟨"eth0", "2: eth0: <BROADCAST,MULTICAST,UP,LOWER_UP> mtu 1500", [], none⟩ with
    links := ⟨[⟨"eth0", "2: eth0: <BROADCAST,MULTICAST,UP,LOWER_UP> mtu 1500", [], none⟩,
      ⟨"eth1", "3: eth1: <BROADCAST,MULTICAST,UP,LOWER_UP> mtu 1500", [], none⟩], by decide⟩
    netplanDir := true }

/-- The run for `eth0` overwrites the netplan file that holds the address of `eth1`. -/
theorem twoPorts_not_independent : ¬∀ (w : Refusals) (g : Guest) (t : TwoInterfaces)
    (addresses : List Cidr), (syncAliases w g t.i addresses).guest.config t.j = g.config t.j := by
  intro h
  let accepts : Refusals := ⟨fun _ => false, fun _ => false⟩
  let g := (syncAliases accepts twoPorts "eth1" [cidr 10 9 9 6 24]).guest
  let t : TwoInterfaces := ⟨"eth0", "eth1", by decide, by decide⟩
  have hsame := congrArg Config.netplan (h accepts g t [cidr 10 9 9 5 24])
  have hbefore : (g.config "eth1").netplan = ["        - 10.9.9.6/24"] := by decide
  have hafter : ((syncAliases accepts g "eth0" [cidr 10 9 9 5 24]).guest.config "eth1").netplan =
      [] := by
    decide
  rw [show (g.config t.j).netplan = _ from hbefore] at hsame
  cases hafter.symm.trans hsame

end PveManager.GuestIp
