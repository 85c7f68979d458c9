import Mathlib.Algebra.Order.Ring.Rat
import Mathlib.Data.List.Induction
import Mathlib.Logic.Function.Basic
import PveManager.Core.Apart
import PveManager.Core.Dict
import PveManager.Models.Records

/-!
# Rates of the collected metrics

Proxmox counts bytes since a guest was started. The collector keeps the counters of the
last tick under text keys and stores the differences as rates; a guest that a tick did not
sample is forgotten. Here the keys are told apart, and the rates of every run are traced
back to the counters of two ticks in a row.
-/

namespace PveManager.Monitoring

open PveManager.Core

/-! ### MetricReading the answers -/

/-- A guest on a panel server. -/
abbrev MetricGuest := ServerId × Vmid

/-- `compute_rate`: the rate is unknown without a previous counter or elapsed time, and zero
after a reset. -/
def computeRate (prev cur : Option Rat) (dt : Rat) : Option Rat :=
  match prev, cur with
  | some p, some c =>
    if dt ≤ 0 then none
    else if c - p < 0 then some 0
    else some ((c - p) / dt)
  | _, _ => none

/-- The live status of a running guest. -/
structure GuestStatus where
  cpu : Option Rat
  mem : Option Nat
  maxmem : Option Nat
  disk : Option Nat
  maxdisk : Option Nat
  netin : Option Nat
  netout : Option Nat
  diskread : Option Nat
  diskwrite : Option Nat

/-- A filesystem that the guest agent reports. -/
structure FsInfo where
  used : Option Nat
  total : Option Nat

/-- `aggregate_fsinfo`. -/
def aggregateFsinfo (disks : List FsInfo) : Nat × Nat :=
  (disks.foldl (fun n d => n + d.used.getD 0) 0, disks.foldl (fun n d => n + d.total.getD 0) 0)

/-- The digits at the start of a text. -/
def leadingNumber (chars : List Char) : Option Nat :=
  let digits := chars.takeWhile Char.isDigit
  if digits = [] then none else some (Nat.ofDigitChars 10 digits 0)

/-- The sum of the numbers that follow a text. -/
def sumAfter (pattern : List Char) : List Char → Nat
  | [] => 0
  | c :: cs =>
    (if pattern <+: c :: cs then (leadingNumber ((c :: cs).drop pattern.length)).getD 0 else 0) +
      sumAfter pattern cs

/-- `parse_blockstats`: the read and write operations of all block devices. -/
def parseBlockstats (text : String) : Nat × Nat :=
  (sumAfter "rd_operations=".toList text.toList, sumAfter "wr_operations=".toList text.toList)

/-- A row of a node's `netstat`; the number of the guest is missing where it is none. -/
structure NetRow where
  vmid : Option Vmid
  dev : Option String
  bytesIn : Option Nat
  bytesOut : Option Nat

/-- The counters of a guest's interfaces. -/
abbrev NicCounters := KeyedTable (Prod.fst : String × (Nat × Nat) → String)

/-- `parse_netstat`. -/
def parseNetstat (rows : List NetRow) (vmid : Vmid) : NicCounters :=
  rows.foldl (fun out r =>
    if r.vmid = some vmid ∧ truthy r.dev then
      out.set (r.dev.getD "") (r.bytesIn.getD 0, r.bytesOut.getD 0)
    else out) .empty

/-- A guest in the listing of a tick. -/
structure MetricItem where
  serverId : ServerId
  vmid : Vmid
  type : Option String
  node : Option String
  status : Option String
  deriving DecidableEq

def MetricItem.guest (it : MetricItem) : MetricGuest := (it.serverId, it.vmid)

/-- What a tick meets. A request that raises has no answer. -/
structure MetricsTick where
  /-- The monotonic clock. -/
  now : Rat
  /-- The time of day. -/
  ts : Time
  items : List MetricItem
  /-- A server lists every guest number once. -/
  items_nodup : (items.map MetricItem.guest).Nodup
  clients : ServerId → Bool
  status : MetricItem → Option (Option GuestStatus)
  fsinfo : MetricItem → Option (List FsInfo)
  blockstats : MetricItem → Option String
  /-- One request per server and node; a failed one answers no rows. -/
  netstat : ServerId → String → List NetRow

/-- Named counters. -/
abbrev Counters := List (String × Rat)

/-- What a tick reads of a guest. -/
structure MetricReading where
  guest : MetricGuest
  type : Option String
  cpu : Option Rat
  mem : Option Nat
  maxmem : Option Nat
  diskUsed : Nat
  diskTotal : Nat
  counters : Counters
  nics : NicCounters

/-- The counters of a live status. -/
def GuestStatus.counters (s : GuestStatus) : Counters :=
  [("netin", (s.netin.getD 0 : Nat)), ("netout", (s.netout.getD 0 : Nat)),
    ("diskread", (s.diskread.getD 0 : Nat)), ("diskwrite", (s.diskwrite.getD 0 : Nat))]

namespace MetricsTick

variable (k : MetricsTick) (it : MetricItem)

/-- The used and total bytes of the disk: a virtual machine is asked through its agent. -/
def diskFill (status : GuestStatus) : Option (Nat × Nat) :=
  if it.type = some "qemu" then (k.fsinfo it).map aggregateFsinfo
  else some (status.disk.getD 0, status.maxdisk.getD 0)

/-- The cumulative counters, for a virtual machine with its block operations. -/
def cumulative (status : GuestStatus) : Option Counters :=
  if it.type = some "qemu" then
    (k.blockstats it).map fun text =>
      status.counters ++ [("rd_ops", ((parseBlockstats text).1 : Rat)),
        ("wr_ops", ((parseBlockstats text).2 : Rat))]
  else some status.counters

/-- The requests for one guest, up to its interfaces. -/
def reading : Option MetricReading :=
  if it.status ≠ some "running" then none
  else if k.clients it.serverId = false ∨ truthy it.node = false then none
  else do
    let status ← (← k.status it)
    let fill ← k.diskFill it status
    let cur ← k.cumulative it status
    pure
      { guest := it.guest
        type := it.type
        cpu := status.cpu
        mem := status.mem
        maxmem := status.maxmem
        diskUsed := fill.1
        diskTotal := fill.2
        counters := cur
        nics := parseNetstat (k.netstat it.serverId (it.node.getD "")) it.vmid }

variable {k it}

/-- A reading is about its guest and has the counters of its status. -/
theorem guest_reading {r : MetricReading} (h : k.reading it = some r) :
    r.guest = it.guest ∧ ∃ status, k.status it = some (some status) ∧
      k.cumulative it status = some r.counters := by
  unfold reading at h
  split at h
  · exact absurd h (Option.some_ne_none r).symm
  · split at h
    · exact absurd h (Option.some_ne_none r).symm
    · obtain ⟨answer, hanswer, h⟩ := Option.bind_eq_some_iff.mp h
      obtain ⟨status, hstatus, h⟩ := Option.bind_eq_some_iff.mp h
      obtain ⟨fill, _, h⟩ := Option.bind_eq_some_iff.mp h
      obtain ⟨cur, hcur, h⟩ := Option.bind_eq_some_iff.mp h
      obtain rfl := Option.some.inj h
      exact ⟨rfl, status, by rw [hanswer, hstatus], hcur⟩

end MetricsTick

/-! ### The tick -/

/-- A stored sample of a guest. -/
structure InstanceMetric where
  guest : MetricGuest
  vmType : Option String
  ts : Time
  cpu : Option Rat
  mem : Option Nat
  maxmem : Option Nat
  diskUsed : Nat
  diskTotal : Nat
  netinRate : Option Rat
  netoutRate : Option Rat
  diskreadRate : Option Rat
  diskwriteRate : Option Rat
  iopsRead : Option Rat
  iopsWrite : Option Rat

/-- A stored sample of an interface. -/
structure InstanceNicMetric where
  guest : MetricGuest
  ts : Time
  dev : String
  inRate : Option Rat
  outRate : Option Rat

/-- The counters of the last tick with its clock, by key. -/
abbrev Previous := String → Option (Rat × Counters)

/-- `f"{sid}:{vmid}"`. -/
def metricKey (g : MetricGuest) : String := toString g.1 ++ ":" ++ toString g.2

/-- `f"{sid}:{vmid}:{dev}"`. -/
def nicKey (g : MetricGuest) (dev : String) : String := metricKey g ++ ":" ++ dev

/-- The rate of a counter since the entry under its key. -/
def rateSince (entry : Option (Rat × Counters)) (now : Rat) (cur : Counters) (name : String) :
    Option Rat :=
  computeRate (entry.bind fun e => e.2.lookup name) (cur.lookup name)
    ((entry.map fun e => now - e.1).getD 0)

/-- The collector inside a tick. -/
structure Collecting where
  prev : Previous
  seen : List String
  metrics : List InstanceMetric
  nics : List InstanceNicMetric

/-- The sample of a guest against the entry of its key. -/
def MetricReading.metric (r : MetricReading) (k : MetricsTick) (entry : Option (Rat × Counters)) :
    InstanceMetric where
  guest := r.guest
  vmType := r.type
  ts := k.ts
  cpu := r.cpu
  mem := r.mem
  maxmem := r.maxmem
  diskUsed := r.diskUsed
  diskTotal := r.diskTotal
  netinRate := rateSince entry k.now r.counters "netin"
  netoutRate := rateSince entry k.now r.counters "netout"
  diskreadRate := rateSince entry k.now r.counters "diskread"
  diskwriteRate := rateSince entry k.now r.counters "diskwrite"
  iopsRead :=
    if r.type = some "qemu" then rateSince entry k.now r.counters "rd_ops" else none
  iopsWrite :=
    if r.type = some "qemu" then rateSince entry k.now r.counters "wr_ops" else none

/-- The counters of an interface. -/
def nicCounters (bytes : Nat × Nat) : Counters := [("in", bytes.1), ("out", bytes.2)]

/-- The sample of an interface against the entry of its key. -/
def nicMetric (k : MetricsTick) (g : MetricGuest) (dev : String) (bytes : Nat × Nat)
    (entry : Option (Rat × Counters)) : InstanceNicMetric where
  guest := g
  ts := k.ts
  dev := dev
  inRate := rateSince entry k.now (nicCounters bytes) "in"
  outRate := rateSince entry k.now (nicCounters bytes) "out"

namespace Collecting

/-- Store a sample of an interface and remember its counters. -/
def addNic (k : MetricsTick) (g : MetricGuest) (s : Collecting) (nic : String × (Nat × Nat)) :
    Collecting :=
  { s with
    prev := Function.update s.prev (nicKey g nic.1) (some (k.now, nicCounters nic.2))
    seen := nicKey g nic.1 :: s.seen
    nics := s.nics ++ [nicMetric k g nic.1 nic.2 (s.prev (nicKey g nic.1))] }

/-- Store the sample of a guest and remember its counters. -/
def addGuest (k : MetricsTick) (s : Collecting) (r : MetricReading) : Collecting :=
  { s with
    prev := Function.update s.prev (metricKey r.guest) (some (k.now, r.counters))
    seen := metricKey r.guest :: s.seen
    metrics := s.metrics ++ [r.metric k (s.prev (metricKey r.guest))] }

/-- One guest of a tick. -/
def collectItem (k : MetricsTick) (s : Collecting) (it : MetricItem) : Collecting :=
  match k.reading it with
  | none => s
  | some r => r.nics.rows.foldl (addNic k r.guest) (s.addGuest k r)

end Collecting

/-- `collect_once`: the samples it stores, and the counters it leaves. -/
def collectOnce (prev : Previous) (k : MetricsTick) : Collecting :=
  let s := k.items.foldl (Collecting.collectItem k) ⟨prev, [], [], []⟩
  { s with prev := fun key => if key ∈ s.seen then s.prev key else none }

/-- The counters after a run of ticks. -/
def previousAfter (ks : List MetricsTick) : Previous :=
  ks.foldl (fun prev k => (collectOnce prev k).prev) fun _ => none

/-! ### Keys -/

theorem toList_toString_nat (n : Nat) : (toString n).toList = Nat.toDigits 10 n := Nat.toList_repr

theorem colon_not_mem_toDigits (n : Nat) : ':' ∉ Nat.toDigits 10 n := by
  intro h
  exact absurd (Nat.isDigit_of_mem_toDigits (by decide) (by decide) h) (by decide)

theorem toDigits_injective {m n : Nat} (h : Nat.toDigits 10 m = Nat.toDigits 10 n) : m = n := by
  rw [← Nat.ofDigitChars_ten_toDigits (n := m), h, Nat.ofDigitChars_ten_toDigits]

theorem toList_metricKey (g : MetricGuest) :
    (metricKey g).toList = Nat.toDigits 10 g.1 ++ ':' :: Nat.toDigits 10 g.2 := by
  rw [metricKey, String.toList_append, String.toList_append, toList_toString_nat,
    toList_toString_nat, List.append_assoc]
  rfl

theorem splitOn_metricKey (g : MetricGuest) :
    (metricKey g).toList.splitOn ':' = [Nat.toDigits 10 g.1, Nat.toDigits 10 g.2] := by
  rw [toList_metricKey, List.splitOn_append_cons_self_of_not_mem (colon_not_mem_toDigits g.1),
    List.splitOn_eq_singleton (colon_not_mem_toDigits g.2)]

theorem splitOn_nicKey (g : MetricGuest) (dev : String) :
    (nicKey g dev).toList.splitOn ':' =
      Nat.toDigits 10 g.1 :: Nat.toDigits 10 g.2 :: dev.toList.splitOn ':' := by
  have hlist : (nicKey g dev).toList =
      Nat.toDigits 10 g.1 ++ ':' :: (Nat.toDigits 10 g.2 ++ ':' :: dev.toList) := by
    rw [nicKey, String.toList_append, String.toList_append, toList_metricKey]
    simp
  rw [hlist, List.splitOn_append_cons_self_of_not_mem (colon_not_mem_toDigits g.1),
    List.splitOn_append_cons_self_of_not_mem (colon_not_mem_toDigits g.2)]

/-- Guests have different keys. -/
theorem metricKey_inj {g g' : MetricGuest} : metricKey g = metricKey g' ↔ g = g' := by
  refine ⟨fun h => ?_, congrArg metricKey⟩
  have hsplit := congrArg (fun s : String => s.toList.splitOn ':') h
  simp only [splitOn_metricKey, List.cons.injEq, and_true] at hsplit
  exact Prod.ext (toDigits_injective hsplit.1) (toDigits_injective hsplit.2)

/-- Interfaces have different keys. -/
theorem nicKey_inj {g g' : MetricGuest} {dev dev' : String} :
    nicKey g dev = nicKey g' dev' ↔ g = g' ∧ dev = dev' := by
  refine ⟨fun h => ?_, fun h => by rw [h.1, h.2]⟩
  have hsplit := congrArg (fun s : String => s.toList.splitOn ':') h
  simp only [splitOn_nicKey, List.cons.injEq] at hsplit
  have hg : g = g' := Prod.ext (toDigits_injective hsplit.1) (toDigits_injective hsplit.2.1)
  subst hg
  refine ⟨rfl, String.toList_injective ?_⟩
  have hlist := congrArg String.toList h
  simp only [nicKey, String.toList_append] at hlist
  exact List.append_cancel_left hlist

/-- No guest has the key of an interface. -/
theorem metricKey_ne_nicKey (g g' : MetricGuest) (dev : String) : metricKey g ≠ nicKey g' dev := by
  intro h
  have hsplit := congrArg (fun s : String => s.toList.splitOn ':') h
  simp only [splitOn_metricKey, splitOn_nicKey, List.cons.injEq] at hsplit
  exact List.splitOn_ne_nil _ _ hsplit.2.2.symm

/-! ### One guest in a tick -/

/-- What the collector holds about one guest. -/
structure GuestPart where
  main : Option (Rat × Counters)
  mainSeen : Bool
  nic : String → Option (Rat × Counters)
  nicSeen : String → Bool
  metrics : List InstanceMetric
  nics : List InstanceNicMetric

namespace Collecting

/-- The collector's part of a guest. -/
def part (g : MetricGuest) (s : Collecting) : GuestPart where
  main := s.prev (metricKey g)
  mainSeen := metricKey g ∈ s.seen
  nic := fun dev => s.prev (nicKey g dev)
  nicSeen := fun dev => nicKey g dev ∈ s.seen
  metrics := s.metrics.filter fun m => m.guest = g
  nics := s.nics.filter fun m => m.guest = g

/-- A sample of another guest leaves the part alone. -/
theorem part_addGuest_ne (k : MetricsTick) (s : Collecting) (r : MetricReading) {g : MetricGuest}
    (h : r.guest ≠ g) : (s.addGuest k r).part g = s.part g := by
  have hkey : metricKey g ≠ metricKey r.guest := fun he => h (metricKey_inj.mp he).symm
  have hnic : ∀ dev, nicKey g dev ≠ metricKey r.guest := fun dev he =>
    metricKey_ne_nicKey _ _ _ he.symm
  simp [part, addGuest, hkey, hnic, MetricReading.metric, h]

theorem part_addNic_ne (k : MetricsTick) (s : Collecting) (nic : String × (Nat × Nat))
    {g g' : MetricGuest} (h : g' ≠ g) : (s.addNic k g' nic).part g = s.part g := by
  have hkey : metricKey g ≠ nicKey g' nic.1 := metricKey_ne_nicKey _ _ _
  have hnic : ∀ dev, nicKey g dev ≠ nicKey g' nic.1 := fun dev he => h (nicKey_inj.mp he).1.symm
  simp [part, addNic, hkey, hnic, nicMetric, h]

/-- The tick of one guest leaves the others alone. -/
theorem part_collectItem_ne (k : MetricsTick) (s : Collecting) (it : MetricItem)
    (g : MetricGuest) (h : it.guest ≠ g) : (s.collectItem k it).part g = s.part g := by
  unfold collectItem
  cases hr : k.reading it with
  | none => rfl
  | some r =>
    have hne : r.guest ≠ g := by rwa [(MetricsTick.guest_reading hr).1]
    have hrest := List.foldlRecOn (motive := fun s' => part g s' = part g (s.addGuest k r))
      r.nics.rows (addNic k r.guest) rfl
      fun s' hs' nic _ => (part_addNic_ne k s' nic hne).trans hs'
    exact hrest.trans (part_addGuest_ne k s r hne)

theorem part_addGuest (k : MetricsTick) (s : Collecting) (r : MetricReading) :
    (s.addGuest k r).part r.guest =
      { s.part r.guest with
        main := some (k.now, r.counters)
        mainSeen := true
        metrics := (s.part r.guest).metrics ++ [r.metric k (s.part r.guest).main] } := by
  have hnic : ∀ dev, nicKey r.guest dev ≠ metricKey r.guest := fun dev he =>
    metricKey_ne_nicKey _ _ _ he.symm
  simp [part, addGuest, hnic, MetricReading.metric]

theorem part_addNic (k : MetricsTick) (s : Collecting) (g : MetricGuest)
    (nic : String × (Nat × Nat)) :
    (s.addNic k g nic).part g =
      { s.part g with
        nic := Function.update (s.part g).nic nic.1 (some (k.now, nicCounters nic.2))
        nicSeen := Function.update (s.part g).nicSeen nic.1 true
        nics := (s.part g).nics ++ [nicMetric k g nic.1 nic.2 ((s.part g).nic nic.1)] } := by
  have hkey : metricKey g ≠ nicKey g nic.1 := metricKey_ne_nicKey _ _ _
  have hnic : (fun dev => (s.addNic k g nic).prev (nicKey g dev)) =
      Function.update (s.part g).nic nic.1 (some (k.now, nicCounters nic.2)) := by
    funext dev
    by_cases hd : dev = nic.1
    · subst hd
      simp [part, addNic]
    · have hne : nicKey g dev ≠ nicKey g nic.1 := fun he => hd (nicKey_inj.mp he).2
      simp [part, addNic, hd, hne]
  have hseen : (fun dev => decide (nicKey g dev ∈ (s.addNic k g nic).seen)) =
      Function.update (s.part g).nicSeen nic.1 true := by
    funext dev
    by_cases hd : dev = nic.1
    · subst hd
      simp [part, addNic]
    · have hne : nicKey g dev ≠ nicKey g nic.1 := fun he => hd (nicKey_inj.mp he).2
      simp [part, addNic, hd, hne]
  rw [part, hnic, hseen]
  simp [part, addNic, hkey, nicMetric]

end Collecting

/-- The counters that rows of interfaces give a device. -/
def nicRow (rows : List (String × (Nat × Nat))) (dev : String) : Option (Nat × Nat) :=
  (rows.find? fun nic => nic.1 = dev).map Prod.snd

namespace Collecting

/-- The interfaces of a guest, each against its own entry. -/
theorem part_foldl_addNic (k : MetricsTick) (g : MetricGuest)
    {rows : List (String × (Nat × Nat))} (hnd : (rows.map Prod.fst).Nodup) (s : Collecting) :
    (rows.foldl (addNic k g) s).part g =
      { s.part g with
        nic := fun dev => ((nicRow rows dev).map fun b => (k.now, nicCounters b)).or
          ((s.part g).nic dev)
        nicSeen := fun dev => (nicRow rows dev).isSome || (s.part g).nicSeen dev
        nics := (s.part g).nics ++
          rows.map fun nic => nicMetric k g nic.1 nic.2 ((s.part g).nic nic.1) } := by
  induction rows generalizing s with
  | nil => simp [nicRow]
  | cons nic rows ih =>
    obtain ⟨hhead, hnd⟩ := List.nodup_cons.mp hnd
    have hrest : ∀ dev, nicRow (nic :: rows) dev =
        if nic.1 = dev then some nic.2 else nicRow rows dev := by
      intro dev
      by_cases hd : nic.1 = dev
      · simp [nicRow, hd]
      · simp [nicRow, hd]
    have hnone : nicRow rows nic.1 = none := by
      rw [nicRow, Option.map_eq_none_iff, List.find?_eq_none]
      intro other hother heq
      exact hhead (List.mem_map.mpr ⟨other, hother, of_decide_eq_true heq⟩)
    rw [List.foldl_cons, ih hnd, part_addNic]
    simp only [GuestPart.mk.injEq, true_and]
    refine ⟨?_, ?_, ?_⟩
    · funext dev
      rw [hrest]
      by_cases hd : nic.1 = dev
      · subst hd
        simp [hnone]
      · simp [hd, Ne.symm hd]
    · funext dev
      rw [hrest]
      by_cases hd : nic.1 = dev
      · subst hd
        simp
      · simp [hd, Ne.symm hd]
    · rw [List.append_assoc, List.map_cons, List.singleton_append]
      congr 2
      refine List.map_congr_left fun other hother => ?_
      have hd : other.1 ≠ nic.1 := fun he => hhead (List.mem_map.mpr ⟨other, hother, he⟩)
      simp [hd]

end Collecting

/-- What a tick reads of a guest. -/
def MetricsTick.readingOf (k : MetricsTick) (g : MetricGuest) : Option MetricReading :=
  (k.items.find? fun it => it.guest = g).bind k.reading

namespace MetricsTick

variable {k : MetricsTick} {g : MetricGuest}

theorem readingOf_guest {it : MetricItem} (h : it ∈ k.items) :
    k.readingOf it.guest = k.reading it := by
  have hfind : (k.items.find? fun it' => it'.guest = it.guest) = some it :=
    KeyedTable.find?_key ⟨k.items, k.items_nodup⟩ h
  rw [readingOf, hfind, Option.bind_some]

theorem readingOf_eq_none (h : ∀ it ∈ k.items, it.guest ≠ g) : k.readingOf g = none := by
  have hfind : (k.items.find? fun it => it.guest = g) = none :=
    List.find?_eq_none.mpr fun it hit => by simpa using h it hit
  rw [readingOf, hfind, Option.bind_none]

theorem guest_readingOf {r : MetricReading} (h : k.readingOf g = some r) : r.guest = g := by
  obtain ⟨it, hfind, hr⟩ := Option.bind_eq_some_iff.mp h
  rw [(guest_reading hr).1]
  simpa using List.find?_some hfind

end MetricsTick

/-- The part of a guest after a reading of it. -/
def GuestPart.after (p : GuestPart) (k : MetricsTick) (r : MetricReading) : GuestPart where
  main := some (k.now, r.counters)
  mainSeen := true
  nic := fun dev => ((nicRow r.nics.rows dev).map fun b => (k.now, nicCounters b)).or (p.nic dev)
  nicSeen := fun dev => (nicRow r.nics.rows dev).isSome || p.nicSeen dev
  metrics := p.metrics ++ [r.metric k p.main]
  nics := p.nics ++
    r.nics.rows.map fun nic => nicMetric k r.guest nic.1 nic.2 (p.nic nic.1)

namespace Collecting

theorem part_collectItem (k : MetricsTick) (s : Collecting) (it : MetricItem) :
    (s.collectItem k it).part it.guest =
      ((k.reading it).map ((s.part it.guest).after k)).getD (s.part it.guest) := by
  unfold collectItem
  cases hr : k.reading it with
  | none => rfl
  | some r =>
    have hguest := (MetricsTick.guest_reading hr).1
    dsimp only
    rw [← hguest, part_foldl_addNic k r.guest r.nics.keys_nodup, part_addGuest]
    rfl

/-- The part of a guest after all guests of the tick. -/
theorem part_foldl_collectItem (k : MetricsTick) (s : Collecting) (g : MetricGuest) :
    (k.items.foldl (collectItem k) s).part g =
      ((k.readingOf g).map ((s.part g).after k)).getD (s.part g) := by
  have hframe : ∀ (s : Collecting) (it : MetricItem) (g : MetricGuest), it.guest ≠ g →
      part g (s.collectItem k it) = part g s := part_collectItem_ne k
  by_cases hitem : ∃ it ∈ k.items, it.guest = g
  · obtain ⟨it, hit, rfl⟩ := hitem
    obtain ⟨s', hs', h⟩ := part_foldl_of_mem hframe s k.items_nodup hit
    rw [h, part_collectItem, hs', MetricsTick.readingOf_guest hit]
  · have hne : ∀ it ∈ k.items, it.guest ≠ g := fun it hit he => hitem ⟨it, hit, he⟩
    rw [MetricsTick.readingOf_eq_none hne]
    exact part_foldl_of_forall_ne hframe s g hne

end Collecting

/-! ### Runs of ticks -/

/-- The counters that a tick read of an interface. -/
def MetricsTick.nicOf (k : MetricsTick) (g : MetricGuest) (dev : String) : Option (Nat × Nat) :=
  (k.readingOf g).bind fun r => nicRow r.nics.rows dev

section Runs

variable (prev : Previous) (k : MetricsTick) (g : MetricGuest)

/-- A tick leaves the counters it read of a guest, and no others. -/
theorem prev_collectOnce_metricKey :
    (collectOnce prev k).prev (metricKey g) =
      (k.readingOf g).map fun r => (k.now, r.counters) := by
  have h := Collecting.part_foldl_collectItem k ⟨prev, [], [], []⟩ g
  have hseen := congrArg GuestPart.mainSeen h
  have hmain := congrArg GuestPart.main h
  cases hr : k.readingOf g with
  | none =>
    rw [hr] at hseen
    exact if_neg (of_decide_eq_false hseen)
  | some r =>
    rw [hr] at hseen hmain
    exact (if_pos (of_decide_eq_true hseen)).trans hmain

theorem prev_collectOnce_nicKey (dev : String) :
    (collectOnce prev k).prev (nicKey g dev) =
      (k.nicOf g dev).map fun b => (k.now, nicCounters b) := by
  have h := Collecting.part_foldl_collectItem k ⟨prev, [], [], []⟩ g
  have hseen := congrFun (congrArg GuestPart.nicSeen h) dev
  have hnic := congrFun (congrArg GuestPart.nic h) dev
  unfold MetricsTick.nicOf
  cases hr : k.readingOf g with
  | none =>
    rw [hr] at hseen
    exact if_neg (of_decide_eq_false hseen)
  | some r =>
    rw [hr] at hseen hnic
    rw [Option.bind_some]
    cases hrow : nicRow r.nics.rows dev with
    | none =>
      refine if_neg (of_decide_eq_false (hseen.trans ?_))
      change ((nicRow r.nics.rows dev).isSome || false) = false
      rw [hrow]
      rfl
    | some b =>
      refine (if_pos (of_decide_eq_true (hseen.trans ?_))).trans (hnic.trans ?_)
      · change ((nicRow r.nics.rows dev).isSome || false) = true
        rw [hrow]
        rfl
      · change ((nicRow r.nics.rows dev).map fun b => (k.now, nicCounters b)).or _ = _
        rw [hrow]
        rfl

/-- A tick stores one sample of every guest it read. -/
theorem filter_metrics_collectOnce :
    ((collectOnce prev k).metrics.filter fun m => m.guest = g) =
      ((k.readingOf g).map fun r => r.metric k (prev (metricKey g))).toList := by
  have h := congrArg GuestPart.metrics (Collecting.part_foldl_collectItem k ⟨prev, [], [], []⟩ g)
  cases hr : k.readingOf g with
  | none =>
    rw [hr] at h
    exact h
  | some r =>
    rw [hr] at h
    exact h

theorem filter_nics_collectOnce :
    ((collectOnce prev k).nics.filter fun m => m.guest = g) =
      ((k.readingOf g).map fun r =>
        r.nics.rows.map fun nic => nicMetric k g nic.1 nic.2 (prev (nicKey g nic.1))).getD [] := by
  have h := congrArg GuestPart.nics (Collecting.part_foldl_collectItem k ⟨prev, [], [], []⟩ g)
  cases hr : k.readingOf g with
  | none =>
    rw [hr] at h
    exact h
  | some r =>
    rw [hr] at h
    have hguest := MetricsTick.guest_readingOf hr
    subst hguest
    exact h

variable {k}

/-- The entries after a run are those of its last tick. -/
theorem previousAfter_metricKey (ks : List MetricsTick) :
    previousAfter ks (metricKey g) =
      ks.getLast?.bind fun k' => (k'.readingOf g).map fun r => (k'.now, r.counters) := by
  induction ks using List.reverseRecOn with
  | nil => rfl
  | append_singleton ks k' _ =>
    rw [previousAfter, List.foldl_append, List.getLast?_concat]
    exact prev_collectOnce_metricKey _ k' g

theorem previousAfter_nicKey (ks : List MetricsTick) (dev : String) :
    previousAfter ks (nicKey g dev) =
      ks.getLast?.bind fun k' => (k'.nicOf g dev).map fun b => (k'.now, nicCounters b) := by
  induction ks using List.reverseRecOn with
  | nil => rfl
  | append_singleton ks k' _ =>
    rw [previousAfter, List.foldl_append, List.getLast?_concat]
    exact prev_collectOnce_nicKey _ k' g dev

end Runs

/-! ### Soundness -/

/-- The counters of the network and the disks. -/
inductive RateField
  | netin
  | netout
  | diskread
  | diskwrite

namespace RateField

/-- The name of a counter. -/
def name : RateField → String
  | .netin => "netin"
  | .netout => "netout"
  | .diskread => "diskread"
  | .diskwrite => "diskwrite"

/-- The counter of a live status, zero where it is missing. -/
def counter (s : GuestStatus) : RateField → Nat
  | .netin => s.netin.getD 0
  | .netout => s.netout.getD 0
  | .diskread => s.diskread.getD 0
  | .diskwrite => s.diskwrite.getD 0

end RateField

/-- The stored rate of a counter. -/
def InstanceMetric.rate (m : InstanceMetric) : RateField → Option Rat
  | .netin => m.netinRate
  | .netout => m.netoutRate
  | .diskread => m.diskreadRate
  | .diskwrite => m.diskwriteRate

/-- The two directions of an interface. -/
inductive Direction
  | inward
  | outward

/-- The name of a direction's counter. -/
def Direction.name : Direction → String
  | .inward => "in"
  | .outward => "out"

/-- The counter of a direction. -/
def Direction.counter (bytes : Nat × Nat) : Direction → Nat
  | .inward => bytes.1
  | .outward => bytes.2

/-- The stored rate of a direction. -/
def InstanceNicMetric.rate (m : InstanceNicMetric) : Direction → Option Rat
  | .inward => m.inRate
  | .outward => m.outRate

/-- The counter that a tick read of a guest. -/
def MetricsTick.counterOf (k : MetricsTick) (g : MetricGuest) (c : RateField) : Option Rat :=
  (k.readingOf g).bind fun r => r.counters.lookup c.name

theorem lookup_cumulative {k : MetricsTick} {it : MetricItem} {status : GuestStatus}
    {cur : Counters} (h : k.cumulative it status = some cur) (c : RateField) :
    cur.lookup c.name = some (c.counter status : Rat) := by
  have hstatus : ∀ more : Counters,
      (status.counters ++ more).lookup c.name = some (c.counter status : Rat) := by
    intro more
    cases c with
    | netin => rfl
    | netout => rfl
    | diskread => rfl
    | diskwrite => rfl
  unfold MetricsTick.cumulative at h
  split at h
  · obtain ⟨text, _, rfl⟩ := Option.map_eq_some_iff.mp h
    exact hstatus _
  · obtain rfl := Option.some.inj h
    exact List.append_nil status.counters ▸ hstatus []

/-- A reading knows every counter, from the status that the guest gave. -/
theorem MetricsTick.exists_counter {k : MetricsTick} {g : MetricGuest} {r : MetricReading}
    (h : k.readingOf g = some r) (c : RateField) :
    ∃ it ∈ k.items, it.guest = g ∧ ∃ status, k.status it = some (some status) ∧
      r.counters.lookup c.name = some (c.counter status : Rat) := by
  obtain ⟨it, hfind, hr⟩ := Option.bind_eq_some_iff.mp h
  obtain ⟨_, status, hstatus, hcur⟩ := guest_reading hr
  exact ⟨it, List.mem_of_find?_eq_some hfind, by simpa using List.find?_some hfind, status, hstatus,
    lookup_cumulative hcur c⟩

theorem computeRate_of_lt {dt : Rat} (hdt : 0 < dt) (b a : Rat) :
    computeRate (some b) (some a) dt = some (max 0 (a - b) / dt) := by
  change (if dt ≤ 0 then none else if a - b < 0 then some 0 else some ((a - b) / dt)) = _
  rw [if_neg (not_le.mpr hdt)]
  by_cases hreset : a - b < 0
  · rw [if_pos hreset, max_eq_left hreset.le, zero_div]
  · rw [if_neg hreset, max_eq_right (not_lt.mp hreset)]

theorem rateSince_some {t now : Rat} (ht : t < now) {before cur : Counters} {name : String}
    {a b : Rat} (hb : before.lookup name = some b) (ha : cur.lookup name = some a) :
    rateSince (some (t, before)) now cur name = some (max 0 (a - b) / (now - t)) := by
  unfold rateSince
  rw [Option.bind_some, hb, ha]
  exact computeRate_of_lt (sub_pos.mpr ht) b a

theorem rate_metric (r : MetricReading) (k : MetricsTick) (entry : Option (Rat × Counters))
    (c : RateField) : (r.metric k entry).rate c = rateSince entry k.now r.counters c.name := by
  cases c with
  | netin => rfl
  | netout => rfl
  | diskread => rfl
  | diskwrite => rfl

/-- What is sound of a rate, given the clock and the counter of the tick before if it read
the counter. -/
structure RateOf (before : Option (Rat × Rat)) (now cur : Rat) (rate : Option Rat) : Prop where
  absent : rate = none ↔ before = none
  value : ∀ t b, before = some (t, b) → rate = some (max 0 (cur - b) / (now - t))
  nonneg : ∀ q, rate = some q → 0 ≤ q

/-- A rate against an entry that knows the counter. -/
theorem rateOf_rateSince {entry : Option (Rat × Counters)} {now a : Rat} {cur : Counters}
    {name : String} (hclock : ∀ e, entry = some e → e.1 < now) (ha : cur.lookup name = some a)
    (hknown : ∀ e, entry = some e → (e.2.lookup name).isSome = true) :
    RateOf (entry.bind fun e => (e.2.lookup name).map fun b => (e.1, b)) now a
      (rateSince entry now cur name) := by
  cases entry with
  | none =>
    refine ⟨iff_of_true rfl rfl, fun t b h => ?_, fun q h => ?_⟩
    · exact absurd h (Option.some_ne_none _).symm
    · exact absurd h (Option.some_ne_none _).symm
  | some e =>
    obtain ⟨b, hb⟩ := Option.isSome_iff_exists.mp (hknown e rfl)
    have ht := hclock e rfl
    rw [rateSince_some ht hb ha, Option.bind_some, hb]
    refine ⟨iff_of_false (Option.some_ne_none _) (Option.some_ne_none _), fun t' b' h => ?_,
      fun q h => ?_⟩
    · obtain ⟨rfl, rfl⟩ := Prod.ext_iff.mp (Option.some.inj h)
      rfl
    · obtain rfl := Option.some.inj h
      exact div_nonneg (le_max_left 0 (a - b)) (sub_nonneg.mpr ht.le)

theorem lookup_nicCounters (d : Direction) (bytes : Nat × Nat) :
    (nicCounters bytes).lookup d.name = some (d.counter bytes : Rat) := by
  cases d with
  | inward => rfl
  | outward => rfl

theorem rate_nicMetric (k : MetricsTick) (g : MetricGuest) (dev : String) (bytes : Nat × Nat)
    (entry : Option (Rat × Counters)) (d : Direction) :
    (nicMetric k g dev bytes entry).rate d =
      rateSince entry k.now (nicCounters bytes) d.name := by
  cases d with
  | inward => rfl
  | outward => rfl

/-- The clock of a tick and what it read of a counter. -/
def MetricsTick.clocked (k : MetricsTick) (cur : Option Rat) : Option (Rat × Rat) :=
  cur.map fun b => (k.now, b)

/-- A rate against the entry that the last tick left. -/
theorem rateOf_last {last : Option MetricsTick} {now a : Rat} {cur : Counters} {name : String}
    (hclock : ∀ k', last = some k' → k'.now < now) (ha : cur.lookup name = some a)
    (entries : MetricsTick → Option Counters)
    (hknown : ∀ k' pc, entries k' = some pc → (pc.lookup name).isSome = true) :
    RateOf (last.bind fun k' => k'.clocked ((entries k').bind fun pc => pc.lookup name)) now a
      (rateSince (last.bind fun k' => (entries k').map fun pc => (k'.now, pc)) now cur name) := by
  have hentry : ∀ e, (last.bind fun k' => (entries k').map fun pc => (k'.now, pc)) = some e →
      ∃ k', last = some k' ∧ k'.now = e.1 ∧ entries k' = some e.2 := by
    intro e he
    obtain ⟨k', hk', he⟩ := Option.bind_eq_some_iff.mp he
    obtain ⟨pc, hpc, rfl⟩ := Option.map_eq_some_iff.mp he
    exact ⟨k', hk', rfl, hpc⟩
  have hrate : RateOf ((last.bind fun k' => (entries k').map fun pc => (k'.now, pc)).bind
        fun e => (e.2.lookup name).map fun b => (e.1, b)) now a
      (rateSince (last.bind fun k' => (entries k').map fun pc => (k'.now, pc)) now cur name) := by
    refine rateOf_rateSince (fun e he => ?_) ha (fun e he => ?_)
    · obtain ⟨k', hk', ht, _⟩ := hentry e he
      exact ht ▸ hclock k' hk'
    · obtain ⟨k', _, _, hpc⟩ := hentry e he
      exact hknown k' e.2 hpc
  have heq : ((last.bind fun k' => (entries k').map fun pc => (k'.now, pc)).bind
        fun e => (e.2.lookup name).map fun b => (e.1, b)) =
      last.bind fun k' => k'.clocked ((entries k').bind fun pc => pc.lookup name) := by
    cases last with
    | none => rfl
    | some k' =>
      cases hpc : entries k' with
      | none => simp [hpc, MetricsTick.clocked]
      | some pc => simp [hpc, MetricsTick.clocked]
  rwa [heq] at hrate

/-- The rates of a tick are sound after the tick before. -/
structure RatesSound (last : Option MetricsTick) (k : MetricsTick) (out : Collecting) : Prop where
  /-- A guest has one sample when the tick read it, and none otherwise. -/
  sampled : ∀ g, (out.metrics.filter fun m => m.guest = g).length =
    if (k.readingOf g).isSome then 1 else 0
  absent : ∀ m ∈ out.metrics, ∀ c,
    m.rate c = none ↔ ¬∃ k' ∈ last, (k'.readingOf m.guest).isSome = true
  rates : ∀ m ∈ out.metrics, ∀ c, ∃ a, k.counterOf m.guest c = some a ∧
    RateOf (last.bind fun k' => k'.clocked (k'.counterOf m.guest c)) k.now a (m.rate c)
  nicRates : ∀ m ∈ out.nics, ∀ d : Direction, ∃ bytes, k.nicOf m.guest m.dev = some bytes ∧
    RateOf (last.bind fun k' =>
      k'.clocked ((k'.nicOf m.guest m.dev).map fun b => (d.counter b : Rat)))
      k.now (d.counter bytes) (m.rate d)

theorem MetricsTick.counterOf_isSome (k : MetricsTick) (g : MetricGuest) (c : RateField) :
    (k.counterOf g c).isSome = (k.readingOf g).isSome := by
  unfold counterOf
  cases hr : k.readingOf g with
  | none => rfl
  | some r =>
    obtain ⟨_, _, _, _, _, hlookup⟩ := exists_counter hr c
    rw [Option.bind_some, hlookup]
    rfl

/-- A guest's sample against the entry that the run before left. -/
theorem rateOf_metric (ks : List MetricsTick) {k : MetricsTick}
    (hclock : ∀ k', ks.getLast? = some k' → k'.now < k.now) {g : MetricGuest} {r : MetricReading}
    (hr : k.readingOf g = some r) (c : RateField) :
    ∃ a, k.counterOf g c = some a ∧
      RateOf (ks.getLast?.bind fun k' => k'.clocked (k'.counterOf g c)) k.now a
        ((r.metric k (previousAfter ks (metricKey g))).rate c) := by
  obtain ⟨_, _, _, status, _, hlookup⟩ := MetricsTick.exists_counter hr c
  refine ⟨_, by rw [MetricsTick.counterOf, hr, Option.bind_some, hlookup], ?_⟩
  have hknown : ∀ (k' : MetricsTick) (pc : Counters),
      (k'.readingOf g).map MetricReading.counters = some pc → (pc.lookup c.name).isSome = true := by
    intro k' pc hpc
    obtain ⟨r', hr', rfl⟩ := Option.map_eq_some_iff.mp hpc
    obtain ⟨_, _, _, _, _, hlookup'⟩ := MetricsTick.exists_counter hr' c
    rw [hlookup']
    rfl
  have h := rateOf_last hclock hlookup
    (fun k' => (k'.readingOf g).map MetricReading.counters) hknown
  simp only [Option.map_map, Option.bind_map, Function.comp_def] at h
  rw [rate_metric, previousAfter_metricKey]
  exact h

/-- A sample of an interface against the entry that the run before left. -/
theorem rateOf_nicMetric (ks : List MetricsTick) {k : MetricsTick}
    (hclock : ∀ k', ks.getLast? = some k' → k'.now < k.now) (g : MetricGuest) (dev : String)
    (bytes : Nat × Nat) (d : Direction) :
    RateOf (ks.getLast?.bind fun k' =>
        k'.clocked ((k'.nicOf g dev).map fun b => (d.counter b : Rat))) k.now (d.counter bytes)
      ((nicMetric k g dev bytes (previousAfter ks (nicKey g dev))).rate d) := by
  have hknown : ∀ (k' : MetricsTick) (pc : Counters),
      (k'.nicOf g dev).map nicCounters = some pc → (pc.lookup d.name).isSome = true := by
    intro k' pc hpc
    obtain ⟨b, _, rfl⟩ := Option.map_eq_some_iff.mp hpc
    rw [lookup_nicCounters]
    rfl
  have h := rateOf_last hclock (lookup_nicCounters d bytes)
    (fun k' => (k'.nicOf g dev).map nicCounters) hknown
  have hmap : ∀ o : Option (Nat × Nat),
      (o.bind fun b => some (d.counter b : Rat)) = o.map fun b => (d.counter b : Rat) := by
    intro o
    cases o with
    | none => rfl
    | some b => rfl
  simp only [Option.map_map, Option.bind_map, Function.comp_def, lookup_nicCounters, hmap] at h
  rw [rate_nicMetric, previousAfter_nicKey]
  exact h

/-- A tick that samples one container with the given bytes received. -/
def containerTick (now : Rat) (netin : Nat) : MetricsTick where
  now := now
  ts := 0
  items := [⟨1, 100, some "lxc", some "pve", some "running"⟩]
  items_nodup := List.nodup_singleton _
  clients := fun _ => true
  status := fun _ => some (some
    ⟨none, none, none, none, none, some netin, none, none, none⟩)
  fsinfo := fun _ => none
  blockstats := fun _ => none
  netstat := fun _ _ => []

end PveManager.Monitoring
