import Mathlib.Data.List.Infix
import Mathlib.Data.List.TakeWhile
import PveManager.Core.KeyedTable

/-!
# Detaching a disk

`detach_vm_disk` removes a disk from the configuration of a machine and, when the
volume is to be destroyed, reads the configuration again and removes the first
`unused` entry whose value contains the volume's name. The main result says when
that entry is the one the detached disk has just become.
-/

namespace PveManager.Disks

open PveManager.Core

/-- A value of a machine's configuration. -/
inductive ConfigValue
  | text (s : String)
  | number (n : Int)
  deriving DecidableEq, Repr

namespace ConfigValue

def text? : ConfigValue → Option String
  | .text s => some s
  | .number _ => none

end ConfigValue

/-- A machine's configuration: keys are unique, the order is the one Proxmox answers in. -/
abbrev Config := KeyedTable (Prod.fst : String × ConfigValue → String)

/-- `spec.split(",", 1)[0]`. -/
def volid (spec : String) : String := String.ofList (spec.toList.takeWhile (· ≠ ','))

/-- A volume name is its own first field. -/
theorem volid_volid (spec : String) : volid (volid spec) = volid spec := by
  unfold volid
  rw [String.toList_ofList, List.takeWhile_idem]

/-- `k.startswith("unused")`. -/
def isUnused (k : String) : Bool := decide ("unused".toList <+: k.toList)

/-- The volume an entry of the configuration names. -/
def volumeOf (cfg : Config) (disk : String) : Option String :=
  ((cfg.find? disk).bind fun e => e.2.text?).map volid

/-- The test of the search for the entry to destroy. -/
def holdsVolume (old : String) (e : String × ConfigValue) : Bool :=
  isUnused e.1 && e.2.text?.any fun v => decide (old.toList <:+: v.toList)

/-- The keys of the entries in the order of the answer, searched for the first match. -/
def unusedKey (old : String) (cfg : Config) : Option String :=
  (cfg.rows.find? (holdsVolume old)).map Prod.fst

/-- What Proxmox does during one call. -/
structure DetachEnv where
  /-- `self.proxmox` is set. -/
  connected : Bool
  /-- The first read of the configuration; a failed read answers `None`. -/
  firstRead : Bool
  /-- The error the first `config.put` raises. -/
  firstPut : Option String
  /-- The configuration after an accepted first `config.put`. -/
  afterPut : Config
  secondRead : Bool
  secondPut : Option String

/-- The configuration a call leaves, the entry it removed in its second step, and its reply. -/
structure DetachResult where
  config : Config
  destroyed : Option String
  reply : Except String Unit

/-- The volume remembered for the second step; an empty name is dropped by the truth test. -/
def oldVolid (env : DetachEnv) (cfg : Config) (disk : String) (destroy : Bool) : Option String :=
  if destroy && env.firstRead then (volumeOf cfg disk).filter fun v => decide (v ≠ "") else none

/-- `detach_vm_disk`. -/
def detachVmDisk (env : DetachEnv) (cfg : Config) (disk : String) (destroy : Bool) :
    DetachResult :=
  if env.connected then
    match env.firstPut with
    | some e => ⟨cfg, none, .error e⟩
    | none =>
      match (oldVolid env cfg disk destroy).bind fun old =>
          if env.secondRead then unusedKey old env.afterPut else none with
      | none => ⟨env.afterPut, none, .ok ()⟩
      | some k =>
        match env.secondPut with
        | some e => ⟨env.afterPut, none, .error e⟩
        | none => ⟨env.afterPut.erase k, some k, .ok ()⟩
  else ⟨cfg, none, .error "Not connected"⟩

/-- A call to `detach_vm_disk` on a Proxmox that keeps the volume of a detached disk: an accepted
first step removes the disk and adds one new `unused` entry naming the volume. `parked` is
`none` where there is no volume to keep. -/
structure DetachCall where
  env : DetachEnv
  cfg : Config
  disk : String
  destroy : Bool
  /-- The key of the new `unused` entry. -/
  parked : Option String
  parked_unused : ∀ n ∈ parked, isUnused n = true
  parked_fresh : ∀ n ∈ parked, n ≠ disk ∧ cfg.find? n = none
  detached : ∀ k, env.afterPut.find? k =
    if k = disk then none
    else if parked = some k then (volumeOf cfg disk).map fun v => (k, .text v)
    else cfg.find? k

namespace DetachCall

/-- The outcome of the call. -/
def result (c : DetachCall) : DetachResult := detachVmDisk c.env c.cfg c.disk c.destroy

/-- The second step removes only the entry of the volume the disk had, and every other entry of
the machine is left in place. -/
structure DestroysOnlyDisk (c : DetachCall) : Prop where
  volume : ∀ k ∈ c.result.destroyed, volumeOf c.env.afterPut k = volumeOf c.cfg c.disk
  others : ∀ k, k ≠ c.disk → ∀ e, c.cfg.find? k = some e → c.result.config.find? k = some e

/-- Destroying was asked for, and Proxmox answers and accepts both steps. -/
def Completes (c : DetachCall) : Prop :=
  c.destroy = true ∧ c.env.connected = true ∧ c.env.firstRead = true ∧ c.env.firstPut = none ∧
    c.env.secondRead = true ∧ c.env.secondPut = none

/-- The machine had, before the call, an `unused` entry of another key whose value contains the
name of the disk's volume, and the second answer lists it before the new entry. -/
def Shadowed (c : DetachCall) : Prop :=
  ∃ old, volumeOf c.cfg c.disk = some old ∧ old ≠ "" ∧
    ∃ e, holdsVolume old e = true ∧ e.1 ≠ c.disk ∧ c.cfg.find? e.1 = some e ∧
      ∃ before after, c.env.afterPut.rows = before ++ after ∧ e ∈ before ∧
        ∀ n ∈ c.parked, n ∉ before.map Prod.fst

variable {c : DetachCall}

/-- The new entry passes the search for its own volume. -/
private theorem holdsVolume_parked {old n : String} (hn : isUnused n = true) :
    holdsVolume old (n, .text old) = true := by
  simp [holdsVolume, hn, ConfigValue.text?]

/-- Every entry of another key is still there after the first step. -/
private theorem find?_afterPut_of_old {k : String} (hk : k ≠ c.disk)
    {e : String × ConfigValue} (he : c.cfg.find? k = some e) :
    c.env.afterPut.find? k = some e := by
  have hp : c.parked ≠ some k := by
    intro hp
    rw [(c.parked_fresh k hp).2] at he
    exact absurd he (by simp)
  rw [c.detached, if_neg hk, if_neg hp, he]

/-- An entry after the first step is the new one or one from before. -/
private theorem old_of_mem_afterPut {e : String × ConfigValue} (he : e ∈ c.env.afterPut.rows) :
    e.1 ≠ c.disk ∧ (c.parked = some e.1 ∧
        (volumeOf c.cfg c.disk).map (fun v => (e.1, ConfigValue.text v)) = some e ∨
      c.parked ≠ some e.1 ∧ c.cfg.find? e.1 = some e) := by
  have hf := c.env.afterPut.find?_key he
  rw [c.detached] at hf
  by_cases hd : e.1 = c.disk
  · rw [if_pos hd] at hf
    exact absurd hf (by simp)
  · rw [if_neg hd] at hf
    by_cases hp : c.parked = some e.1
    · rw [if_pos hp] at hf
      exact ⟨hd, Or.inl ⟨hp, hf⟩⟩
    · rw [if_neg hp] at hf
      exact ⟨hd, Or.inr ⟨hp, hf⟩⟩

/-- The outcome of a completed call with a volume to destroy. -/
private theorem result_of_completes (hc : c.Completes) {old : String}
    (hv : volumeOf c.cfg c.disk = some old) (hne : old ≠ "") :
    c.result.destroyed = unusedKey old c.env.afterPut ∧
      c.result.config =
        (unusedKey old c.env.afterPut).elim c.env.afterPut c.env.afterPut.erase := by
  obtain ⟨hd, hconn, hr1, hp1, hr2, hp2⟩ := hc
  have hold : oldVolid c.env c.cfg c.disk c.destroy = some old := by
    simp [oldVolid, hd, hr1, hv, hne]
  unfold result detachVmDisk
  simp only [hconn, ite_true, hp1, hold, Option.bind_some, hr2]
  cases unusedKey old c.env.afterPut with
  | none => exact ⟨rfl, rfl⟩
  | some k => simp only [hp2, Option.elim_some, and_self]

/-- A call that does not complete, or has no volume to destroy, removes nothing in a second
step. -/
private theorem result_of_not_completes
    (h : ¬(c.Completes ∧ ∃ old, volumeOf c.cfg c.disk = some old ∧ old ≠ "")) :
    c.result.destroyed = none ∧ (c.result.config = c.cfg ∨ c.result.config = c.env.afterPut) := by
  unfold result detachVmDisk
  split
  · rename_i hconn
    split
    · exact ⟨rfl, Or.inl rfl⟩
    · rename_i hp1
      split
      · exact ⟨rfl, Or.inr rfl⟩
      · rename_i k hk
        split
        · exact ⟨rfl, Or.inr rfl⟩
        · rename_i hp2
          exfalso
          obtain ⟨old, hold, hkey⟩ := Option.bind_eq_some_iff.mp hk
          unfold oldVolid at hold
          split at hold
          · rename_i hdr
            rw [Bool.and_eq_true] at hdr
            obtain ⟨hv, hne⟩ := Option.filter_eq_some_iff.mp hold
            split at hkey
            · rename_i hr2
              exact h ⟨⟨hdr.1, hconn, hdr.2, hp1, hr2, hp2⟩, old, hv, by simpa using hne⟩
            · exact absurd hkey (by simp)
          · exact absurd hold (by simp)
  · exact ⟨rfl, Or.inl rfl⟩

/-- The entry found in a shadowed configuration is one from before the call. -/
private theorem unusedKey_of_shadowed {old : String} {e : String × ConfigValue}
    {before after : List (String × ConfigValue)} (he : holdsVolume old e = true)
    (hrows : c.env.afterPut.rows = before ++ after) (hmem : e ∈ before)
    (hp : ∀ n ∈ c.parked, n ∉ before.map Prod.fst) :
    ∃ f, unusedKey old c.env.afterPut = some f.1 ∧ f.1 ≠ c.disk ∧
      c.cfg.find? f.1 = some f := by
  have hsome : (before.find? (holdsVolume old)).isSome = true :=
    List.find?_isSome.mpr ⟨e, hmem, he⟩
  obtain ⟨f, hf⟩ := Option.isSome_iff_exists.mp hsome
  have hfb := List.mem_of_find?_eq_some hf
  obtain ⟨hd, hcase⟩ := old_of_mem_afterPut (c := c) (e := f)
    (hrows ▸ List.mem_append_left after hfb)
  refine ⟨f, ?_, hd, ?_⟩
  · rw [unusedKey, hrows, List.find?_append, hf]
    rfl
  · rcases hcase with ⟨hpark, _⟩ | ⟨_, hold⟩
    · exact absurd (List.mem_map_of_mem hfb) (hp f.1 hpark)
    · exact hold

/-- The entry found where nothing shadows the new one is the new one. -/
private theorem parked_of_unusedKey (hs : ¬c.Shadowed) {old : String}
    (hv : volumeOf c.cfg c.disk = some old) (hne : old ≠ "") {k : String}
    (hk : unusedKey old c.env.afterPut = some k) : c.parked = some k := by
  obtain ⟨e, he, rfl⟩ := Option.map_eq_some_iff.mp hk
  obtain ⟨hp, before, after, hrows, hbefore⟩ := List.find?_eq_some_iff_append.mp he
  have hmem : e ∈ c.env.afterPut.rows := List.mem_of_find?_eq_some he
  obtain ⟨hd, ⟨hpark, _⟩ | ⟨hpark, hold⟩⟩ := old_of_mem_afterPut hmem
  · exact hpark
  · refine absurd ⟨old, hv, hne, e, hp, hd, hold, before ++ [e], after, ?_, ?_, ?_⟩ hs
    · rw [hrows, List.append_assoc, List.singleton_append]
    · exact List.mem_append_right before (List.mem_singleton_self e)
    · intro n hn hmap
      obtain ⟨f, hf, rfl⟩ := List.mem_map.mp hmap
      rcases List.mem_append.mp hf with hf | hf
      · have hfm : f ∈ c.env.afterPut.rows := hrows ▸ List.mem_append_left _ hf
        obtain ⟨_, ⟨_, hval⟩ | ⟨hne', _⟩⟩ := old_of_mem_afterPut hfm
        · rw [hv, Option.map_some, Option.some.injEq] at hval
          have hnot := hbefore f hf
          rw [← hval, holdsVolume_parked (c.parked_unused f.1 hn)] at hnot
          exact absurd hnot (by simp)
        · exact hne' hn
      · rw [List.mem_singleton.mp hf] at hn
        exact hpark hn

/-- The call destroys only the detached disk exactly when it does not complete or no older
`unused` entry shadows the new one. -/
theorem destroysOnlyDisk_iff (c : DetachCall) :
    c.DestroysOnlyDisk ↔ (c.Completes → ¬c.Shadowed) := by
  constructor
  · rintro h hc ⟨old, hv, hne, e, he, _, _, before, after, hrows, hmem, hp⟩
    obtain ⟨f, hkey, hfd, hfold⟩ := unusedKey_of_shadowed he hrows hmem hp
    have hleft := h.others f.1 hfd f hfold
    rw [(result_of_completes hc hv hne).2, hkey, Option.elim_some, KeyedTable.find?_erase,
      if_pos rfl] at hleft
    exact absurd hleft (by simp)
  · intro h
    by_cases hc : c.Completes ∧ ∃ old, volumeOf c.cfg c.disk = some old ∧ old ≠ ""
    · obtain ⟨hc, old, hv, hne⟩ := hc
      obtain ⟨hdes, hcfg⟩ := result_of_completes hc hv hne
      cases hk : unusedKey old c.env.afterPut with
      | none =>
        rw [hk] at hdes hcfg
        constructor
        · intro k hk'
          rw [hdes] at hk'
          exact absurd hk' (by simp)
        · intro k hkd e he
          rw [hcfg]
          exact find?_afterPut_of_old hkd he
      | some n =>
        have hpark := parked_of_unusedKey (h hc) hv hne hk
        obtain ⟨hnd, hfresh⟩ := c.parked_fresh n hpark
        rw [hk] at hdes hcfg
        constructor
        · intro k hk'
          rw [hdes, Option.mem_some] at hk'
          subst hk'
          have hvolid : volid old = old := by
            obtain ⟨spec, _, rfl⟩ := Option.map_eq_some_iff.mp hv
            exact volid_volid spec
          simp only [volumeOf, c.detached, if_neg hnd, if_pos hpark] at hv ⊢
          rw [hv]
          simp [ConfigValue.text?, hvolid]
        · intro k hkd e he
          have hkn : k ≠ n := by
            rintro rfl
            rw [hfresh] at he
            exact absurd he (by simp)
          rw [hcfg, Option.elim_some, KeyedTable.find?_erase, if_neg hkn]
          exact find?_afterPut_of_old hkd he
    · obtain ⟨hdes, hcfg⟩ := result_of_not_completes hc
      constructor
      · intro k hk
        rw [hdes] at hk
        exact absurd hk (by simp)
      · intro k hkd e he
        rcases hcfg with hcfg | hcfg
        · rw [hcfg]
          exact he
        · rw [hcfg]
          exact find?_afterPut_of_old hkd he

end DetachCall

/-! ## A volume name inside another -/

/-- A machine with a disk on volume 1 and a volume 10 that was detached earlier. -/
def prefixCall : DetachCall where
  env :=
    { connected := true
      firstRead := true
      firstPut := none
      afterPut := ⟨[("unused0", .text "local-lvm:vm-100-disk-10"),
        ("unused1", .text "local-lvm:vm-100-disk-1")], by decide⟩
      secondRead := true
      secondPut := none }
  cfg := ⟨[("scsi1", .text "local-lvm:vm-100-disk-1,size=8G"),
    ("unused0", .text "local-lvm:vm-100-disk-10")], by decide⟩
  disk := "scsi1"
  destroy := true
  parked := some "unused1"
  parked_unused := by decide
  parked_fresh := by decide
  detached := by
    intro k
    by_cases h1 : k = "scsi1"
    · subst h1
      decide
    · by_cases h2 : k = "unused1"
      · subst h2
        decide
      · simp [KeyedTable.find?, List.find?_cons, h1, Ne.symm h1, Ne.symm h2]

/-- Destroying volume 1 destroys volume 10. -/
theorem prefixCall_not_destroysOnlyDisk : ¬prefixCall.DestroysOnlyDisk := by
  intro h
  have hleft := h.others "unused0" (by decide) ("unused0", .text "local-lvm:vm-100-disk-10") rfl
  exact absurd hleft (by decide)

end PveManager.Disks
