import PveManager.Core.Dict
import PveManager.Core.Distinct
import PveManager.Disks.Detach

/-!
# The boot order of a machine

Booting from an image puts its drive first and the disks behind it; booting from the disks again
leaves only them. Both rebuild the order from the one in the configuration, which may also be
written in the older form of letters with a `bootdisk`.
-/

namespace PveManager.Disks

open PveManager.Core

/-! ### What is read -/

def bootBuses : List String := ["scsi", "virtio", "sata", "ide"]

/-- `^(?:scsi|virtio|sata|ide)\d+$` on a key of a configuration. -/
def isDiskKey (key : String) : Bool :=
  bootBuses.any fun bus =>
    bus.toList.isPrefixOf key.toList &&
      !(key.toList.drop bus.toList.length).isEmpty &&
      (key.toList.drop bus.toList.length).all Char.isDigit

/-- The entries that `_ordered_boot_disks` takes for disks. -/
def isBootDisk (exclude : Option String) (entry : String × ConfigValue) : Bool :=
  isDiskKey entry.1 && decide (exclude ≠ some entry.1) &&
    match entry.2 with
    | .text v => decide (v ≠ "") &&
      !(decide ("media=cdrom".toList <:+: v.toList) || "none".toList.isPrefixOf v.toList)
    | .number _ => false

/-- The first match of `order=([^,]+)`. -/
def orderText : List Char → Option (List Char)
  | [] => none
  | c :: cs =>
    if "order=".toList.isPrefixOf (c :: cs) &&
        !(((c :: cs).drop 6).takeWhile (· ≠ ',')).isEmpty then
      some (((c :: cs).drop 6).takeWhile (· ≠ ','))
    else orderText cs

/-- `str(cfg.get('boot') or '')`. -/
def bootText (cfg : Config) : String :=
  match cfg.get? "boot" with
  | some (.text s) => s
  | some (.number n) => if n = 0 then "" else toString n
  | none => ""

/-- The devices of `boot=order=...`. -/
def bootEntries (cfg : Config) : List String :=
  ((orderText (bootText cfg).toList).map fun text =>
    (text.splitOn ';').map String.ofList).getD []

/-- The disks in the order of the configuration's keys. -/
def bootDisks (cfg : Config) (exclude : Option String) : List String :=
  (cfg.rows.filter (isBootDisk exclude)).map Prod.fst

/-- `_ordered_boot_disks`. -/
def orderedBootDisks (cfg : Config) (exclude : Option String) : List String :=
  let disks := bootDisks cfg exclude
  let ordered := (bootEntries cfg).foldl
    (fun ordered dev => if dev ∈ disks then addNew ordered dev else ordered) []
  disks.foldl addNew ordered

/-- `f"order={';'.join(devices)}"`. -/
def orderValue (devices : List String) : ConfigValue :=
  .text ("order=" ++ ";".intercalate devices)

/-- `set_boot_disk_first`; without a disk nothing is written. -/
def setBootDiskFirst (cfg : Config) (exclude : Option String) : Option Config :=
  if orderedBootDisks cfg exclude = [] then none
  else some (cfg.set "boot" (orderValue (orderedBootDisks cfg exclude)))

/-- `set_boot_iso_first`. -/
def setBootIsoFirst (cfg : Config) (isoDevice : String) : Config :=
  cfg.set "boot" (orderValue
    (isoDevice :: (orderedBootDisks cfg none).filter fun d => decide (d ≠ isoDevice)))

/-! ### What a machine boots from -/

/-- A drive with a volume that is no CD-ROM. -/
def isHard (v : String) : Bool :=
  decide (v ≠ "") && !(v.toList.splitOn ',').contains "media=cdrom".toList &&
    decide ((v.toList.splitOn ',').head? ≠ some "none".toList)

def ConfigValue.isHard : ConfigValue → Bool
  | .text v => Disks.isHard v
  | .number _ => false

/-- A disk of the machine that is no CD-ROM. -/
def HardDisk (cfg : Config) (d : String) : Prop :=
  isDiskKey d = true ∧ ∃ v, cfg.get? d = some v ∧ v.isHard = true

/-- The disks that are no CD-ROM in the order of the configuration's keys. -/
def hardDisks (cfg : Config) : List String :=
  (cfg.rows.filter fun entry => isDiskKey entry.1 && entry.2.isHard).map Prod.fst

/-- The letters of the older form; without `boot` they are `cdn`. -/
def legacyLetters (boot : List Char) : List Char :=
  if boot.isEmpty then "cdn".toList
  else if "legacy=".toList.isPrefixOf boot then (boot.drop 7).takeWhile (· ≠ ',')
  else boot.takeWhile (· ≠ ',')

/-- The devices of the order that is in the configuration, in either form: in the older one the
letter `c` stands for the `bootdisk`. -/
def previousOrder (cfg : Config) : List String :=
  if (orderText (bootText cfg).toList).isSome then bootEntries cfg
  else if (legacyLetters (bootText cfg).toList).contains 'c' then
    (((cfg.get? "bootdisk").bind ConfigValue.text?).map fun d => [d]).getD []
  else []

/-- The disk the machine boots from. -/
def bootDisk (cfg : Config) : Option String :=
  (previousOrder cfg).find? fun d => decide (d ∈ hardDisks cfg)

/-- Booting from an image and back keeps the boot order, as does putting the disks first. -/
structure KeepsBootDisk (cfg : Config) (isoDevice : String) (exclude : Option String) : Prop where
  /-- The detour over the image changes nothing. -/
  same : (setBootDiskFirst (setBootIsoFirst cfg isoDevice) exclude).map (fun c => c.get? "boot") =
    (setBootDiskFirst cfg exclude).map fun c => c.get? "boot"
  once : ∀ d, HardDisk cfg d →
    ∃ cfg' ∈ setBootDiskFirst cfg exclude, (bootEntries cfg').count d = 1
  /-- Earlier in the previous order, where what is not in it counts as last. -/
  kept : ∀ cfg' ∈ setBootDiskFirst cfg exclude, ∀ d e, HardDisk cfg d → HardDisk cfg e →
    (previousOrder cfg).idxOf d < (previousOrder cfg).idxOf e →
      (bootEntries cfg').idxOf d < (bootEntries cfg').idxOf e
  first : ∀ cfg' ∈ setBootDiskFirst cfg exclude, ∀ d ∈ bootDisk cfg,
    (bootEntries cfg').head? = some d

/-- The condition on the configuration. -/
structure PlainBoot (cfg : Config) : Prop where
  /-- No disk looks like an empty drive or a CD-ROM to a search in its text. -/
  recognised : ∀ d, isDiskKey d = true → ∀ v, cfg.get? d = some (.text v) → isHard v = true →
    ¬"media=cdrom".toList <:+: v.toList ∧ ¬"none".toList <+: v.toList
  /-- In the older form the disk the machine boots from has the first key. -/
  legacy : (orderText (bootText cfg).toList).isNone = true → ∀ d ∈ bootDisk cfg,
    (hardDisks cfg).head? = some d

/-! ### Texts -/

section Texts

variable {ls : List (List Char)} {l : List Char}

theorem infix_intercalate {sep : List Char} (h : l ∈ ls) : l <:+: sep.intercalate ls := by
  induction ls with
  | nil => exact absurd h List.not_mem_nil
  | cons x xs ih =>
    cases xs with
    | nil =>
      rw [List.mem_singleton.mp h, List.intercalate_singleton]
    | cons y ys =>
      rw [List.intercalate_cons_of_ne_nil (List.cons_ne_nil y ys)]
      rcases List.mem_cons.mp h with rfl | h
      · rw [List.append_assoc]
        exact (List.prefix_append l _).isInfix
      · exact (ih h).trans (List.suffix_append _ _).isInfix

theorem notMem_intercalate {sep : List Char} {c : Char} (hsep : c ∉ sep) (h : ∀ l ∈ ls, c ∉ l) :
    c ∉ sep.intercalate ls := by
  induction ls with
  | nil => exact List.not_mem_nil
  | cons x xs ih =>
    obtain ⟨hx, hxs⟩ := List.forall_mem_cons.mp h
    cases xs with
    | nil => rwa [List.intercalate_singleton]
    | cons y ys =>
      rw [List.intercalate_cons_of_ne_nil (List.cons_ne_nil y ys), List.mem_append, List.mem_append]
      exact not_or.mpr ⟨not_or.mpr ⟨hx, hsep⟩, ih hxs⟩

/-- A part of a text is somewhere in the text. -/
theorem infix_of_mem_splitOn {sep : Char} {text : List Char} (h : l ∈ text.splitOn sep) :
    l <:+: text := by
  have hjoined : l <:+: [sep].intercalate (text.splitOn sep) := infix_intercalate h
  rwa [List.intercalate_splitOn] at hjoined

/-- The first part of a text stands at its beginning. -/
theorem prefix_of_head?_splitOn {sep : Char} {text : List Char}
    (h : (text.splitOn sep).head? = some l) : l <+: text := by
  have hjoin : [sep].intercalate (text.splitOn sep) = text := List.intercalate_splitOn sep
  obtain ⟨rest, hrest⟩ := List.head?_eq_some_iff.mp h
  rw [hrest] at hjoin
  rw [← hjoin]
  cases rest with
  | nil =>
    rw [List.intercalate_singleton]
  | cons y ys =>
    rw [List.intercalate_cons_of_ne_nil (List.cons_ne_nil y ys), List.append_assoc]
    exact List.prefix_append l _

/-- A key of a disk has letters and digits only. -/
theorem isAlphanum_of_isDiskKey {d : String} (h : isDiskKey d = true) :
    ∀ c ∈ d.toList, c.isAlphanum = true := by
  obtain ⟨bus, hbus, h⟩ := List.any_eq_true.mp h
  rw [Bool.and_eq_true, Bool.and_eq_true, List.isPrefixOf_iff_prefix, List.all_eq_true] at h
  obtain ⟨⟨⟨rest, hrest⟩, -⟩, hdigits⟩ := h
  rw [← hrest, List.drop_left] at hdigits
  intro c hc
  rw [← hrest] at hc
  rcases List.mem_append.mp hc with hc | hc
  · have hall : ∀ bus ∈ bootBuses, ∀ c ∈ bus.toList, c.isAlphanum = true := by
      simp [bootBuses]
    exact hall bus hbus c hc
  · rw [Char.isAlphanum, hdigits c hc, Bool.or_true]

theorem ne_nil_of_isDiskKey {d : String} (h : isDiskKey d = true) : d.toList ≠ [] := by
  intro hnil
  obtain ⟨bus, -, h⟩ := List.any_eq_true.mp h
  rw [hnil, List.drop_nil] at h
  simp at h

end Texts

/-! ### What is written is read back -/

section Written

variable {cfg : Config} {devices : List String}

theorem orderText_orderValue {text : List Char} (hne : text ≠ []) (hcomma : ',' ∉ text) :
    orderText ("order=".toList ++ text) = some text := by
  have hrun : (("order=".toList ++ text).drop 6).takeWhile (· ≠ ',') = text := by
    have hdrop : ("order=".toList ++ text).drop 6 = text := List.drop_left' (by simp)
    rw [hdrop]
    refine List.takeWhile_eq_self_iff.mpr fun c hc => decide_eq_true ?_
    rintro rfl
    exact hcomma hc
  have hcons : "order=".toList ++ text = 'o' :: ("rder=".toList ++ text) := rfl
  rw [hcons] at hrun ⊢
  unfold orderText
  rw [hrun, if_pos]
  have hstart : "order=".toList.isPrefixOf ('o' :: ("rder=".toList ++ text)) = true :=
    List.isPrefixOf_iff_prefix.mpr ⟨text, rfl⟩
  rw [hstart, Bool.true_and, Bool.not_eq_true', List.isEmpty_eq_false_iff]
  exact hne

/-- The devices that were written are the entries of the order. -/
theorem bootEntries_set (hne : devices ≠ []) (hkeys : ∀ d ∈ devices, isDiskKey d = true) :
    bootEntries (cfg.set "boot" (orderValue devices)) = devices := by
  have hplain : ∀ sep : Char, sep.isAlphanum = false →
      ∀ l ∈ devices.map String.toList, sep ∉ l := by
    intro sep hsep l hl hmem
    obtain ⟨d, hd, rfl⟩ := List.mem_map.mp hl
    rw [isAlphanum_of_isDiskKey (hkeys d hd) sep hmem] at hsep
    cases hsep
  have hmapne : devices.map String.toList ≠ [] := mt List.map_eq_nil_iff.mp hne
  have htext : (";".intercalate devices).toList = [';'].intercalate (devices.map String.toList) :=
    String.toList_intercalate
  have hsplit : (";".intercalate devices).toList.splitOn ';' = devices.map String.toList := by
    rw [htext]
    exact List.splitOn_intercalate ';' (hplain ';' rfl) hmapne
  have hcomma : ',' ∉ (";".intercalate devices).toList := by
    rw [htext]
    exact notMem_intercalate (by simp) (hplain ',' rfl)
  have htextne : (";".intercalate devices).toList ≠ [] := by
    intro hnil
    rw [hnil, List.splitOn_nil] at hsplit
    obtain ⟨d, rest, hdevices⟩ := List.exists_cons_of_ne_nil hne
    rw [hdevices, List.map_cons] at hsplit
    refine ne_nil_of_isDiskKey (hkeys d ?_) (List.cons.inj hsplit).1.symm
    rw [hdevices]
    exact List.mem_cons_self
  have hboot : (bootText (cfg.set "boot" (orderValue devices))).toList =
      "order=".toList ++ (";".intercalate devices).toList := by
    unfold bootText orderValue
    rw [KeyedTable.get?_set, if_pos rfl]
    exact String.toList_append
  have hofList : (devices.map String.toList).map String.ofList = devices := by
    rw [List.map_map]
    exact (List.map_congr_left fun d _ => String.ofList_toList).trans (List.map_id _)
  unfold bootEntries
  rw [hboot, orderText_orderValue htextne hcomma, Option.map_some, Option.getD_some, hsplit,
    hofList]

end Written

/-! ### The order that is built -/

section Ordered

variable {cfg : Config} {exclude : Option String} {isoDevice d : String}

theorem mem_hardDisks : d ∈ hardDisks cfg ↔ HardDisk cfg d := by
  unfold hardDisks HardDisk
  rw [List.mem_map]
  constructor
  · rintro ⟨⟨d, v⟩, hmem, rfl⟩
    obtain ⟨hrow, hhard⟩ := List.mem_filter.mp hmem
    obtain ⟨hkey, hvalue⟩ := Bool.and_eq_true_iff.mp hhard
    exact ⟨hkey, v, KeyedTable.get?_eq_some_iff.mpr hrow, hvalue⟩
  · rintro ⟨hkey, v, hget, hvalue⟩
    refine ⟨(d, v), List.mem_filter.mpr ⟨KeyedTable.get?_eq_some_iff.mp hget, ?_⟩, rfl⟩
    exact Bool.and_eq_true_iff.mpr ⟨hkey, hvalue⟩

theorem nodup_map_filter (p : String × ConfigValue → Bool) :
    ((cfg.rows.filter p).map Prod.fst).Nodup :=
  cfg.keys_nodup.sublist (List.filter_sublist.map _)

/-- What the search in the text takes for a disk is one. -/
theorem isHard_of_search {v : String} (hne : v ≠ "") (hcdrom : ¬"media=cdrom".toList <:+: v.toList)
    (hnone : ¬"none".toList <+: v.toList) : isHard v = true := by
  have hoption : (v.toList.splitOn ',').contains "media=cdrom".toList = false := by
    rw [← Bool.not_eq_true, List.contains_iff_mem]
    exact fun hmem => hcdrom (infix_of_mem_splitOn hmem)
  have hhead : (v.toList.splitOn ',').head? ≠ some "none".toList := fun hhead =>
    hnone (prefix_of_head?_splitOn hhead)
  unfold isHard
  rw [hoption, decide_eq_true hne, decide_eq_true hhead]
  rfl

theorem isBootDisk_iff {v : String} :
    isBootDisk exclude (d, .text v) = true ↔
      isDiskKey d = true ∧ exclude ≠ some d ∧ v ≠ "" ∧
        ¬"media=cdrom".toList <:+: v.toList ∧ ¬"none".toList <+: v.toList := by
  unfold isBootDisk
  simp only [Bool.and_eq_true, decide_eq_true_iff, Bool.not_eq_true', ← Bool.not_eq_true,
    Bool.or_eq_true, not_or, List.isPrefixOf_iff_prefix, and_assoc]

theorem hardDisk_of_mem_bootDisks (h : d ∈ bootDisks cfg exclude) : HardDisk cfg d := by
  obtain ⟨⟨d, v⟩, hmem, rfl⟩ := List.mem_map.mp h
  obtain ⟨hrow, hdisk⟩ := List.mem_filter.mp hmem
  cases v with
  | text v =>
    obtain ⟨hkey, -, hne, hcdrom, hnone⟩ := isBootDisk_iff.mp hdisk
    exact ⟨hkey, .text v, KeyedTable.get?_eq_some_iff.mpr hrow,
      isHard_of_search hne hcdrom hnone⟩
  | number n =>
    unfold isBootDisk at hdisk
    rw [Bool.and_false] at hdisk
    cases hdisk

/-- A disk that is found shows nothing that would hide it. -/
theorem search_of_mem_bootDisks {v : String} (h : d ∈ bootDisks cfg exclude)
    (hget : cfg.get? d = some (.text v)) :
    ¬"media=cdrom".toList <:+: v.toList ∧ ¬"none".toList <+: v.toList := by
  obtain ⟨⟨d, v'⟩, hmem, rfl⟩ := List.mem_map.mp h
  obtain ⟨hrow, hdisk⟩ := List.mem_filter.mp hmem
  have hget' := KeyedTable.get?_eq_some_iff.mpr hrow
  rw [hget] at hget'
  cases hget'
  exact (isBootDisk_iff.mp hdisk).2.2.2

/-- Where all disks are recognised they are found in the order of their keys. -/
theorem bootDisks_eq_hardDisks (hexclude : ∀ d ∈ exclude, ¬HardDisk cfg d)
    (h : ∀ d, isDiskKey d = true → ∀ v, cfg.get? d = some (.text v) → isHard v = true →
      ¬"media=cdrom".toList <:+: v.toList ∧ ¬"none".toList <+: v.toList) :
    bootDisks cfg exclude = hardDisks cfg := by
  unfold bootDisks hardDisks
  refine congrArg (List.map Prod.fst) (List.filter_congr fun entry hrow => ?_)
  obtain ⟨d, v⟩ := entry
  have hget := KeyedTable.get?_eq_some_iff.mpr hrow
  rw [Bool.eq_iff_iff]
  constructor
  · intro hdisk
    have hmem : d ∈ bootDisks cfg exclude :=
      List.mem_map_of_mem (f := Prod.fst) (List.mem_filter.mpr ⟨hrow, hdisk⟩)
    obtain ⟨hkey, v', hget', hhard⟩ := hardDisk_of_mem_bootDisks hmem
    rw [hget] at hget'
    cases hget'
    exact Bool.and_eq_true_iff.mpr ⟨hkey, hhard⟩
  · intro hdisk
    obtain ⟨hkey, hhard⟩ := Bool.and_eq_true_iff.mp hdisk
    cases v with
    | text v =>
      refine isBootDisk_iff.mpr ⟨hkey, fun heq => ?_, ?_, h d hkey v hget hhard⟩
      · exact hexclude d heq ⟨hkey, .text v, hget, hhard⟩
      · rintro rfl
        cases hhard
    | number n => cases hhard

theorem orderedBootDisks_eq : orderedBootDisks cfg exclude =
    firsts ((bootEntries cfg).filter (fun d => decide (d ∈ bootDisks cfg exclude)) ++
      bootDisks cfg exclude) := by
  have hfilter : ∀ (devs ordered : List String),
      devs.foldl (fun ordered dev =>
        if dev ∈ bootDisks cfg exclude then addNew ordered dev else ordered) ordered =
      (devs.filter fun d => decide (d ∈ bootDisks cfg exclude)).foldl addNew ordered := by
    intro devs
    induction devs with
    | nil => exact fun _ => rfl
    | cons dev devs ih =>
      intro ordered
      rw [List.foldl_cons, ih, List.filter_cons]
      by_cases hdev : dev ∈ bootDisks cfg exclude
      · rw [if_pos hdev, if_pos (decide_eq_true hdev), List.foldl_cons]
      · rw [if_neg hdev, if_neg (by simpa using hdev)]
  unfold orderedBootDisks
  dsimp only
  rw [hfilter, ← List.foldl_append, foldl_addNew_nil]

theorem mem_orderedBootDisks : d ∈ orderedBootDisks cfg exclude ↔ d ∈ bootDisks cfg exclude := by
  rw [orderedBootDisks_eq, mem_firsts, List.mem_append, List.mem_filter, decide_eq_true_iff]
  exact ⟨fun h => h.elim And.right id, Or.inr⟩

theorem isDiskKey_of_mem_ordered (h : d ∈ orderedBootDisks cfg exclude) : isDiskKey d = true :=
  (hardDisk_of_mem_bootDisks (mem_orderedBootDisks.mp h)).1

/-- The order that is read back is the one that was built. -/
theorem of_setBootDiskFirst {cfg' : Config} (h : cfg' ∈ setBootDiskFirst cfg exclude) :
    bootEntries cfg' = orderedBootDisks cfg exclude := by
  unfold setBootDiskFirst at h
  split at h
  · cases h
  · rename_i hne
    cases h
    exact bootEntries_set hne fun d => isDiskKey_of_mem_ordered

/-- Another boot order does not change the disks. -/
theorem bootDisks_set (v : ConfigValue) :
    bootDisks (cfg.set "boot" v) exclude = bootDisks cfg exclude := by
  refine congrArg (List.map Prod.fst) (cfg.filter_rows_save ("boot", v) fun entry hkey => ?_)
  have hboot : isDiskKey "boot" = false := by decide
  unfold isBootDisk
  rw [hkey, hboot]
  rfl

/-- The detour over the image. -/
theorem ordered_setBootIsoFirst (hiso : isDiskKey isoDevice = true)
    (hdrive : ¬HardDisk cfg isoDevice) (hexclude : ∀ d ∈ exclude, ¬HardDisk cfg d) :
    orderedBootDisks (setBootIsoFirst cfg isoDevice) exclude = orderedBootDisks cfg exclude := by
  have hsame : bootDisks cfg exclude = bootDisks cfg none := by
    refine congrArg (List.map Prod.fst) (List.filter_congr fun entry hrow => ?_)
    obtain ⟨d, v⟩ := entry
    cases v with
    | number n =>
      unfold isBootDisk
      rw [Bool.and_false, Bool.and_false]
    | text v =>
      rw [Bool.eq_iff_iff, isBootDisk_iff, isBootDisk_iff]
      constructor
      · rintro ⟨hkey, -, hrest⟩
        exact ⟨hkey, nofun, hrest⟩
      · rintro ⟨hkey, -, hrest⟩
        refine ⟨hkey, fun heq => hexclude d heq ?_, hrest⟩
        exact ⟨hkey, .text v, KeyedTable.get?_eq_some_iff.mpr hrow,
          isHard_of_search hrest.1 hrest.2.1 hrest.2.2⟩
  have hnotMem : isoDevice ∉ bootDisks cfg none := fun hmem =>
    hdrive (hardDisk_of_mem_bootDisks hmem)
  have hothers : (orderedBootDisks cfg none).filter (fun d => decide (d ≠ isoDevice)) =
      orderedBootDisks cfg none := List.filter_eq_self.mpr fun d hd => decide_eq_true fun heq =>
        hnotMem (heq ▸ mem_orderedBootDisks.mp hd)
  have hentries : bootEntries (setBootIsoFirst cfg isoDevice) =
      isoDevice :: orderedBootDisks cfg none := by
    unfold setBootIsoFirst
    rw [hothers]
    exact bootEntries_set (List.cons_ne_nil _ _) (List.forall_mem_cons.mpr
      ⟨hiso, fun d => isDiskKey_of_mem_ordered⟩)
  have hdisks : bootDisks (setBootIsoFirst cfg isoDevice) exclude = bootDisks cfg none :=
    (bootDisks_set _).trans hsame
  have hfilter : (isoDevice :: orderedBootDisks cfg none).filter
      (fun d => decide (d ∈ bootDisks cfg none)) = orderedBootDisks cfg none := by
    rw [List.filter_cons_of_neg (by simpa using hnotMem)]
    exact List.filter_eq_self.mpr fun d hd => decide_eq_true (mem_orderedBootDisks.mp hd)
  have hnodup : (orderedBootDisks cfg none).Nodup := by
    rw [orderedBootDisks_eq]
    exact nodup_firsts
  have hordered : orderedBootDisks cfg exclude = orderedBootDisks cfg none := by
    rw [orderedBootDisks_eq, orderedBootDisks_eq, hsame]
  rw [hordered, orderedBootDisks_eq, hdisks, hentries, hfilter]
  exact firsts_append_of_subset hnodup fun d => mem_orderedBootDisks.mpr

end Ordered

/-! ### The boot disk -/

section Kept

variable {cfg : Config} {exclude : Option String} {isoDevice : String}

theorem bootEntries_of_isNone (h : (orderText (bootText cfg).toList).isNone = true) :
    bootEntries cfg = [] := by
  unfold bootEntries
  rw [Option.isNone_iff_eq_none.mp h]
  rfl

theorem previousOrder_of_isSome (h : (orderText (bootText cfg).toList).isSome = true) :
    previousOrder cfg = bootEntries cfg := if_pos h

/-- The older form names one disk at most. -/
theorem previousOrder_of_isNone (h : (orderText (bootText cfg).toList).isNone = true) :
    previousOrder cfg = [] ∨ ∃ d, previousOrder cfg = [d] := by
  have hnone : ¬(orderText (bootText cfg).toList).isSome = true := by
    rw [Option.isNone_iff_eq_none.mp h]
    exact Bool.false_ne_true
  unfold previousOrder
  rw [if_neg hnone]
  split
  · cases (cfg.get? "bootdisk").bind ConfigValue.text? with
    | none => exact Or.inl rfl
    | some d => exact Or.inr ⟨d, rfl⟩
  · exact Or.inl rfl

theorem ordered_of_plain (hexclude : ∀ d ∈ exclude, ¬HardDisk cfg d) (h : PlainBoot cfg) :
    orderedBootDisks cfg exclude =
      firsts ((bootEntries cfg).filter (fun d => decide (d ∈ hardDisks cfg)) ++ hardDisks cfg) := by
  rw [orderedBootDisks_eq, bootDisks_eq_hardDisks hexclude h.recognised]

/-- In the older form the disks stand in the order of their keys. -/
theorem ordered_of_isNone (hexclude : ∀ d ∈ exclude, ¬HardDisk cfg d)
    (hrecognised : ∀ d, isDiskKey d = true → ∀ v, cfg.get? d = some (.text v) → isHard v = true →
      ¬"media=cdrom".toList <:+: v.toList ∧ ¬"none".toList <+: v.toList)
    (h : (orderText (bootText cfg).toList).isNone = true) :
    orderedBootDisks cfg exclude = hardDisks cfg := by
  rw [orderedBootDisks_eq, bootDisks_eq_hardDisks hexclude hrecognised, bootEntries_of_isNone h,
    List.filter_nil, List.nil_append]
  exact firsts_of_nodup (nodup_map_filter _)

theorem nodup_orderedBootDisks : (orderedBootDisks cfg exclude).Nodup := by
  rw [orderedBootDisks_eq]
  exact nodup_firsts

theorem exists_setBootDiskFirst {d : String} (h : d ∈ orderedBootDisks cfg exclude) :
    ∃ cfg', cfg' ∈ setBootDiskFirst cfg exclude :=
  ⟨_, if_neg (List.ne_nil_of_mem h)⟩

theorem kept_of_plain (hexclude : ∀ d ∈ exclude, ¬HardDisk cfg d) (h : PlainBoot cfg)
    {d e : String} (hd : HardDisk cfg d) (he : HardDisk cfg e)
    (hlt : (previousOrder cfg).idxOf d < (previousOrder cfg).idxOf e) :
    (orderedBootDisks cfg exclude).idxOf d < (orderedBootDisks cfg exclude).idxOf e := by
  have hmem := mem_hardDisks.mpr hd
  cases hform : (orderText (bootText cfg).toList).isNone with
  | false =>
    rw [Option.isNone_eq_false_iff] at hform
    rw [previousOrder_of_isSome hform] at hlt
    rw [ordered_of_plain hexclude h]
    exact idxOf_firsts_lt (idxOf_append_lt (idxOf_filter_lt (decide_eq_true hmem)
      (decide_eq_true (mem_hardDisks.mpr he)) hlt))
  | true =>
    rw [ordered_of_isNone hexclude h.recognised hform]
    rcases previousOrder_of_isNone hform with hprevious | ⟨x, hprevious⟩
    · rw [hprevious] at hlt
      exact absurd hlt (Nat.lt_irrefl _)
    · rw [hprevious] at hlt
      have hx : x = d := by
        have hin : d ∈ [x] := List.idxOf_lt_length_iff.mp
          (Nat.lt_of_lt_of_le hlt List.idxOf_le_length)
        exact (List.mem_singleton.mp hin).symm
      subst hx
      have hboot : bootDisk cfg = some x := by
        unfold bootDisk
        rw [hprevious]
        exact List.find?_cons_of_pos (p := fun d => decide (d ∈ hardDisks cfg))
          (decide_eq_true hmem)
      obtain ⟨rest, hrest⟩ := List.head?_eq_some_iff.mp (h.legacy hform x hboot)
      have hne : x ≠ e := by
        rintro rfl
        exact Nat.lt_irrefl _ hlt
      rw [hrest, List.idxOf_cons_self, List.idxOf_cons_ne _ hne]
      exact Nat.succ_pos _

theorem first_of_plain (hexclude : ∀ d ∈ exclude, ¬HardDisk cfg d) (h : PlainBoot cfg)
    {d : String} (hd : bootDisk cfg = some d) :
    (orderedBootDisks cfg exclude).head? = some d := by
  cases hform : (orderText (bootText cfg).toList).isNone with
  | false =>
    rw [Option.isNone_eq_false_iff] at hform
    unfold bootDisk at hd
    rw [previousOrder_of_isSome hform, ← List.head?_filter] at hd
    obtain ⟨rest, hrest⟩ := List.head?_eq_some_iff.mp hd
    rw [ordered_of_plain hexclude h, hrest]
    rfl
  | true =>
    rw [ordered_of_isNone hexclude h.recognised hform]
    exact h.legacy hform d hd

/-- For a drive with an image, the boot order is kept just where every disk is recognised and,
in the older form, the boot disk has the first key. -/
theorem keepsBootDisk_iff_plainBoot (cfg : Config) (isoDevice : String)
    (hiso : isDiskKey isoDevice = true) (hdrive : ¬HardDisk cfg isoDevice)
    (exclude : Option String) (hexclude : ∀ d ∈ exclude, ¬HardDisk cfg d) :
    KeepsBootDisk cfg isoDevice exclude ↔ PlainBoot cfg := by
  constructor
  · intro h
    have hrecognised : ∀ d, isDiskKey d = true → ∀ v, cfg.get? d = some (.text v) →
        isHard v = true → ¬"media=cdrom".toList <:+: v.toList ∧ ¬"none".toList <+: v.toList := by
      intro d hkey v hget hhard
      obtain ⟨cfg', hcfg', hcount⟩ := h.once d ⟨hkey, .text v, hget, hhard⟩
      rw [of_setBootDiskFirst hcfg'] at hcount
      have hmem : d ∈ orderedBootDisks cfg exclude :=
        List.count_pos_iff.mp (hcount.symm ▸ Nat.one_pos)
      exact search_of_mem_bootDisks (mem_orderedBootDisks.mp hmem) hget
    refine ⟨hrecognised, fun hform d hd => ?_⟩
    have hfound : decide (d ∈ hardDisks cfg) = true :=
      List.find?_some (p := fun d => decide (d ∈ hardDisks cfg)) hd
    have hhard : HardDisk cfg d := mem_hardDisks.mp (of_decide_eq_true hfound)
    obtain ⟨cfg', hcfg', -⟩ := h.once d hhard
    have hfirst := h.first cfg' hcfg' d hd
    rwa [of_setBootDiskFirst hcfg', ordered_of_isNone hexclude hrecognised hform] at hfirst
  · intro h
    refine ⟨?_, fun d hd => ?_, fun cfg' hcfg' d e hd he hlt => ?_, fun cfg' hcfg' d hd => ?_⟩
    · unfold setBootDiskFirst
      rw [ordered_setBootIsoFirst hiso hdrive hexclude]
      split
      · rfl
      · rw [Option.map_some, Option.map_some, KeyedTable.get?_set, KeyedTable.get?_set, if_pos rfl,
          if_pos rfl]
    · have hmem : d ∈ orderedBootDisks cfg exclude := by
        rw [mem_orderedBootDisks, bootDisks_eq_hardDisks hexclude h.recognised]
        exact mem_hardDisks.mpr hd
      obtain ⟨cfg', hcfg'⟩ := exists_setBootDiskFirst hmem
      refine ⟨cfg', hcfg', ?_⟩
      rw [of_setBootDiskFirst hcfg']
      exact List.count_eq_one_of_mem nodup_orderedBootDisks hmem
    · rw [of_setBootDiskFirst hcfg']
      exact kept_of_plain hexclude h hd he hlt
    · rw [of_setBootDiskFirst hcfg']
      exact first_of_plain hexclude h hd

end Kept

/-! ### A boot disk in the older form -/

/-- A data disk has the first key. -/
def legacyConfig : Config :=
  KeyedTable.ofList [("ide0", .text "local:100/data.raw"), ("scsi0", .text "local:100/root.raw"),
    ("boot", .text "cdn"), ("bootdisk", .text "scsi0")]

/-- The machine boots from the data disk afterwards. -/
theorem legacyConfig_not_keepsBootDisk : ¬KeepsBootDisk legacyConfig "ide2" none := by
  have hordered : orderedBootDisks legacyConfig none = ["ide0", "scsi0"] := by decide +kernel
  have hboot : bootDisk legacyConfig = some "scsi0" := by decide +kernel
  intro h
  have hmem : "scsi0" ∈ orderedBootDisks legacyConfig none := by
    rw [hordered]
    exact List.mem_cons_of_mem _ List.mem_cons_self
  obtain ⟨cfg', hcfg'⟩ := exists_setBootDiskFirst hmem
  have hfirst := h.first cfg' hcfg' "scsi0" hboot
  rw [of_setBootDiskFirst hcfg', hordered, List.head?_cons] at hfirst
  exact absurd (Option.some.inj hfirst) (by decide)

/-- A machine that was installed from an image. -/
def installedConfig : Config :=
  KeyedTable.ofList [("boot", .text "order=ide2;scsi0;net0"), ("cores", .number 2),
    ("ide2", .text "local:iso/debian.iso,media=cdrom"), ("scsi0", .text "local:101/root.raw")]

theorem keepsBootDisk_iff_plainBoot_installed :
    KeepsBootDisk installedConfig "ide2" none ↔ PlainBoot installedConfig := by
  have hdisks : hardDisks installedConfig = ["scsi0"] := by decide +kernel
  have hdrive : ¬HardDisk installedConfig "ide2" := by
    rw [← mem_hardDisks, hdisks, List.mem_singleton]
    decide
  exact keepsBootDisk_iff_plainBoot installedConfig "ide2" (by decide) hdrive none nofun

end PveManager.Disks
