import Mathlib.Tactic.Positivity
import PveManager.Core.Binary64
import PveManager.Disks.BootOrder
import PveManager.Disks.Resize

/-!
# Growing the disk of a deployed machine

After a deployment the disk of the new machine is grown to the requested size. Which disk that is,
and how large it is now, is read from the texts of the configuration; the main result says when
both are read right.
-/

namespace PveManager.Disks

open PveManager.Core PveManager.Api PveManager.Core.Binary64

/-! ### Numbers -/

/-- What `float` makes of a text; a text that is not a number raises, as `int` of not-a-number. -/
inductive FloatResult
  | finite (q : Rat)
  | infinite
  | invalid

/-- Digits with or without a fraction. -/
def decimal (chars : List Char) : Option Rat :=
  match chars.splitOn '.' with
  | [whole] => if whole ≠ [] ∧ whole.all Char.isDigit then some (digitsNat whole) else none
  | [whole, fraction] =>
    if (whole ≠ [] ∧ fraction ≠ []) ∧ (whole ++ fraction).all Char.isDigit then
      some (digitsNat (whole ++ fraction) / 10 ^ fraction.length)
    else none
  | _ => none

/-- `float(text)`; `other` are the texts that are no plain decimal numbers. -/
def float (other : List Char → FloatResult) (text : List Char) : FloatResult :=
  match decimal text with
  | some q => (double q).elim .infinite .finite
  | none => other text

namespace FloatResult

/-- `self * 1024`, which is exact up to the largest double. -/
def times1024 : FloatResult → FloatResult
  | finite q => if |q * 1024| < 2 ^ 1024 then finite (q * 1024) else infinite
  | r => r

/-- `int(self)`, 0 for a `ValueError`; the one of an infinite number is another. -/
def toInt : FloatResult → Except String Int
  | finite q => .ok (if 0 ≤ q then ⌊q⌋ else ⌈q⌉)
  | infinite => .error "cannot convert float infinity to integer"
  | invalid => .ok 0

end FloatResult

/-! ### The size in a text -/

/-- The text behind the first `size=`. -/
def afterSize : List Char → Option (List Char)
  | [] => none
  | c :: cs =>
    if "size=".toList.isPrefixOf (c :: cs) then some ((c :: cs).drop 5) else afterSize cs

/-- The text in front of the first `size=`. -/
def upToSize : List Char → List Char
  | [] => []
  | c :: cs => if "size=".toList.isPrefixOf (c :: cs) then [] else c :: upToSize cs

/-- The size by its unit; what is no number is 0. -/
def parseSizePart (other : List Char → FloatResult) (sizePart : List Char) : Except String Int :=
  if sizePart.getLast? = some 'T' then (float other sizePart.dropLast).times1024.toInt
  else if sizePart.getLast? = some 'G' then (float other sizePart.dropLast).toInt
  else if sizePart.getLast? = some 'M' then
    (float other sizePart.dropLast).toInt.map fun n => n / 1024
  else .ok (((parseInt (String.ofList sizePart)).map fun n => n / 1024 ^ 3).getD 0)

/-- `_parse_size_gb`. -/
def parseSizeGb (other : List Char → FloatResult) (value : List Char) : Except String Int :=
  match afterSize value with
  | none => .ok 0
  | some rest =>
    parseSizePart other ((upToSize rest).takeWhile (· ≠ ','))

/-! ### The disk that is taken -/

/-- `str(value)`. -/
def ConfigValue.str : ConfigValue → String
  | text s => s
  | number n => toString n

/-- The drives that are neither a CD-ROM nor the drive of cloud-init. -/
def candidates (config : Config) : List String :=
  (config.rows.filter fun entry =>
    let value := entry.2.str.toList.map Char.toLower
    isDiskKey entry.1 &&
      !(decide ("media=cdrom".toList <:+: value) || decide ("cloudinit".toList <:+: value))).map
    Prod.fst

/-- The first match of `order=([^,;]+(?:;[^,;]+)*)`, in its entries. -/
def growOrder : List Char → List String
  | [] => []
  | c :: cs =>
    let entries := ((((c :: cs).drop 6).takeWhile (· ≠ ',')).splitOn ';').takeWhile (· ≠ [])
    if "order=".toList.isPrefixOf (c :: cs) && !entries.isEmpty then entries.map String.ofList
    else growOrder cs

/-- The first candidate of the boot order, or the first one by name. -/
def diskKey (config : Config) : Option String :=
  let boot := ((config.get? "boot").map ConfigValue.str).getD ""
  ((growOrder boot.toList).find? fun dev => decide (dev ∈ candidates config)).or
    ((candidates config).insertionSort fun a b => a ≤ b).head?

/-! ### The resize -/

/-- What Proxmox answers. -/
structure GrowAnswers where
  config : Except String Config
  put : Except String Json
  waitForTask : String → Except String Bool
  /-- The exit status of the task. -/
  exitstatus : Option String

/-- The disk and the size that are sent, if they are, and the text of an error. -/
structure GrowResult where
  request : Option (String × String)
  error : Option String

/-- How a resize that was sent ends. -/
def resizeError (answers : GrowAnswers) (key : String) : Option String :=
  match answers.put with
  | .error e => some e
  | .ok (.text upid) =>
    match answers.waitForTask upid with
    | .error e => some e
    | .ok true => none
    | .ok false =>
      let reason := if truthy answers.exitstatus then answers.exitstatus.getD ""
        else "resize task failed"
      some s!"ресайз {key} не удался: {reason}"
  | .ok _ => none

/-- `_resize_vm_disk`. -/
def resizeVmDisk (other : List Char → FloatResult) (answers : GrowAnswers) (vmid : Vmid)
    (diskSize : Int) : GrowResult :=
  match answers.config with
  | .error e => ⟨none, some e⟩
  | .ok config =>
    match diskKey config with
    | none => ⟨none, some s!"основной диск VM {vmid} не найден"⟩
    | some key =>
      let value := ((config.get? key).map ConfigValue.str).getD ""
      match parseSizeGb other value.toList with
      | .error e => ⟨none, some e⟩
      | .ok currentSizeGb =>
        if diskSize ≤ currentSizeGb then ⟨none, none⟩
        else ⟨some (key, s!"{diskSize}G"), resizeError answers key⟩

/-! ### Machines as Proxmox writes them -/

/-- A size in a configuration. -/
structure DiskSize where
  whole : Digits
  fraction : Option Digits
  unit : SizeUnit

namespace DiskSize

variable (s : DiskSize)

/-- The text without its unit. -/
def front : List Char := s.whole.chars ++ s.fraction.elim [] fun f => '.' :: f.chars

def chars : List Char := s.front ++ s.unit.letter

def number : Rat :=
  match s.fraction with
  | none => digitsNat s.whole.chars
  | some f => digitsNat (s.whole.chars ++ f.chars) / 10 ^ f.chars.length

/-- In gigabytes. -/
def gib : Rat := s.number * s.unit.factor / 1024 ^ 3

/-- The size the panel reads, in gigabytes; nothing where no double is large enough. -/
def seen : Option Rat :=
  match s.unit with
  | .t => (double s.number).bind fun q => if q * 1024 < 2 ^ 1024 then some (q * 1024) else none
  | .g => double s.number
  | .m => (double s.number).map fun q => q / 1024
  | .k => some 0
  | .bytes =>
    some (if s.fraction = none ∧ s.whole.chars.length ≤ 4300 then s.number / 1024 ^ 3 else 0)

end DiskSize

/-- An option of a drive other than its size. -/
structure DriveOption where
  name : List Char
  value : List Char
  no_comma : ',' ∉ name ++ value
  no_equals : '=' ∉ name ++ value
  no_size : ¬"size".toList <:+ name

def DriveOption.chars (o : DriveOption) : List Char := o.name ++ '=' :: o.value

/-- A drive: its volume and its options, with or without a size among them. -/
structure Drive where
  volume : List Char
  no_comma : ',' ∉ volume
  no_equals : '=' ∉ volume
  before : List DriveOption
  size : Option DiskSize
  after : List DriveOption

namespace Drive

variable (v : Drive)

def parts : List (List Char) :=
  v.volume :: v.before.map DriveOption.chars ++
    (v.size.elim [] fun s => ["size=".toList ++ s.chars]) ++ v.after.map DriveOption.chars

def text : String := String.ofList ([','].intercalate v.parts)

/-- The size the panel reads; without one it reads 0. -/
def seen : Option Rat := v.size.elim (some 0) DiskSize.seen

/-- The drive is at least as large for sure. -/
def AtLeast (diskSize : Int) : Prop :=
  diskSize ≤ 0 ∨ ∃ s, v.size = some s ∧ (diskSize : Rat) ≤ s.gib

/-- The drive is smaller for sure. -/
def Below (diskSize : Int) : Prop := ∃ s, v.size = some s ∧ s.gib < (diskSize : Rat)

end Drive

/-- The configuration of a machine with the drives behind its texts. -/
structure Machine where
  config : Config
  drive : String → Option Drive
  drive_text : ∀ key, isDiskKey key = true →
    config.get? key = (drive key).map fun v => ConfigValue.text v.text

namespace Machine

variable (m : Machine)

/-- The disk the machine boots from; where its configuration names none, any of its disks. -/
def IsBoot (d : String) : Prop :=
  HardDisk m.config d ∧ (bootDisk m.config = some d ∨ bootDisk m.config = none)

/-- Sizes of the disks, in gigabytes, that are those the configuration states. -/
structure Sizes (current : String → Rat) : Prop where
  nonneg : ∀ d, 0 ≤ current d
  stated : ∀ d v s, m.drive d = some v → v.size = some s → current d = s.gib

/-- The size of a disk afterwards: Proxmox resizes what it is asked to. -/
def sizeAfter (current : String → Rat) (r : GrowResult) (diskSize : Int) (d : String) : Rat :=
  if r.request.map Prod.fst = some d then diskSize else current d

/-- One call asks for the right resize, and without an error the disk is large enough. -/
structure Grows (other : List Char → FloatResult) (diskSize : Int) (current : String → Rat)
    (answers : GrowAnswers) (vmid : Vmid) : Prop where
  request : ∀ d size, (resizeVmDisk other answers vmid diskSize).request = some (d, size) →
    m.IsBoot d ∧ current d < diskSize ∧ size = s!"{diskSize}G"
  grown : (resizeVmDisk other answers vmid diskSize).error = none → ∃ d, m.IsBoot d ∧
    diskSize ≤ sizeAfter current (resizeVmDisk other answers vmid diskSize) diskSize d

/-- So does every call, whatever the sizes are that the configuration does not state. -/
def GrowsExactly (other : List Char → FloatResult) (diskSize : Int) : Prop :=
  ∀ current, m.Sizes current → ∀ answers vmid, answers.config = .ok m.config →
    m.Grows other diskSize current answers vmid

/-- The drive that is taken is read on the right side of the requested size: read as large enough,
a boot disk is; read as smaller, it is a boot disk and smaller. -/
def ReadRight (diskSize : Int) : Prop :=
  ∀ d v q, diskKey m.config = some d → m.drive d = some v → v.seen = some q →
    ((diskSize : Rat) ≤ q → ∃ b v', m.IsBoot b ∧ m.drive b = some v' ∧ v'.AtLeast diskSize) ∧
    (q < (diskSize : Rat) → m.IsBoot d ∧ v.Below diskSize)

end Machine

/-! ### Finding the size -/

section Search

variable {part rest : List Char}

/-- A pattern without a comma that begins a text begins its first part. -/
theorem prefix_takeWhile {pattern text : List Char} (hpattern : ',' ∉ pattern)
    (h : pattern <+: text) : pattern <+: text.takeWhile (· ≠ ',') := by
  obtain ⟨rest, rfl⟩ := h
  have hall : ∀ c ∈ pattern, decide (c ≠ ',') = true :=
    fun c hc => decide_eq_true fun heq => hpattern (heq ▸ hc)
  rw [List.takeWhile_append_of_pos hall]
  exact List.prefix_append _ _

/-- The first part of a text is what stands in front of its first comma. -/
theorem takeWhile_part (hcomma : ',' ∉ part) (hrest : rest = [] ∨ ∃ r, rest = ',' :: r) :
    (part ++ rest).takeWhile (· ≠ ',') = part := by
  have hall : ∀ c ∈ part, decide (c ≠ ',') = true :=
    fun c hc => decide_eq_true fun heq => hcomma (heq ▸ hc)
  rw [List.takeWhile_append_of_pos hall]
  rcases hrest with rfl | ⟨r, rfl⟩
  · simp
  · simp

theorem comma_notMem_size : ',' ∉ "size=".toList := by simp

/-- A part without `size=` is passed over. -/
theorem afterSize_append (hcomma : ',' ∉ part) (hsize : ¬"size=".toList <:+: part) :
    afterSize (part ++ ',' :: rest) = afterSize rest := by
  induction part with
  | nil =>
    have hno : ¬"size=".toList.isPrefixOf (',' :: rest) = true := by simp
    rw [List.nil_append, afterSize, if_neg hno]
  | cons c part ih =>
    have hno : ¬"size=".toList.isPrefixOf (c :: (part ++ ',' :: rest)) = true := by
      intro h
      have hstart := prefix_takeWhile comma_notMem_size (List.isPrefixOf_iff_prefix.mp h)
      rw [← List.cons_append, takeWhile_part hcomma (Or.inr ⟨rest, rfl⟩)] at hstart
      exact hsize hstart.isInfix
    rw [List.cons_append, afterSize, if_neg hno]
    exact ih (fun hmem => hcomma (List.mem_cons_of_mem _ hmem))
      fun hwithin => hsize (hwithin.trans (List.suffix_cons c part).isInfix)

theorem afterSize_eq_none (hsize : ¬"size=".toList <:+: part) : afterSize part = none := by
  induction part with
  | nil => rfl
  | cons c part ih =>
    have hno : ¬"size=".toList.isPrefixOf (c :: part) = true :=
      fun h => hsize (List.isPrefixOf_iff_prefix.mp h).isInfix
    rw [afterSize, if_neg hno]
    exact ih fun hwithin => hsize (hwithin.trans (List.suffix_cons c part).isInfix)

theorem afterSize_size (text : List Char) : afterSize ("size=".toList ++ text) = some text := by
  have hcons : "size=".toList ++ text = 's' :: ("ize=".toList ++ text) := by simp
  have hstart : "size=".toList.isPrefixOf ('s' :: ("ize=".toList ++ text)) = true := by
    rw [← hcons]
    exact List.isPrefixOf_iff_prefix.mpr (List.prefix_append _ _)
  rw [hcons, afterSize, if_pos hstart]
  simp

/-- The parts in front of the size are passed over. -/
theorem afterSize_intercalate {before : List (List Char)}
    (hbefore : ∀ part ∈ before, ',' ∉ part ∧ ¬"size=".toList <:+: part) (size : List Char)
    (after : List (List Char)) :
    ∃ rest, (rest = [] ∨ ∃ r, rest = ',' :: r) ∧
      afterSize ([','].intercalate (before ++ ("size=".toList ++ size) :: after)) =
        some (size ++ rest) := by
  induction before with
  | nil =>
    rw [List.nil_append]
    cases after with
    | nil =>
      refine ⟨[], Or.inl rfl, ?_⟩
      rw [List.intercalate_singleton, afterSize_size, List.append_nil]
    | cons part after =>
      refine ⟨',' :: [','].intercalate (part :: after), Or.inr ⟨_, rfl⟩, ?_⟩
      rw [List.intercalate_cons_of_ne_nil (List.cons_ne_nil _ _), List.append_assoc,
        List.append_assoc, afterSize_size]
      rfl
  | cons part before ih =>
    obtain ⟨⟨hcomma, hsize⟩, hbefore⟩ := List.forall_mem_cons.mp hbefore
    obtain ⟨rest, hrest, hafter⟩ := ih hbefore
    refine ⟨rest, hrest, ?_⟩
    rw [List.cons_append, List.intercalate_cons_of_ne_nil (by simp), List.append_assoc,
      List.singleton_append, afterSize_append hcomma hsize]
    exact hafter

theorem afterSize_intercalate_eq_none {parts : List (List Char)}
    (hparts : ∀ part ∈ parts, ',' ∉ part ∧ ¬"size=".toList <:+: part) :
    afterSize ([','].intercalate parts) = none := by
  induction parts with
  | nil => rfl
  | cons part parts ih =>
    obtain ⟨⟨hcomma, hsize⟩, hparts⟩ := List.forall_mem_cons.mp hparts
    cases parts with
    | nil =>
      rw [List.intercalate_singleton]
      exact afterSize_eq_none hsize
    | cons part' parts =>
      rw [List.intercalate_cons_of_ne_nil (List.cons_ne_nil _ _), List.append_assoc,
        List.singleton_append, afterSize_append hcomma hsize]
      exact ih hparts

/-- What follows the size begins with a comma and does not matter. -/
theorem takeWhile_upToSize (hcomma : ',' ∉ part) (hequals : '=' ∉ part)
    (hrest : rest = [] ∨ ∃ r, rest = ',' :: r) :
    (upToSize (part ++ rest)).takeWhile (· ≠ ',') = part := by
  induction part with
  | nil =>
    rcases hrest with rfl | ⟨r, rfl⟩
    · rfl
    · have hno : ¬"size=".toList.isPrefixOf (',' :: r) = true := by simp
      rw [List.nil_append, upToSize, if_neg hno]
      simp
  | cons c part ih =>
    have hno : ¬"size=".toList.isPrefixOf (c :: (part ++ rest)) = true := by
      intro h
      have hstart := prefix_takeWhile comma_notMem_size (List.isPrefixOf_iff_prefix.mp h)
      rw [← List.cons_append, takeWhile_part hcomma hrest] at hstart
      exact hequals (hstart.mem (by simp))
    have hc : c ≠ ',' := fun heq => hcomma (heq ▸ List.mem_cons_self)
    rw [List.cons_append, upToSize, if_neg hno, List.takeWhile_cons_of_pos (by simpa using hc)]
    rw [ih (fun hmem => hcomma (List.mem_cons_of_mem _ hmem))
      fun hmem => hequals (List.mem_cons_of_mem _ hmem)]

end Search

/-! ### Reading the size -/

theorem SizeUnit.isUpper_of_mem_letter (u : SizeUnit) {c : Char} (h : c ∈ u.letter) :
    c.isUpper = true := by
  cases u with
  | bytes => exact absurd h List.not_mem_nil
  | k | m | g | t => rw [List.mem_singleton.mp h]; rfl

namespace DiskSize

variable (s : DiskSize) (other : List Char → FloatResult)

/-- The size as an argument of a resize, whose text it shares. -/
def argument : SizeArgument := ⟨false, s.whole, s.fraction, s.unit⟩

theorem front_argument : s.argument.front = s.front := by
  unfold SizeArgument.front argument
  rw [if_neg Bool.false_ne_true, List.nil_append]
  rfl

theorem number_nonneg : 0 ≤ s.number := by
  unfold number
  split
  · exact Nat.cast_nonneg _
  · positivity

theorem gib_nonneg : 0 ≤ s.gib := by
  have hnumber := s.number_nonneg
  unfold gib
  positivity

theorem mem_front {c : Char} (h : c ∈ s.front) : c.isDigit = true ∨ c = '.' := by
  unfold front at h
  rcases List.mem_append.mp h with h | h
  · exact Or.inl (s.whole.isDigit c h)
  · cases hf : s.fraction with
    | none =>
      rw [hf] at h
      exact absurd h List.not_mem_nil
    | some f =>
      rw [hf] at h
      rcases List.mem_cons.mp h with h | h
      · exact Or.inr h
      · exact Or.inl (f.isDigit c h)

theorem notMem_chars {c : Char} (hdigit : c.isDigit = false) (hdot : c ≠ '.')
    (hupper : c.isUpper = false) : c ∉ s.chars := by
  unfold chars
  rw [List.mem_append]
  rintro (h | h)
  · rcases s.mem_front h with h | h
    · rw [hdigit] at h
      cases h
    · exact hdot h
  · rw [s.unit.isUpper_of_mem_letter h] at hupper
    cases hupper

theorem decimal_front : decimal s.front = some s.number := by
  have hall : ∀ d : Digits, d.chars.all Char.isDigit = true :=
    fun d => List.all_eq_true.mpr d.isDigit
  have hdot : ∀ d : Digits, '.' ∉ d.chars := by
    intro d hmem
    have hdigit := d.isDigit '.' hmem
    cases hdigit
  unfold decimal front number
  cases s.fraction with
  | none =>
    rw [Option.elim_none, List.append_nil, List.splitOn_eq_singleton (hdot s.whole)]
    exact if_pos ⟨s.whole.ne_nil, hall s.whole⟩
  | some f =>
    rw [Option.elim_some, List.splitOn_append_cons_self_of_not_mem (hdot s.whole),
      List.splitOn_eq_singleton (hdot f)]
    refine if_pos ⟨⟨s.whole.ne_nil, f.ne_nil⟩, ?_⟩
    rw [List.all_append, hall, hall]
    rfl

theorem float_front : float other s.front = (double s.number).elim .infinite .finite := by
  unfold float
  rw [s.decimal_front]

/-- A whole number of at most 4300 digits is read, nothing else is. -/
theorem parseInt_bytes (hunit : s.unit = .bytes) :
    parseInt (String.ofList s.chars) =
      if s.fraction = none ∧ s.whole.chars.length ≤ 4300 then some (digitsNat s.whole.chars : Int)
      else none := by
  have hspace : ∀ c ∈ s.front, isSpace c = false := by
    intro c hc
    rw [← s.front_argument] at hc
    exact SizeArgument.isSpace_front hc
  have hchars : s.chars = s.front := by
    unfold chars
    rw [hunit]
    exact List.append_nil _
  rw [hchars]
  cases hf : s.fraction with
  | none =>
    have hfront : s.front = (if false = true then ['+'] else []) ++ s.whole.chars := by
      unfold front
      rw [hf, if_neg Bool.false_ne_true]
      exact List.append_nil _
    rw [hfront, parseInt_digits false s.whole]
    by_cases hlength : s.whole.chars.length ≤ 4300
    · rw [if_neg (Nat.not_lt.mpr hlength), if_pos ⟨rfl, hlength⟩]
    · rw [if_pos (Nat.not_le.mp hlength), if_neg fun h => hlength h.2]
  | some f =>
    have hdot : '.' ∈ s.front := by
      unfold front
      rw [hf]
      simp
    rw [if_neg fun h => (by cases h.1)]
    exact parseInt_eq_none hspace hdot rfl (by decide)

end DiskSize

/-- A number that is not negative is cut to its whole part. -/
theorem toInt_finite {q : Rat} (h : 0 ≤ q) :
    ∃ n, (FloatResult.finite q).toInt = .ok n ∧ ∀ d : Int, d ≤ n ↔ (d : Rat) ≤ q := by
  refine ⟨⌊q⌋, ?_, fun d => Int.le_floor⟩
  unfold FloatResult.toInt
  dsimp only
  rw [if_pos h]

/-- A result stands for a size, or for none where there is no double that large. -/
def Reads (result : Except String Int) : Option Rat → Prop
  | none => ∃ e, result = .error e
  | some q => ∃ n, result = .ok n ∧ ∀ d : Int, d ≤ n ↔ (d : Rat) ≤ q

/-- Dividing by a whole number and cutting the rest. -/
theorem le_ediv_iff {n k d : Int} {q : Rat} (hk : 0 < k)
    (h : d * k ≤ n ↔ ((d * k : Int) : Rat) ≤ q) : d ≤ n / k ↔ (d : Rat) ≤ q / k := by
  have hk' : (0 : Rat) < k := Int.cast_pos.mpr hk
  rw [Int.le_ediv_iff_mul_le hk, h, le_div_iff₀ hk', Int.cast_mul]

theorem reads_zero : Reads (.ok 0) (some 0) :=
  ⟨0, rfl, fun _ => Int.cast_nonpos.symm⟩

theorem reads_parseSizePart (other : List Char → FloatResult) (s : DiskSize) :
    Reads (parseSizePart other s.chars) s.seen := by
  have hfloat := s.float_front other
  have hlast : ∀ c, s.unit.letter = [c] →
      s.chars.getLast? = some c ∧ s.chars.dropLast = s.front := by
    intro c hc
    unfold DiskSize.chars
    rw [hc]
    exact ⟨List.getLast?_concat, List.dropLast_concat⟩
  unfold parseSizePart DiskSize.seen
  cases hunit : s.unit with
  | t =>
    obtain ⟨hT, hfront⟩ := hlast 'T' (by rw [hunit]; rfl)
    rw [if_pos hT, hfront, hfloat]
    cases hd : double s.number with
    | none => exact ⟨_, rfl⟩
    | some q =>
      have hq : 0 ≤ q * 1024 := mul_nonneg (double_nonneg s.number_nonneg hd) (by norm_num)
      rw [Option.elim_some, Option.bind_some]
      unfold FloatResult.times1024
      dsimp only
      rw [abs_of_nonneg hq]
      split
      · exact toInt_finite hq
      · exact ⟨_, rfl⟩
  | g =>
    obtain ⟨hG, hfront⟩ := hlast 'G' (by rw [hunit]; rfl)
    rw [hG, hfront, hfloat, if_neg (by decide), if_pos rfl]
    cases hd : double s.number with
    | none => exact ⟨_, rfl⟩
    | some q => exact toInt_finite (double_nonneg s.number_nonneg hd)
  | m =>
    obtain ⟨hM, hfront⟩ := hlast 'M' (by rw [hunit]; rfl)
    rw [hM, hfront, hfloat, if_neg (by decide), if_neg (by decide), if_pos rfl]
    cases hd : double s.number with
    | none => exact ⟨_, rfl⟩
    | some q =>
      obtain ⟨n, hn, hiff⟩ := toInt_finite (double_nonneg s.number_nonneg hd)
      refine ⟨n / 1024, ?_, fun d => le_ediv_iff (by decide) (hiff (d * 1024))⟩
      rw [Option.elim_some, hn]
      rfl
  | k =>
    obtain ⟨hK, -⟩ := hlast 'K' (by rw [hunit]; rfl)
    have hspace : ∀ c ∈ s.chars, isSpace c = false := by
      intro c hc
      unfold DiskSize.chars at hc
      rcases List.mem_append.mp hc with hc | hc
      · rw [← s.front_argument] at hc
        exact SizeArgument.isSpace_front hc
      · rw [hunit] at hc
        rw [List.mem_singleton.mp hc]
        rfl
    have hmem : 'K' ∈ s.chars := List.mem_of_getLast? hK
    rw [hK, if_neg (by decide), if_neg (by decide), if_neg (by decide),
      parseInt_eq_none hspace hmem rfl (by decide)]
    exact reads_zero
  | bytes =>
    obtain ⟨init, c, hends, hdigit⟩ := SizeArgument.exists_front_eq s.argument
    have hc : s.chars.getLast? = some c := by
      unfold DiskSize.chars
      rw [hunit, ← s.front_argument, hends]
      exact (congrArg List.getLast? (List.append_nil _)).trans List.getLast?_concat
    have hletter : ∀ letter : Char, letter.isDigit = false → ¬s.chars.getLast? = some letter := by
      intro letter hfalse heq
      rw [hc] at heq
      rw [Option.some.inj heq, hfalse] at hdigit
      cases hdigit
    rw [if_neg (hletter 'T' rfl), if_neg (hletter 'G' rfl), if_neg (hletter 'M' rfl),
      s.parseInt_bytes hunit]
    by_cases hwhole : s.fraction = none ∧ s.whole.chars.length ≤ 4300
    · have hnumber : s.number = digitsNat s.whole.chars := by
        unfold DiskSize.number
        rw [hwhole.1]
      rw [if_pos hwhole, if_pos hwhole, hnumber]
      refine ⟨_, rfl, fun d => ?_⟩
      have hcast : d * 1024 ^ 3 ≤ (digitsNat s.whole.chars : Int) ↔
          ((d * 1024 ^ 3 : Int) : Rat) ≤ digitsNat s.whole.chars := by
        rw [← Int.cast_natCast (R := Rat), Int.cast_le]
      have hiff := le_ediv_iff (by decide) hcast
      rwa [Int.cast_pow, Int.cast_ofNat] at hiff
    · rw [if_neg hwhole, if_neg hwhole]
      exact reads_zero

/-! ### Reading a drive -/

theorem DriveOption.comma_notMem (o : DriveOption) : ',' ∉ o.chars := by
  have hno := o.no_comma
  rw [List.mem_append, not_or] at hno
  unfold chars
  rw [List.mem_append, List.mem_cons]
  rintro (h | h | h)
  · exact hno.1 h
  · cases h
  · exact hno.2 h

/-- The only equals sign of an option stands behind its name. -/
theorem DriveOption.not_size (o : DriveOption) : ¬"size=".toList <:+: o.chars := by
  have hno := o.no_equals
  rw [List.mem_append, not_or] at hno
  rintro ⟨front, back, h⟩
  have hsplit : o.name ++ '=' :: o.value = (front ++ "size".toList) ++ '=' :: back := by
    unfold chars at h
    rw [← h]
    simp
  obtain ⟨hname, -, -⟩ := (List.append_cons_inj_of_notMem hno.1 hno.2).mp hsplit
  exact o.no_size ⟨front, hname.symm⟩

namespace Drive

variable (v : Drive) (other : List Char → FloatResult)

theorem reads_parseSizeGb : Reads (parseSizeGb other v.text.toList) v.seen := by
  have hvolume : ',' ∉ v.volume ∧ ¬"size=".toList <:+: v.volume :=
    ⟨v.no_comma, fun h => v.no_equals (h.mem (by simp))⟩
  have hoptions : ∀ opts : List DriveOption, ∀ part ∈ opts.map DriveOption.chars,
      ',' ∉ part ∧ ¬"size=".toList <:+: part := by
    intro opts part hpart
    obtain ⟨o, -, rfl⟩ := List.mem_map.mp hpart
    exact ⟨o.comma_notMem, o.not_size⟩
  have hbefore : ∀ part ∈ v.volume :: v.before.map DriveOption.chars,
      ',' ∉ part ∧ ¬"size=".toList <:+: part :=
    List.forall_mem_cons.mpr ⟨hvolume, hoptions v.before⟩
  unfold parseSizeGb text parts seen
  rw [String.toList_ofList]
  cases v.size with
  | none =>
    have hall : ∀ part ∈ v.volume :: v.before.map DriveOption.chars ++
        v.after.map DriveOption.chars, ',' ∉ part ∧ ¬"size=".toList <:+: part := by
      intro part hpart
      rcases List.mem_append.mp hpart with hpart | hpart
      · exact hbefore part hpart
      · exact hoptions v.after part hpart
    rw [Option.elim_none, List.append_nil, afterSize_intercalate_eq_none hall]
    exact reads_zero
  | some s =>
    obtain ⟨rest, hrest, hafter⟩ :=
      afterSize_intercalate hbefore s.chars (v.after.map DriveOption.chars)
    have hcomma : ',' ∉ s.chars := s.notMem_chars rfl (by decide) rfl
    have hequals : '=' ∉ s.chars := s.notMem_chars rfl (by decide) rfl
    rw [Option.elim_some, List.append_assoc, List.singleton_append, hafter]
    dsimp only
    rw [takeWhile_upToSize hcomma hequals hrest]
    exact reads_parseSizePart other s

end Drive

/-! ### The disk that is taken -/

section Taken

variable {config : Config} {d : String}

theorem isDiskKey_of_mem_candidates (h : d ∈ candidates config) :
    isDiskKey d = true ∧ (config.get? d).isSome = true := by
  unfold candidates at h
  obtain ⟨⟨key, value⟩, hentry, rfl⟩ := List.mem_map.mp h
  obtain ⟨hmem, hkey⟩ := List.mem_filter.mp hentry
  rw [Bool.and_eq_true] at hkey
  refine ⟨hkey.1, ?_⟩
  rw [KeyedTable.get?_eq_some_iff.mpr hmem]
  rfl

theorem mem_candidates_of_diskKey (h : diskKey config = some d) : d ∈ candidates config := by
  unfold diskKey at h
  rcases Option.or_eq_some_iff.mp h with h | ⟨-, h⟩
  · have hmem := List.find?_some h
    exact of_decide_eq_true hmem
  · exact (List.mem_insertionSort _).mp (List.mem_of_head? h)

end Taken

namespace Machine

variable (m : Machine) {d : String}

/-- The drive behind the key that is taken. -/
theorem exists_drive_of_diskKey (h : diskKey m.config = some d) :
    ∃ v, m.drive d = some v ∧ ((m.config.get? d).map ConfigValue.str).getD "" = v.text := by
  obtain ⟨hkey, hsome⟩ := isDiskKey_of_mem_candidates (mem_candidates_of_diskKey h)
  have htext := m.drive_text d hkey
  cases hdrive : m.drive d with
  | none =>
    rw [htext, hdrive] at hsome
    cases hsome
  | some v =>
    refine ⟨v, rfl, ?_⟩
    rw [htext, hdrive]
    rfl

theorem exists_drive_of_isBoot (h : m.IsBoot d) : ∃ v, m.drive d = some v := by
  obtain ⟨⟨hkey, value, hvalue, -⟩, -⟩ := h
  rw [m.drive_text d hkey] at hvalue
  obtain ⟨v, hv, -⟩ := Option.map_eq_some_iff.mp hvalue
  exact ⟨v, hv⟩

/-- The sizes that the configuration states, and one for all others. -/
def statedSizes (x : Rat) (d : String) : Rat :=
  ((m.drive d).bind Drive.size).elim x DiskSize.gib

theorem sizes_statedSizes {x : Rat} (hx : 0 ≤ x) : m.Sizes (m.statedSizes x) where
  nonneg d := by
    unfold statedSizes
    cases (m.drive d).bind Drive.size with
    | none => exact hx
    | some s => exact s.gib_nonneg
  stated d v s hv hs := by
    unfold statedSizes
    rw [hv, Option.bind_some, hs]
    rfl

/-- A drive is as large as requested for sure if it is with the least sizes. -/
theorem atLeast_iff {v : Drive} (hv : m.drive d = some v) {diskSize : Int} :
    v.AtLeast diskSize ↔ (diskSize : Rat) ≤ m.statedSizes 0 d := by
  unfold Drive.AtLeast statedSizes
  rw [hv, Option.bind_some]
  cases v.size with
  | none => simp
  | some s =>
    have hgib := s.gib_nonneg
    constructor
    · rintro (h | ⟨s', hs', h⟩)
      · exact (Int.cast_nonpos.mpr h).trans hgib
      · rw [Option.some.inj hs']
        exact h
    · exact fun h => Or.inr ⟨s, rfl, h⟩

/-- And smaller for sure if it is with every size. -/
theorem below_iff {v : Drive} (hv : m.drive d = some v) {diskSize : Int}
    (hpos : (0 : Rat) < diskSize ∨ v.size.isSome = true) :
    v.Below diskSize ↔ ∀ current, m.Sizes current → current d < diskSize := by
  constructor
  · rintro ⟨s, hs, h⟩ current hcurrent
    rw [hcurrent.stated d v s hv hs]
    exact h
  · intro h
    cases hs : v.size with
    | some s =>
      refine ⟨s, hs, ?_⟩
      have hlt := h _ (m.sizes_statedSizes (le_refl 0))
      unfold statedSizes at hlt
      rwa [hv, Option.bind_some, hs] at hlt
    | none =>
      have hpos := hpos.resolve_right (by rw [hs]; exact Bool.false_ne_true)
      have hlt := h _ (m.sizes_statedSizes hpos.le)
      unfold statedSizes at hlt
      rw [hv, Option.bind_some, hs] at hlt
      exact absurd hlt (lt_irrefl _)

/-! ### The calls -/

section Calls

variable {other : List Char → FloatResult} {diskSize : Int} {current : String → Rat}
  {answers : GrowAnswers} {vmid : Vmid} {v : Drive}

/-- A call that ends with an error and sends nothing does nothing wrong. -/
theorem grows_of_error {e : String}
    (h : resizeVmDisk other answers vmid diskSize = ⟨none, some e⟩) :
    m.Grows other diskSize current answers vmid := by
  constructor
  · intro d size hrequest
    rw [h] at hrequest
    cases hrequest
  · intro herror
    rw [h] at herror
    cases herror

theorem run_of_none (hconfig : answers.config = .ok m.config) (hkey : diskKey m.config = none) :
    resizeVmDisk other answers vmid diskSize =
      ⟨none, some s!"основной диск VM {vmid} не найден"⟩ := by
  unfold resizeVmDisk
  rw [hconfig]
  dsimp only
  rw [hkey]

theorem run_of_error (hconfig : answers.config = .ok m.config) (hkey : diskKey m.config = some d)
    (hv : ((m.config.get? d).map ConfigValue.str).getD "" = v.text) {e : String}
    (hread : parseSizeGb other v.text.toList = .error e) :
    resizeVmDisk other answers vmid diskSize = ⟨none, some e⟩ := by
  unfold resizeVmDisk
  rw [hconfig]
  dsimp only
  rw [hkey]
  dsimp only
  rw [hv, hread]

theorem run_of_ok (hconfig : answers.config = .ok m.config) (hkey : diskKey m.config = some d)
    (hv : ((m.config.get? d).map ConfigValue.str).getD "" = v.text) {n : Int}
    (hread : parseSizeGb other v.text.toList = .ok n) :
    resizeVmDisk other answers vmid diskSize =
      if diskSize ≤ n then ⟨none, none⟩
      else ⟨some (d, s!"{diskSize}G"), resizeError answers d⟩ := by
  unfold resizeVmDisk
  rw [hconfig]
  dsimp only
  rw [hkey]
  dsimp only
  rw [hv, hread]

/-- A call that finds its drive large enough is right if a boot disk is. -/
theorem grows_of_enough (h : resizeVmDisk other answers vmid diskSize = ⟨none, none⟩) :
    m.Grows other diskSize current answers vmid ↔ ∃ b, m.IsBoot b ∧ diskSize ≤ current b := by
  have hafter : ∀ b, sizeAfter current ⟨none, none⟩ diskSize b = current b :=
    fun b => if_neg fun h => by cases h
  constructor
  · intro hgrows
    obtain ⟨b, hb, hsize⟩ := hgrows.grown (by rw [h])
    rw [h, hafter] at hsize
    exact ⟨b, hb, hsize⟩
  · rintro ⟨b, hb, hsize⟩
    constructor
    · intro d size hrequest
      rw [h] at hrequest
      cases hrequest
    · intro _
      rw [h]
      exact ⟨b, hb, (hafter b).symm ▸ hsize⟩

/-- A call that sends a resize is right if it is for a boot disk that is smaller. -/
theorem grows_of_request {e : Option String}
    (h : resizeVmDisk other answers vmid diskSize = ⟨some (d, s!"{diskSize}G"), e⟩) :
    m.Grows other diskSize current answers vmid ↔ m.IsBoot d ∧ current d < diskSize := by
  constructor
  · intro hgrows
    obtain ⟨hboot, hlt, -⟩ := hgrows.request d s!"{diskSize}G" (by rw [h])
    exact ⟨hboot, hlt⟩
  · rintro ⟨hboot, hlt⟩
    constructor
    · intro d' size hrequest
      rw [h] at hrequest
      cases hrequest
      exact ⟨hboot, hlt, rfl⟩
    · intro _
      have hafter : sizeAfter current ⟨some (d, s!"{diskSize}G"), e⟩ diskSize d = diskSize :=
        if_pos rfl
      refine ⟨d, hboot, ?_⟩
      rw [h, hafter]

end Calls

end Machine

/-- A boot disk whose size is written in whole gigabytes is read right for every request. -/
theorem readRight_of_gigabytes {m : Machine} {d : String} {v : Drive} {s : DiskSize}
    (hkey : diskKey m.config = some d) (hboot : m.IsBoot d) (hv : m.drive d = some v)
    (hsize : v.size = some s) (hunit : s.unit = .g) (hfraction : s.fraction = none)
    (hlt : digitsNat s.whole.chars < 2 ^ 53) (diskSize : Int) : m.ReadRight diskSize := by
  have hnumber : s.number = digitsNat s.whole.chars := by
    unfold DiskSize.number
    rw [hfraction]
  have hgib : s.gib = digitsNat s.whole.chars := by
    unfold DiskSize.gib
    rw [hnumber, hunit]
    norm_num [SizeUnit.factor]
  have hseen : v.seen = some (digitsNat s.whole.chars : Rat) := by
    unfold Drive.seen DiskSize.seen
    rw [hsize, Option.elim_some, hunit, hnumber]
    exact double_natCast hlt
  intro d' v' q hd' hv' hq
  rw [hkey] at hd'
  cases hd'
  rw [hv] at hv'
  cases hv'
  rw [hseen] at hq
  cases hq
  refine ⟨fun hle => ⟨d, v, hboot, hv, Or.inr ⟨s, hsize, ?_⟩⟩, fun hgt => ⟨hboot, s, hsize, ?_⟩⟩
  · rw [hgib]
    exact hle
  · rw [hgib]
    exact hgt

/-- The boot disk grows exactly where the drive that is taken is read on the right side of the
requested size. -/
theorem growsExactly_iff_readRight (m : Machine) (other : List Char → FloatResult)
    (diskSize : Int) : m.GrowsExactly other diskSize ↔ m.ReadRight diskSize := by
  cases hkey : diskKey m.config with
  | none =>
    refine iff_of_true (fun current _ answers vmid hconfig => ?_) fun d v q hd => ?_
    · exact m.grows_of_error (m.run_of_none hconfig hkey)
    · rw [hkey] at hd
      cases hd
  | some d =>
    obtain ⟨v, hdrive, htext⟩ := m.exists_drive_of_diskKey hkey
    have hreads := v.reads_parseSizeGb other
    cases hseen : v.seen with
    | none =>
      rw [hseen] at hreads
      obtain ⟨e, hread⟩ := hreads
      refine iff_of_true (fun current _ answers vmid hconfig => ?_) fun d' v' q hd hv hq => ?_
      · exact m.grows_of_error (m.run_of_error hconfig hkey htext hread)
      · rw [hkey] at hd
        cases hd
        rw [hdrive] at hv
        cases hv
        rw [hseen] at hq
        cases hq
    | some q =>
      rw [hseen] at hreads
      obtain ⟨n, hread, hside⟩ := hreads
      have hright : m.ReadRight diskSize ↔
          ((diskSize : Rat) ≤ q → ∃ b v', m.IsBoot b ∧ m.drive b = some v' ∧ v'.AtLeast diskSize) ∧
          (q < (diskSize : Rat) → m.IsBoot d ∧ v.Below diskSize) := by
        constructor
        · exact fun h => h d v q hkey hdrive hseen
        · intro h d' v' q' hd hv hq
          rw [hkey] at hd
          cases hd
          rw [hdrive] at hv
          cases hv
          rw [hseen] at hq
          cases hq
          exact h
      rw [hright]
      by_cases hle : diskSize ≤ n
      · -- Nothing is sent: a boot disk must be large enough with the least sizes.
        have hq : (diskSize : Rat) ≤ q := (hside diskSize).mp hle
        have hrun : ∀ (answers : GrowAnswers) vmid, answers.config = .ok m.config →
            resizeVmDisk other answers vmid diskSize = ⟨none, none⟩ :=
          fun answers vmid hconfig => (m.run_of_ok hconfig hkey htext hread).trans (if_pos hle)
        constructor
        · intro hgrows
          refine ⟨fun _ => ?_, fun hlt => absurd hq (not_le.mpr hlt)⟩
          have hcall := hgrows _ (m.sizes_statedSizes (le_refl 0))
            ⟨.ok m.config, .error "", fun _ => .error "", none⟩ 100 rfl
          obtain ⟨b, hboot, hsize⟩ := (m.grows_of_enough (hrun _ _ rfl)).mp hcall
          obtain ⟨v', hv'⟩ := m.exists_drive_of_isBoot hboot
          exact ⟨b, v', hboot, hv', (m.atLeast_iff hv').mpr hsize⟩
        · rintro ⟨hexists, -⟩ current hcurrent answers vmid hconfig
          obtain ⟨b, v', hboot, hv', hleast⟩ := hexists hq
          refine (m.grows_of_enough (hrun answers vmid hconfig)).mpr ⟨b, hboot, ?_⟩
          rcases hleast with hneg | ⟨s, hs, hsize⟩
          · exact (Int.cast_nonpos.mpr hneg).trans (hcurrent.nonneg b)
          · rw [hcurrent.stated b v' s hv' hs]
            exact hsize
      · -- A resize is sent: the drive must be a boot disk and smaller with all sizes.
        have hq : q < (diskSize : Rat) := not_le.mp fun h => hle ((hside diskSize).mpr h)
        have hrun : ∀ (answers : GrowAnswers) vmid, answers.config = .ok m.config →
            resizeVmDisk other answers vmid diskSize =
              ⟨some (d, s!"{diskSize}G"), resizeError answers d⟩ :=
          fun answers vmid hconfig => (m.run_of_ok hconfig hkey htext hread).trans (if_neg hle)
        have hpos : (0 : Rat) < diskSize ∨ v.size.isSome = true := by
          cases hs : v.size with
          | some s => exact Or.inr rfl
          | none =>
            unfold Drive.seen at hseen
            rw [hs] at hseen
            cases hseen
            exact Or.inl hq
        constructor
        · intro hgrows
          refine ⟨fun h => absurd h (not_le.mpr hq), fun _ => ?_⟩
          have hcall : ∀ current, m.Sizes current → m.IsBoot d ∧ current d < diskSize :=
            fun current hcurrent => (m.grows_of_request (hrun _ _ rfl)).mp
              (hgrows current hcurrent ⟨.ok m.config, .error "", fun _ => .error "", none⟩ 100 rfl)
          refine ⟨(hcall _ (m.sizes_statedSizes (le_refl 0))).1, ?_⟩
          exact (m.below_iff hdrive hpos).mpr fun current hcurrent => (hcall current hcurrent).2
        · rintro ⟨-, hbelow⟩ current hcurrent answers vmid hconfig
          obtain ⟨hboot, hbelow⟩ := hbelow hq
          refine (m.grows_of_request (hrun answers vmid hconfig)).mpr ⟨hboot, ?_⟩
          exact (m.below_iff hdrive hpos).mp hbelow current hcurrent

/-! ### A disk in kilobytes -/

/-- A drive of ten gigabytes and four kilobytes. -/
def oddDrive : Drive where
  volume := ['n', 'f', 's', ':', '1']
  no_comma := by simp
  no_equals := by simp
  before := []
  size := some
    { whole := ⟨['1', '0', '4', '8', '5', '7', '6', '4'], by simp, by simp⟩
      fraction := none
      unit := .k }
  after := []

/-- A machine with this drive alone. -/
def oddMachine : Machine where
  config := (KeyedTable.empty.set "scsi0" (.text oddDrive.text)).set "boot" (.text "order=scsi0")
  drive key := if key = "scsi0" then some oddDrive else none
  drive_text key hkey := by
    have hboot : "boot" ≠ key := by
      rintro rfl
      exact absurd hkey (by decide)
    rw [KeyedTable.get?_set, if_neg hboot, KeyedTable.get?_set]
    by_cases hscsi : key = "scsi0"
    · rw [if_pos hscsi, if_pos hscsi.symm]
      rfl
    · rw [if_neg hscsi, if_neg fun heq => hscsi heq.symm]
      rfl

example : oddDrive.text = "nfs:1,size=10485764K" := by decide

/-- A request for eight gigabytes would shrink it. -/
theorem oddMachine_not_growsExactly : ¬oddMachine.GrowsExactly (fun _ => .invalid) 8 := by
  intro h
  have hkey : diskKey oddMachine.config = some "scsi0" := by decide
  obtain ⟨v, hv, htext⟩ := oddMachine.exists_drive_of_diskKey hkey
  obtain rfl : oddDrive = v := Option.some.inj hv
  have hreads : Reads (parseSizeGb (fun _ => .invalid) oddDrive.text.toList) (some 0) :=
    oddDrive.reads_parseSizeGb fun _ => .invalid
  obtain ⟨n, hread, hside⟩ := hreads
  have hle : ¬(8 : Int) ≤ n := fun h => absurd ((hside 8).mp h) (by norm_num)
  have hcall := h _ (oddMachine.sizes_statedSizes (le_refl 0))
    ⟨.ok oddMachine.config, .error "", fun _ => .error "", none⟩ 100 rfl
  have hlt := (oddMachine.grows_of_request
    ((oddMachine.run_of_ok rfl hkey htext hread).trans (if_neg hle))).mp hcall
  have hsize : oddMachine.statedSizes 0 "scsi0" = 10485764 * 1024 / 1024 ^ 3 := by
    have hnumber : digitsNat ['1', '0', '4', '8', '5', '7', '6', '4'] = 10485764 := by decide
    have hgib : oddMachine.statedSizes 0 "scsi0" =
        (digitsNat ['1', '0', '4', '8', '5', '7', '6', '4'] : Rat) * (1024 : Nat) / 1024 ^ 3 := rfl
    rw [hgib, hnumber]
    norm_num
  have hlt := hlt.2
  rw [hsize] at hlt
  norm_num at hlt

end PveManager.Disks
