import PveManager.Api.GuestDeletion
import PveManager.Api.Plain
import PveManager.Sync.Upsert

/-!
# The recorded size of a resized disk

Proxmox takes a size with or without a sign, a fraction and a unit. The panel hands
the text on, and after the resize writes the number in front of the unit to the row
of the guest.
-/

namespace PveManager.Disks

open PveManager.Core PveManager.Rbac PveManager.Api PveManager.Sync

/-! ### Sizes -/

/-- Decimal digits, at least one. -/
structure Digits where
  chars : List Char
  ne_nil : chars ≠ []
  isDigit : ∀ c ∈ chars, c.isDigit = true

/-- The number that digits stand for. -/
def digitsNat (chars : List Char) : Nat :=
  chars.foldl (fun n c => 10 * n + (c.toNat - '0'.toNat)) 0

inductive SizeUnit
  | bytes
  | k
  | m
  | g
  | t
  deriving DecidableEq

namespace SizeUnit

def letter : SizeUnit → List Char
  | bytes => []
  | k => ['K']
  | m => ['M']
  | g => ['G']
  | t => ['T']

def factor : SizeUnit → Nat
  | bytes => 1
  | k => 1024
  | m => 1024 * 1024
  | g => 1024 * 1024 * 1024
  | t => 1024 * 1024 * 1024 * 1024

end SizeUnit

/-- A size as Proxmox takes it. -/
structure SizeArgument where
  /-- The size is added to the one the disk has. -/
  plus : Bool
  whole : Digits
  fraction : Option Digits
  unit : SizeUnit

namespace SizeArgument

variable (arg : SizeArgument)

/-- The text without its unit. -/
def front : List Char :=
  (if arg.plus then ['+'] else []) ++ arg.whole.chars ++
    arg.fraction.elim [] fun f => '.' :: f.chars

def chars : List Char := arg.front ++ arg.unit.letter

def text : String := String.ofList arg.chars

/-- In bytes, without the rest of a fraction. -/
def bytes : Nat :=
  match arg.fraction with
  | none => digitsNat arg.whole.chars * arg.unit.factor
  | some f => digitsNat (arg.whole.chars ++ f.chars) * arg.unit.factor / 10 ^ f.chars.length

/-- The size of the disk after the resize, from the size before. -/
def newSize (old : Nat) : Nat := if arg.plus then old + arg.bytes else arg.bytes

end SizeArgument

/-! ### The endpoints -/

/-- `resize_vm_disk` and `resize_container_disk` of the client: the task is awaited. -/
def resizeDisk (connected : Bool) (put : Except String Json) (waitForTask : String → Except String Bool)
    (exitstatus : Option String) : Except String Bool :=
  if connected then do
    match ← put with
    | .text upid => do
      let done ← waitForTask upid
      if done then .ok true
      else .error ("Proxmox: " ++
        if truthy exitstatus then exitstatus.getD "" else "resize task failed")
    | _ => .ok true
  else .ok false

/-- `size.rstrip('GMgm')`. -/
def rstripUnits (chars : List Char) : List Char :=
  (chars.reverse.dropWhile fun c => decide (c ∈ ['G', 'M', 'g', 'm'])).reverse

/-- `int(size.rstrip('GMgm').strip())`. -/
def recordedSize : Json → Except String Int
  | .text size =>
    match parseInt (strip (String.ofList (rstripUnits size.toList))) with
    | some n => .ok n
    | none => .error "invalid literal for int() with base 10"
  | _ => .error "object has no attribute 'rstrip'"

/-- A resize request with everything it is answered. -/
structure ResizeRequest where
  user : User
  serverId : ServerId
  vmid : Vmid
  ty : VmType
  /-- The body. -/
  data : Json
  /-- `_get_proxmox_client` and `is_connected`. -/
  connected : Except Exc Bool
  put : Except String Json
  waitForTask : String → Except String Bool
  exitstatus : Option String
  commit : Except String Unit
  /-- The growth of the file system, or the restart of the container. -/
  afterwards : Except String Unit

namespace ResizeRequest

variable (r : ResizeRequest) (db : Db)

/-- The text of the size the request asks for. -/
def size : Json := (Guests.field r.data "size").getD .null

def disk : Json :=
  (Guests.field r.data "disk").getD (match r.ty with
    | .qemu => .null
    | .lxc => .text "rootfs")

/-- The fields the endpoint insists on. -/
def valid : Bool :=
  match r.ty with
  | .qemu => r.disk.truthy && r.size.truthy
  | .lxc => r.size.truthy

def invalid : Exc :=
  match r.ty with
  | .qemu => .http 400 "Требуются параметры disk и size"
  | .lxc => .http 400 "Требуется параметр size"

/-- The body is a dictionary. -/
def readable : Bool :=
  match r.data with
  | .dict _ => true
  | _ => false

/-- Up to the end of the resize. -/
def resized : Except Exc Unit := do
  ensure (hasPermission r.user "server:manage") (.http 403 "Permission denied: server:manage")
  ensure (db.servers.find? r.serverId).isSome (.http 404 "Proxmox server not found")
  ensure r.readable (.other "object has no attribute 'get'")
  ensure r.valid r.invalid
  let connected ← r.connected
  ensure connected (.http 503 "Failed to connect to Proxmox server")
  let success ← (resizeDisk connected r.put r.waitForTask r.exitstatus).mapError .other
  ensure success (.http 500 "Не удалось изменить размер диска")

/-- The row with its new size. -/
def resizedRow (row : VMInstance) (sizeGb : Nat) : VMInstance := { row with diskSize := some sizeGb }

/-- The size is written where the guest has a live row. -/
def recorded : Except Exc Db :=
  match getVmInstance db r.serverId r.vmid with
  | none => .ok db
  | some row => do
    let sizeGb ← (recordedSize r.size).mapError .other
    r.commit.mapError .other
    .ok { db with vms := db.vms.save (resizedRow row sizeGb.toNat) }

/-- `resize_vm_disk` and `resize_container_disk`. -/
def run : Db × Except Exc Unit :=
  match r.resized db with
  | .ok _ =>
    match r.recorded db with
    | .error e => (db, .error (serverError e))
    | .ok db' => (db', r.afterwards.mapError fun e => .http 500 e)
  | .error e => (db, .error (serverError e))

end ResizeRequest

/-! ### What the number in front of the unit says -/

/-- A character that is no digit spoils the number. -/
theorem digitsValue_eq_none {chars : List Char} {c : Char} (hc : c ∈ chars)
    (hdigit : c.isDigit = false) (hscore : c ≠ '_') (n : Nat) (after : Bool) :
    digitsValue n after chars = none := by
  induction chars generalizing n after with
  | nil => exact absurd hc List.not_mem_nil
  | cons d chars ih =>
    rcases List.mem_cons.mp hc with rfl | hc
    · rw [digitsValue, digitValue, hdigit]
      exact if_neg (by simp [hscore])
    · rw [digitsValue]
      split
      · exact ih hc _ _
      · split
        · exact ih hc _ _
        · rfl

/-- Digits alone are a number. -/
theorem digitsValue_digits {chars : List Char} (h : ∀ c ∈ chars, c.isDigit = true) (n : Nat)
    (after : Bool) (hne : chars ≠ [] ∨ after = true) :
    digitsValue n after chars =
      some (chars.foldl (fun n c => 10 * n + (c.toNat - '0'.toNat)) n) := by
  induction chars generalizing n after with
  | nil =>
    rw [digitsValue, if_pos (hne.resolve_left fun h => h rfl)]
    rfl
  | cons c chars ih =>
    obtain ⟨hc, hrest⟩ := List.forall_mem_cons.mp h
    rw [digitsValue, digitValue, if_pos hc]
    exact ih hrest _ true (Or.inr rfl)

theorem isSpace_of_isDigit {c : Char} (h : c.isDigit = true) : isSpace c = false :=
  isSpace_of_word (by rw [Char.isAlphanum, h, Bool.or_true, Bool.true_or])

/-- A text with a character that no number has is none. -/
theorem parseInt_eq_none {chars : List Char} (hspace : ∀ c ∈ chars, isSpace c = false) {c : Char}
    (hc : c ∈ chars) (hdigit : c.isDigit = false) (hother : c ≠ '_' ∧ c ≠ '+' ∧ c ≠ '-') :
    parseInt (String.ofList chars) = none := by
  unfold parseInt
  rw [String.toList_ofList, stripChars_of_no_space hspace]
  dsimp only
  split
  · rfl
  · split
    · rename_i digits
      rw [digitsValue_eq_none ((List.mem_cons.mp hc).resolve_left hother.2.2) hdigit hother.1]
      rfl
    · rename_i digits
      rw [digitsValue_eq_none ((List.mem_cons.mp hc).resolve_left hother.2.1) hdigit hother.1]
      rfl
    · rw [digitsValue_eq_none hc hdigit hother.1]
      rfl

/-- Digits behind an optional sign are a number, up to the limit of their count. -/
theorem parseInt_digits (plus : Bool) (d : Digits) :
    parseInt (String.ofList ((if plus then ['+'] else []) ++ d.chars)) =
      if 4300 < d.chars.length then none else some (digitsNat d.chars : Int) := by
  have hdigits : d.chars.filter Char.isDigit = d.chars := List.filter_eq_self.mpr d.isDigit
  have hspace : ∀ c ∈ d.chars, isSpace c = false := fun c hc => isSpace_of_isDigit (d.isDigit c hc)
  have hvalue : digitsValue 0 false d.chars = some (digitsNat d.chars) :=
    digitsValue_digits d.isDigit 0 false (Or.inl d.ne_nil)
  unfold parseInt
  cases plus with
  | true =>
    have hall : ∀ c ∈ '+' :: d.chars, isSpace c = false :=
      List.forall_mem_cons.mpr ⟨by decide, hspace⟩
    simp only [if_true, List.singleton_append, String.toList_ofList, stripChars_of_no_space hall]
    rw [List.filter_cons_of_neg (by decide), hdigits, hvalue]
    rfl
  | false =>
    simp only [Bool.false_eq_true, if_false, List.nil_append, String.toList_ofList,
      stripChars_of_no_space hspace]
    rw [hdigits]
    split
    · rfl
    · cases hchars : d.chars with
      | nil => exact absurd hchars d.ne_nil
      | cons c rest =>
        have hc : c.isDigit = true := d.isDigit c (hchars ▸ List.mem_cons_self)
        rw [hchars] at hvalue
        split
        · rename_i heq
          rw [(List.cons.inj heq).1] at hc
          exact absurd hc (by decide)
        · rename_i heq
          rw [(List.cons.inj heq).1] at hc
          exact absurd hc (by decide)
        · rw [hvalue]
          rfl

/-- Letters of units are stripped from the end, nothing else. -/
theorem rstripUnits_append {c : Char} (h : c ∉ ['G', 'M', 'g', 'm']) (front letter : List Char)
    (hletter : ∀ d ∈ letter, d ∈ ['G', 'M', 'g', 'm']) :
    rstripUnits (front ++ [c] ++ letter) = front ++ [c] := by
  unfold rstripUnits
  rw [List.reverse_append, List.dropWhile_append_of_pos]
  · rw [List.reverse_append, List.reverse_singleton, List.singleton_append, List.dropWhile_cons,
      if_neg (by simpa using h), List.reverse_cons, List.reverse_reverse]
  · intro d hd
    exact decide_eq_true (hletter d (List.mem_reverse.mp hd))

namespace SizeArgument

variable {arg : SizeArgument}

/-- In front of the unit stands a digit. -/
theorem exists_front_eq (arg : SizeArgument) :
    ∃ init c, arg.front = init ++ [c] ∧ c.isDigit = true := by
  have hends : ∀ (d : Digits), ∃ init c, d.chars = init ++ [c] ∧ c.isDigit = true := by
    intro d
    have hlast := List.dropLast_append_getLast d.ne_nil
    exact ⟨_, _, hlast.symm, d.isDigit _ (List.getLast_mem d.ne_nil)⟩
  unfold front
  cases arg.fraction with
  | none =>
    obtain ⟨init, c, hchars, hc⟩ := hends arg.whole
    refine ⟨(if arg.plus then ['+'] else []) ++ init, c, ?_, hc⟩
    rw [Option.elim_none, List.append_nil, hchars, List.append_assoc]
  | some f =>
    obtain ⟨init, c, hchars, hc⟩ := hends f
    refine ⟨(if arg.plus then ['+'] else []) ++ arg.whole.chars ++ '.' :: init, c, ?_, hc⟩
    rw [Option.elim_some, hchars, List.append_assoc _ ('.' :: init), List.cons_append]

/-- A size without a fraction, in bytes, megabytes or gigabytes, whose digits are few enough. -/
structure Understood (arg : SizeArgument) : Prop where
  fraction : arg.fraction = none
  unit : arg.unit ≠ .k ∧ arg.unit ≠ .t
  length : arg.whole.chars.length ≤ 4300

theorem isSpace_front {c : Char} (h : c ∈ arg.front) : isSpace c = false := by
  have hdigits : ∀ d : Digits, c ∈ d.chars → isSpace c = false :=
    fun d hc => isSpace_of_isDigit (d.isDigit c hc)
  rcases List.mem_append.mp h with h | h
  · rcases List.mem_append.mp h with h | h
    · split at h
      · rw [List.mem_singleton.mp h]
        decide
      · exact absurd h List.not_mem_nil
    · exact hdigits _ h
  · cases hf : arg.fraction with
    | none =>
      rw [hf] at h
      exact absurd h List.not_mem_nil
    | some f =>
      rw [hf] at h
      rcases List.mem_cons.mp h with rfl | h
      · decide
      · exact hdigits f h

/-- What is left of the text is read as a number. -/
theorem recordedSize_of_rstripUnits {chars : List Char} (h : rstripUnits arg.chars = chars)
    (hspace : ∀ c ∈ chars, isSpace c = false) (n : Int) :
    recordedSize (.text arg.text) = .ok n ↔ parseInt (String.ofList chars) = some n := by
  unfold recordedSize
  dsimp only
  rw [text, String.toList_ofList, h, strip, String.toList_ofList, stripChars_of_no_space hspace]
  cases parseInt (String.ofList chars) with
  | some m => exact ⟨fun h => congrArg some (Except.ok.inj h), fun h => congrArg _ (Option.some.inj h)⟩
  | none => exact iff_of_false (fun h => by cases h) fun h => by cases h

/-- A unit that is not stripped is no part of a number. -/
theorem recordedSize_of_kept {c : Char} (hletter : arg.unit.letter = [c])
    (hc : c ∉ ['G', 'M', 'g', 'm']) (hspace : isSpace c = false) (hdigit : c.isDigit = false)
    (hother : c ≠ '_' ∧ c ≠ '+' ∧ c ≠ '-') (n : Int) : recordedSize (.text arg.text) ≠ .ok n := by
  have hkept : rstripUnits arg.chars = arg.front ++ [c] := by
    have hstrip := rstripUnits_append hc arg.front [] fun d hd => absurd hd List.not_mem_nil
    rw [List.append_nil] at hstrip
    rw [chars, hletter, hstrip]
  have hall : ∀ d ∈ arg.front ++ [c], isSpace d = false := by
    intro d hd
    rcases List.mem_append.mp hd with hd | hd
    · exact isSpace_front hd
    · rw [List.mem_singleton.mp hd]
      exact hspace
  rw [Ne, recordedSize_of_rstripUnits hkept hall,
    parseInt_eq_none hall (List.mem_append_right _ (List.mem_singleton_self c)) hdigit hother]
  exact fun h => by cases h

/-- The panel writes the number in front of the unit, where it understands the size. -/
theorem recordedSize_eq_ok_iff {n : Int} :
    recordedSize (.text arg.text) = .ok n ↔
      arg.Understood ∧ n = (digitsNat arg.whole.chars : Int) := by
  have hfront : (arg.unit.letter.all fun d => ['G', 'M', 'g', 'm'].contains d) = true →
      (arg.unit ≠ .k ∧ arg.unit ≠ .t) → (recordedSize (.text arg.text) = .ok n ↔
        arg.Understood ∧ n = (digitsNat arg.whole.chars : Int)) := by
    intro hletter hunit
    obtain ⟨init, c, hends, hc⟩ := exists_front_eq arg
    have hnot : c ∉ ['G', 'M', 'g', 'm'] := by
      intro h
      have hall : (['G', 'M', 'g', 'm'].all fun d => !d.isDigit) = true := by decide
      have hfalse := List.all_eq_true.mp hall c h
      rw [hc] at hfalse
      cases hfalse
    have hstrip : rstripUnits arg.chars = arg.front := by
      rw [chars, hends, rstripUnits_append hnot init _ fun d hd =>
        List.contains_iff_mem.mp (List.all_eq_true.mp hletter d hd)]
    rw [recordedSize_of_rstripUnits hstrip fun _ => isSpace_front]
    cases hfraction : arg.fraction with
    | some f =>
      have hdot : '.' ∈ arg.front := by
        rw [front, hfraction]
        exact List.mem_append_right _ List.mem_cons_self
      rw [parseInt_eq_none (fun _ => isSpace_front) hdot (by decide) (by decide)]
      refine iff_of_false (fun h => by cases h) ?_
      rintro ⟨⟨hnone, -, -⟩, -⟩
      rw [hfraction] at hnone
      cases hnone
    | none =>
      have hwhole : arg.front = (if arg.plus then ['+'] else []) ++ arg.whole.chars := by
        rw [front, hfraction]
        exact List.append_nil _
      rw [hwhole, parseInt_digits]
      split
      · rename_i hlong
        exact iff_of_false (fun h => by cases h) fun h => absurd h.1.length (Nat.not_le_of_lt hlong)
      · rename_i hshort
        rw [Option.some.injEq]
        exact ⟨fun h => ⟨⟨hfraction, hunit, Nat.le_of_not_lt hshort⟩, h.symm⟩, fun h => h.2.symm⟩
  cases hunit : arg.unit with
  | bytes => exact hfront (by rw [hunit]; decide) (by rw [hunit]; decide)
  | m => exact hfront (by rw [hunit]; decide) (by rw [hunit]; decide)
  | g => exact hfront (by rw [hunit]; decide) (by rw [hunit]; decide)
  | k =>
    exact iff_of_false (recordedSize_of_kept (by rw [hunit]; rfl) (by decide) (by decide) (by decide)
      (by decide) n) fun h => h.1.unit.1 hunit
  | t =>
    exact iff_of_false (recordedSize_of_kept (by rw [hunit]; rfl) (by decide) (by decide) (by decide)
      (by decide) n) fun h => h.1.unit.2 hunit

/-- The number in front of the unit is the new size in gigabytes: gigabytes without a sign, or an
increase of a disk that had about what the number says too much. -/
def Fits (arg : SizeArgument) (old : Nat) : Prop :=
  let n := digitsNat arg.whole.chars
  let missing := n * (SizeUnit.g.factor - arg.unit.factor)
  if arg.plus then
    (old ≠ 0 ∨ n ≠ 0) ∧ 2 * missing ≤ 2 * old + SizeUnit.g.factor ∧
      2 * old ≤ 2 * missing + SizeUnit.g.factor ∧
        (n % 2 = 1 → 2 * missing < 2 * old + SizeUnit.g.factor ∧
          2 * old < 2 * missing + SizeUnit.g.factor)
  else arg.unit = .g ∧ n ≠ 0

end SizeArgument

/-- The rounding to gigabytes goes to the nearest number, and from the middle to the even one. -/
theorem roundDiv_gb_eq_iff {v q : Nat} : roundDiv v 1073741824 = q ↔
    2 * (q * 1073741824) ≤ 2 * v + 1073741824 ∧ 2 * v ≤ 2 * (q * 1073741824) + 1073741824 ∧
      (q % 2 = 1 → 2 * (q * 1073741824) < 2 * v + 1073741824 ∧
        2 * v < 2 * (q * 1073741824) + 1073741824) := by
  unfold roundDiv
  dsimp only
  split
  · omega
  · split
    · omega
    · split
      · omega
      · omega

theorem bytesToGb_eq_some_iff {v q : Nat} :
    bytesToGb (some v) = some q ↔ v ≠ 0 ∧ roundDiv v 1073741824 = q := by
  cases v with
  | zero => exact iff_of_false (fun h => by cases h) fun h => h.1 rfl
  | succ v =>
    exact ⟨fun h => ⟨Nat.succ_ne_zero v, Option.some.inj h⟩, fun h => congrArg some h.2⟩

/-- What the panel writes is the new size exactly when the number fits. -/
theorem SizeArgument.fits_iff {arg : SizeArgument} (h : arg.Understood) (old : Nat) :
    bytesToGb (some (arg.newSize old)) = some (digitsNat arg.whole.chars) ↔ arg.Fits old := by
  have hbytes : arg.bytes = digitsNat arg.whole.chars * arg.unit.factor := by
    unfold bytes
    rw [h.fraction]
  rw [bytesToGb_eq_some_iff, roundDiv_gb_eq_iff, newSize, hbytes]
  unfold Fits
  dsimp only
  generalize digitsNat arg.whole.chars = n
  cases hunit : arg.unit with
  | k => exact absurd hunit h.unit.1
  | t => exact absurd hunit h.unit.2
  | bytes =>
    cases arg.plus with
    | true =>
      simp only [if_true, SizeUnit.factor]
      omega
    | false =>
      simp only [Bool.false_eq_true, if_false, SizeUnit.factor, reduceCtorEq, false_and, iff_false]
      omega
  | m =>
    cases arg.plus with
    | true =>
      simp only [if_true, SizeUnit.factor]
      omega
    | false =>
      simp only [Bool.false_eq_true, if_false, SizeUnit.factor, reduceCtorEq, false_and, iff_false]
      omega
  | g =>
    cases arg.plus with
    | true =>
      simp only [if_true, SizeUnit.factor]
      omega
    | false =>
      simp only [Bool.false_eq_true, if_false, SizeUnit.factor, true_and]
      omega

/-! ### What a successful resize leaves behind -/

namespace ResizeRequest

variable {r : ResizeRequest} {db : Db} {arg : SizeArgument} {old : Nat}

/-- After a successful resize the row of the guest has the new size of the disk. -/
def Follows (r : ResizeRequest) (db : Db) (arg : SizeArgument) (old : Nat) : Prop :=
  (r.run db).2 = .ok () → ∀ row, getVmInstance (r.run db).1 r.serverId r.vmid = some row →
    row.diskSize = bytesToGb (some (arg.newSize old))

/-- Proxmox resizes the disk, and the database and what follows the resize go along. -/
structure GoesThrough (r : ResizeRequest) (db : Db) : Prop where
  permission : hasPermission r.user "server:manage" = true
  server : (db.servers.find? r.serverId).isSome = true
  readable : r.readable = true
  valid : r.valid = true
  connected : r.connected = .ok true
  resized : ∃ answer, r.put = .ok answer ∧ ∀ upid, answer = .text upid → r.waitForTask upid = .ok true
  row : (getVmInstance db r.serverId r.vmid).isSome = true
  commit : r.commit = .ok ()
  afterwards : r.afterwards = .ok ()

theorem resizeDisk_eq_ok_true_iff {connected : Bool} {put : Except String Json}
    {waitForTask : String → Except String Bool} {exitstatus : Option String} :
    resizeDisk connected put waitForTask exitstatus = .ok true ↔ connected = true ∧
      ∃ answer, put = .ok answer ∧ ∀ upid, answer = .text upid → waitForTask upid = .ok true := by
  unfold resizeDisk
  cases connected with
  | false => exact iff_of_false (fun h => by cases h) fun h => by cases h.1
  | true =>
    rw [if_pos rfl, bind_eq_ok_iff]
    refine (exists_congr fun answer => and_congr_right fun _ => ?_).trans (and_iff_right rfl).symm
    cases answer with
    | text upid =>
      have hwait : (∃ done, waitForTask upid = .ok done ∧ (if done then Except.ok true
          else .error ("Proxmox: " ++
            if truthy exitstatus then exitstatus.getD "" else "resize task failed")) = .ok true) ↔
          waitForTask upid = .ok true := by
        constructor
        · rintro ⟨done, hdone, h⟩
          cases done with
          | true => exact hdone
          | false => cases h
        · exact fun h => ⟨true, h, rfl⟩
      dsimp only
      rw [bind_eq_ok_iff, hwait]
      exact ⟨fun h upid' heq => by cases heq; exact h, fun h => h upid rfl⟩
    | _ => exact iff_of_true rfl fun upid heq => by cases heq

theorem resized_eq_ok_iff : r.resized db = .ok () ↔
    hasPermission r.user "server:manage" = true ∧ (db.servers.find? r.serverId).isSome = true ∧
      r.readable = true ∧ r.valid = true ∧ r.connected = .ok true ∧
        ∃ answer, r.put = .ok answer ∧ ∀ upid, answer = .text upid →
          r.waitForTask upid = .ok true := by
  simp only [resized, bind_eq_ok_iff, ensure_eq_ok_iff, mapError_eq_ok_iff]
  constructor
  · rintro ⟨_, hpermission, _, hserver, _, hreadable, _, hvalid, connected, hconnected, _, hyes,
      success, hresize, hsuccess⟩
    rw [hsuccess] at hresize
    rw [hyes] at hconnected
    exact ⟨hpermission, hserver, hreadable, hvalid, hconnected,
      (resizeDisk_eq_ok_true_iff.mp hresize).2⟩
  · rintro ⟨hpermission, hserver, hreadable, hvalid, hconnected, hresize⟩
    exact ⟨(), hpermission, (), hserver, (), hreadable, (), hvalid, true, hconnected, (), rfl, true,
      resizeDisk_eq_ok_true_iff.mpr ⟨rfl, hresize⟩, rfl⟩

theorem recorded_eq_ok_iff {row : VMInstance} (hrow : getVmInstance db r.serverId r.vmid = some row)
    {db' : Db} : r.recorded db = .ok db' ↔ ∃ n, recordedSize r.size = .ok n ∧ r.commit = .ok () ∧
      db' = { db with vms := db.vms.save (resizedRow row n.toNat) } := by
  rw [recorded, hrow]
  simp only [bind_eq_ok_iff, mapError_eq_ok_iff]
  constructor
  · rintro ⟨n, hn, _, hcommit, h⟩
    exact ⟨n, hn, hcommit, (Except.ok.inj h).symm⟩
  · rintro ⟨n, hn, hcommit, rfl⟩
    exact ⟨n, hn, (), hcommit, rfl⟩

/-- A successful request and the tables after it. -/
theorem run_eq_iff {db' : Db} : r.run db = (db', .ok ()) ↔
    r.resized db = .ok () ∧ r.recorded db = .ok db' ∧ r.afterwards = .ok () := by
  unfold run
  cases r.resized db with
  | error e => exact iff_of_false (fun h => by cases h) fun h => by cases h.1
  | ok u =>
    rw [and_iff_right rfl]
    cases r.recorded db with
    | error e => exact iff_of_false (fun h => by cases h) fun h => by cases h.1
    | ok db'' =>
      rw [Prod.mk.injEq, mapError_eq_ok_iff, Except.ok.injEq]

/-- The row that a successful resize writes. -/
theorem getVmInstance_recorded {row : VMInstance} {n : Nat}
    (hrow : getVmInstance db r.serverId r.vmid = some row) :
    getVmInstance { db with vms := db.vms.save (resizedRow row n) } r.serverId r.vmid =
      some (resizedRow row n) := by
  have hfound := Option.filter_eq_some_iff.mp hrow
  have hkey : row.key = (r.serverId, r.vmid) := db.vms.key_of_find? hfound.1
  have hkey' : (resizedRow row n).key = (r.serverId, r.vmid) := hkey
  unfold getVmInstance
  rw [KeyedTable.find?_save, if_pos hkey']
  exact Option.filter_eq_some_iff.mpr ⟨rfl, hfound.2⟩

/-- The recorded size follows a successful resize exactly where the number in front of the unit
fits, or the panel does not understand the size. -/
theorem follows_iff (hsize : r.size = .text arg.text) :
    r.Follows db arg old ↔ (r.GoesThrough db → arg.Understood → arg.Fits old) := by
  constructor
  · intro h hgoes hunderstood
    obtain ⟨row, hrow⟩ := Option.isSome_iff_exists.mp hgoes.row
    have hn := SizeArgument.recordedSize_eq_ok_iff.mpr ⟨hunderstood, rfl⟩
    rw [← hsize] at hn
    have hrun := run_eq_iff.mpr ⟨resized_eq_ok_iff.mpr ⟨hgoes.permission, hgoes.server,
      hgoes.readable, hgoes.valid, hgoes.connected, hgoes.resized⟩,
      (recorded_eq_ok_iff hrow).mpr ⟨_, hn, hgoes.commit, rfl⟩, hgoes.afterwards⟩
    have hstored := h (by rw [hrun]) _ (by rw [hrun]; exact getVmInstance_recorded hrow)
    exact (SizeArgument.fits_iff hunderstood old).mp hstored.symm
  · intro h hok row' hrow'
    have hrun : r.run db = ((r.run db).1, .ok ()) := Prod.ext rfl hok
    obtain ⟨hresized, hrecorded, hafter⟩ := run_eq_iff.mp hrun
    cases hrow : getVmInstance db r.serverId r.vmid with
    | none =>
      have hsame : r.recorded db = .ok db := by rw [recorded, hrow]
      rw [hsame] at hrecorded
      rw [← Except.ok.inj hrecorded, hrow] at hrow'
      cases hrow'
    | some row =>
      obtain ⟨n, hn, hcommit, hdb⟩ := (recorded_eq_ok_iff hrow).mp hrecorded
      rw [hsize] at hn
      obtain ⟨hunderstood, rfl⟩ := SizeArgument.recordedSize_eq_ok_iff.mp hn
      obtain ⟨hpermission, hserver, hreadable, hvalid, hconnected, hresize⟩ :=
        resized_eq_ok_iff.mp hresized
      have hgoes : r.GoesThrough db := ⟨hpermission, hserver, hreadable, hvalid, hconnected,
        hresize, by rw [hrow]; rfl, hcommit, hafter⟩
      rw [hdb, getVmInstance_recorded hrow] at hrow'
      cases hrow'
      exact ((SizeArgument.fits_iff hunderstood old).mpr (h hgoes hunderstood)).symm

/-! ### An increase -/

/-- Ten with a unit. -/
def tenOf (plus : Bool) (unit : SizeUnit) : SizeArgument where
  plus := plus
  whole := ⟨['1', '0'], by decide, List.all_eq_true.mp rfl⟩
  fraction := none
  unit := unit

/-- An administrator resizes a disk, and everything goes well. -/
def resizing (size : String) : ResizeRequest where
  user := ⟨1, "root", true, none, []⟩
  serverId := 1
  vmid := 100
  ty := .qemu
  data := .dict [("disk", .text "scsi0"), ("size", .text size)]
  connected := .ok true
  put := .ok (.text "UPID:pve1:1")
  waitForTask := fun _ => .ok true
  exitstatus := none
  commit := .ok ()
  afterwards := .ok ()

/-- A machine with a disk of twenty gigabytes. -/
def twentyGb : Db where
  servers := KeyedTable.empty.save ⟨1, "pve", "pve", "pve", 8006, "root@pam", some "panel",
    some "secret", false, none, false, none, none, some true, none, none, none⟩
  vms := KeyedTable.empty.save ⟨1, 100, "pve1", .qemu, "web", some 7, "stopped", false, some 2,
    some 2048, some 20, none, none, some 24, none, none, none, none, none, none, none, none, none,
    none, none⟩
  ipam := ⟨.empty, []⟩

/-- Ten gigabytes more are recorded as ten. -/
theorem increase_not_follows : ¬∀ (r : ResizeRequest) (db : Db) (arg : SizeArgument) (old : Nat),
    r.size = .text arg.text → r.Follows db arg old := by
  intro h
  have hfollows := h (resizing "+10G") twentyGb (tenOf true .g) 21474836480 rfl (by decide)
    _ rfl
  exact absurd hfollows (by decide)

/-- Ten gigabytes without a sign. -/
theorem follows_iff_ten : (resizing "10G").Follows twentyGb (tenOf false .g) 5368709120 ↔
    ((resizing "10G").GoesThrough twentyGb → (tenOf false .g).Understood →
      (tenOf false .g).Fits 5368709120) :=
  follows_iff rfl

end ResizeRequest

end PveManager.Disks
