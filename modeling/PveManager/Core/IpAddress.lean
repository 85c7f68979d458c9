import Mathlib.Algebra.GroupWithZero.Nat
import Mathlib.Data.List.Basic
import Mathlib.Data.List.Induction

/-!
# Internet addresses

Addresses of both versions with their text form, and networks in CIDR notation:
dotted decimals without leading zeros, eight hexadecimal groups with one run of
zero groups left out, and a scope after a percent sign.
-/

namespace PveManager.Net

/-- An address; only the sixth version has a scope. -/
inductive IpAddress
  | v4 (n : Fin (2 ^ 32))
  | v6 (n : Fin (2 ^ 128)) (scope : Option String)
  deriving DecidableEq, Repr

namespace IpAddress

/-- The number of bits. -/
def width : IpAddress → Nat
  | .v4 _ => 32
  | .v6 _ _ => 128

/-- The address as a number. -/
def toNat : IpAddress → Nat
  | .v4 n => n
  | .v6 n _ => n

theorem toNat_lt (a : IpAddress) : a.toNat < 2 ^ a.width := by
  cases a with
  | v4 n => exact n.isLt
  | v6 n scope => exact n.isLt

/-- A small number is an address of the fourth version. -/
def ofNat? (n : Nat) : Option IpAddress :=
  if h : n < 2 ^ 32 then some (.v4 ⟨n, h⟩)
  else if h : n < 2 ^ 128 then some (.v6 ⟨n, h⟩ none)
  else none

/-- The address of a number in the version of another one. -/
def renumbered (a : IpAddress) (n : Nat) : Option IpAddress :=
  match a with
  | .v4 _ => if h : n < 2 ^ 32 then some (.v4 ⟨n, h⟩) else none
  | .v6 _ _ => if h : n < 2 ^ 128 then some (.v6 ⟨n, h⟩ none) else none

/-- `a <= b`, undefined for two versions; addresses of one number and two scopes are not ordered. -/
def le? (a b : IpAddress) : Option Bool :=
  if a.width = b.width then some (decide (a.toNat < b.toNat ∨ a = b)) else none

/-! ### Reading -/

/-- The value of digits in a base. -/
def digitsValue (base : Nat) (digit : Char → Nat) (chars : List Char) : Nat :=
  chars.foldl (fun n c => base * n + digit c) 0

/-- Up to three digits without a leading zero. -/
def octet (chars : List Char) : Option Nat :=
  let n := digitsValue 10 (fun c => c.toNat - '0'.toNat) chars
  if chars ≠ [] ∧ chars.all Char.isDigit = true ∧ chars.length ≤ 3 ∧
      (chars.head? = some '0' → chars = ['0']) ∧ n < 256 then some n else none

def parseV4 (chars : List Char) : Option Nat :=
  match (chars.splitOn '.').mapM octet with
  | some [a, b, c, d] => some (((a * 256 + b) * 256 + c) * 256 + d)
  | _ => none

def hexDigit (c : Char) : Nat :=
  if c.isDigit then c.toNat - '0'.toNat else c.toLower.toNat - 'a'.toNat + 10

def isHexDigit (c : Char) : Bool :=
  c.isDigit || decide (c ∈ "abcdefABCDEF".toList)

/-- Up to four hexadecimal digits. -/
def hextet (chars : List Char) : Option Nat :=
  if chars ≠ [] ∧ chars.all isHexDigit = true ∧ chars.length ≤ 4 then
    some (digitsValue 16 hexDigit chars)
  else none

/-- A dotted end stands for two groups. -/
def expandTail (parts : List (List Char)) : Option (List (List Char)) :=
  match parts.getLast? with
  | none => some parts
  | some last =>
    if '.' ∈ last then
      (parseV4 last).map fun n =>
        parts.dropLast ++ [Nat.toDigits 16 (n / 2 ^ 16), Nat.toDigits 16 (n % 2 ^ 16)]
    else some parts

/-- The groups on one side of the gap; an empty side is one empty part. -/
def side (parts : List (List Char)) : Option (List Nat) :=
  if parts = [[]] then some [] else parts.mapM hextet

/-- All eight groups; the first empty part inside stands for the zero groups left out, and
another one is no group. -/
def groups (first : List Char) (rest : List (List Char)) : Option (List Nat) :=
  match rest.dropLast.findIdx? List.isEmpty with
  | none => ((first :: rest).mapM hextet).filter fun hs => hs.length = 8
  | some i => do
    let high ← side (first :: rest.take i)
    let low ← side (rest.drop (i + 1))
    if high.length + low.length < 8 then
      some (high ++ List.replicate (8 - (high.length + low.length)) 0 ++ low)
    else none

def parseV6 (chars : List Char) : Option Nat := do
  let parts ← expandTail (chars.splitOn ':')
  let hs ← groups (parts.headD []) parts.tail
  some (hs.foldl (fun n h => 65536 * n + h) 0)

/-- The scope after the first percent sign; it is not empty and has none itself. -/
def splitScope (chars : List Char) : Option (List Char × Option String) :=
  match chars.splitOn '%' with
  | [addr] => some (addr, none)
  | [addr, scope] => if scope = [] then none else some (addr, some (String.ofList scope))
  | _ => none

def parseV6Address (chars : List Char) : Option IpAddress := do
  let (addr, scope) ← splitScope chars
  let n ← parseV6 addr
  if h : n < 2 ^ 128 then some (.v6 ⟨n, h⟩ scope) else none

def parseV4Address (chars : List Char) : Option IpAddress := do
  let n ← parseV4 chars
  if h : n < 2 ^ 32 then some (.v4 ⟨n, h⟩) else none

/-- `ip_address` on a text. -/
def parse (text : String) : Option IpAddress :=
  (parseV4Address text.toList).or (parseV6Address text.toList)

/-! ### Writing -/

/-- The length of the run of zero groups at the front. -/
def zeroRun (hs : List Nat) : Nat := (hs.takeWhile fun h => decide (h = 0)).length

/-- The start of the first longest run of zero groups, with its length. -/
def longestZeroRun (hs : List Nat) : Nat × Nat :=
  (List.range hs.length).foldl
    (fun best i => if best.2 < zeroRun (hs.drop i) then (i, zeroRun (hs.drop i)) else best) (0, 0)

def groupsText (hs : List Nat) : String :=
  ":".intercalate (hs.map fun h => String.ofList (Nat.toDigits 16 h))

/-- A run of two or more zero groups is left out. -/
def compress (hs : List Nat) : String :=
  let (start, length) := longestZeroRun hs
  if 1 < length then groupsText (hs.take start) ++ "::" ++ groupsText (hs.drop (start + length))
  else groupsText hs

/-- The digits of a number in a base, highest first. -/
def digitsOf (base n : Nat) : Nat → List Nat
  | 0 => []
  | count + 1 => digitsOf base (n / base) count ++ [n % base]

/-- `str`. -/
def text : IpAddress → String
  | .v4 n => ".".intercalate ((digitsOf 256 n 4).map fun d => toString d)
  | .v6 n scope =>
    compress (digitsOf 65536 n 8) ++ (scope.map fun s => "%" ++ s).getD ""

end IpAddress

/-! ### Networks -/

/-- A network: the addresses that agree with one in the first bits. -/
structure IpNetwork where
  address : IpAddress
  prefixLen : Nat
  prefixLen_le : prefixLen ≤ address.width

namespace IpNetwork

/-- The number of addresses. -/
def size (net : IpNetwork) : Nat := 2 ^ (net.address.width - net.prefixLen)

/-- The lowest address as a number. -/
def first (net : IpNetwork) : Nat := net.address.toNat / net.size * net.size

/-- `a in net`. -/
def contains (net : IpNetwork) (a : IpAddress) : Bool :=
  decide (a.width = net.address.width ∧ a.toNat / net.size = net.address.toNat / net.size)

/-- The number of leading ones of a mask, when nothing but ones come first. -/
def maskLength (mask : Nat) : Option Nat :=
  (List.range 33).find? fun p => decide (mask + 2 ^ (32 - p) = 2 ^ 32)

/-- A prefix length, or the mask or inverted mask of the fourth version. -/
def parsePrefix (width : Nat) (chars : List Char) : Option Nat :=
  let n := IpAddress.digitsValue 10 (fun c => c.toNat - '0'.toNat) chars
  if chars ≠ [] ∧ chars.all Char.isDigit = true ∧ n ≤ width then some n
  else if width = 32 then do
    let mask ← IpAddress.parseV4 chars
    (maskLength mask).or (maskLength (2 ^ 32 - 1 - mask))
  else none

/-- An address with an optional prefix. -/
def parseWith (address : List Char → Option IpAddress) (chars : List Char) : Option IpNetwork :=
  match chars.splitOn '/' with
  | [addr] => (address addr).map fun a => ⟨a, a.width, Nat.le_refl _⟩
  | [addr, pre] => do
    let a ← address addr
    let p ← parsePrefix a.width pre
    if h : p ≤ a.width then some ⟨a, p, h⟩ else none
  | _ => none

/-- `ip_network` of a text; bits behind the prefix are dropped. -/
def parse (text : String) : Option IpNetwork :=
  (parseWith IpAddress.parseV4Address text.toList).or
    (parseWith IpAddress.parseV6Address text.toList)

/-- `hosts`: the first host and how many there are. -/
def hosts (net : IpNetwork) : Nat × Nat :=
  if net.size ≤ 2 then (net.first, net.size)
  else match net.address with
    | .v4 _ => (net.first + 1, net.size - 2)
    | .v6 _ _ => (net.first + 1, net.size - 1)

/-- A host by its number; the only address of a network is the one that was written. -/
def hostAt (net : IpNetwork) (n : Nat) : Option IpAddress :=
  if net.size = 1 then some net.address else net.address.renumbered n

end IpNetwork

/-! ### What is no address -/

namespace IpAddress

/-- Without a dot there are no four bytes. -/
theorem parseV4_eq_none {chars : List Char} (hdot : '.' ∉ chars) : parseV4 chars = none := by
  unfold parseV4
  rw [List.splitOn_eq_singleton hdot]
  cases ho : octet chars with
  | none => simp [ho]
  | some n => simp [ho]

/-- A text without a separator is no address. -/
theorem parse_eq_none {text : String} (hdot : '.' ∉ text.toList) (hcolon : ':' ∉ text.toList)
    (hpercent : '%' ∉ text.toList) : parse text = none := by
  have h4 : parseV4 text.toList = none := parseV4_eq_none hdot
  have hgroups : groups text.toList [] = none := by
    cases hh : hextet text.toList with
    | none => simp [groups, hh]
    | some n => simp [groups, hh]
  have h6 : parseV6 text.toList = none := by
    unfold parseV6 expandTail
    rw [List.splitOn_eq_singleton hcolon]
    simp [hdot, hgroups]
  unfold parse parseV4Address parseV6Address splitScope
  rw [List.splitOn_eq_singleton hpercent]
  simp [h4, h6]

/-- A decimal number is no address. -/
theorem parse_toString_nat (n : Nat) : parse (toString n) = none := by
  have hdigit : ∀ c ∈ (toString n).toList, c.isDigit = true := by
    intro c hc
    rw [Nat.toString_eq_repr, Nat.toList_repr] at hc
    exact Nat.isDigit_of_mem_toDigits (by decide) (by decide) hc
  apply parse_eq_none
  · exact fun h => absurd (hdigit _ h) (by decide)
  · exact fun h => absurd (hdigit _ h) (by decide)
  · exact fun h => absurd (hdigit _ h) (by decide)

/-! ### One text of the fourth version -/

private theorem decimal_lt {c : Char} (hc : c.isDigit = true) : c.toNat - '0'.toNat < 10 := by
  obtain ⟨hlow, hhigh⟩ := Char.isDigit_iff_toNat.mp hc
  have hzero : '0'.toNat = 48 := rfl
  have hnine : '9'.toNat = 57 := rfl
  omega

/-- A decimal digit is written as it is read. -/
theorem digitChar_of_isDigit {c : Char} (hc : c.isDigit = true) :
    (c.toNat - '0'.toNat).digitChar = c := by
  obtain ⟨hlow, -⟩ := Char.isDigit_iff_toNat.mp hc
  have hzero : '0'.toNat = 48 := rfl
  apply Char.toNat_inj.mp
  rw [Nat.toNat_digitChar_of_lt_ten (decimal_lt hc)]
  omega

/-- Digits without a leading zero are the digits of their value. -/
theorem toDigits_digitsValue {chars : List Char} (hne : chars ≠ [])
    (hdigits : ∀ c ∈ chars, c.isDigit = true)
    (hzero : chars.head? = some '0' → chars = ['0']) :
    Nat.toDigits 10 (digitsValue 10 (fun c => c.toNat - '0'.toNat) chars) = chars := by
  induction chars using List.reverseRecOn with
  | nil => exact absurd rfl hne
  | append_singleton init c ih =>
    have hc : c.isDigit = true := hdigits c (by simp)
    have hlast : Nat.toDigits 10 (c.toNat - '0'.toNat) = [c] := by
      rw [Nat.toDigits_of_lt_base (decimal_lt hc), digitChar_of_isDigit hc]
    have hvalue : digitsValue 10 (fun c => c.toNat - '0'.toNat) (init ++ [c]) =
        10 * digitsValue 10 (fun c => c.toNat - '0'.toNat) init + (c.toNat - '0'.toNat) := by
      simp only [digitsValue, List.foldl_append, List.foldl_cons, List.foldl_nil]
    rw [hvalue]
    by_cases hinit : init = []
    · subst hinit
      simpa [digitsValue] using hlast
    · have hhead : init.head? ≠ some '0' := by
        intro h
        have htwo := hzero (by rw [List.head?_append_of_ne_nil _ hinit, h])
        have hlen := congrArg List.length htwo
        have hpos := List.length_pos_of_ne_nil hinit
        simp only [List.length_append, List.length_singleton] at hlen
        omega
      have hread := ih hinit (fun d hd => hdigits d (List.mem_append_left _ hd))
        fun h => absurd h hhead
      have hpos : 0 < digitsValue 10 (fun c => c.toNat - '0'.toNat) init := by
        rw [Nat.pos_iff_ne_zero]
        intro h
        rw [h, Nat.toDigits_zero] at hread
        exact hhead (by rw [← hread]; rfl)
      rw [← Nat.toDigits_append_toDigits (by decide) hpos (decimal_lt hc), hread, hlast]

theorem octet_eq_some {chars : List Char} {n : Nat} (h : octet chars = some n) :
    chars = Nat.toDigits 10 n ∧ n < 256 := by
  unfold octet at h
  simp only at h
  split at h
  · rename_i hok
    obtain ⟨hne, hall, -, hzero, hlt⟩ := hok
    cases h
    exact ⟨(toDigits_digitsValue hne (List.all_eq_true.mp hall) hzero).symm, hlt⟩
  · cases h

/-- Parts that are read one by one are the writings of what was read. -/
theorem map_of_mapM {α β : Type} {read : α → Option β} {write : β → α} {good : β → Prop}
    (hread : ∀ a b, read a = some b → a = write b ∧ good b) {parts : List α} {values : List β}
    (h : parts.mapM read = some values) : parts = values.map write ∧ ∀ b ∈ values, good b := by
  induction parts generalizing values with
  | nil =>
    cases h
    exact ⟨rfl, fun b hb => by cases hb⟩
  | cons part parts ih =>
    rw [List.mapM_cons] at h
    cases hp : read part with
    | none => simp [hp] at h
    | some value =>
      cases hr : parts.mapM read with
      | none => simp [hp, hr] at h
      | some rest =>
        simp only [hp, hr, Option.bind_eq_bind, Option.bind_some] at h
        cases h
        obtain ⟨hpart, hgood⟩ := hread part value hp
        obtain ⟨hparts, hgoods⟩ := ih hr
        exact ⟨by rw [List.map_cons, ← hpart, ← hparts], List.forall_mem_cons.mpr ⟨hgood, hgoods⟩⟩

/-- Dotted decimals are the digits of the four bytes of the number. -/
theorem splitOn_of_parseV4 {chars : List Char} {n : Nat} (h : parseV4 chars = some n) :
    chars.splitOn '.' = (digitsOf 256 n 4).map (Nat.toDigits 10) := by
  unfold parseV4 at h
  split at h
  · rename_i a b c d hparts
    obtain ⟨hsplit, hbytes⟩ := map_of_mapM (fun _ _ hk => octet_eq_some hk) hparts
    cases h
    have hn : digitsOf 256 (((a * 256 + b) * 256 + c) * 256 + d) 4 = [a, b, c, d] := by
      have ha := hbytes a (by simp)
      have hb := hbytes b (by simp)
      have hc := hbytes c (by simp)
      have hd := hbytes d (by simp)
      simp only [digitsOf, List.nil_append, List.cons_append, List.cons.injEq, and_true]
      omega
    rw [hn, hsplit]
  · cases h

/-- An address of the fourth version has one text. -/
theorem parse_v4_unique {s t : String} {n : Fin (2 ^ 32)} (hs : parse s = some (.v4 n))
    (ht : parse t = some (.v4 n)) : s = t := by
  have hread : ∀ {u : String}, parse u = some (.v4 n) → parseV4 u.toList = some n := by
    intro u hu
    rw [parse, Option.or_eq_some_iff] at hu
    rcases hu with hu | ⟨-, hu⟩
    · rw [parseV4Address, Option.bind_eq_bind, Option.bind_eq_some_iff] at hu
      obtain ⟨m, hm, hu⟩ := hu
      split at hu
      · cases hu
        exact hm
      · cases hu
    · unfold parseV6Address at hu
      simp only [Option.bind_eq_bind, Option.bind_eq_some_iff] at hu
      obtain ⟨found, hscope, m, hm, hu⟩ := hu
      split at hu
      · cases hu
      · cases hu
  have hsplit := (splitOn_of_parseV4 (hread hs)).trans (splitOn_of_parseV4 (hread ht)).symm
  have hjoin : ∀ u : String, ['.'].intercalate (u.toList.splitOn '.') = u.toList :=
    fun u => List.intercalate_splitOn '.'
  apply String.toList_inj.mp
  rw [← hjoin s, hsplit, hjoin t]

/-- The number that a text denotes, with the number of bits. -/
def numeric (text : String) : Option (Nat × Nat) :=
  (parse text).map fun a => (a.width, a.toNat)

/-- A number of the fourth version has one text. -/
theorem eq_of_numeric_v4 {s t : String} {k : Nat} (hs : numeric s = some (32, k))
    (ht : numeric t = some (32, k)) : s = t := by
  have hread : ∀ {u : String}, numeric u = some (32, k) →
      ∃ n : Fin (2 ^ 32), n = k ∧ parse u = some (.v4 n) := by
    intro u hu
    obtain ⟨a, ha, hpair⟩ := Option.map_eq_some_iff.mp hu
    cases a with
    | v4 n => exact ⟨n, congrArg Prod.snd hpair, ha⟩
    | v6 n scope => cases hpair
  obtain ⟨n, hn, hps⟩ := hread hs
  obtain ⟨m, hm, hpt⟩ := hread ht
  have hnm : n = m := Fin.ext (hn.trans hm.symm)
  exact parse_v4_unique hps (hnm ▸ hpt)

end IpAddress

end PveManager.Net
