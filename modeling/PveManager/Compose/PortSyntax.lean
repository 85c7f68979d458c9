import PveManager.Compose.Rewrite
import PveManager.Core.IpText

/-!
# Ports as Compose reads them

Both forms of an entry of `ports`. An entry without a host port, or with a choice of host ports,
publishes no port that is known beforehand.
-/

namespace PveManager.Compose

open PveManager.Core PveManager.Core.Yaml PveManager.Net

/-- What Compose brings to a file: its interpolation, with the variables of the environment file, and
its reading of an address. -/
structure ComposeReader where
  /-- `none` where a required variable is missing. -/
  interpolate : String → Option String
  isAddress : String → Bool
  plain : ∀ text, '$' ∉ text.toList → interpolate text = some text

/-- The number is a port. -/
def IsPort (n : Int) : Prop := 0 < n ∧ n < 65536

/-- A port in decimal digits. -/
def portNumber (chars : List Char) : Option Nat :=
  let n := IpAddress.digitsValue 10 (fun c => c.toNat - '0'.toNat) chars
  if (!chars.isEmpty && chars.all Char.isDigit) = true ∧ 0 < n ∧ n < 65536 then some n else none

/-- A port, or the first and the last of a range. -/
def portRange (chars : List Char) : Option (Nat × Nat) :=
  match chars.splitOn '-' with
  | [port] => (portNumber port).map fun n => (n, n)
  | [first, last] => do
    let first ← portNumber first
    let last ← portNumber last
    if first ≤ last then some (first, last) else none
  | _ => none

/-- The ports of a container without the protocol. -/
def withoutProtocol (chars : List Char) : Option (List Char) :=
  match chars.splitOn '/' with
  | [port] => some port
  | [port, protocol] =>
    if ["tcp", "udp", "sctp"].contains (String.ofList protocol) then some port else none
  | _ => none

/-- The host ports and the ports inside that belong together: none where the host port is chosen from
a range. -/
def pairs (host inside : Nat × Nat) : List (Int × Int) :=
  if host.2 - host.1 = inside.2 - inside.1 then
    (List.range (inside.2 - inside.1 + 1)).map fun k => ((host.1 + k : Int), (inside.1 + k : Int))
  else []

/-- The pairs of two readings. -/
def pairsOf (host inside : Option (Nat × Nat)) : List (Int × Int) :=
  match host, inside with
  | some host, some inside => pairs host inside
  | _, _ => []

namespace ComposeReader

variable (reader : ComposeReader)

/-- The short form: `[[address:]host:]container[/protocol]`. -/
def shortPorts (text : String) : List (Int × Int) :=
  match (text.toList.splitOn ':').reverse with
  | inside :: host :: address =>
    if address.isEmpty || reader.isAddress (String.ofList ([':'].intercalate address.reverse)) then
      pairsOf (portRange host) ((withoutProtocol inside).bind portRange)
    else []
  | _ => []

/-- A value of the long form. -/
def longValue : Option Yaml → Option (List Char)
  | some (.int n) => some (toString n).toList
  | some (.str text) => (reader.interpolate text).map String.toList
  | _ => none

/-- The host ports that an entry publishes, each with the port inside that it leads to. -/
def published : Yaml → List (Int × Int)
  | .dict items =>
    pairsOf ((reader.longValue (items.lookup "published")).bind portRange)
      (((reader.longValue (items.lookup "target")).bind portNumber).map fun n => (n, n))
  | .int n => reader.shortPorts (toString n)
  | .str text => ((reader.interpolate text).map reader.shortPorts).getD []
  | _ => []

end ComposeReader

/-- Compose without variables in its environment file, for texts that have none. -/
def ComposeReader.literal : ComposeReader where
  interpolate := some
  isAddress _ := false
  plain _ _ := rfl

/-! ### Single ports -/

theorem portNumber_toDigits (n : Nat) :
    portNumber (Nat.toDigits 10 n) = if 0 < n ∧ n < 65536 then some n else none := by
  have hdigits : (!(Nat.toDigits 10 n).isEmpty && (Nat.toDigits 10 n).all Char.isDigit) = true := by
    rw [Bool.and_eq_true, List.all_eq_true]
    refine ⟨?_, fun c hc => Nat.isDigit_of_mem_toDigits (by decide) (by decide) hc⟩
    cases h : Nat.toDigits 10 n with
    | nil => exact absurd h Nat.toDigits_ne_nil
    | cons _ _ => rfl
  unfold portNumber
  rw [IpAddress.digitsValue_toDigits (by decide) IpAddress.octet_digitChar]
  dsimp only
  by_cases h : 0 < n ∧ n < 65536
  · rw [if_pos h, if_pos ⟨hdigits, h⟩]
  · rw [if_neg h, if_neg fun hport => h hport.2]

theorem not_mem_toDigits {c : Char} (hc : c.isDigit = false) (n : Nat) : c ∉ Nat.toDigits 10 n := by
  intro hmem
  rw [Nat.isDigit_of_mem_toDigits (by decide) (by decide) hmem] at hc
  cases hc

/-- The text of a number is its digits, behind a minus sign where it is negative. -/
theorem toList_toString_int (n : Int) : (toString n).toList =
    if 0 ≤ n then Nat.toDigits 10 n.toNat else '-' :: Nat.toDigits 10 (-n).toNat := by
  rw [Int.toString_eq_repr, Int.repr_eq_if]
  split
  · exact Nat.toList_repr
  · rw [String.toList_append, Nat.toList_repr]
    rfl

/-- Apart from the sign, the text of a number has digits only. -/
theorem not_mem_toString_int {c : Char} (hc : c.isDigit = false) (hsign : c ≠ '-') (n : Int) :
    c ∉ (toString n).toList := by
  rw [toList_toString_int]
  split
  · exact not_mem_toDigits hc _
  · intro hmem
    rcases List.mem_cons.mp hmem with rfl | hmem
    · exact hsign rfl
    · exact not_mem_toDigits hc _ hmem

/-- A number is read as a port exactly when it is one. -/
theorem portRange_int (n : Int) : portRange (toString n).toList =
    if 0 < n ∧ n < 65536 then some (n.toNat, n.toNat) else none := by
  unfold portRange
  rw [toList_toString_int]
  by_cases hnat : 0 ≤ n
  · rw [if_pos hnat, List.splitOn_eq_singleton (not_mem_toDigits (by decide) _)]
    dsimp only
    rw [portNumber_toDigits]
    by_cases h : 0 < n ∧ n < 65536
    · rw [if_pos h, if_pos (by omega)]
      rfl
    · rw [if_neg h, if_neg (by omega)]
      rfl
  · have hneg : ¬(0 < n ∧ n < 65536) := fun h => hnat (Int.le_of_lt h.1)
    rw [if_neg hnat, if_neg hneg]
    have hsplit := List.splitOn_append_cons_self_of_not_mem (List.not_mem_nil (a := '-'))
      (Nat.toDigits 10 (-n).toNat)
    rw [List.nil_append, List.splitOn_eq_singleton (not_mem_toDigits (by decide) _)] at hsplit
    rw [hsplit]
    rfl

theorem withoutProtocol_of_not_mem {chars : List Char} (h : '/' ∉ chars) :
    withoutProtocol chars = some chars := by
  unfold withoutProtocol
  rw [List.splitOn_eq_singleton h]

/-! ### Numbers in the texts of the code -/

section Numbers

variable (py : PyText)

theorem isSpace_digitChar : ∀ d < 10, isSpace d.digitChar = false := by decide

theorem digitChar_ascii : ∀ d < 10, (if 48 ≤ d.digitChar.toNat ∧ d.digitChar.toNat ≤ 57 then
    some (some (d.digitChar.toNat - 48)) else none) = some (some d) := by decide

theorem digit_digitChar {d : Nat} (hd : d < 10) : py.digit d.digitChar = some (some d) := by
  rw [py.ascii _ (by revert d; decide), digitChar_ascii d hd]

theorem stripChars_toDigits (n : Nat) : stripChars (Nat.toDigits 10 n) = Nat.toDigits 10 n := by
  refine stripChars_of_no_space fun c hc => ?_
  obtain ⟨d, hd, rfl⟩ := Net.IpAddress.exists_of_mem_toDigits (by decide) hc
  exact isSpace_digitChar d hd

/-- A number below the limit is read from its digits. -/
theorem readDigits_toDigits {n : Nat} (hlength : (Nat.toDigits 10 n).length ≤ 4300) :
    py.readDigits (Nat.toDigits 10 n) = some (n : Int) := by
  have hfold : ∀ (chars : List Char) (k : Nat), (∀ c ∈ chars, ∃ d < 10, c = Nat.digitChar d) →
      chars.foldl (fun (n : Option Int) c => do
        let value ← (py.digit c).join
        pure ((← n) * 10 + (value : Int))) (some (k : Int)) =
          some ((chars.foldl (fun n c => 10 * n + (c.toNat - '0'.toNat)) k : Nat) : Int) := by
    intro chars
    induction chars with
    | nil => exact fun _ _ => rfl
    | cons c rest ih =>
      intro k h
      obtain ⟨d, hd, rfl⟩ := h c List.mem_cons_self
      rw [List.foldl_cons, List.foldl_cons, ← ih _ fun c hc => h c (List.mem_cons_of_mem _ hc),
        Net.IpAddress.octet_digitChar d hd, digit_digitChar py hd]
      have hstep : ((10 * k + d : Nat) : Int) = (k : Int) * 10 + (d : Int) := by omega
      rw [hstep]
      rfl
  unfold PyText.readDigits
  rw [if_neg (by omega)]
  have hvalue := hfold (Nat.toDigits 10 n) 0
    fun c hc => Net.IpAddress.exists_of_mem_toDigits (by decide) hc
  have hdigits : Net.IpAddress.digitsValue 10 (fun c => c.toNat - '0'.toNat) (Nat.toDigits 10 n) = n :=
    Net.IpAddress.digitsValue_toDigits (by decide) Net.IpAddress.octet_digitChar n
  unfold Net.IpAddress.digitsValue at hdigits
  rw [hdigits] at hvalue
  exact hvalue

/-- A port is read from its text. -/
theorem toInt_port {n : Int} (h : IsPort n) : py.toInt (.str (toString n)) = .ok (some n) := by
  obtain ⟨hpos, hlt⟩ := h
  have hlength : (Nat.toDigits 10 n.toNat).length ≤ 5 :=
    (Nat.length_toDigits_le_iff (by decide) (by decide)).mpr (by omega)
  have hisDigits : py.isDigits (Nat.toDigits 10 n.toNat) = true := by
    unfold PyText.isDigits
    rw [Bool.and_eq_true, List.all_eq_true]
    refine ⟨?_, fun c hc => ?_⟩
    · cases hnil : Nat.toDigits 10 n.toNat with
      | nil => exact absurd hnil Nat.toDigits_ne_nil
      | cons _ _ => rfl
    · obtain ⟨d, hd, rfl⟩ := Net.IpAddress.exists_of_mem_toDigits (by decide) hc
      rw [digit_digitChar py hd]
      rfl
  have htext : (toString n).toList = Nat.toDigits 10 n.toNat := by
    rw [toList_toString_int, if_pos (Int.le_of_lt hpos)]
  unfold PyText.toInt
  dsimp only
  rw [htext, stripChars_toDigits, if_pos hisDigits, readDigits_toDigits py (by omega)]
  dsimp only
  rw [Int.toNat_of_nonneg (by omega)]

/-- A text without variables is left as it is. -/
theorem substEnv_of_not_mem {text : String} (h : '$' ∉ text.toList) (env : Env) :
    substEnv text env = text := by
  have hchars : ∀ (fuel : Nat) (chars : List Char), '$' ∉ chars →
      substChars env fuel chars = chars := by
    intro fuel
    induction fuel with
    | zero => exact fun _ _ => rfl
    | succ fuel ih =>
      intro chars hnone
      cases chars with
      | nil => rfl
      | cons c rest =>
        have hc : c ≠ '$' := fun h => hnone (h ▸ List.mem_cons_self)
        unfold substChars
        rw [if_neg hc, ih rest fun h => hnone (List.mem_cons_of_mem _ h)]
  unfold substEnv
  rw [hchars _ _ h, String.ofList_toList]

end Numbers

/-! ### Plain entries -/

/-- The entry that publishes a port. -/
def portEntry (published internal : Int) : Yaml :=
  .str (toString published ++ ":" ++ toString internal)

theorem mem_pairs_single {host inside : Nat} {p t : Int} :
    (p, t) ∈ pairs (host, host) (inside, inside) ↔ p = host ∧ t = inside := by
  unfold pairs
  rw [Nat.sub_self, Nat.sub_self, if_pos rfl]
  simp

theorem splitOn_portEntry (published internal : Int) :
    (toString published ++ ":" ++ toString internal).toList.splitOn ':' =
      [(toString published).toList, (toString internal).toList] := by
  have hcolon : ∀ n : Int, ':' ∉ (toString n).toList :=
    not_mem_toString_int (by decide) (by decide)
  rw [String.toList_append, String.toList_append, List.append_assoc]
  change ((toString published).toList ++ ':' :: (toString internal).toList).splitOn ':' = _
  rw [List.splitOn_append_cons_self_of_not_mem (hcolon published),
    List.splitOn_eq_singleton (hcolon internal)]

theorem dollar_not_mem_portEntry (published internal : Int) :
    '$' ∉ (toString published ++ ":" ++ toString internal).toList := by
  rw [String.toList_append, String.toList_append, List.mem_append, List.mem_append]
  rintro ((h | h) | h)
  · exact not_mem_toString_int (by decide) (by decide) _ h
  · exact absurd h (by decide)
  · exact not_mem_toString_int (by decide) (by decide) _ h

namespace ComposeReader

variable (reader : ComposeReader)

theorem shortPorts_portEntry (published internal : Int) :
    reader.shortPorts (toString published ++ ":" ++ toString internal) =
      pairsOf (portRange (toString published).toList) (portRange (toString internal).toList) := by
  have hslash : ∀ n : Int, '/' ∉ (toString n).toList :=
    not_mem_toString_int (by decide) (by decide)
  unfold shortPorts
  rw [splitOn_portEntry]
  change pairsOf _ ((withoutProtocol _).bind portRange) = _
  rw [withoutProtocol_of_not_mem (hslash internal), Option.bind_some]

/-- An entry of two numbers publishes the first, and leads to the second, when both are ports. -/
theorem mem_published_portEntry {published internal p t : Int} :
    (p, t) ∈ reader.published (portEntry published internal) ↔
      p = published ∧ t = internal ∧ IsPort published ∧ IsPort internal := by
  have hpublished : reader.published (portEntry published internal) =
      pairsOf (portRange (toString published).toList) (portRange (toString internal).toList) := by
    unfold ComposeReader.published portEntry
    dsimp only
    rw [reader.plain _ (dollar_not_mem_portEntry _ _), Option.map_some, Option.getD_some,
      shortPorts_portEntry]
  rw [hpublished, portRange_int, portRange_int]
  unfold IsPort
  by_cases hp : 0 < published ∧ published < 65536
  · by_cases ht : 0 < internal ∧ internal < 65536
    · rw [if_pos hp, if_pos ht]
      change (p, t) ∈ pairs _ _ ↔ _
      rw [mem_pairs_single, Int.toNat_of_nonneg (by omega), Int.toNat_of_nonneg (by omega)]
      exact ⟨fun h => ⟨h.1, h.2, hp, ht⟩, fun h => ⟨h.1, h.2.1⟩⟩
    · rw [if_neg ht]
      exact iff_of_false (by unfold pairsOf; split <;> simp_all) fun h => ht h.2.2.2
  · rw [if_neg hp]
    exact iff_of_false List.not_mem_nil fun h => hp h.2.2.1

end ComposeReader

end PveManager.Compose
