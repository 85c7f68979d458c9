import PveManager.Core.IpAddress

/-!
# The text of an address

Every address without a scope is read back from its text, so different addresses have different
texts. In the sixth version the run of zero groups that the text leaves out is the one that the
reader fills in.
-/

namespace PveManager.Net.IpAddress

/-! ### Digits -/

theorem digitsValue_append (base : Nat) (digit : Char → Nat) (chars : List Char) (c : Char) :
    digitsValue base digit (chars ++ [c]) = base * digitsValue base digit chars + digit c := by
  simp only [digitsValue, List.foldl_append, List.foldl_cons, List.foldl_nil]

/-- The digits of a number have its value. -/
theorem digitsValue_toDigits {base : Nat} {digit : Char → Nat} (hbase : 1 < base)
    (hdigit : ∀ d < base, digit d.digitChar = d) (n : Nat) :
    digitsValue base digit (Nat.toDigits base n) = n := by
  induction n using Nat.strongRecOn with
  | ind n ih =>
    rw [Nat.toDigits_eq_if hbase]
    split
    · rename_i hlt
      have hvalue : digitsValue base digit [n.digitChar] = base * 0 + digit n.digitChar := rfl
      rw [hvalue, hdigit n hlt, Nat.mul_zero, Nat.zero_add]
    · rename_i hge
      have hdiv : n / base < n := Nat.div_lt_self (by omega) hbase
      rw [digitsValue_append, ih _ hdiv, hdigit _ (Nat.mod_lt n (by omega))]
      exact Nat.div_add_mod n base

/-- The digits of a number are characters of digits. -/
theorem exists_of_mem_toDigits {base n : Nat} (hbase : 1 < base) {c : Char}
    (hc : c ∈ Nat.toDigits base n) : ∃ d < base, c = d.digitChar := by
  induction n using Nat.strongRecOn with
  | ind n ih =>
    rw [Nat.toDigits_eq_if hbase] at hc
    split at hc
    · rename_i hlt
      exact ⟨n, hlt, List.mem_singleton.mp hc⟩
    · rename_i hge
      rcases List.mem_append.mp hc with hc | hc
      · exact ih _ (Nat.div_lt_self (by omega) hbase) hc
      · exact ⟨n % base, Nat.mod_lt n (by omega), List.mem_singleton.mp hc⟩

theorem isHexDigit_digitChar : ∀ d < 16, isHexDigit d.digitChar = true := by decide

theorem hexDigit_digitChar : ∀ d < 16, hexDigit d.digitChar = d := by decide

/-- A group is read back. -/
theorem hextet_toDigits {h : Nat} (hlt : h < 65536) : hextet (Nat.toDigits 16 h) = some h := by
  have hall : (Nat.toDigits 16 h).all isHexDigit = true := by
    refine List.all_eq_true.mpr fun c hc => ?_
    obtain ⟨d, hd, rfl⟩ := exists_of_mem_toDigits (by decide) hc
    exact isHexDigit_digitChar d hd
  have hlength : (Nat.toDigits 16 h).length ≤ 4 :=
    (Nat.length_toDigits_le_iff (by decide) (by decide)).mpr hlt
  unfold hextet
  rw [if_pos ⟨Nat.toDigits_ne_nil, hall, hlength⟩,
    digitsValue_toDigits (by decide) hexDigit_digitChar]

/-- A positive number has no leading zero. -/
theorem head?_toDigits {n : Nat} (hpos : 0 < n) : (Nat.toDigits 10 n).head? ≠ some '0' := by
  induction n using Nat.strongRecOn with
  | ind n ih =>
    rw [Nat.toDigits_eq_if (by decide)]
    split
    · rename_i hlt
      have hdigit : ∀ d < 10, 0 < d → d.digitChar ≠ '0' := by decide
      intro hhead
      exact hdigit n hlt hpos (Option.some.inj hhead)
    · rename_i hge
      rw [List.head?_append_of_ne_nil _ Nat.toDigits_ne_nil]
      exact ih _ (Nat.div_lt_self hpos (by decide)) (by omega)

theorem octet_digitChar : ∀ d < 10, d.digitChar.toNat - '0'.toNat = d := by decide

/-- A byte is read back. -/
theorem octet_toDigits {d : Nat} (hlt : d < 256) : octet (Nat.toDigits 10 d) = some d := by
  have hall : (Nat.toDigits 10 d).all Char.isDigit = true :=
    List.all_eq_true.mpr fun c hc => Nat.isDigit_of_mem_toDigits (by decide) (by decide) hc
  have hlength : (Nat.toDigits 10 d).length ≤ 3 :=
    (Nat.length_toDigits_le_iff (by decide) (by decide)).mpr (by omega)
  have hvalue : digitsValue 10 (fun c => c.toNat - '0'.toNat) (Nat.toDigits 10 d) = d :=
    digitsValue_toDigits (by decide) octet_digitChar d
  have hzero : (Nat.toDigits 10 d).head? = some '0' → Nat.toDigits 10 d = ['0'] := by
    intro hhead
    rcases Nat.eq_zero_or_pos d with rfl | hpos
    · rfl
    · exact absurd hhead (head?_toDigits hpos)
  unfold octet
  rw [hvalue]
  exact if_pos ⟨Nat.toDigits_ne_nil, hall, hlength, hzero, hlt⟩

/-! ### Digits of a number in a base -/

theorem length_digitsOf (base n count : Nat) : (digitsOf base n count).length = count := by
  induction count generalizing n with
  | zero => rfl
  | succ count ih => rw [digitsOf, List.length_append, ih, List.length_singleton]

theorem lt_of_mem_digitsOf {base n count d : Nat} (hbase : 0 < base)
    (hd : d ∈ digitsOf base n count) : d < base := by
  induction count generalizing n with
  | zero => exact absurd hd List.not_mem_nil
  | succ count ih =>
    rcases List.mem_append.mp hd with hd | hd
    · exact ih hd
    · exact List.mem_singleton.mp hd ▸ Nat.mod_lt n hbase

/-- The digits have the value of the number, as far as they reach. -/
theorem foldl_digitsOf (base n count : Nat) :
    (digitsOf base n count).foldl (fun n d => base * n + d) 0 = n % base ^ count := by
  induction count generalizing n with
  | zero => rw [pow_zero, Nat.mod_one, digitsOf, List.foldl_nil]
  | succ count ih =>
    rw [digitsOf, List.foldl_append, ih, List.foldl_cons, List.foldl_nil, pow_succ']
    rw [Nat.mod_mul, Nat.add_comm]

/-- Parts that are written and read one by one. -/
theorem mapM_map_of_read {α β : Type} {read : α → Option β} {write : β → α} {values : List β}
    (hread : ∀ b ∈ values, read (write b) = some b) :
    (values.map write).mapM read = some values := by
  induction values with
  | nil => rfl
  | cons b values ih =>
    rw [List.map_cons, List.mapM_cons, hread b List.mem_cons_self,
      ih fun b hb => hread b (List.mem_cons_of_mem _ hb)]
    rfl

/-! ### The fourth version -/

theorem parseV4_text (n : Fin (2 ^ 32)) : parseV4 (text (.v4 n)).toList = some n.val := by
  have hparts : (text (.v4 n)).toList =
      ['.'].intercalate ((digitsOf 256 n 4).map (Nat.toDigits 10)) := by
    unfold text
    rw [String.toList_intercalate, List.map_map]
    refine congrArg _ (List.map_congr_left fun d _ => ?_)
    rw [Function.comp_apply, Nat.toString_eq_repr, Nat.toList_repr]
  have hdot : ∀ l ∈ (digitsOf 256 n 4).map (Nat.toDigits 10), '.' ∉ l := by
    intro l hl hmem
    obtain ⟨d, -, rfl⟩ := List.mem_map.mp hl
    have hdigit := Nat.isDigit_of_mem_toDigits (by decide) (by decide) hmem
    exact absurd hdigit (by decide)
  have hne : (digitsOf 256 n 4).map (Nat.toDigits 10) ≠ [] := by
    simp [digitsOf]
  have hread : ((digitsOf 256 n 4).map (Nat.toDigits 10)).mapM octet = some (digitsOf 256 n 4) :=
    mapM_map_of_read fun d hd => octet_toDigits (lt_of_mem_digitsOf (by decide) hd)
  have hvalue : (digitsOf 256 n 4).foldl (fun n d => 256 * n + d) 0 = n.val :=
    (foldl_digitsOf 256 n 4).trans (Nat.mod_eq_of_lt n.isLt)
  unfold parseV4
  rw [hparts, List.splitOn_intercalate _ hdot hne, hread]
  simp only [digitsOf, List.nil_append, List.cons_append, List.foldl_cons, List.foldl_nil] at hvalue ⊢
  exact congrArg some (by omega)

/-! ### The sixth version -/

theorem intercalate_append {sep : List Char} {as bs : List (List Char)} (has : as ≠ [])
    (hbs : bs ≠ []) :
    sep.intercalate (as ++ bs) = sep.intercalate as ++ sep ++ sep.intercalate bs := by
  induction as with
  | nil => exact absurd rfl has
  | cons a as ih =>
    cases as with
    | nil => rw [List.intercalate_singleton, List.singleton_append,
        List.intercalate_cons_of_ne_nil hbs]
    | cons b as =>
      rw [List.cons_append, List.intercalate_cons_of_ne_nil (by simp), ih (by simp),
        List.intercalate_cons_of_ne_nil (List.cons_ne_nil b as)]
      simp only [List.append_assoc]

/-- The parts of groups on one side of the gap. -/
def writtenSide (hs : List Nat) : List (List Char) :=
  if hs = [] then [[]] else hs.map (Nat.toDigits 16)

theorem writtenSide_ne_nil (hs : List Nat) : writtenSide hs ≠ [] := by
  unfold writtenSide
  split
  · exact List.cons_ne_nil _ _
  · rename_i h
    simpa using h

/-- The characters of a part are hexadecimal digits. -/
theorem isHexDigit_of_mem_writtenSide {hs : List Nat} {l : List Char} {c : Char}
    (hl : l ∈ writtenSide hs) (hc : c ∈ l) : isHexDigit c = true := by
  unfold writtenSide at hl
  split at hl
  · obtain rfl := List.mem_singleton.mp hl
    exact absurd hc List.not_mem_nil
  · obtain ⟨h, -, rfl⟩ := List.mem_map.mp hl
    obtain ⟨d, hd, rfl⟩ := exists_of_mem_toDigits (by decide) hc
    exact isHexDigit_digitChar d hd

theorem side_writtenSide {hs : List Nat} (hlt : ∀ h ∈ hs, h < 65536) :
    side (writtenSide hs) = some hs := by
  unfold side writtenSide
  split
  · rename_i h
    rw [if_pos rfl, h]
  · rw [if_neg, mapM_map_of_read fun h hh => hextet_toDigits (hlt h hh)]
    intro heq
    have hmem : [] ∈ hs.map (Nat.toDigits 16) := heq ▸ List.mem_singleton_self _
    obtain ⟨h, -, hnil⟩ := List.mem_map.mp hmem
    exact Nat.toDigits_ne_nil hnil

theorem toList_groupsText (hs : List Nat) :
    (groupsText hs).toList = [':'].intercalate (writtenSide hs) := by
  unfold groupsText writtenSide
  rw [String.toList_intercalate, List.map_map]
  split
  · rename_i h
    subst h
    rfl
  · refine congrArg _ (List.map_congr_left fun h _ => ?_)
    rw [Function.comp_apply, String.toList_ofList]

/-- Behind the first part of a side no part is empty. -/
theorem findIdx?_tail_writtenSide (hs : List Nat) :
    (writtenSide hs).tail.findIdx? List.isEmpty = none := by
  rw [List.findIdx?_eq_none_iff]
  intro l hl
  unfold writtenSide at hl
  split at hl
  · exact absurd hl List.not_mem_nil
  · obtain ⟨h, -, rfl⟩ := List.mem_map.mp (List.mem_of_mem_tail hl)
    rw [List.isEmpty_eq_false_iff]
    exact Nat.toDigits_ne_nil

/-- Eight groups without a gap are read back. -/
theorem groups_writtenSide {hs : List Nat} (hlength : hs.length = 8) (hlt : ∀ h ∈ hs, h < 65536) :
    groups ((writtenSide hs).headD []) (writtenSide hs).tail = some hs := by
  have hne : hs ≠ [] := List.ne_nil_of_length_pos (by omega)
  have hnone : (writtenSide hs).tail.dropLast.findIdx? List.isEmpty = none := by
    rw [List.findIdx?_eq_none_iff]
    intro l hl
    exact List.findIdx?_eq_none_iff.mp (findIdx?_tail_writtenSide hs) l
      (List.dropLast_subset _ hl)
  have hcons : (writtenSide hs).headD [] :: (writtenSide hs).tail = writtenSide hs := by
    cases hparts : writtenSide hs with
    | nil => exact absurd hparts (writtenSide_ne_nil hs)
    | cons part parts => rfl
  have hread : (writtenSide hs).mapM hextet = some hs := by
    unfold writtenSide
    rw [if_neg hne]
    exact mapM_map_of_read fun h hh => hextet_toDigits (hlt h hh)
  unfold groups
  rw [hnone]
  dsimp only
  rw [hcons, hread]
  exact Option.filter_some_pos (decide_eq_true hlength)

/-- Groups around a gap are read back with zero groups in it. -/
theorem groups_gap {high low : List Nat} (hlength : high.length + low.length < 8)
    (hhigh : ∀ h ∈ high, h < 65536) (hlow : ∀ h ∈ low, h < 65536) :
    groups ((writtenSide high ++ ([] :: writtenSide low)).headD [])
        (writtenSide high ++ ([] :: writtenSide low)).tail =
      some (high ++ List.replicate (8 - (high.length + low.length)) 0 ++ low) := by
  cases hparts : writtenSide high with
  | nil => exact absurd hparts (writtenSide_ne_nil high)
  | cons part parts =>
    have hnone : parts.findIdx? List.isEmpty = none := by
      have htail := findIdx?_tail_writtenSide high
      rw [hparts] at htail
      exact htail
    have hgap : (parts ++ ([] :: writtenSide low)).dropLast.findIdx? List.isEmpty =
        some parts.length := by
      rw [List.dropLast_append_of_ne_nil (List.cons_ne_nil _ _),
        List.dropLast_cons_of_ne_nil (writtenSide_ne_nil low), List.findIdx?_append, hnone,
        List.findIdx?_cons]
      simp
    have htake : (parts ++ ([] :: writtenSide low)).take parts.length = parts := List.take_left
    have hdrop : (parts ++ ([] :: writtenSide low)).drop (parts.length + 1) = writtenSide low := by
      rw [List.append_cons, List.drop_left' (by simp)]
    change groups part (parts ++ ([] :: writtenSide low)) = _
    unfold groups
    rw [hgap]
    dsimp only
    rw [htake, hdrop, ← hparts, side_writtenSide hhigh, side_writtenSide hlow]
    exact if_pos hlength

/-! ### The longest run of zero groups -/

/-- What is found is a run of zero groups. -/
theorem longestZeroRun_le (hs : List Nat) :
    (longestZeroRun hs).2 ≤ zeroRun (hs.drop (longestZeroRun hs).1) := by
  have hfold : ∀ (starts : List Nat) (best : Nat × Nat), best.2 ≤ zeroRun (hs.drop best.1) →
      (starts.foldl (fun best i => if best.2 < zeroRun (hs.drop i) then
        (i, zeroRun (hs.drop i)) else best) best).2 ≤
      zeroRun (hs.drop (starts.foldl (fun best i => if best.2 < zeroRun (hs.drop i) then
        (i, zeroRun (hs.drop i)) else best) best).1) := by
    intro starts
    induction starts with
    | nil => exact fun _ h => h
    | cons i starts ih =>
      intro best h
      rw [List.foldl_cons]
      refine ih _ ?_
      split
      · exact Nat.le_refl _
      · exact h
  exact hfold _ _ (Nat.zero_le _)

/-- A run of zero groups consists of zeros. -/
theorem take_zeroRun {hs : List Nat} {count : Nat} (h : count ≤ zeroRun hs) :
    hs.take count = List.replicate count 0 ∧ count ≤ hs.length := by
  induction hs generalizing count with
  | nil =>
    obtain rfl := Nat.le_zero.mp h
    exact ⟨rfl, Nat.le_refl _⟩
  | cons d hs ih =>
    cases count with
    | zero => exact ⟨rfl, Nat.zero_le _⟩
    | succ count =>
      unfold zeroRun at h
      rw [List.takeWhile_cons] at h
      split at h
      · rename_i hzero
        have hle : count ≤ zeroRun hs := Nat.le_of_succ_le_succ h
        obtain ⟨htake, hlength⟩ := ih hle
        rw [List.take_succ_cons, htake, List.replicate_succ, of_decide_eq_true hzero]
        exact ⟨rfl, Nat.succ_le_succ hlength⟩
      · exact absurd h (by simp)

/-- The run that is left out can be filled in again. -/
theorem fill_longestZeroRun (hs : List Nat) :
    hs.take (longestZeroRun hs).1 ++ List.replicate (longestZeroRun hs).2 0 ++
      hs.drop ((longestZeroRun hs).1 + (longestZeroRun hs).2) = hs := by
  rw [← (take_zeroRun (longestZeroRun_le hs)).1, ← List.drop_drop, List.append_assoc,
    List.take_append_drop, List.take_append_drop]

theorem mem_intercalate {sep : List Char} {parts : List (List Char)} {c : Char}
    (h : c ∈ sep.intercalate parts) : c ∈ sep ∨ ∃ l ∈ parts, c ∈ l := by
  induction parts with
  | nil => exact absurd h List.not_mem_nil
  | cons l parts ih =>
    cases parts with
    | nil =>
      rw [List.intercalate_singleton] at h
      exact Or.inr ⟨l, List.mem_cons_self, h⟩
    | cons l' parts =>
      rw [List.intercalate_cons_of_ne_nil (List.cons_ne_nil _ _), List.append_assoc,
        List.mem_append, List.mem_append] at h
      rcases h with h | h | h
      · exact Or.inr ⟨l, List.mem_cons_self, h⟩
      · exact Or.inl h
      · rcases ih h with h | ⟨l'', hl, hc⟩
        · exact Or.inl h
        · exact Or.inr ⟨l'', List.mem_cons_of_mem _ hl, hc⟩

/-- The parts of a written address. -/
def writtenParts (hs : List Nat) : List (List Char) :=
  if 1 < (longestZeroRun hs).2 then
    writtenSide (hs.take (longestZeroRun hs).1) ++
      ([] :: writtenSide (hs.drop ((longestZeroRun hs).1 + (longestZeroRun hs).2)))
  else writtenSide hs

theorem toList_compress (hs : List Nat) :
    (compress hs).toList = [':'].intercalate (writtenParts hs) := by
  unfold compress writtenParts
  dsimp only
  split
  · rw [intercalate_append (writtenSide_ne_nil _) (List.cons_ne_nil _ _),
      List.intercalate_cons_of_ne_nil (writtenSide_ne_nil _), String.toList_append,
      String.toList_append, toList_groupsText, toList_groupsText]
    simp only [List.append_assoc]
    rfl
  · exact toList_groupsText hs

theorem writtenParts_ne_nil (hs : List Nat) : writtenParts hs ≠ [] := by
  unfold writtenParts
  split
  · simp
  · exact writtenSide_ne_nil hs

theorem isHexDigit_of_mem_writtenParts {hs : List Nat} {l : List Char} {c : Char}
    (hl : l ∈ writtenParts hs) (hc : c ∈ l) : isHexDigit c = true := by
  unfold writtenParts at hl
  split at hl
  · rcases List.mem_append.mp hl with hl | hl
    · exact isHexDigit_of_mem_writtenSide hl hc
    · rcases List.mem_cons.mp hl with rfl | hl
      · exact absurd hc List.not_mem_nil
      · exact isHexDigit_of_mem_writtenSide hl hc
  · exact isHexDigit_of_mem_writtenSide hl hc

/-- The parts of eight groups are read back. -/
theorem groups_writtenParts {hs : List Nat} (hlength : hs.length = 8)
    (hlt : ∀ h ∈ hs, h < 65536) :
    groups ((writtenParts hs).headD []) (writtenParts hs).tail = some hs := by
  unfold writtenParts
  split
  · rename_i hlong
    obtain ⟨-, hle⟩ := take_zeroRun (longestZeroRun_le hs)
    rw [List.length_drop] at hle
    have hcount : 8 - ((hs.take (longestZeroRun hs).1).length +
        (hs.drop ((longestZeroRun hs).1 + (longestZeroRun hs).2)).length) =
          (longestZeroRun hs).2 := by
      rw [List.length_take, List.length_drop]
      omega
    have hshort : (hs.take (longestZeroRun hs).1).length +
        (hs.drop ((longestZeroRun hs).1 + (longestZeroRun hs).2)).length < 8 := by
      rw [List.length_take, List.length_drop]
      omega
    rw [groups_gap hshort (fun h hh => hlt h (List.mem_of_mem_take hh))
      (fun h hh => hlt h (List.mem_of_mem_drop hh)), hcount, fill_longestZeroRun]
  · exact groups_writtenSide hlength hlt

/-- Eight groups are read back from their shortest text. -/
theorem parseV6_compress {hs : List Nat} (hlength : hs.length = 8) (hlt : ∀ h ∈ hs, h < 65536) :
    parseV6 (compress hs).toList = some (hs.foldl (fun n h => 65536 * n + h) 0) := by
  have hcolon : ∀ l ∈ writtenParts hs, ':' ∉ l := fun l hl hc =>
    absurd (isHexDigit_of_mem_writtenParts hl hc) (by decide)
  have htail : expandTail (writtenParts hs) = some (writtenParts hs) := by
    unfold expandTail
    cases hlast : (writtenParts hs).getLast? with
    | none => rfl
    | some last =>
      have hdot : '.' ∉ last := fun hc => absurd
        (isHexDigit_of_mem_writtenParts (List.mem_of_getLast? hlast) hc) (by decide)
      exact if_neg hdot
  unfold parseV6
  rw [toList_compress, List.splitOn_intercalate _ hcolon (writtenParts_ne_nil hs), htail,
    Option.bind_eq_bind, Option.bind_some, groups_writtenParts hlength hlt]
  rfl

/-- The characters of a written address are hexadecimal digits and colons. -/
theorem mem_compress {hs : List Nat} {c : Char} (h : c ∈ (compress hs).toList) :
    c = ':' ∨ isHexDigit c = true := by
  rw [toList_compress] at h
  rcases mem_intercalate h with h | ⟨l, hl, hc⟩
  · exact Or.inl (List.mem_singleton.mp h)
  · exact Or.inr (isHexDigit_of_mem_writtenParts hl hc)

/-! ### Reading what was written -/

/-- The address has no scope. -/
def plain : IpAddress → Bool
  | .v4 _ => true
  | .v6 _ scope => scope.isNone

/-- A scope is not empty and has no percent sign. -/
def wellScoped : IpAddress → Bool
  | .v4 _ => true
  | .v6 _ scope => scope.all fun s => decide (s.toList ≠ [] ∧ '%' ∉ s.toList)

theorem wellScoped_of_plain {a : IpAddress} (h : a.plain = true) : a.wellScoped = true := by
  cases a with
  | v4 n => rfl
  | v6 n scope =>
    cases scope with
    | none => rfl
    | some s => cases h

/-- Dotted decimals have no other characters. -/
theorem parseV4_eq_none_of_mem {chars : List Char} {c : Char} (hc : c ∈ chars)
    (hdigit : c.isDigit = false) (hdot : c ≠ '.') : parseV4 chars = none := by
  cases h : parseV4 chars with
  | none => rfl
  | some n =>
    have hjoin : ['.'].intercalate (chars.splitOn '.') = chars := List.intercalate_splitOn '.'
    rw [← hjoin, splitOn_of_parseV4 h] at hc
    rcases mem_intercalate hc with hc | ⟨l, hl, hc⟩
    · exact absurd (List.mem_singleton.mp hc) hdot
    · obtain ⟨d, -, rfl⟩ := List.mem_map.mp hl
      rw [Nat.isDigit_of_mem_toDigits (by decide) (by decide) hc] at hdigit
      cases hdigit

/-- The scope behind a written address is split off. -/
theorem splitScope_text {n : Fin (2 ^ 128)} {scope : Option String}
    (h : (IpAddress.v6 n scope).wellScoped = true) :
    splitScope (text (.v6 n scope)).toList =
      some ((compress (digitsOf 65536 n 8)).toList, scope) := by
  have hpercent : '%' ∉ (compress (digitsOf 65536 n 8)).toList := fun hc =>
    absurd (mem_compress hc) (by decide)
  unfold text
  rw [String.toList_append]
  cases scope with
  | none =>
    have hempty : ((none : Option String).map fun s => "%" ++ s).getD "" = "" := rfl
    rw [hempty, String.toList_empty, List.append_nil]
    unfold splitScope
    rw [List.splitOn_eq_singleton hpercent]
  | some s =>
    obtain ⟨hne, hnone⟩ := of_decide_eq_true (p := s.toList ≠ [] ∧ '%' ∉ s.toList) h
    have hjoin : (compress (digitsOf 65536 n 8)).toList ++ ("%" ++ s).toList =
        ['%'].intercalate [(compress (digitsOf 65536 n 8)).toList, s.toList] := by
      rw [String.toList_append, List.intercalate_cons_of_ne_nil (List.cons_ne_nil _ _),
        List.intercalate_singleton, List.append_assoc]
      rfl
    have hparts : ∀ l ∈ [(compress (digitsOf 65536 n 8)).toList, s.toList], '%' ∉ l := by
      intro l hl
      rcases List.mem_cons.mp hl with hl | hl
      · rw [hl]
        exact hpercent
      · rw [List.mem_singleton.mp hl]
        exact hnone
    have hsome : ((some s).map fun s => "%" ++ s).getD "" = "%" ++ s := rfl
    rw [hsome, hjoin]
    unfold splitScope
    rw [List.splitOn_intercalate _ hparts (List.cons_ne_nil _ _)]
    dsimp only
    rw [if_neg hne, String.ofList_toList]

/-- No text of the sixth version is one of the fourth. -/
theorem parseV4_text_v6 (n : Fin (2 ^ 128)) (scope : Option String) :
    parseV4 (text (.v6 n scope)).toList = none := by
  unfold text
  rw [String.toList_append]
  cases scope with
  | none =>
    refine parseV4_eq_none fun hc => ?_
    rcases List.mem_append.mp hc with hc | hc
    · exact absurd (mem_compress hc) (by decide)
    · exact absurd hc List.not_mem_nil
  | some s =>
    have hmem : '%' ∈ ("%" ++ s).toList := by
      rw [String.toList_append]
      exact List.mem_append_left _ List.mem_cons_self
    exact parseV4_eq_none_of_mem (List.mem_append_right _ hmem) (by decide) (by decide)

/-- An address is read back from its text. -/
theorem parse_text {a : IpAddress} (h : a.wellScoped = true) : parse a.text = some a := by
  unfold parse parseV4Address
  cases a with
  | v4 n =>
    rw [parseV4_text, Option.bind_eq_bind, Option.bind_some, dif_pos n.isLt]
    rfl
  | v6 n scope =>
    have hread := parseV6_compress (length_digitsOf 65536 n 8) fun h hh =>
      lt_of_mem_digitsOf (by decide) hh
    have hvalue : (digitsOf 65536 n 8).foldl (fun n h => 65536 * n + h) 0 = n.val :=
      (foldl_digitsOf 65536 n 8).trans (Nat.mod_eq_of_lt n.isLt)
    rw [hvalue] at hread
    unfold parseV6Address
    rw [parseV4_text_v6, splitScope_text h]
    simp only [Option.bind_eq_bind, Option.bind_none, Option.bind_some, Option.none_or, hread]
    exact dif_pos n.isLt

/-- Different addresses have different texts. -/
theorem text_injective {a b : IpAddress} (ha : a.wellScoped = true) (hb : b.wellScoped = true)
    (h : a.text = b.text) : a = b :=
  Option.some.inj ((parse_text ha).symm.trans ((congrArg parse h).trans (parse_text hb)))

/-- The parts of a text do not have the separator. -/
theorem not_mem_of_mem_splitOn {sep : Char} {chars part : List Char}
    (h : part ∈ chars.splitOn sep) : sep ∉ part := by
  induction chars generalizing part with
  | nil =>
    rw [List.splitOn_nil] at h
    rw [List.mem_singleton.mp h]
    exact List.not_mem_nil
  | cons c chars ih =>
    rw [List.splitOn_cons_eq_if_modifyHead] at h
    split at h
    · rcases List.mem_cons.mp h with rfl | h
      · exact List.not_mem_nil
      · exact ih h
    · rename_i hne
      cases hparts : chars.splitOn sep with
      | nil => exact absurd hparts (List.splitOn_ne_nil _ _)
      | cons first rest =>
        rw [hparts, List.modifyHead_cons] at h
        rcases List.mem_cons.mp h with rfl | h
        · have hfirst : sep ∉ first := ih (hparts ▸ List.mem_cons_self)
          have hc : sep ≠ c := fun h => hne (beq_iff_eq.mpr h.symm)
          exact fun hmem => (List.mem_cons.mp hmem).elim hc hfirst
        · exact ih (hparts ▸ List.mem_cons_of_mem _ h)

/-- What is read has a scope that can be read. -/
theorem wellScoped_of_parseV6Address {chars : List Char} {a : IpAddress}
    (h : parseV6Address chars = some a) : a.wellScoped = true := by
  unfold parseV6Address at h
  simp only [Option.bind_eq_bind, Option.bind_eq_some_iff] at h
  obtain ⟨⟨addr, scope⟩, hscope, n, -, h⟩ := h
  split at h
  · obtain rfl := Option.some.inj h
    unfold splitScope at hscope
    split at hscope
    · cases hscope
      rfl
    · rename_i addr' chars' hsplit
      split at hscope
      · cases hscope
      · rename_i hne
        cases hscope
        have hmem : chars' ∈ chars.splitOn '%' := by
          rw [hsplit]
          simp
        have hnone : '%' ∉ chars' := not_mem_of_mem_splitOn hmem
        exact decide_eq_true ⟨by simpa using hne, by simpa using hnone⟩
    · cases hscope
  · cases h

end PveManager.Net.IpAddress
