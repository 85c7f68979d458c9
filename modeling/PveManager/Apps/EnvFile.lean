import PveManager.Core.Dotenv
import PveManager.Models.Records
import PveManager.Scripts.Quoting

/-!
# The variables of an app

The file with the variables of an app, as the delivery writes it and Compose reads it. A value
is quoted for a number sign in it and for blanks around it, but not for a quote in front.
-/

namespace PveManager.EnvFile

open PveManager.Core PveManager.Scripts

/-- A value without a dollar sign; the substitution of variables is left to Compose. -/
structure PlainValue where
  text : String
  noDollar : '$' ∉ text.toList

/-- The variables of an app. -/
abbrev Env := KeyedTable (Prod.fst : VarName × PlainValue → VarName)

/-- `str.replace` of one character. -/
def replaceChar (old : Char) (new s : List Char) : List Char :=
  s.flatMap fun c => if c = old then new else [c]

/-- A value on one line. -/
def oneLine (s : List Char) : List Char := replaceChar '\n' [' '] (replaceChar '\r' [' '] s)

/-- The value is quoted: for a number sign, or for whitespace around it. -/
def needsQuotes (s : List Char) : Bool := s.contains '#' || decide (s ≠ stripChars s)

/-- The value between double quotes. -/
def quoted (s : List Char) : List Char :=
  '"' :: (replaceChar '"' ['\\', '"'] (replaceChar '\\' ['\\', '\\'] s) ++ ['"'])

/-- `_env_file_value`. -/
def envFileValue (v : String) : String :=
  let s := oneLine v.toList
  String.ofList (if needsQuotes s then quoted s else s)

def envFileLine (entry : VarName × PlainValue) : String :=
  entry.1.text ++ "=" ++ envFileValue entry.2.text ++ "\n"

/-- `_env_file_content`. -/
def envFileContent (env : Env) : String := String.join (env.rows.map envFileLine)

/-! ### What Compose reads -/

/-- A reader whose blanks are whitespace to `str.strip`, and which knows the names of variables. -/
structure ComposeReader extends Dotenv.Dialect where
  leading_isSpace : ∀ c, leading c = true → isSpace c = true
  trailing_isSpace : ∀ c, trailing c = true → isSpace c = true
  isName_varName : ∀ name : VarName, isName name.text.toList = true

/-- The variables that are to be read: line ends have become blanks. -/
def expected (entry : VarName × PlainValue) : Dotenv.Assignment :=
  (entry.1.text.toList, oneLine entry.2.text.toList)

/-- The value begins with a quote. -/
def QuoteFirst (s : List Char) : Prop := s.head? = some '\'' ∨ s.head? = some '"'

/-- The value is quoted by the writer, or does not look quoted to the reader. -/
def Unambiguous (v : PlainValue) : Prop :=
  needsQuotes (oneLine v.text.toList) = true ∨ ¬QuoteFirst (oneLine v.text.toList)

/-! ### Values on one line -/

section Values

variable {s : List Char} {c : Char}

theorem replaceChar_cons (old : Char) (new : List Char) (c : Char) (s : List Char) :
    replaceChar old new (c :: s) = (if c = old then new else [c]) ++ replaceChar old new s :=
  List.flatMap_cons

/-- A replaced character is gone. -/
theorem not_mem_replaceChar {old : Char} {new : List Char} (h : old ∉ new) :
    old ∉ replaceChar old new s := by
  intro hmem
  obtain ⟨c, -, hc⟩ := List.mem_flatMap.mp hmem
  by_cases heq : c = old
  · rw [if_pos heq] at hc
    exact h hc
  · rw [if_neg heq, List.mem_singleton] at hc
    exact heq hc.symm

/-- A character that is not put in was there before. -/
theorem mem_of_mem_replaceChar {old : Char} {new : List Char} (hmem : c ∈ replaceChar old new s)
    (h : c ∉ new) : c ∈ s := by
  obtain ⟨d, hd, hc⟩ := List.mem_flatMap.mp hmem
  by_cases heq : d = old
  · rw [if_pos heq] at hc
    exact absurd hc h
  · rw [if_neg heq, List.mem_singleton] at hc
    exact hc ▸ hd

theorem newline_not_mem_oneLine (s : List Char) : '\n' ∉ oneLine s :=
  not_mem_replaceChar (by decide)

theorem dollar_not_mem_oneLine (v : PlainValue) : '$' ∉ oneLine v.text.toList := fun hmem =>
  v.noDollar (mem_of_mem_replaceChar (mem_of_mem_replaceChar hmem (by decide)) (by decide))

/-- The two replacements put one backslash in front of every backslash and every quote. -/
theorem replace_eq_escaped (s : List Char) :
    replaceChar '"' ['\\', '"'] (replaceChar '\\' ['\\', '\\'] s) = Dotenv.escaped s := by
  induction s with
  | nil => rfl
  | cons c s ih =>
    rw [replaceChar_cons, Dotenv.escaped_cons, ← ih]
    by_cases hbackslash : c = '\\'
    · subst hbackslash
      rfl
    · rw [if_neg hbackslash, List.singleton_append, replaceChar_cons]
      by_cases hquote : c = '"'
      · subst hquote
        rfl
      · rw [if_neg hquote, if_neg (not_or.mpr ⟨hbackslash, hquote⟩)]

/-- What is left begins with a character that is kept. -/
theorem head?_dropWhile {p : Char → Bool} (h : (s.dropWhile p).head? = some c) : p c = false := by
  have hnot := List.head?_dropWhile_not p s
  rw [h] at hnot
  simpa using hnot

/-- Text that `str.strip` leaves alone has no whitespace at its ends. -/
theorem ends_of_stripChars_eq (h : s = stripChars s) :
    (∀ c, s.head? = some c → isSpace c = false) ∧
      ∀ c, s.getLast? = some c → isSpace c = false := by
  have hlength : s.length ≤ (s.dropWhile isSpace).length := by
    calc s.length = (stripChars s).length := congrArg List.length h
      _ = ((s.dropWhile isSpace).reverse.dropWhile isSpace).length := List.length_reverse
      _ ≤ (s.dropWhile isSpace).reverse.length := (List.dropWhile_suffix _).length_le
      _ = (s.dropWhile isSpace).length := List.length_reverse
  have hfront : s.dropWhile isSpace = s := (List.dropWhile_suffix _).eq_of_length_le hlength
  have hback : s.reverse.dropWhile isSpace = s.reverse := by
    unfold stripChars at h
    rw [hfront] at h
    exact (List.reverse_eq_iff.mpr h).symm
  refine ⟨fun c hc => ?_, fun c hc => ?_⟩
  · rw [← hfront] at hc
    exact head?_dropWhile hc
  · rw [← List.head?_reverse, ← hback] at hc
    exact head?_dropWhile hc

end Values

/-! ### Lines -/

section Lines

variable (reader : ComposeReader) (rest : List Char)

theorem not_leading {c : Char} (h : isSpace c = false) : reader.leading c = false := by
  cases hlead : reader.leading c with
  | false => rfl
  | true => exact (h.symm.trans (reader.leading_isSpace c hlead)).symm

theorem not_trailing {c : Char} (h : isSpace c = false) : reader.trailing c = false := by
  cases htrail : reader.trailing c with
  | false => rfl
  | true => exact (h.symm.trans (reader.trailing_isSpace c htrail)).symm

theorem isSpace_quote {c : Char} (h : c = '\'' ∨ c = '"') : isSpace c = false := by
  rcases h with rfl | rfl
  · decide
  · decide

theorem toList_envFileValue (v : String) : (envFileValue v).toList =
    if needsQuotes (oneLine v.toList) then quoted (oneLine v.toList) else oneLine v.toList :=
  String.toList_ofList

/-- A value in quotes is read up to the end of its line. -/
theorem readValue_quoted (v : PlainValue) (h : needsQuotes (oneLine v.text.toList) = true) :
    Dotenv.readValue reader.toDialect ((envFileValue v.text).toList ++ '\n' :: rest) =
      some (oneLine v.text.toList, '\n' :: rest) := by
  have hlead : reader.leading '"' = false := not_leading reader (isSpace_quote (Or.inr rfl))
  rw [toList_envFileValue, if_pos h, quoted, replace_eq_escaped, List.cons_append,
    List.append_assoc, Dotenv.readValue_quote _ (Or.inr rfl) hlead]
  exact Dotenv.readQuoted_escaped (dollar_not_mem_oneLine v)

/-- A value without quotes is read with its line, unless it begins with a quote. -/
theorem readValue_plain (v : PlainValue) (h : needsQuotes (oneLine v.text.toList) = false)
    (hfirst : ¬QuoteFirst (oneLine v.text.toList)) :
    Dotenv.readValue reader.toDialect ((envFileValue v.text).toList ++ '\n' :: rest) =
      some (oneLine v.text.toList, rest) := by
  obtain ⟨hcomment, hstrip⟩ := Bool.or_eq_false_iff.mp h
  have hends := ends_of_stripChars_eq (not_not.mp (of_decide_eq_false hstrip))
  rw [toList_envFileValue, if_neg (by rw [h]; exact Bool.false_ne_true)]
  refine Dotenv.readValue_unquoted _ (newline_not_mem_oneLine _) ?_ (dollar_not_mem_oneLine v)
    (fun c hc => ⟨not_leading reader (hends.1 c hc), ?_, ?_⟩)
    fun c hc => not_trailing reader (hends.2 c hc)
  · intro hmem
    rw [List.contains_iff_mem.mpr hmem] at hcomment
    cases hcomment
  · rintro rfl
    exact hfirst (Or.inl hc)
  · rintro rfl
    exact hfirst (Or.inr hc)

/-- A value without quotes that begins with one is not read as it is. -/
theorem readValue_quoteFirst (v : PlainValue) (h : needsQuotes (oneLine v.text.toList) = false)
    (hfirst : QuoteFirst (oneLine v.text.toList)) (behind : List Char) :
    Dotenv.readValue reader.toDialect ((envFileValue v.text).toList ++ '\n' :: rest) ≠
      some (oneLine v.text.toList, behind) := by
  intro hread
  obtain ⟨quote, t, hquote, hvalue⟩ : ∃ quote t, (quote = '\'' ∨ quote = '"') ∧
      oneLine v.text.toList = quote :: t := by
    cases hs : oneLine v.text.toList with
    | nil =>
      rw [hs] at hfirst
      rcases hfirst with hnil | hnil
      · cases hnil
      · cases hnil
    | cons c t =>
      rw [hs] at hfirst
      exact ⟨c, t, hfirst.imp Option.some.inj Option.some.inj, rfl⟩
  have hnewline := newline_not_mem_oneLine v.text.toList
  have hlead : reader.leading quote = false := not_leading reader (isSpace_quote hquote)
  have hne : quote ≠ '\n' := by
    rintro rfl
    exact absurd hquote (by decide)
  rw [toList_envFileValue, if_neg (by rw [h]; exact Bool.false_ne_true), hvalue, List.cons_append,
    Dotenv.readValue_quote _ hquote hlead] at hread
  rw [hvalue] at hnewline
  have ht : '\n' ∉ t := fun hmem => hnewline (List.mem_cons_of_mem _ hmem)
  rcases Dotenv.readQuoted_line t false ht hread hne with hshort | hmem
  · simp only [List.length_cons, Bool.false_eq_true, if_false, Nat.add_zero] at hshort
    exact absurd hshort (Nat.not_lt.mpr (Nat.le_succ _))
  · exact hnewline hmem

/-- The name of a line and what is behind it. -/
theorem readStatements_line (n : Nat) (entry : VarName × PlainValue) :
    Dotenv.readStatements reader.toDialect (n + 1) ((envFileLine entry).toList ++ rest) =
      (Dotenv.readValue reader.toDialect
        ((envFileValue entry.2.text).toList ++ '\n' :: rest)).bind fun p =>
          (Dotenv.readStatements reader.toDialect n p.2).map fun more =>
            (entry.1.text.toList, p.1) :: more := by
  have hline : (envFileLine entry).toList ++ rest = entry.1.text.toList ++
      '=' :: ((envFileValue entry.2.text).toList ++ '\n' :: rest) := by
    simp [envFileLine, String.toList_append]
  have hne : ∀ c ∈ entry.1.text.toList, ∀ d : Char,
      (d.isAlphanum || d == '_') = false → c ≠ d := by
    rintro c hc d hd rfl
    exact Bool.false_ne_true (hd.symm.trans (entry.1.word c hc))
  have hname := reader.isName_varName entry.1
  have hvalid := entry.1.valid
  rw [hline]
  cases hchars : entry.1.text.toList with
  | nil =>
    rw [hchars] at hvalid
    exact absurd hvalid Bool.false_ne_true
  | cons c cs =>
    rw [hchars] at hname hne
    refine Dotenv.readStatements_assignment _ n _ hname (fun hmem => hne _ hmem '=' rfl rfl) ?_
    have hword := entry.1.word c (hchars ▸ List.mem_cons_self)
    exact ⟨hne c List.mem_cons_self _ rfl, not_leading reader (isSpace_of_word hword),
      hne c List.mem_cons_self _ rfl⟩

/-- The lines of a file are read back, with enough steps, exactly when no value is ambiguous. -/
theorem readStatements_lines_iff (entries : List (VarName × PlainValue)) {n : Nat}
    (hn : entries.length < n) :
    Dotenv.readStatements reader.toDialect n
        (entries.flatMap fun entry => (envFileLine entry).toList) =
        some (entries.map expected) ↔
      ∀ entry ∈ entries, Unambiguous entry.2 := by
  induction entries generalizing n with
  | nil =>
    obtain ⟨n, rfl⟩ := Nat.exists_eq_add_one.mpr (Nat.zero_lt_of_lt hn)
    exact iff_of_true rfl fun entry hmem => absurd hmem List.not_mem_nil
  | cons entry entries ih =>
    obtain ⟨n, rfl⟩ := Nat.exists_eq_add_one.mpr (Nat.zero_lt_of_lt hn)
    have hlength : entries.length < n := Nat.lt_of_succ_lt_succ hn
    -- the value is read back, and the reader stands at the next line
    have hread : ∀ behind,
        Dotenv.readStatements reader.toDialect n behind =
          Dotenv.readStatements reader.toDialect n
            (entries.flatMap fun entry => (envFileLine entry).toList) →
        (((some (oneLine entry.2.text.toList, behind)).bind fun p =>
          (Dotenv.readStatements reader.toDialect n p.2).map fun more =>
            (entry.1.text.toList, p.1) :: more) = some ((entry :: entries).map expected) ↔
          ∀ entry ∈ entries, Unambiguous entry.2) := by
      intro behind hbehind
      rw [Option.bind_some, hbehind, List.map_cons, Option.map_eq_some_iff, ← ih hlength]
      constructor
      · rintro ⟨more, hmore, heq⟩
        rw [hmore, (List.cons.inj heq).2]
      · exact fun hmore => ⟨_, hmore, rfl⟩
    rw [List.forall_mem_cons, List.flatMap_cons, readStatements_line]
    cases hquotes : needsQuotes (oneLine entry.2.text.toList) with
    | true =>
      obtain ⟨m, rfl⟩ := Nat.exists_eq_add_one.mpr (Nat.zero_lt_of_lt hlength)
      rw [readValue_quoted _ _ _ hquotes, hread _ (Dotenv.readStatements_newline _ _ _)]
      exact ⟨fun h => ⟨Or.inl hquotes, h⟩, And.right⟩
    | false =>
      have hunambiguous : Unambiguous entry.2 ↔ ¬QuoteFirst (oneLine entry.2.text.toList) :=
        ⟨fun h => h.resolve_left (by rw [hquotes]; exact Bool.false_ne_true), Or.inr⟩
      rw [hunambiguous]
      by_cases hfirst : QuoteFirst (oneLine entry.2.text.toList)
      · refine iff_of_false (fun heq => ?_) fun h => h.1 hfirst
        obtain ⟨⟨value, behind⟩, hvalue, hmore⟩ := Option.bind_eq_some_iff.mp heq
        obtain ⟨more, -, hcons⟩ := Option.map_eq_some_iff.mp hmore
        have hsame : value = oneLine entry.2.text.toList :=
          (Prod.mk.inj (List.cons.inj hcons).1).2
        exact readValue_quoteFirst reader _ _ hquotes hfirst behind (hsame ▸ hvalue)
      · rw [readValue_plain _ _ _ hquotes hfirst, hread _ rfl]
        exact ⟨fun h => ⟨hfirst, h⟩, And.right⟩

/-- Compose reads the variables back exactly when no value without quotes begins with a quote. -/
theorem envFile_readBack_iff (env : Env) :
    Dotenv.readFile reader.toDialect (envFileContent env).toList =
        some (env.rows.map expected) ↔
      ∀ entry ∈ env.rows, Unambiguous entry.2 := by
  have htext : (envFileContent env).toList =
      env.rows.flatMap fun entry => (envFileLine entry).toList := by
    rw [envFileContent, String.toList_join, List.flatMap_map]
  have hlength : env.rows.length <
      (env.rows.flatMap fun entry => (envFileLine entry).toList).length + 1 := by
    refine Nat.lt_succ_of_le ?_
    induction env.rows with
    | nil => exact Nat.le_refl 0
    | cons entry entries ih =>
      have hline : 1 ≤ (envFileLine entry).toList.length := by
        simp only [envFileLine, String.toList_append, List.length_append]
        have hend : "\n".toList.length = 1 := by decide
        omega
      rw [List.flatMap_cons, List.length_append, List.length_cons]
      omega
  unfold Dotenv.readFile
  rw [htext]
  exact readStatements_lines_iff reader env.rows hlength

end Lines

/-! ### A password in quotes -/

/-- A reader that trims all whitespace. -/
def sampleReader : ComposeReader where
  leading := isSpace
  trailing := isSpace
  isName := Scripts.isName
  leading_isSpace _ h := h
  trailing_isSpace _ h := h
  isName_varName name := name.valid

def passwordName : VarName := ⟨"PASSWORD", by decide⟩

def portName : VarName := ⟨"PORT", by decide⟩

/-- A password that has quotes around it, and a port behind it. -/
def sampleEnv : Env :=
  ⟨[(passwordName, ⟨"'secret'", by decide⟩), (portName, ⟨"80", by decide⟩)], by decide⟩

/-- The password loses its quotes. -/
theorem quote_lost :
    Dotenv.readFile sampleReader.toDialect (envFileContent sampleEnv).toList ≠
      some (sampleEnv.rows.map expected) := by
  decide +kernel

end PveManager.EnvFile
