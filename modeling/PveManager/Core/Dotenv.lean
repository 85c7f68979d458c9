import Mathlib.Data.List.Basic

/-!
# Reading variable files

The reader of the lines `NAME=value`. A value that starts with a quote reaches to the next one
of its kind, over the ends of lines, with escapes in double quotes; any other value is the rest
of its line, without a comment and the blanks around it. A dollar sign that would be substituted
makes the reader stuck. Nothing here names a program.
-/

namespace PveManager.Core.Dotenv

/-- What readers differ in: the blanks in front of a value and behind it, and the names. -/
structure Dialect where
  leading : Char → Bool
  trailing : Char → Bool
  isName : List Char → Bool

/-- What a letter behind a backslash stands for. -/
def escapeOf : Char → Option Char
  | 'a' => some '\x07'
  | 'b' => some '\x08'
  | 'f' => some '\x0c'
  | 'n' => some '\n'
  | 'r' => some '\r'
  | 't' => some '\t'
  | 'v' => some '\x0b'
  | '\\' => some '\\'
  | '$' => some '$'
  | _ => none

/-- What a backslash and a character stand for; the quote itself is always escaped. -/
def unescape (quote c : Char) : List Char :=
  if c = quote then [c]
  else if quote = '"' then
    match escapeOf c with
    | some d => [d]
    | none => ['\\', c]
  else ['\\', c]

/-- More characters in front of a value. -/
def prepend (cs : List Char) (result : Option (List Char × List Char)) :
    Option (List Char × List Char) :=
  result.map fun p => (cs ++ p.1, p.2)

/-- The text up to the closing quote, and what is behind it; `escaped` behind a backslash. -/
def readQuoted (quote : Char) : Bool → List Char → Option (List Char × List Char)
  | _, [] => none
  | true, c :: rest => prepend (unescape quote c) (readQuoted quote false rest)
  | false, c :: rest =>
    if c = quote then some ([], rest)
    else if c = '\\' then readQuoted quote true rest
    else if quote = '"' ∧ c = '$' then none
    else prepend [c] (readQuoted quote false rest)

/-- A line up to a comment. -/
def cutComment : List Char → List Char
  | [] => []
  | ' ' :: '#' :: _ => []
  | c :: cs => c :: cutComment cs

/-- The rest of the line, and what is behind it. -/
def readUnquoted (d : Dialect) (text : List Char) : Option (List Char × List Char) :=
  let line := text.takeWhile (· ≠ '\n')
  let value := ((cutComment line).reverse.dropWhile d.trailing).reverse
  if '$' ∈ value then none else some (value, (text.dropWhile (· ≠ '\n')).drop 1)

/-- A value, and what is behind it. -/
def readValue (d : Dialect) (text : List Char) : Option (List Char × List Char) :=
  match text.dropWhile fun c => decide (c ≠ '\n') && d.leading c with
  | [] => some ([], [])
  | c :: rest =>
    if c = '\'' ∨ c = '"' then readQuoted c false rest else readUnquoted d (c :: rest)

/-- A variable with its value. -/
abbrev Assignment := List Char × List Char

/-- The assignments of a text, at most so many statements and comments. -/
def readStatements (d : Dialect) : Nat → List Char → Option (List Assignment)
  | 0, _ => none
  | n + 1, text =>
    match text.dropWhile fun c => decide (c = '\n') || d.leading c with
    | [] => some []
    | c :: rest =>
      if c = '#' then readStatements d n (rest.dropWhile (· ≠ '\n'))
      else
        let name := (c :: rest).takeWhile (· ≠ '=')
        match (c :: rest).dropWhile (· ≠ '=') with
        | [] => none
        | _ :: text =>
          if d.isName name then
            match readValue d text with
            | none => none
            | some (value, behind) =>
              (readStatements d n behind).map fun more => (name, value) :: more
          else none

/-- The assignments of a file. -/
def readFile (d : Dialect) (text : List Char) : Option (List Assignment) :=
  readStatements d (text.length + 1) text

/-! ### Quoted values -/

section Quoted

variable {quote : Char} {s t rest : List Char} {v behind : List Char}

/-- Backslashes and double quotes with a backslash in front. -/
def escaped (s : List Char) : List Char :=
  s.flatMap fun c => if c = '\\' ∨ c = '"' then ['\\', c] else [c]

theorem escaped_cons (c : Char) (s : List Char) :
    escaped (c :: s) = (if c = '\\' ∨ c = '"' then ['\\', c] else [c]) ++ escaped s :=
  List.flatMap_cons

/-- Escaped text is read back. -/
theorem readQuoted_escaped (h : '$' ∉ s) :
    readQuoted '"' false (escaped s ++ '"' :: rest) = some (s, rest) := by
  induction s with
  | nil => rfl
  | cons c s ih =>
    rw [List.mem_cons, not_or] at h
    obtain ⟨hc, hs⟩ := h
    rw [escaped_cons, List.append_assoc]
    by_cases hescape : c = '\\' ∨ c = '"'
    · have hchar : unescape '"' c = [c] := by
        rcases hescape with rfl | rfl
        · rfl
        · rfl
      have hstep : ∀ more, readQuoted '"' false ('\\' :: c :: more) =
          prepend (unescape '"' c) (readQuoted '"' false more) := fun _ => rfl
      rw [if_pos hescape, List.cons_append, List.cons_append, List.nil_append, hstep, hchar, ih hs]
      rfl
    · rw [if_neg hescape]
      obtain ⟨hbackslash, hquote⟩ := not_or.mp hescape
      have hdollar : ¬('"' = '"' ∧ c = '$') := fun h => hc h.2.symm
      rw [List.singleton_append, readQuoted, if_neg hquote, if_neg hbackslash, if_neg hdollar,
        ih hs]
      rfl

theorem length_unescape (quote c : Char) : (unescape quote c).length ≤ 2 := by
  unfold unescape
  split
  · exact Nat.le_succ 1
  · split
    · split
      · exact Nat.le_succ 1
      · exact Nat.le_refl 2
    · exact Nat.le_refl 2

/-- A newline is never escaped away. -/
theorem newline_mem_unescape (quote : Char) : '\n' ∈ unescape quote '\n' := by
  unfold unescape
  split
  · exact List.mem_singleton_self _
  · split
    · exact List.mem_cons_of_mem _ (List.mem_singleton_self _)
    · exact List.mem_cons_of_mem _ (List.mem_singleton_self _)

theorem of_prepend_eq_some {cs : List Char} {result : Option (List Char × List Char)}
    (h : prepend cs result = some (v, behind)) :
    ∃ more, result = some (more, behind) ∧ v = cs ++ more := by
  obtain ⟨⟨more, behind'⟩, hresult, heq⟩ := Option.map_eq_some_iff.mp h
  obtain ⟨rfl, rfl⟩ := Prod.mk.inj heq
  exact ⟨more, hresult, rfl⟩

/-- A quoted value that begins on a line is shorter than the line, or takes in its end. -/
theorem readQuoted_line (t : List Char) (b : Bool) (h : '\n' ∉ t)
    (hread : readQuoted quote b (t ++ '\n' :: rest) = some (v, behind)) (hquote : quote ≠ '\n') :
    v.length < t.length + (if b then 1 else 0) ∨ '\n' ∈ v := by
  induction t generalizing b v with
  | nil =>
    refine Or.inr ?_
    cases b with
    | true =>
      obtain ⟨more, -, rfl⟩ := of_prepend_eq_some hread
      exact List.mem_append_left _ (newline_mem_unescape quote)
    | false =>
      have hdollar : ¬(quote = '"' ∧ '\n' = '$') := fun h => absurd h.2 (by decide)
      rw [List.nil_append, readQuoted, if_neg (Ne.symm hquote), if_neg (by decide),
        if_neg hdollar] at hread
      obtain ⟨more, -, rfl⟩ := of_prepend_eq_some hread
      exact List.mem_cons_self
  | cons c t ih =>
    rw [List.mem_cons, not_or] at h
    rw [List.cons_append] at hread
    cases b with
    | true =>
      obtain ⟨more, hmore, rfl⟩ := of_prepend_eq_some hread
      have hlength := length_unescape quote c
      rcases ih false h.2 hmore with hshort | hnewline
      · refine Or.inl ?_
        simp only [List.length_append, List.length_cons, if_pos, Bool.false_eq_true,
          if_false] at hshort ⊢
        omega
      · exact Or.inr (List.mem_append_right _ hnewline)
    | false =>
      rw [readQuoted] at hread
      by_cases hc : c = quote
      · rw [if_pos hc] at hread
        cases hread
        exact Or.inl (Nat.succ_pos _)
      · rw [if_neg hc] at hread
        by_cases hbackslash : c = '\\'
        · rw [if_pos hbackslash] at hread
          refine (ih true h.2 hread).imp_left fun hshort => ?_
          simpa using hshort
        · rw [if_neg hbackslash] at hread
          by_cases hdollar : quote = '"' ∧ c = '$'
          · rw [if_pos hdollar] at hread
            cases hread
          · rw [if_neg hdollar] at hread
            obtain ⟨more, hmore, rfl⟩ := of_prepend_eq_some hread
            rcases ih false h.2 hmore with hshort | hnewline
            · refine Or.inl ?_
              simp only [List.length_append, List.length_cons, List.length_nil,
                Bool.false_eq_true, if_false] at hshort ⊢
              omega
            · exact Or.inr (List.mem_cons_of_mem _ hnewline)

end Quoted

/-! ### Values -/

section Values

variable (d : Dialect) {s rest : List Char}

/-- The list is not cut in front. -/
theorem dropWhile_eq_self {p : Char → Bool} {cs : List Char}
    (h : ∀ c, cs.head? = some c → p c = false) : cs.dropWhile p = cs := by
  cases cs with
  | nil => rfl
  | cons c cs => rw [List.dropWhile_cons, h c rfl, if_neg Bool.false_ne_true]

theorem cutComment_of_not_mem (h : '#' ∉ s) : cutComment s = s := by
  induction s with
  | nil => rfl
  | cons c s ih =>
    rw [List.mem_cons, not_or] at h
    have hcut : cutComment (c :: s) = c :: cutComment s := by
      rw [cutComment]
      rintro rest rfl rfl
      exact h.2 List.mem_cons_self
    rw [hcut, ih h.2]

/-- A line without a comment and without blanks around it is a value. -/
theorem readValue_unquoted (hnewline : '\n' ∉ s) (hcomment : '#' ∉ s) (hdollar : '$' ∉ s)
    (hlead : ∀ c, s.head? = some c → d.leading c = false ∧ c ≠ '\'' ∧ c ≠ '"')
    (htrail : ∀ c, s.getLast? = some c → d.trailing c = false) :
    readValue d (s ++ '\n' :: rest) = some (s, rest) := by
  have hline : (s ++ '\n' :: rest).takeWhile (· ≠ '\n') = s := by
    rw [List.takeWhile_append_of_pos, List.takeWhile_cons_of_neg (by simp), List.append_nil]
    exact fun c hc => decide_eq_true fun heq => hnewline (heq ▸ hc)
  have hbehind : (s ++ '\n' :: rest).dropWhile (· ≠ '\n') = '\n' :: rest := by
    rw [List.dropWhile_append_of_pos, List.dropWhile_cons_of_neg (by simp)]
    exact fun c hc => decide_eq_true fun heq => hnewline (heq ▸ hc)
  have hvalue : ((cutComment s).reverse.dropWhile d.trailing).reverse = s := by
    rw [cutComment_of_not_mem hcomment, dropWhile_eq_self, List.reverse_reverse]
    intro c hc
    rw [List.head?_reverse] at hc
    exact htrail c hc
  have hread : readUnquoted d (s ++ '\n' :: rest) = some (s, rest) := by
    unfold readUnquoted
    simp only [hline, hbehind, hvalue, if_neg hdollar, List.drop_succ_cons, List.drop_zero]
  have hstart : (s ++ '\n' :: rest).dropWhile (fun c => decide (c ≠ '\n') && d.leading c) =
      s ++ '\n' :: rest := by
    refine dropWhile_eq_self fun c hc => ?_
    cases s with
    | nil =>
      cases hc
      rfl
    | cons e s =>
      cases hc
      rw [(hlead c rfl).1, Bool.and_false]
  unfold readValue
  rw [hstart]
  cases s with
  | nil => exact hread
  | cons c s =>
    obtain ⟨-, hsingle, hdouble⟩ := hlead c rfl
    exact (if_neg (not_or.mpr ⟨hsingle, hdouble⟩)).trans hread

/-- A value that begins with a quote is a quoted one. -/
theorem readValue_quote {quote : Char} (hquote : quote = '\'' ∨ quote = '"')
    (hlead : d.leading quote = false) (text : List Char) :
    readValue d (quote :: text) = readQuoted quote false text := by
  unfold readValue
  rw [List.dropWhile_cons, hlead, Bool.and_false, if_neg Bool.false_ne_true]
  exact if_pos hquote

end Values

/-! ### Statements -/

section Statements

variable (d : Dialect) {name : List Char} {c : Char}

/-- An assignment to a name: its value is read, and then the other statements. -/
theorem readStatements_assignment (n : Nat) (text : List Char) (hname : d.isName (c :: name) = true)
    (hequals : '=' ∉ c :: name) (hstart : c ≠ '\n' ∧ d.leading c = false ∧ c ≠ '#') :
    readStatements d (n + 1) (c :: name ++ '=' :: text) =
      (readValue d text).bind fun p =>
        (readStatements d n p.2).map fun more => (c :: name, p.1) :: more := by
  have hskip : (c :: name ++ '=' :: text).dropWhile (fun c => decide (c = '\n') || d.leading c) =
      c :: (name ++ '=' :: text) := by
    refine dropWhile_eq_self fun e he => ?_
    cases he
    rw [hstart.2.1, decide_eq_false hstart.1]
    rfl
  have htake : (c :: (name ++ '=' :: text)).takeWhile (· ≠ '=') = c :: name := by
    rw [← List.cons_append, List.takeWhile_append_of_pos, List.takeWhile_cons_of_neg (by simp),
      List.append_nil]
    exact fun e he => decide_eq_true fun heq => hequals (heq ▸ he)
  have hdrop : (c :: (name ++ '=' :: text)).dropWhile (· ≠ '=') = '=' :: text := by
    rw [← List.cons_append, List.dropWhile_append_of_pos, List.dropWhile_cons_of_neg (by simp)]
    exact fun e he => decide_eq_true fun heq => hequals (heq ▸ he)
  rw [readStatements, hskip]
  simp only [if_neg hstart.2.2, htake, hdrop, if_pos hname]
  cases readValue d text with
  | none => rfl
  | some p => rfl

/-- Newlines in front of a statement are skipped. -/
theorem readStatements_newline (n : Nat) (text : List Char) :
    readStatements d (n + 1) ('\n' :: text) = readStatements d (n + 1) text := by
  have hskip : ('\n' :: text).dropWhile (fun c => decide (c = '\n') || d.leading c) =
      text.dropWhile (fun c => decide (c = '\n') || d.leading c) :=
    List.dropWhile_cons_of_pos rfl
  unfold readStatements
  rw [hskip]

end Statements

end PveManager.Core.Dotenv
