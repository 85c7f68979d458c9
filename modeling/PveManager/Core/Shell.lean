import Mathlib.Logic.Function.Basic

/-!
# Reading words like a POSIX shell

The automaton that cuts the input of a shell into the words of one command, with quotes
removed. Characters that would start an expansion make it stuck, so a result is one that no
expansion takes part in. The lemmas say how the automaton passes over a comment, over
ordinary characters and over text in single quotes. Nothing here names a program.
-/

namespace PveManager.Core.Shell

/-- Where the reader stands. -/
inductive Mode
  /-- Between two words. -/
  | gap
  /-- After a backslash between two words. -/
  | gapEscape
  /-- In a word, outside of quotes. -/
  | plain
  /-- After a backslash in a word. -/
  | escape
  | single
  | double
  /-- After a backslash in double quotes. -/
  | doubleEscape
  | comment
  deriving DecidableEq, Repr

/-- The reader with the characters of the word it is in and the words before it. -/
structure Lexer where
  mode : Mode
  word : List Char
  words : List (List Char)
  deriving DecidableEq, Repr

/-- What a character leads to. -/
inductive Step
  | goto (l : Lexer)
  /-- The end of the line. -/
  | newline (words : List (List Char))
  /-- An operator ends the words; it is left in the input. -/
  | operator (words : List (List Char))
  /-- An expansion, which is not followed. -/
  | stuck

/-- A space or a tab. -/
def isBlank (c : Char) : Bool := c == ' ' || c == '\t'

/-- A character that an operator starts with. -/
def isOperator (c : Char) : Bool := "|&;<>()".toList.contains c

/-- A character that may start an expansion outside of quotes. -/
def isExpansion (c : Char) : Bool := "$\x60*?[~\x7b\x7d!".toList.contains c

namespace Lexer

variable (l : Lexer)

/-- Add a character to the word. -/
def push (c : Char) (mode : Mode) : Lexer := { l with mode := mode, word := l.word ++ [c] }

/-- Close the word. -/
def close : Lexer := ⟨.gap, [], l.words ++ [l.word]⟩

/-- A character of a word outside of quotes. -/
def wordChar (c : Char) : Step :=
  if c = '\'' then .goto { l with mode := .single }
  else if c = '"' then .goto { l with mode := .double }
  else if c = '\\' then .goto { l with mode := .escape }
  else if isExpansion c then .stuck
  else .goto (l.push c .plain)

/-- A character between two words. -/
def stepGap (c : Char) : Step :=
  if c = '\n' then .newline l.words
  else if isBlank c then .goto l
  else if isOperator c then .operator l.words
  else if c = '#' then .goto { l with mode := .comment }
  else if c = '\\' then .goto { l with mode := .gapEscape }
  else l.wordChar c

/-- A character in a word, outside of quotes. -/
def stepPlain (c : Char) : Step :=
  if c = '\n' then .newline (l.words ++ [l.word])
  else if isBlank c then .goto l.close
  else if isOperator c then .operator (l.words ++ [l.word])
  else l.wordChar c

/-- A character in double quotes. -/
def stepDouble (c : Char) : Step :=
  if c = '"' then .goto { l with mode := .plain }
  else if c = '\\' then .goto { l with mode := .doubleEscape }
  else if c = '$' ∨ c = '\x60' then .stuck
  else .goto (l.push c .double)

/-- A character after a backslash in double quotes. -/
def stepDoubleEscape (c : Char) : Step :=
  if c = '\n' then .goto { l with mode := .double }
  else if c = '$' ∨ c = '\x60' ∨ c = '"' ∨ c = '\\' then .goto (l.push c .double)
  else .goto ((l.push '\\' .double).push c .double)

/-- One character. A backslash before a newline continues the line. -/
def step (c : Char) : Step :=
  match l.mode with
  | .gap => l.stepGap c
  | .gapEscape => if c = '\n' then .goto { l with mode := .gap } else .goto (l.push c .plain)
  | .plain => l.stepPlain c
  | .escape => if c = '\n' then .goto { l with mode := .plain } else .goto (l.push c .plain)
  | .single => if c = '\'' then .goto { l with mode := .plain } else .goto (l.push c .single)
  | .double => l.stepDouble c
  | .doubleEscape => l.stepDoubleEscape c
  | .comment => if c = '\n' then .newline l.words else .goto l

/-- The end of the input; a quote may not be open there. -/
def finish : Option (List (List Char)) :=
  match l.mode with
  | .gap => some l.words
  | .comment => some l.words
  | .plain => some (l.words ++ [l.word])
  | _ => none

/-- The words up to the end of the command, and the input behind it. -/
def run : Lexer → List Char → Option (List (List Char) × List Char)
  | l, [] => l.finish.map fun words => (words, [])
  | l, c :: cs =>
    match l.step c with
    | .goto l' => run l' cs
    | .newline words => some (words, cs)
    | .operator words => some (words, c :: cs)
    | .stuck => none

end Lexer

/-- The words of the first command of an input, and the rest of the input. -/
def readCommand (input : List Char) : Option (List (List Char) × List Char) :=
  Lexer.run ⟨.gap, [], []⟩ input

section Run

variable {l l' : Lexer} {c : Char} {cs rest : List Char} {ws : List (List Char)} {w : List Char}

theorem run_goto (h : l.step c = .goto l') : l.run (c :: cs) = l'.run cs := by
  rw [Lexer.run, h]

/-- A comment reaches to the end of the line. -/
theorem run_comment (h : '\n' ∉ cs) :
    Lexer.run ⟨.comment, w, ws⟩ (cs ++ '\n' :: rest) = some (ws, rest) := by
  induction cs with
  | nil => rfl
  | cons c cs ih =>
    rw [List.mem_cons, not_or] at h
    have hstep : Lexer.step ⟨.comment, w, ws⟩ c = .goto ⟨.comment, w, ws⟩ :=
      if_neg (Ne.symm h.1)
    rw [List.cons_append, run_goto hstep, ih h.2]

/-- A line that is a comment is a command without words. -/
theorem readCommand_comment (h : '\n' ∉ cs) :
    readCommand ('#' :: (cs ++ '\n' :: rest)) = some ([], rest) :=
  (run_goto rfl).trans (run_comment h)

/-- A character that stands for itself outside of quotes. -/
def Ordinary (c : Char) : Prop :=
  c ≠ '\n' ∧ isBlank c = false ∧ isOperator c = false ∧ c ≠ '\'' ∧ c ≠ '"' ∧ c ≠ '\\' ∧
    isExpansion c = false

instance : DecidablePred Ordinary := fun _ => inferInstanceAs (Decidable (_ ∧ _))

theorem isOperator_eq (c : Char) :
    isOperator c = ['|', '&', ';', '<', '>', '(', ')'].contains c :=
  congrArg (fun chars => List.contains chars c) (String.toList_ofList (l := _))

theorem isExpansion_eq (c : Char) :
    isExpansion c = ['$', '\x60', '*', '?', '[', '~', '\x7b', '\x7d', '!'].contains c :=
  congrArg (fun chars => List.contains chars c) (String.toList_ofList (l := _))

/-- The codes of the characters that are not ordinary. -/
def specialCodes : List Nat :=
  [9, 10, 32, 33, 34, 36, 38, 39, 40, 41, 42, 59, 60, 62, 63, 91, 92, 96, 123, 124, 125, 126]

theorem ordinary_of_code (h : specialCodes.contains c.toNat = false) : Ordinary c := by
  have hne : ∀ d : Char, specialCodes.contains d.toNat = true → c ≠ d := by
    rintro d hd rfl
    rw [h] at hd
    cases hd
  have hlist : ∀ ds : List Char, (ds.all fun d => specialCodes.contains d.toNat) = true →
      ds.contains c = false := by
    intro ds hds
    rw [← Bool.not_eq_true, List.contains_iff_mem]
    exact fun hmem => hne c (List.all_eq_true.mp hds c hmem) rfl
  refine ⟨hne _ rfl, ?_, ?_, hne _ rfl, hne _ rfl, hne _ rfl, ?_⟩
  · unfold isBlank
    rw [beq_false_of_ne (hne ' ' rfl), beq_false_of_ne (hne '\t' rfl)]
    rfl
  · rw [isOperator_eq]
    exact hlist _ rfl
  · rw [isExpansion_eq]
    exact hlist _ rfl

/-- A literal without special characters. -/
theorem ordinary_ofList (h : (cs.all fun c => !specialCodes.contains c.toNat) = true) :
    ∀ c ∈ (String.ofList cs).toList, Ordinary c := by
  rw [String.toList_ofList]
  intro c hc
  exact ordinary_of_code (Bool.not_eq_true' _ |>.mp (List.all_eq_true.mp h c hc))

theorem Ordinary.wordChar (h : Ordinary c) (l : Lexer) : l.wordChar c = .goto (l.push c .plain) := by
  obtain ⟨_, _, _, hsingle, hdouble, hescape, hexpansion⟩ := h
  rw [Lexer.wordChar, if_neg hsingle, if_neg hdouble, if_neg hescape, hexpansion]
  rfl

theorem Ordinary.step_plain (h : Ordinary c) :
    Lexer.step ⟨.plain, w, ws⟩ c = .goto ⟨.plain, w ++ [c], ws⟩ := by
  have hword := h.wordChar ⟨.plain, w, ws⟩
  obtain ⟨hnewline, hblank, hoperator, _⟩ := h
  change Lexer.stepPlain ⟨.plain, w, ws⟩ c = _
  rw [Lexer.stepPlain, if_neg hnewline, hblank, hoperator]
  exact hword

/-- Ordinary characters go into the word. -/
theorem run_plain (h : ∀ c ∈ cs, Ordinary c) :
    Lexer.run ⟨.plain, w, ws⟩ (cs ++ rest) = Lexer.run ⟨.plain, w ++ cs, ws⟩ rest := by
  induction cs generalizing w with
  | nil => rw [List.nil_append, List.append_nil]
  | cons c cs ih =>
    obtain ⟨hc, hcs⟩ := List.forall_mem_cons.mp h
    rw [List.cons_append, run_goto hc.step_plain, ih hcs, List.append_assoc]
    rfl

/-- An ordinary character other than a number sign starts a word. -/
theorem run_gap (hc : Ordinary c) (hhash : c ≠ '#') (h : ∀ c ∈ cs, Ordinary c) :
    Lexer.run ⟨.gap, [], ws⟩ (c :: (cs ++ rest)) = Lexer.run ⟨.plain, c :: cs, ws⟩ rest := by
  have hword := hc.wordChar ⟨.gap, [], ws⟩
  have hstep : Lexer.step ⟨.gap, [], ws⟩ c = .goto ⟨.plain, [c], ws⟩ := by
    obtain ⟨hnewline, hblank, hoperator, _, _, hescape, _⟩ := hc
    change Lexer.stepGap ⟨.gap, [], ws⟩ c = _
    rw [Lexer.stepGap, if_neg hnewline, hblank, hoperator]
    exact (if_neg hhash).trans ((if_neg hescape).trans hword)
  rw [run_goto hstep, run_plain h]
  rfl

/-- The end of the input, a blank, a newline or an operator. -/
def Delimited : List Char → Prop
  | [] => True
  | c :: _ => c = '\n' ∨ isBlank c = true ∨ isOperator c = true

instance : DecidablePred Delimited
  | [] => isTrue trivial
  | c :: _ => inferInstanceAs (Decidable (c = '\n' ∨ isBlank c = true ∨ isOperator c = true))

/-- What delimits a word closes it. -/
theorem run_close (h : Delimited rest) :
    Lexer.run ⟨.plain, w, ws⟩ rest = Lexer.run ⟨.gap, [], ws ++ [w]⟩ rest := by
  cases rest with
  | nil => rfl
  | cons c rest =>
    have hplain : Lexer.step ⟨.plain, w, ws⟩ c = Lexer.stepPlain ⟨.plain, w, ws⟩ c := rfl
    have hgap : Lexer.step ⟨.gap, [], ws ++ [w]⟩ c = Lexer.stepGap ⟨.gap, [], ws ++ [w]⟩ c := rfl
    unfold Lexer.run
    rw [hplain, hgap, Lexer.stepPlain, Lexer.stepGap]
    by_cases hnewline : c = '\n'
    · simp only [if_pos hnewline]
    · by_cases hblank : isBlank c = true
      · simp only [if_neg hnewline, if_pos hblank]
        rfl
      · have hoperator : isOperator c = true := (h.resolve_left hnewline).resolve_left hblank
        simp only [if_neg hnewline, if_neg hblank, if_pos hoperator]

end Run

/-! ### Words without quotes -/

/-- A word that needs no quotes. -/
structure PlainWord (w : List Char) : Prop where
  ne_nil : w ≠ []
  not_comment : w.head? ≠ some '#'
  ordinary : ∀ c ∈ w, Ordinary c

/-- A literal that is a word. -/
theorem plainWord_ofList (hne : cs ≠ []) (hhead : cs.head? ≠ some '#')
    (h : (cs.all fun c => !specialCodes.contains c.toNat) = true) :
    PlainWord (String.ofList cs).toList where
  ne_nil := String.toList_ofList.symm ▸ hne
  not_comment := String.toList_ofList.symm ▸ hhead
  ordinary := ordinary_ofList h

/-- Words behind blanks. -/
def spaced (words : List (List Char)) : List Char := words.flatMap (' ' :: ·)

section Words

variable {rest w : List Char} {ws words : List (List Char)}

/-- A plain word that is delimited is one word. -/
theorem run_gap_plainWord (h : PlainWord w) (hrest : Delimited rest) :
    Lexer.run ⟨.gap, [], ws⟩ (w ++ rest) = Lexer.run ⟨.gap, [], ws ++ [w]⟩ rest := by
  obtain ⟨hne, hcomment, hordinary⟩ := h
  cases w with
  | nil => exact absurd rfl hne
  | cons c cs =>
    obtain ⟨hc, hcs⟩ := List.forall_mem_cons.mp hordinary
    have hhash : c ≠ '#' := fun heq => hcomment (congrArg some heq)
    rw [List.cons_append, run_gap hc hhash hcs, run_close hrest]

/-- A word stays plain with ordinary characters behind it. -/
theorem PlainWord.append {cs : List Char} (h : PlainWord w) (hcs : ∀ c ∈ cs, Ordinary c) :
    PlainWord (w ++ cs) := by
  obtain ⟨hne, hcomment, hordinary⟩ := h
  refine ⟨fun hnil => hne (List.append_eq_nil_iff.mp hnil).1, ?_, fun c hc => ?_⟩
  · rwa [List.head?_append, Option.or_of_isSome (List.isSome_head?.mpr hne)]
  · rcases List.mem_append.mp hc with hc | hc
    · exact hordinary c hc
    · exact hcs c hc

theorem delimited_spaced_append (hrest : Delimited rest) : Delimited (spaced words ++ rest) := by
  cases words with
  | nil => exact hrest
  | cons w words => exact Or.inr (Or.inl rfl)

/-- Plain words behind blanks are read one by one. -/
theorem run_gap_spaced (h : ∀ w ∈ words, PlainWord w) (hrest : Delimited rest) :
    Lexer.run ⟨.gap, [], ws⟩ (spaced words ++ rest) =
      Lexer.run ⟨.gap, [], ws ++ words⟩ rest := by
  induction words generalizing ws with
  | nil => rw [List.append_nil]; rfl
  | cons w words ih =>
    obtain ⟨hw, hwords⟩ := List.forall_mem_cons.mp h
    have hcons : spaced (w :: words) ++ rest = ' ' :: (w ++ (spaced words ++ rest)) := by
      rw [spaced, List.flatMap_cons, List.append_assoc]
      rfl
    rw [hcons, run_goto rfl, run_gap_plainWord hw (delimited_spaced_append hrest), ih hwords,
      List.append_assoc]
    rfl

end Words

/-! ### Single quotes -/

section Quotes

/-- Text in single quotes, with every quote in it replaced. -/
def singleQuoted (quote : List Char) (s : List Char) : List Char :=
  '\'' :: (s.flatMap (fun c => if c = '\'' then quote else [c]) ++ ['\''])

/-- The replacement leaves the quotes, adds a quote to the word and opens them again. -/
def Requotes (quote : List Char) : Prop :=
  ∀ w ws rest, Lexer.run ⟨.single, w, ws⟩ (quote ++ rest) =
    Lexer.run ⟨.single, w ++ ['\''], ws⟩ rest

variable {quote rest w : List Char} {ws : List (List Char)}

theorem run_single (h : Requotes quote) (s : List Char) :
    Lexer.run ⟨.single, w, ws⟩
        (s.flatMap (fun c => if c = '\'' then quote else [c]) ++ '\'' :: rest) =
      Lexer.run ⟨.plain, w ++ s, ws⟩ rest := by
  induction s generalizing w with
  | nil =>
    rw [List.flatMap_nil, List.nil_append, List.append_nil]
    exact run_goto rfl
  | cons c s ih =>
    have hcons : w ++ c :: s = w ++ [c] ++ s := by rw [List.append_assoc]; rfl
    rw [List.flatMap_cons, List.append_assoc, hcons]
    by_cases hc : c = '\''
    · rw [if_pos hc, h, ih, hc]
    · have hstep : Lexer.step ⟨.single, w, ws⟩ c = .goto ⟨.single, w ++ [c], ws⟩ := if_neg hc
      rw [if_neg hc, List.singleton_append, run_goto hstep]
      exact ih

/-- Quoted text goes into the word as it was. -/
theorem run_plain_singleQuoted (h : Requotes quote) (s : List Char) :
    Lexer.run ⟨.plain, w, ws⟩ (singleQuoted quote s ++ rest) =
      Lexer.run ⟨.plain, w ++ s, ws⟩ rest := by
  rw [singleQuoted, List.cons_append, List.append_assoc, run_goto rfl]
  exact run_single h s

/-- Quoted text that is delimited is one word. -/
theorem run_gap_singleQuoted (h : Requotes quote) (s : List Char) (hrest : Delimited rest) :
    Lexer.run ⟨.gap, [], ws⟩ (singleQuoted quote s ++ rest) =
      Lexer.run ⟨.gap, [], ws ++ [s]⟩ rest := by
  rw [← run_close hrest, singleQuoted, List.cons_append, List.append_assoc, run_goto rfl]
  exact run_single h s

end Quotes

end PveManager.Core.Shell
