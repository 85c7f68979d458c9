import PveManager.Core.Apart
import PveManager.Core.KeyedTable
import PveManager.Core.Shell

/-!
# Quoting for a shell

Two writers put values into single quotes: the catalogue of scripts, in front of a script,
and the delivery of applications, in its commands. They differ in how a quote in a value is
written. A POSIX shell reads both back exactly.
-/

namespace PveManager.Scripts

open PveManager.Core PveManager.Core.Shell

/-- A name that a shell accepts for a variable. -/
def isName : List Char → Bool
  | [] => false
  | c :: cs => (c.isAlpha || c == '_') && cs.all fun c => c.isAlphanum || c == '_'

/-- The name of a variable. -/
structure VarName where
  text : String
  valid : isName text.toList = true
  deriving DecidableEq

/-- The values of a script's parameters by name; a value may be missing. -/
abbrev Params := KeyedTable (Prod.fst : VarName × Option String → VarName)

/-- `_shell_quote`. -/
def shellQuote (value : String) : String :=
  String.ofList (singleQuoted "'\\''".toList value.toList)

/-- `_shq`. -/
def shq (s : String) : String := String.ofList (singleQuoted "'\"'\"'".toList s.toList)

/-- The line that exports a parameter. -/
def exportLine (param : VarName × Option String) : String :=
  "export " ++ param.1.text ++ "=" ++ shellQuote (param.2.getD "")

/-- The lines in front of a script with parameters. -/
def paramLines (params : Params) : List String :=
  ["#!/bin/sh", "# --- параметры, подставленные каталогом скриптов ---"] ++
    params.rows.map exportLine ++ ["# --- конец параметров ---"]

/-- `render_params`. -/
def renderParams (content : String) (params : Params) : String :=
  if params.rows = [] then content
  else "\n".intercalate (paramLines params) ++ "\n" ++ content

/-! ### The shell's side -/

/-- The exported variables. -/
abbrev Exported := String → Option String

/-- One argument of `export`: an assignment to a valid name. -/
def exportArg (env : Exported) (arg : List Char) : Option Exported :=
  let name := arg.takeWhile (· ≠ '=')
  match arg.dropWhile (· ≠ '=') with
  | [] => none
  | _ :: value =>
    if isName name then
      some (Function.update env (String.ofList name) (some (String.ofList value)))
    else none

/-- A command: none at all, or `export`. -/
def exec (env : Exported) : List (List Char) → Option Exported
  | [] => some env
  | cmd :: args => if cmd = "export".toList then args.foldlM exportArg env else none

/-- Read and run so many commands: the variables and the input behind them. -/
def runCommands : Nat → Exported → List Char → Option (Exported × List Char)
  | 0, env, input => some (env, input)
  | n + 1, env, input =>
    match readCommand input with
    | none => none
    | some (words, rest) =>
      match exec env words with
      | none => none
      | some env => runCommands n env rest

/-! ### Reading the lines -/

theorem requotes_shellQuote : Requotes "'\\''".toList := fun _ _ _ => rfl

theorem requotes_shq : Requotes "'\"'\"'".toList := fun _ _ _ => rfl

/-- A letter, a digit or an underscore stands for itself. -/
theorem ordinary_of_word {c : Char} (h : (c.isAlphanum || c == '_') = true) : Ordinary c := by
  have hne : ∀ d : Char, (d.isAlphanum || d == '_') = false → c ≠ d := by
    rintro d hd rfl
    exact Bool.false_ne_true (hd.symm.trans h)
  have hlist : ∀ ds : List Char, (ds.all fun d => !(d.isAlphanum || d == '_')) = true →
      ds.contains c = false := by
    intro ds hds
    rw [← Bool.not_eq_true, List.contains_iff_mem]
    intro hm
    have hc := List.all_eq_true.mp hds c hm
    rw [h] at hc
    exact Bool.false_ne_true hc
  refine ⟨hne _ rfl, ?_, ?_, hne _ rfl, hne _ rfl, hne _ rfl, ?_⟩
  · unfold isBlank
    rw [beq_false_of_ne (hne ' ' rfl), beq_false_of_ne (hne '\t' rfl)]
    rfl
  · rw [isOperator_eq]
    exact hlist _ rfl
  · rw [isExpansion_eq]
    exact hlist _ rfl

theorem VarName.text_injective : Function.Injective VarName.text := by
  intro a b h
  cases a
  cases b
  simpa using h

theorem VarName.word (name : VarName) :
    ∀ c ∈ name.text.toList, (c.isAlphanum || c == '_') = true := by
  have h := name.valid
  cases hchars : name.text.toList with
  | nil => simp
  | cons c cs =>
    rw [hchars, isName, Bool.and_eq_true, List.all_eq_true] at h
    intro d hd
    rcases List.mem_cons.mp hd with rfl | hd
    · have hc := h.1
      rw [Bool.or_eq_true] at hc ⊢
      exact hc.imp_left fun ha => by rw [Char.isAlphanum, ha, Bool.true_or]
    · exact h.2 d hd

/-- The words of an export line. -/
def exportWords (param : VarName × Option String) : List (List Char) :=
  ["export".toList, param.1.text.toList ++ '=' :: (param.2.getD "").toList]

theorem toList_exportLine (param : VarName × Option String) (rest : List Char) :
    (exportLine param).toList ++ '\n' :: rest =
      'e' :: ("xport".toList ++ ' ' :: (param.1.text.toList ++ ['='] ++
        (singleQuoted "'\\''".toList (param.2.getD "").toList ++ '\n' :: rest))) := by
  have hhead : "export ".toList = 'e' :: ("xport".toList ++ [' ']) := by simp
  have hequals : "=".toList = ['='] := String.toList_ofList
  simp only [exportLine, shellQuote, String.toList_append, String.toList_ofList, hhead, hequals,
    List.append_assoc, List.cons_append, List.nil_append]

/-- An export line is one command with one assignment. -/
theorem readCommand_exportLine (param : VarName × Option String) (rest : List Char) :
    readCommand ((exportLine param).toList ++ '\n' :: rest) = some (exportWords param, rest) := by
  have hordinary : ∀ c ∈ param.1.text.toList ++ ['='], Ordinary c := by
    intro c hc
    rcases List.mem_append.mp hc with hc | hc
    · exact ordinary_of_word (param.1.word c hc)
    · rw [List.mem_singleton] at hc
      subst hc
      exact ordinary_of_code rfl
  have hexport : ∀ c ∈ "xport".toList, Ordinary c := ordinary_ofList rfl
  have hblank : ∀ cs, Delimited (' ' :: cs) := fun cs => Or.inr (Or.inl rfl)
  rw [toList_exportLine, readCommand, run_gap (ordinary_of_code rfl) (by decide) hexport,
    run_close (hblank _), run_goto rfl, exportWords]
  cases hname : param.1.text.toList with
  | nil =>
    have hvalid := param.1.valid
    rw [hname] at hvalid
    exact absurd hvalid Bool.false_ne_true
  | cons c cs =>
    rw [hname] at hordinary
    have hhash : c ≠ '#' := by
      rintro rfl
      have hword := param.1.word '#' (hname ▸ List.mem_cons_self)
      exact absurd hword (by decide)
    rw [List.cons_append] at hordinary
    obtain ⟨hc, hcs⟩ := List.forall_mem_cons.mp hordinary
    rw [List.cons_append, List.cons_append, run_gap hc hhash hcs,
      run_plain_singleQuoted requotes_shellQuote]
    have hword : c :: (cs ++ ['=']) ++ (param.2.getD "").toList =
        c :: cs ++ '=' :: (param.2.getD "").toList := by
      rw [List.cons_append, List.append_assoc]
      rfl
    rw [hword]
    rfl

/-- The variables after a parameter. -/
def assign (env : Exported) (param : VarName × Option String) : Exported :=
  Function.update env param.1.text (some (param.2.getD ""))

theorem exec_exportWords (env : Exported) (param : VarName × Option String) :
    exec env (exportWords param) = some (assign env param) := by
  have hname : ∀ c ∈ param.1.text.toList, decide (c ≠ '=') = true := by
    intro c hc
    refine decide_eq_true ?_
    rintro rfl
    exact absurd (param.1.word '=' hc) (by decide)
  have harg : exportArg env (param.1.text.toList ++ '=' :: (param.2.getD "").toList) =
      some (assign env param) := by
    unfold exportArg
    rw [List.takeWhile_append_of_pos hname, List.dropWhile_append_of_pos hname]
    simp [param.1.valid, assign]
  change (if "export".toList = "export".toList then
    List.foldlM exportArg env [param.1.text.toList ++ '=' :: (param.2.getD "").toList]
    else none) = _
  rw [if_pos rfl, List.foldlM_cons, harg]
  rfl

/-! ### Reading the prologue -/

theorem runCommands_line {n : Nat} {env env' : Exported} {line rest : List Char}
    {words : List (List Char)} (hread : readCommand (line ++ '\n' :: rest) = some (words, rest))
    (hexec : exec env words = some env') :
    runCommands (n + 1) env (line ++ '\n' :: rest) = runCommands n env' rest := by
  simp only [runCommands, hread, hexec]

/-- Comments change no variable. -/
theorem runCommands_comment {n : Nat} {env : Exported} {cs rest : List Char}
    (h : (cs.all fun c => c.toNat != '\n'.toNat) = true) :
    runCommands (n + 1) env ((String.ofList ('#' :: cs)).toList ++ '\n' :: rest) =
      runCommands n env rest := by
  have hnewline : '\n' ∉ cs := fun hmem =>
    bne_iff_ne.mp (List.all_eq_true.mp h '\n' hmem) rfl
  have hread : readCommand ('#' :: cs ++ '\n' :: rest) = some ([], rest) :=
    readCommand_comment hnewline
  rw [String.toList_ofList]
  exact runCommands_line hread rfl

/-- Lines that are each ended by a newline. -/
def inLines (lines : List String) : List Char := lines.flatMap fun line => line.toList ++ ['\n']

theorem inLines_cons (line : String) (lines : List String) (rest : List Char) :
    inLines (line :: lines) ++ rest = line.toList ++ '\n' :: (inLines lines ++ rest) := by
  simp [inLines]

theorem inLines_append (lines more : List String) :
    inLines (lines ++ more) = inLines lines ++ inLines more := List.flatMap_append

/-- The export lines of any parameters, one after the other. -/
theorem runCommands_exportLines (n : Nat) (params : List (VarName × Option String))
    (env : Exported) (rest : List Char) :
    runCommands (params.length + n) env (inLines (params.map exportLine) ++ rest) =
      runCommands n (params.foldl assign env) rest := by
  induction params generalizing env with
  | nil => simp [inLines]
  | cons param params ih =>
    have hlength : (param :: params).length + n = params.length + n + 1 := by
      rw [List.length_cons, Nat.add_right_comm]
    rw [List.map_cons, inLines_cons, hlength,
      runCommands_line (readCommand_exportLine param _) (exec_exportWords env param), ih]
    rfl

theorem toList_intercalate_newline (content : String) {lines : List String} (h : lines ≠ []) :
    ("\n".intercalate lines ++ "\n" ++ content).toList = inLines lines ++ content.toList := by
  have hnewline : "\n".toList = ['\n'] := String.toList_ofList
  induction lines with
  | nil => exact absurd rfl h
  | cons line lines ih =>
    by_cases hnil : lines = []
    · subst hnil
      simp [inLines, hnewline]
    · rw [String.intercalate_cons_of_ne_nil hnil, inLines_cons, ← ih hnil]
      simp only [String.toList_append, hnewline, List.append_assoc, List.cons_append,
        List.nil_append]

/-- The number of lines in front of a script. -/
def prologueLength (params : Params) : Nat :=
  if params.rows = [] then 0 else params.rows.length + 3

/-- The given value of a variable; a missing one is empty. -/
def given (params : Params) (name : String) : Option String :=
  (params.rows.find? fun p => p.1.text = name).map fun p => p.2.getD ""

/-- The value of a variable. -/
def valueOf (name : String) (env : Exported) : Option String := env name

/-- The parameters override the variables that there were. -/
theorem foldl_assign (params : Params) (env : Exported) (name : String) :
    params.rows.foldl assign env name = (given params name).or (env name) := by
  have hframe : ∀ (env : Exported) (p : VarName × Option String) (name : String),
      p.1.text ≠ name → valueOf name (assign env p) = valueOf name env := fun env p name h =>
    Function.update_of_ne (Ne.symm h) _ _
  have hnodup : (params.rows.map fun p => p.1.text).Nodup := by
    have h := params.keys_nodup.map VarName.text_injective
    rwa [List.map_map] at h
  unfold given
  cases hfind : params.rows.find? fun p => p.1.text = name with
  | none =>
    refine part_foldl_of_forall_ne hframe env name fun p hp => ?_
    simpa using List.find?_eq_none.mp hfind p hp
  | some p =>
    have hname : p.1.text = name := by simpa using List.find?_some hfind
    subst hname
    obtain ⟨env', _, h⟩ :=
      part_foldl_of_mem hframe env hnodup (List.mem_of_find?_eq_some hfind)
    exact h.trans (Function.update_self _ _ _)

/-- A shell that has read the prologue has the given variables and the unchanged script. -/
theorem runCommands_renderParams (content : String) (params : Params) (env : Exported) :
    runCommands (prologueLength params) env (renderParams content params).toList =
      some (fun name => (given params name).or (env name), content.toList) := by
  have hfold : params.rows.foldl assign env = fun name => (given params name).or (env name) :=
    funext (foldl_assign params env)
  rw [← hfold, prologueLength, renderParams]
  by_cases hnil : params.rows = []
  · rw [if_pos hnil, if_pos hnil, hnil]
    rfl
  · have hlines : paramLines params ≠ [] := List.cons_ne_nil _ _
    rw [if_neg hnil, if_neg hnil, toList_intercalate_newline content hlines, paramLines,
      List.append_assoc, List.cons_append, List.cons_append, List.nil_append, inLines_cons,
      inLines_cons, inLines_append, List.append_assoc]
    refine (runCommands_comment rfl).trans ((runCommands_comment rfl).trans ?_)
    rw [runCommands_exportLines 1, inLines_cons]
    exact runCommands_comment rfl

end PveManager.Scripts
