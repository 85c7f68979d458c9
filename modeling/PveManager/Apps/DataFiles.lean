import PveManager.Compose.BindMounts
import PveManager.Core.Apart
import PveManager.Core.Dict
import PveManager.Scripts.Quoting

/-!
# The data files of an app

The files of the catalogue that an app mounts are checked by their paths, rendered where they
are templates, and pushed into the container one by one. The check keeps every path in the data
directory; it does not see a last newline, an empty name, and two paths of one file.
-/

namespace PveManager.AppFiles

open PveManager.Core PveManager.Core.Shell
open PveManager.Scripts (shq ordinary_of_word)

/-- An entry of `data_files`; `b64` is missing where the entry is no dictionary. -/
structure DataFile where
  relpath : String
  b64 : Option String
  exec : Bool
  deriving DecidableEq

/-- `data_files`. -/
abbrev DataFiles := KeyedTable DataFile.relpath

/-- The library's side of a delivery: base64, the templates under the variables of the app, and
the absolute value of a hash. -/
structure Codec (Blob : Type) where
  decode : String → Option Blob
  encode : Blob → String
  render : Blob → Blob
  hash : String → Nat

/-- A file on its way. The code does not keep `origin`, the path in the catalogue; it tells here
which file a content came from. -/
structure Content (Blob : Type) where
  origin : String
  blob : Blob
  deriving DecidableEq

/-! ### The check -/

/-- The characters of a path. -/
def isPathChar (c : Char) : Bool := c.isAlphanum || "._/-@".toList.contains c

/-- `_DATA_RELPATH_RE.match`; the end of the pattern may stand in front of a last newline. -/
def matchesRelpath (relpath : List Char) : Bool :=
  match if relpath.getLast? = some '\n' then relpath.dropLast else relpath with
  | [] => false
  | c :: cs => c.isAlphanum && cs.all isPathChar

/-- The path passes the validation. -/
def validRelpath (relpath : String) : Bool :=
  matchesRelpath relpath.toList && !decide ("..".toList <:+: relpath.toList)

def isTemplate (relpath : String) : Bool := decide (".template".toList <:+ relpath.toList)

/-- The path without the suffix of a template. -/
def target (relpath : String) : String :=
  if isTemplate relpath then
    String.ofList (relpath.toList.take (relpath.toList.length - ".template".toList.length))
  else relpath

section Delivery

variable {Blob : Type} (codec : Codec Blob) (vmid : Vmid)

/-- What a file is delivered with; `none` for a file that is skipped. -/
def content? (file : DataFile) : Option (Content Blob) :=
  if truthy file.b64 && validRelpath file.relpath then
    (file.b64.bind codec.decode).map fun blob =>
      ⟨file.relpath, if isTemplate file.relpath then codec.render blob else blob⟩
  else none

/-- The entry of a file in the dictionaries `safe` and `execs`. -/
def entryOf (file : DataFile) : Option (String × Content Blob × Bool) :=
  (content? codec file).map fun content => (target file.relpath, content, file.exec)

/-- `safe`, with `execs`. -/
def safe (files : DataFiles) : KeyedTable (Prod.fst : String × Content Blob × Bool → String) :=
  KeyedTable.ofList (files.rows.filterMap (entryOf codec))

def appDataDir : String := "/opt/app-data"

/-- Where a path is delivered. -/
def destOf (relpath : String) : String := appDataDir ++ "/" ++ relpath

def permsOf (exec : Bool) : String := if exec then "0777" else "0666"

def tmpOf (dest : String) : String := s!"/tmp/appstore_{vmid}_{codec.hash dest % 100000}"

/-! ### The commands -/

/-- A command on the node. -/
inductive NodeCommand (Blob : Type)
  /-- `mkdir -p` in the container. -/
  | mkdir (dirs : List String)
  /-- The content goes into a file of the node. -/
  | write (content : Content Blob) (tmp : String)
  /-- `pct push`. -/
  | push (tmp dest perms : String)
  | cleanup (tmp : String)

def pushText (tmp dest perms : String) : String := s!"pct push {vmid} {tmp} {dest} --perms {perms}"

/-- `_pct`. -/
def pct (inner : String) : String := s!"pct exec {vmid} -- /bin/bash -lc {shq inner}"

/-- The text of a command, as it goes to the shell of the node. -/
def NodeCommand.text : NodeCommand Blob → String
  | .mkdir dirs => pct vmid ("mkdir -p " ++ " ".intercalate (dirs.map shq))
  | .write content tmp => s!"printf '%s' '{codec.encode content.blob}' | base64 -d > {tmp}"
  | .push tmp dest perms => pushText vmid tmp dest perms
  | .cleanup tmp => s!"rm -f {tmp}"

/-- `_push_file`. -/
def pushFile (content : Content Blob) (dest perms : String) : List (NodeCommand Blob) :=
  [.write content (tmpOf codec vmid dest), .push (tmpOf codec vmid dest) dest perms,
    .cleanup (tmpOf codec vmid dest)]

/-- The commands for an entry. -/
def pushEntry (entry : String × Content Blob × Bool) : List (NodeCommand Blob) :=
  pushFile codec vmid entry.2.1 (destOf entry.1) (permsOf entry.2.2)

/-- The directories of the delivered files. -/
def parents (files : DataFiles) : List String :=
  (((safe codec files).rows.map fun entry => Compose.parentOf (destOf entry.1)).eraseDups).mergeSort

/-- `_push_data_files`. -/
def pushDataFiles (files : DataFiles) : List (NodeCommand Blob) :=
  if (safe codec files).rows = [] then []
  else .mkdir (parents codec files) :: (safe codec files).rows.flatMap (pushEntry codec vmid)

/-! ### The files -/

/-- The files of the node, and the files of the container with their permissions. -/
structure World (Blob : Type) where
  node : String → Option (Content Blob)
  container : Place → Option (Content Blob × String)

/-- The effect of a command that succeeds; one that fails ends the delivery with an error. -/
def World.exec (w : World Blob) : NodeCommand Blob → World Blob
  | .mkdir _ => w
  | .write content tmp => { w with node := Function.update w.node tmp (some content) }
  | .push tmp dest perms =>
    match w.node tmp with
    | none => w
    | some content =>
      { w with
        container := Function.update w.container (walk [] dest.toList) (some (content, perms)) }
  | .cleanup tmp => { w with node := Function.update w.node tmp none }

/-- The files after a delivery. -/
def deliver (w : World Blob) (files : DataFiles) : World Blob :=
  (pushDataFiles codec vmid files).foldl World.exec w

/-! ### What is asked of a delivery -/

/-- The directory of the app. -/
def dataPlace : Place := walk [] appDataDir.toList

/-- The destination of a path of the catalogue. -/
def destination (relpath : String) : String := destOf (target relpath)

/-- The place that a path of the catalogue leads to. -/
def placeOf (relpath : String) : Place := walk [] (destination relpath).toList

/-- The words of a push. -/
def pushWords (tmp dest perms : String) : List (List Char) :=
  ["pct".toList, "push".toList, (toString vmid).toList, tmp.toList, dest.toList, "--perms".toList,
    perms.toList]

/-- The destination lies in the directory of the app and names a file there, and the shell hands
it to `pct push` as one argument. -/
structure SafeFile (file : DataFile) : Prop where
  inside : dataPlace <:+ placeOf file.relpath
  ne_dataPlace : placeOf file.relpath ≠ dataPlace
  namesFile : NamesFile (destination file.relpath).toList
  oneArgument :
    readCommand (pushText vmid (tmpOf codec vmid (destination file.relpath))
        (destination file.relpath) (permsOf file.exec)).toList =
      some (pushWords vmid (tmpOf codec vmid (destination file.relpath))
        (destination file.relpath) (permsOf file.exec), [])

/-- In the end every file is where it was delivered. -/
def NoneReplaced (files : DataFiles) : Prop :=
  ∀ w, ∀ file ∈ files.rows, ∀ content, content? codec file = some content →
    (deliver codec vmid w files).container (placeOf file.relpath) =
      some (content, permsOf file.exec)

/-- The path, without the suffix of a template, ends in the name of a file. -/
def EndsInName (relpath : String) : Prop :=
  relpath.toList.getLast? ≠ some '\n' ∧ Core.isName (lastPart (target relpath).toList) = true

/-- No two files that are delivered have the same names on their paths. -/
def Apart (files : DataFiles) : Prop :=
  ∀ f ∈ files.rows, ∀ g ∈ files.rows, (content? codec f).isSome = true →
    (content? codec g).isSome = true →
    namesOf (target f.relpath).toList = namesOf (target g.relpath).toList → f = g

end Delivery

/-! ### Paths that pass the check -/

section Paths

variable {relpath : String}

theorem target_isPrefixOf (relpath : String) : (target relpath).toList <+: relpath.toList := by
  unfold target
  split
  · rw [String.toList_ofList]
    exact List.take_prefix _ _
  · exact List.prefix_refl _

/-- A path that passes begins with a letter or a digit, and only its end may be a newline. -/
theorem matchesRelpath_cases {path : List Char} (h : matchesRelpath path = true) :
    ∃ c cs, c.isAlphanum = true ∧ (∀ d ∈ cs, isPathChar d = true) ∧
      (path = c :: cs ∨ path = c :: (cs ++ ['\n'])) := by
  have hline : ∀ line : List Char,
      (match line with
        | [] => false
        | c :: cs => c.isAlphanum && cs.all isPathChar) = true →
      ∃ c cs, c.isAlphanum = true ∧ (∀ d ∈ cs, isPathChar d = true) ∧ line = c :: cs := by
    intro line hmatch
    cases line with
    | nil => cases hmatch
    | cons c cs =>
      obtain ⟨hc, hcs⟩ := Bool.and_eq_true_iff.mp hmatch
      exact ⟨c, cs, hc, List.all_eq_true.mp hcs, rfl⟩
  unfold matchesRelpath at h
  by_cases hlast : path.getLast? = some '\n'
  · rw [if_pos hlast] at h
    obtain ⟨c, cs, hc, hcs, hpath⟩ := hline _ h
    refine ⟨c, cs, hc, hcs, Or.inr ?_⟩
    rw [← List.cons_append, ← hpath, List.dropLast_append_getLast? _ hlast]
  · rw [if_neg hlast] at h
    obtain ⟨c, cs, hc, hcs, hpath⟩ := hline _ h
    exact ⟨c, cs, hc, hcs, Or.inl hpath⟩

theorem ne_of_isAlphanum {c d : Char} (hc : c.isAlphanum = true) (hd : d.isAlphanum = false) :
    c ≠ d := by
  rintro rfl
  exact Bool.false_ne_true (hd.symm.trans hc)

/-- The target begins as the path does. -/
theorem target_cons {c : Char} {cs : List Char} (hpath : relpath.toList = c :: cs)
    (hdot : c ≠ '.') : ∃ rest, (target relpath).toList = c :: rest := by
  unfold target
  split
  · rename_i htemplate
    obtain ⟨front, hfront⟩ := of_decide_eq_true htemplate
    rw [String.toList_ofList, ← hfront, List.length_append, Nat.add_sub_cancel_right,
      List.take_left]
    cases front with
    | nil =>
      rw [hpath] at hfront
      exact absurd (List.cons.inj hfront).1.symm hdot
    | cons d front =>
      rw [hpath] at hfront
      exact ⟨front, by rw [(List.cons.inj hfront).1]⟩
  · exact ⟨cs, hpath⟩

theorem namesOf_target_ne_nil (h : validRelpath relpath = true) :
    namesOf (target relpath).toList ≠ [] := by
  obtain ⟨c, cs, hc, -, hpath⟩ := matchesRelpath_cases (Bool.and_eq_true_iff.mp h).1
  have hdot : c ≠ '.' := ne_of_isAlphanum hc rfl
  obtain ⟨rest, hrest⟩ : ∃ rest, (target relpath).toList = c :: rest := by
    rcases hpath with hpath | hpath
    · exact target_cons hpath hdot
    · exact target_cons hpath hdot
  have hslash : c ≠ '/' := ne_of_isAlphanum hc rfl
  obtain ⟨part, parts, -, hparts⟩ := splitOn_cons_of_ne rest hslash
  unfold namesOf
  rw [hrest, hparts, List.filter_cons_of_pos (isName_cons hdot part)]
  exact List.cons_ne_nil _ _

theorem not_goesBack_target (h : validRelpath relpath = true) :
    ¬GoesBack (target relpath).toList := by
  intro hback
  have hdots : ['.', '.'] <:+: relpath.toList :=
    (infix_of_mem_splitOn hback).trans (target_isPrefixOf relpath).isInfix
  have hvalid := (Bool.and_eq_true_iff.mp h).2
  rw [Bool.not_eq_true', decide_eq_false_iff_not] at hvalid
  exact hvalid hdots

theorem toList_destination (relpath : String) :
    (destination relpath).toList = appDataDir.toList ++ '/' :: (target relpath).toList := by
  unfold destination destOf
  rw [String.toList_append, String.toList_append, List.append_assoc]
  rfl

/-- The names of a target are added to the directory of the app. -/
theorem placeOf_eq (h : validRelpath relpath = true) :
    placeOf relpath = (namesOf (target relpath).toList).reverse ++ dataPlace := by
  unfold placeOf
  rw [toList_destination, walk_append, walk_of_not_goesBack (not_goesBack_target h)]
  rfl

/-- The destination ends as the target does, and goes nowhere back. -/
theorem namesFile_destination_iff (h : validRelpath relpath = true) :
    NamesFile (destination relpath).toList ↔
      Core.isName (lastPart (target relpath).toList) = true := by
  have hback : ¬GoesBack (destination relpath).toList := by
    intro hmem
    unfold GoesBack at hmem
    rw [toList_destination, List.splitOn_append_cons_self] at hmem
    rcases List.mem_append.mp hmem with hmem | hmem
    · revert hmem
      decide +kernel
    · exact not_goesBack_target h hmem
  rw [namesFile_iff hback, toList_destination, lastPart_append]

end Paths

/-! ### The push as the shell reads it -/

section Push

variable (vmid : Vmid) {tmp dest perms relpath : String} {front : List Char}

theorem ordinary_of_isPathChar {c : Char} (h : isPathChar c = true) : Ordinary c := by
  rcases Bool.or_eq_true_iff.mp h with h | h
  · exact ordinary_of_word (by rw [h, Bool.true_or])
  · have hall : ∀ d ∈ "._/-@".toList, Ordinary d := ordinary_ofList rfl
    exact hall c (List.contains_iff_mem.mp h)

theorem plainWord_digits (n : Nat) : PlainWord (toString n).toList := by
  have hdigits : (toString n).toList = Nat.toDigits 10 n := Nat.toList_repr
  have hordinary : ∀ c ∈ Nat.toDigits 10 n, Ordinary c := by
    intro c hc
    have hdigit := Nat.isDigit_of_mem_toDigits (by decide) (by decide) hc
    exact ordinary_of_word (by rw [Char.isAlphanum, hdigit, Bool.or_true, Bool.true_or])
  rw [hdigits]
  refine ⟨Nat.toDigits_ne_nil, fun hhead => ?_, hordinary⟩
  have hdigit := Nat.isDigit_of_mem_toDigits (by decide) (by decide) (List.mem_of_head? hhead)
  cases hdigit

theorem plainWord_tmpOf {Blob : Type} (codec : Codec Blob) (dest : String) :
    PlainWord (tmpOf codec vmid dest).toList := by
  have hfront : PlainWord "/tmp/appstore_".toList :=
    plainWord_ofList (by simp) (by simp) rfl
  have hbar : ∀ c ∈ "_".toList, Ordinary c := ordinary_ofList rfl
  have h := ((hfront.append (plainWord_digits vmid).ordinary).append hbar).append
    (plainWord_digits (codec.hash dest % 100000)).ordinary
  have hstring : ∀ s : String, toString s = s := fun _ => rfl
  unfold tmpOf
  simpa [String.toList_append, hstring] using h

/-- The text of a push: its words behind blanks. -/
theorem toList_pushText : ' ' :: (pushText vmid tmp dest perms).toList =
    spaced (pushWords vmid tmp dest perms) := by
  have hstring : ∀ s : String, toString s = s := fun _ => rfl
  unfold pushText
  simp [pushWords, spaced, String.toList_append, hstring]

/-- A blank in front of a command changes nothing. -/
theorem readCommand_blank (input : List Char) : readCommand (' ' :: input) = readCommand input :=
  run_goto rfl

theorem plainWord_perms (exec : Bool) : PlainWord (permsOf exec).toList := by
  cases exec
  · exact plainWord_ofList (by simp) (by simp) rfl
  · exact plainWord_ofList (by simp) (by simp) rfl

theorem plainWord_dest {path : List Char} (h : ∀ c ∈ path, isPathChar c = true) :
    PlainWord (appDataDir.toList ++ '/' :: path) := by
  have hdir : PlainWord appDataDir.toList := plainWord_ofList (by simp) (by simp) rfl
  have hfront : PlainWord (appDataDir.toList ++ ['/']) :=
    hdir.append fun c hc => List.mem_singleton.mp hc ▸ ordinary_of_code rfl
  have hdest := hfront.append fun c hc => ordinary_of_isPathChar (h c hc)
  rwa [List.append_assoc] at hdest

/-- The words in front of the destination. -/
theorem plainWord_pushFront (htmp : PlainWord tmp.toList) :
    ∀ w ∈ ["pct".toList, "push".toList, (toString vmid).toList, tmp.toList], PlainWord w := by
  intro w hw
  simp only [List.mem_cons, List.not_mem_nil, or_false] at hw
  rcases hw with rfl | rfl | rfl | rfl
  · exact plainWord_ofList (by simp) (by simp) rfl
  · exact plainWord_ofList (by simp) (by simp) rfl
  · exact plainWord_digits vmid
  · exact htmp

/-- A plain destination is one argument. -/
theorem readCommand_pushText (htmp : PlainWord tmp.toList) (hdest : PlainWord dest.toList)
    (hperms : PlainWord perms.toList) :
    readCommand (pushText vmid tmp dest perms).toList =
      some (pushWords vmid tmp dest perms, []) := by
  have hplain : ∀ w ∈ pushWords vmid tmp dest perms, PlainWord w := by
    intro w hw
    have hsplit : pushWords vmid tmp dest perms =
        ["pct".toList, "push".toList, (toString vmid).toList, tmp.toList] ++
          [dest.toList, "--perms".toList, perms.toList] := rfl
    rw [hsplit] at hw
    rcases List.mem_append.mp hw with hw | hw
    · exact plainWord_pushFront vmid htmp w hw
    · simp only [List.mem_cons, List.not_mem_nil, or_false] at hw
      rcases hw with rfl | rfl | rfl
      · exact hdest
      · exact plainWord_ofList (by simp) (by simp) rfl
      · exact hperms
  have hend : Delimited [] := trivial
  rw [← readCommand_blank, toList_pushText, ← List.append_nil (spaced _), readCommand,
    run_gap_spaced hplain hend]
  rfl

/-- A newline at the end of a destination ends the command in front of the permissions. -/
theorem readCommand_pushText_newline (htmp : PlainWord tmp.toList) (hfront : PlainWord front)
    (hdest : dest.toList = front ++ ['\n']) :
    readCommand (pushText vmid tmp dest perms).toList =
      some (["pct".toList, "push".toList, (toString vmid).toList, tmp.toList, front],
        spaced ["--perms".toList, perms.toList]) := by
  have hplain : ∀ w ∈
      ["pct".toList, "push".toList, (toString vmid).toList, tmp.toList] ++ [front],
      PlainWord w := by
    intro w hw
    rcases List.mem_append.mp hw with hw | hw
    · exact plainWord_pushFront vmid htmp w hw
    · rw [List.mem_singleton.mp hw]
      exact hfront
  have hcut : spaced (pushWords vmid tmp dest perms) =
      spaced (["pct".toList, "push".toList, (toString vmid).toList, tmp.toList] ++ [front]) ++
        '\n' :: spaced ["--perms".toList, perms.toList] := by
    simp [pushWords, spaced, hdest]
  have hend : ∀ rest, Delimited ('\n' :: rest) := fun _ => Or.inl rfl
  rw [← readCommand_blank, toList_pushText, hcut, readCommand, run_gap_spaced hplain (hend _)]
  rfl

end Push

section Delivery

variable {Blob : Type} (codec : Codec Blob) (vmid : Vmid)

theorem validRelpath_of_content? {file : DataFile} (h : (content? codec file).isSome = true) :
    validRelpath file.relpath = true := by
  unfold content? at h
  by_cases hok : (truthy file.b64 && validRelpath file.relpath) = true
  · exact (Bool.and_eq_true_iff.mp hok).2
  · rw [if_neg hok] at h
    cases h

theorem origin_of_content? {file : DataFile} {content : Content Blob}
    (h : content? codec file = some content) : content.origin = file.relpath := by
  unfold content? at h
  by_cases hok : (truthy file.b64 && validRelpath file.relpath) = true
  · rw [if_pos hok] at h
    obtain ⟨blob, -, rfl⟩ := Option.map_eq_some_iff.mp h
    rfl
  · rw [if_neg hok] at h
    cases h

/-- The shell reads one argument exactly when the path does not end in a newline. -/
theorem oneArgument_iff {relpath : String} (h : validRelpath relpath = true) (exec : Bool) :
    readCommand (pushText vmid (tmpOf codec vmid (destination relpath)) (destination relpath)
        (permsOf exec)).toList =
      some (pushWords vmid (tmpOf codec vmid (destination relpath)) (destination relpath)
        (permsOf exec), []) ↔ relpath.toList.getLast? ≠ some '\n' := by
  have htmp := plainWord_tmpOf vmid codec (destination relpath)
  obtain ⟨c, cs, hc, hcs, hpath⟩ := matchesRelpath_cases (Bool.and_eq_true_iff.mp h).1
  have hchars : ∀ d ∈ c :: cs, isPathChar d = true :=
    List.forall_mem_cons.mpr ⟨Bool.or_eq_true_iff.mpr (Or.inl hc), hcs⟩
  rcases hpath with hpath | hpath
  · have hplain : PlainWord (destination relpath).toList := by
      rw [toList_destination]
      refine plainWord_dest fun d hd => hchars d ?_
      rw [← hpath]
      exact (target_isPrefixOf relpath).subset hd
    refine iff_of_true (readCommand_pushText vmid htmp hplain (plainWord_perms exec)) ?_
    intro hlast
    have hnewline := hchars _ (hpath ▸ List.mem_of_getLast? hlast)
    revert hnewline
    decide
  · have hlast : relpath.toList.getLast? = some '\n' := by
      rw [hpath, ← List.cons_append, List.getLast?_concat]
    have htemplate : isTemplate relpath = false := by
      refine decide_eq_false ?_
      rintro ⟨front, hfront⟩
      have hsuffix : ".template".toList.getLast? = some 'e' := by decide
      rw [← hfront, List.getLast?_append, hsuffix] at hlast
      cases hlast
    have hdest : (destination relpath).toList =
        (appDataDir.toList ++ '/' :: (c :: cs)) ++ ['\n'] := by
      rw [toList_destination, target, htemplate, if_neg Bool.false_ne_true, hpath,
        List.append_assoc]
      rfl
    refine iff_of_false (fun hread => ?_) (fun hne => hne hlast)
    rw [readCommand_pushText_newline vmid htmp (plainWord_dest hchars) hdest] at hread
    have hrest : spaced ["--perms".toList, (permsOf exec).toList] = [] :=
      (Prod.mk.inj (Option.some.inj hread)).2
    exact absurd hrest (List.cons_ne_nil _ _)

/-- A file whose path passes the check is delivered safely exactly when the path ends in a name. -/
theorem safeFile_iff {file : DataFile} (h : validRelpath file.relpath = true) :
    SafeFile codec vmid file ↔ EndsInName file.relpath := by
  constructor
  · rintro ⟨-, -, hnames, hargument⟩
    exact ⟨(oneArgument_iff codec vmid h file.exec).mp hargument,
      (namesFile_destination_iff h).mp hnames⟩
  · rintro ⟨hnewline, hname⟩
    refine ⟨?_, ?_, (namesFile_destination_iff h).mpr hname,
      (oneArgument_iff codec vmid h file.exec).mpr hnewline⟩
    · rw [placeOf_eq h]
      exact List.suffix_append _ _
    · rw [placeOf_eq h]
      intro heq
      have hnil : (namesOf (target file.relpath).toList).reverse = [] :=
        List.append_left_eq_self.mp heq
      exact namesOf_target_ne_nil h (List.reverse_eq_nil_iff.mp hnil)

/-! ### The files in the container -/

/-- What the container has at a place. -/
def fileAt (k : Place) (w : World Blob) : Option (Content Blob × String) := w.container k

/-- The effect of the commands for an entry. -/
def pushed (w : World Blob) (entry : String × Content Blob × Bool) : World Blob :=
  (pushEntry codec vmid entry).foldl World.exec w

theorem container_pushed (w : World Blob) (entry : String × Content Blob × Bool) :
    (pushed codec vmid w entry).container =
      Function.update w.container (walk [] (destOf entry.1).toList)
        (some (entry.2.1, permsOf entry.2.2)) := by
  simp [pushed, pushEntry, pushFile, World.exec]

theorem fileAt_pushed_of_ne (w : World Blob) (entry : String × Content Blob × Bool) (k : Place)
    (h : walk [] (destOf entry.1).toList ≠ k) :
    fileAt k (pushed codec vmid w entry) = fileAt k w := by
  unfold fileAt
  rw [container_pushed, Function.update_of_ne (Ne.symm h)]

/-- A delivery pushes the entries one after the other. -/
theorem deliver_eq (w : World Blob) (files : DataFiles) :
    deliver codec vmid w files = (safe codec files).rows.foldl (pushed codec vmid) w := by
  unfold deliver pushDataFiles
  by_cases hnil : (safe codec files).rows = []
  · rw [if_pos hnil, hnil]
    rfl
  · rw [if_neg hnil, List.foldl_cons, List.foldl_flatMap]
    rfl

/-- Every entry comes from a file. -/
theorem exists_of_mem_safe {files : DataFiles} {entry : String × Content Blob × Bool}
    (h : entry ∈ (safe codec files).rows) :
    ∃ file ∈ files.rows, ∃ content, content? codec file = some content ∧
      entry = (target file.relpath, content, file.exec) := by
  have hget : (safe codec files).get? entry.1 = some entry.2 := KeyedTable.get?_eq_some_iff.mpr h
  obtain ⟨file, hfile, hentry⟩ := List.mem_filterMap.mp (KeyedTable.get?_ofList_eq_some hget)
  obtain ⟨content, hcontent, heq⟩ := Option.map_eq_some_iff.mp hentry
  exact ⟨file, hfile, content, hcontent, heq.symm⟩

/-- Every file that is not skipped has an entry, perhaps of another file. -/
theorem exists_mem_safe {files : DataFiles} {file : DataFile} (hfile : file ∈ files.rows)
    {content : Content Blob} (h : content? codec file = some content) :
    ∃ rest, (target file.relpath, rest) ∈ (safe codec files).rows := by
  have hentry : (target file.relpath, content, file.exec) ∈ files.rows.filterMap (entryOf codec) :=
    List.mem_filterMap.mpr ⟨file, hfile, by rw [entryOf, h]; rfl⟩
  obtain ⟨rest, hget⟩ := KeyedTable.get?_ofList_isSome hentry
  exact ⟨rest, KeyedTable.get?_eq_some_iff.mp hget⟩

variable {files : DataFiles}

/-- Files that are not skipped and lead to one place have the same names on their paths. -/
theorem names_eq_of_placeOf {f g : DataFile} (hf : (content? codec f).isSome = true)
    (hg : (content? codec g).isSome = true) :
    placeOf f.relpath = placeOf g.relpath ↔
      namesOf (target f.relpath).toList = namesOf (target g.relpath).toList := by
  rw [placeOf_eq (validRelpath_of_content? codec hf),
    placeOf_eq (validRelpath_of_content? codec hg), List.append_left_inj, List.reverse_inj]

/-- Files apart lead to places apart. -/
theorem places_nodup (h : Apart codec files) :
    ((safe codec files).rows.map fun entry => walk [] (destOf entry.1).toList).Nodup := by
  refine List.Nodup.map_on (fun a ha b hb heq => ?_) (safe codec files).keys_nodup.of_map
  obtain ⟨f, hf, x, hx, rfl⟩ := exists_of_mem_safe codec ha
  obtain ⟨g, hg, y, hy, rfl⟩ := exists_of_mem_safe codec hb
  have hfx : (content? codec f).isSome = true := by rw [hx]; rfl
  have hgy : (content? codec g).isSome = true := by rw [hy]; rfl
  obtain rfl := h f hf g hg hfx hgy ((names_eq_of_placeOf codec hfx hgy).mp heq)
  rw [Option.some.inj (hx.symm.trans hy)]

/-- Files apart are all delivered. -/
theorem noneReplaced_of_apart (h : Apart codec files) : NoneReplaced codec vmid files := by
  intro w file hfile content hcontent
  obtain ⟨rest, hmem⟩ := exists_mem_safe codec hfile hcontent
  obtain ⟨g, hg, y, hy, heq⟩ := exists_of_mem_safe codec hmem
  obtain ⟨htarget, rfl⟩ := Prod.mk.inj heq
  have hsome : (content? codec file).isSome = true := by rw [hcontent]; rfl
  have hgy : (content? codec g).isSome = true := by rw [hy]; rfl
  obtain rfl := h file hfile g hg hsome hgy (by rw [htarget])
  obtain rfl := Option.some.inj (hcontent.symm.trans hy)
  obtain ⟨w', -, hat⟩ :=
    part_foldl_of_mem (fileAt_pushed_of_ne codec vmid) w (places_nodup codec h) hmem
  rw [deliver_eq]
  refine hat.trans ?_
  unfold fileAt
  rw [container_pushed, Function.update_self]

/-- Of two files that lead to one place, only one is there in the end. -/
theorem apart_of_noneReplaced (h : NoneReplaced codec vmid files) : Apart codec files := by
  intro f hf g hg hsomef hsomeg hnames
  have hplace := (names_eq_of_placeOf codec hsomef hsomeg).mpr hnames
  obtain ⟨x, hx⟩ := Option.isSome_iff_exists.mp hsomef
  obtain ⟨y, hy⟩ := Option.isSome_iff_exists.mp hsomeg
  have hatf := h ⟨fun _ => none, fun _ => none⟩ f hf x hx
  have hatg := h ⟨fun _ => none, fun _ => none⟩ g hg y hy
  rw [hplace, hatg] at hatf
  have hcontent : y = x := (Prod.mk.inj (Option.some.inj hatf)).1
  refine files.eq_of_key_eq hf hg ?_
  rw [← origin_of_content? codec hx, ← origin_of_content? codec hy, hcontent]

/-- The files of the catalogue stay in the directory of the app, name files there, are arguments
of their own and do not replace one another exactly when every path ends in a name and no two
have the same names. -/
theorem filesDelivered_iff (files : DataFiles) :
    (∀ file ∈ files.rows, (content? codec file).isSome = true → SafeFile codec vmid file) ∧
        NoneReplaced codec vmid files ↔
      (∀ file ∈ files.rows, (content? codec file).isSome = true → EndsInName file.relpath) ∧
        Apart codec files := by
  refine and_congr ?_ ⟨apart_of_noneReplaced codec vmid, noneReplaced_of_apart codec vmid⟩
  refine forall₃_congr fun file hfile hsome => ?_
  exact safeFile_iff codec vmid (validRelpath_of_content? codec hsome)

end Delivery

/-! ### A file beside its template -/

/-- Two contents. -/
def sampleCodec : Codec String where
  decode s := if s = "YQ==" then some "a" else if s = "Yg==" then some "b" else none
  encode blob := if blob = "a" then "YQ==" else "Yg=="
  render blob := blob
  hash _ := 7

def samplePlain : DataFile := ⟨"config.yml", some "YQ==", false⟩

def sampleTemplate : DataFile := ⟨"config.yml.template", some "Yg==", false⟩

def sampleFiles : DataFiles := ⟨[samplePlain, sampleTemplate], by decide⟩

/-- The rendered template replaces the file. -/
theorem template_replaces :
    ¬((∀ file ∈ sampleFiles.rows, (content? sampleCodec file).isSome = true →
        SafeFile sampleCodec 100 file) ∧ NoneReplaced sampleCodec 100 sampleFiles) := by
  rintro ⟨-, h⟩
  have heq : samplePlain = sampleTemplate :=
    apart_of_noneReplaced sampleCodec 100 h samplePlain List.mem_cons_self sampleTemplate
      (List.mem_cons_of_mem _ List.mem_cons_self) (by decide +kernel) (by decide +kernel)
      (by decide +kernel)
  exact absurd heq (by decide)

end PveManager.AppFiles
