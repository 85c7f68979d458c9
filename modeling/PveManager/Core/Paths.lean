import Mathlib.Data.List.Basic

/-!
# Paths

Paths as texts with slashes, and the directories that they lead to: an empty part or a dot stays where
it is, and two dots go back by one name. A path that loses its leading dots and slashes leads to the
same place when its first name does not begin with a dot.
-/

namespace PveManager.Core

/-- A directory: the names that lead to it, from the innermost out. -/
abbrev Place := List (List Char)

/-- The place that one part of a path leads to. -/
def enter (place : Place) : List Char → Place
  | [] | ['.'] => place
  | ['.', '.'] => place.tail
  | name => name :: place

/-- The place that a path leads to, from another one. -/
def walk (place : Place) (path : List Char) : Place := (path.splitOn '/').foldl enter place

theorem walk_append (place : Place) (path rest : List Char) :
    walk place (path ++ '/' :: rest) = walk (walk place path) rest := by
  unfold walk
  rw [List.splitOn_append_cons_self, List.foldl_append]

/-! ### Names -/

/-- The part is the name of a directory, or two dots. -/
def isName : List Char → Bool
  | [] | ['.'] => false
  | _ => true

/-- The parts of a path that lead somewhere. -/
def namesOf (path : List Char) : List (List Char) := (path.splitOn '/').filter isName

/-- The path goes back somewhere. -/
def GoesBack (path : List Char) : Prop := ['.', '.'] ∈ path.splitOn '/'

theorem enter_of_isName {place : Place} {part : List Char} (hname : isName part = true)
    (hback : part ≠ ['.', '.']) : enter place part = part :: place := by
  unfold enter
  split
  · cases hname
  · cases hname
  · exact absurd rfl hback
  · rfl

theorem enter_of_not_isName {place : Place} {part : List Char} (hname : isName part = false) :
    enter place part = place := by
  unfold isName at hname
  split at hname
  · rfl
  · rfl
  · cases hname

theorem isName_cons {c : Char} (h : c ≠ '.') (part : List Char) : isName (c :: part) = true := by
  unfold isName
  split
  · rename_i hbad
    cases hbad
  · rename_i hbad
    exact absurd (List.cons.inj hbad).1 h
  · rfl

/-- Only the names of a path count. -/
theorem walk_eq_foldl_namesOf (place : Place) (path : List Char) :
    walk place path = (namesOf path).foldl enter place := by
  unfold walk namesOf
  induction path.splitOn '/' generalizing place with
  | nil => rfl
  | cons part rest ih =>
    rw [List.foldl_cons, ih]
    cases hname : isName part with
    | true => rw [List.filter_cons_of_pos hname, List.foldl_cons]
    | false =>
      rw [List.filter_cons_of_neg (by rw [hname]; exact Bool.false_ne_true),
        enter_of_not_isName hname]

/-- A path that never goes back adds its names. -/
theorem walk_of_not_goesBack {path : List Char} (h : ¬GoesBack path) (place : Place) :
    walk place path = (namesOf path).reverse ++ place := by
  have hnames : ∀ names : List (List Char), (∀ name ∈ names, isName name = true) →
      ['.', '.'] ∉ names → ∀ place, names.foldl enter place = names.reverse ++ place := by
    intro names
    induction names with
    | nil => exact fun _ _ _ => rfl
    | cons name rest ih =>
      intro hname hback place
      have hne : name ≠ ['.', '.'] := fun heq => hback (heq ▸ List.mem_cons_self)
      rw [List.foldl_cons, enter_of_isName (hname name List.mem_cons_self) hne,
        ih (fun other hother => hname other (List.mem_cons_of_mem _ hother))
          (fun hmem => hback (List.mem_cons_of_mem _ hmem)),
        List.reverse_cons, List.append_assoc, List.singleton_append]
  rw [walk_eq_foldl_namesOf]
  refine hnames _ (fun name hname => (List.mem_filter.mp hname).2) (fun hmem => ?_) place
  exact h (List.mem_filter.mp hmem).1

/-! ### Leading dots -/

/-- The path without its leading dots and slashes. -/
def dropDots (path : List Char) : List Char := path.dropWhile fun c => decide (c = '.' ∨ c = '/')

/-- The first name of the path begins with a dot. -/
def DotFirst (path : List Char) : Prop :=
  ∃ rest names, namesOf path = ('.' :: rest) :: names

section DropDots

variable {c : Char} {path : List Char}

theorem dropDots_cons (h : c = '.' ∨ c = '/') : dropDots (c :: path) = dropDots path :=
  List.dropWhile_cons_of_pos (decide_eq_true h)

theorem dropDots_cons_of_not (h : ¬(c = '.' ∨ c = '/')) : dropDots (c :: path) = c :: path :=
  List.dropWhile_cons_of_neg (by rw [decide_eq_true_iff]; exact h)

theorem splitOn_slash (path : List Char) :
    ('/' :: path).splitOn '/' = [] :: path.splitOn '/' :=
  List.splitOn_append_cons_self [] path

theorem splitOn_cons_of_ne (path : List Char) (h : c ≠ '/') :
    ∃ part parts, path.splitOn '/' = part :: parts ∧
    (c :: path).splitOn '/' = (c :: part) :: parts := by
  cases hparts : path.splitOn '/' with
  | nil => exact absurd hparts (List.splitOn_ne_nil _ _)
  | cons part parts =>
    refine ⟨part, parts, rfl, ?_⟩
    rw [List.splitOn_cons_eq_if_modifyHead, if_neg (by simpa using h), hparts]
    rfl

/-- The first part begins a path, and every part lies in it. -/
theorem parts_lie_in (path : List Char) : ∃ part parts, path.splitOn '/' = part :: parts ∧
    part <+: path ∧ ∀ other ∈ parts, other <:+: path := by
  induction path with
  | nil => exact ⟨[], [], rfl, List.nil_prefix, fun _ h => absurd h List.not_mem_nil⟩
  | cons c path ih =>
    obtain ⟨part, parts, hparts, hpart, hrest⟩ := ih
    by_cases h : c = '/'
    · subst h
      refine ⟨[], part :: parts, ?_, List.nil_prefix, fun other hother => ?_⟩
      · rw [splitOn_slash, hparts]
      · rcases List.mem_cons.mp hother with rfl | hother
        · exact List.infix_cons hpart.isInfix
        · exact List.infix_cons (hrest other hother)
    · obtain ⟨_, _, heq, hcons⟩ := splitOn_cons_of_ne path h
      rw [hparts] at heq
      obtain ⟨rfl, rfl⟩ := List.cons.inj heq
      exact ⟨c :: part, parts, hcons, (List.prefix_cons_inj c).mpr hpart, fun other hother =>
        List.infix_cons (hrest other hother)⟩

theorem infix_of_mem_splitOn {part : List Char} (h : part ∈ path.splitOn '/') :
    part <:+: path := by
  obtain ⟨first, parts, hparts, hfirst, hrest⟩ := parts_lie_in path
  rw [hparts] at h
  rcases List.mem_cons.mp h with rfl | h
  · exact hfirst.isInfix
  · exact hrest part h

/-- Behind the dots and slashes there is a part that begins otherwise. -/
theorem splitOn_dropDots (path : List Char) : dropDots path = [] ∨
    ∃ c part parts, c ≠ '.' ∧ (dropDots path).splitOn '/' = (c :: part) :: parts := by
  induction path with
  | nil => exact Or.inl rfl
  | cons c rest ih =>
    by_cases h : c = '.' ∨ c = '/'
    · rw [dropDots_cons h]
      exact ih
    · obtain ⟨hdot, hslash⟩ := not_or.mp h
      obtain ⟨part, parts, _, hcons⟩ := splitOn_cons_of_ne rest hslash
      rw [dropDots_cons_of_not h]
      exact Or.inr ⟨c, part, parts, hdot, hcons⟩

theorem not_dotFirst_dropDots (path : List Char) : ¬DotFirst (dropDots path) := by
  rintro ⟨rest, names, h⟩
  rcases splitOn_dropDots path with hnil | ⟨c, part, parts, hdot, hparts⟩
  · rw [hnil] at h
    cases h
  · unfold namesOf at h
    rw [hparts, List.filter_cons_of_pos (isName_cons hdot part)] at h
    exact hdot (List.cons.inj (List.cons.inj h).1).1

/-- Unless its first name begins with a dot, a path keeps its names. -/
theorem namesOf_dropDots (h : ¬DotFirst path) : namesOf (dropDots path) = namesOf path := by
  induction path with
  | nil => rfl
  | cons c rest ih =>
    by_cases hslash : c = '/'
    · have hsame : namesOf (c :: rest) = namesOf rest := by
        unfold namesOf
        rw [hslash, splitOn_slash, List.filter_cons_of_neg (by decide)]
      have hrest : ¬DotFirst rest := by
        unfold DotFirst at h ⊢
        rw [← hsame]
        exact h
      rw [dropDots_cons (Or.inr hslash), hsame, ih hrest]
    · by_cases hdot : c = '.'
      · obtain ⟨part, parts, hparts, hcons⟩ := splitOn_cons_of_ne rest hslash
        cases part with
        | nil =>
          have hsame : namesOf (c :: rest) = namesOf rest := by
            unfold namesOf
            rw [hcons, hparts, hdot, List.filter_cons_of_neg (by decide),
              List.filter_cons_of_neg (by decide)]
          have hrest : ¬DotFirst rest := by
            unfold DotFirst at h ⊢
            rw [← hsame]
            exact h
          rw [dropDots_cons (Or.inl hdot), hsame, ih hrest]
        | cons d part =>
          refine absurd ⟨d :: part, parts.filter isName, ?_⟩ h
          unfold namesOf
          rw [hcons, hdot, List.filter_cons_of_pos rfl]
      · rw [dropDots_cons_of_not (not_or.mpr ⟨hdot, hslash⟩)]

/-- Unless its first name begins with a dot, a path leads to the same place. -/
theorem walk_dropDots (h : ¬DotFirst path) (place : Place) :
    walk place (dropDots path) = walk place path := by
  rw [walk_eq_foldl_namesOf, walk_eq_foldl_namesOf, namesOf_dropDots h]

/-- The parts behind the first one are parts of the path behind its first one. -/
theorem mem_tail_splitOn_dropDots {part : List Char}
    (h : part ∈ ((dropDots path).splitOn '/').tail) : part ∈ (path.splitOn '/').tail := by
  induction path with
  | nil => exact h
  | cons c rest ih =>
    by_cases hslash : c = '/'
    · rw [dropDots_cons (Or.inr hslash)] at h
      rw [hslash, splitOn_slash]
      exact List.mem_of_mem_tail (ih h)
    · by_cases hdot : c = '.'
      · rw [dropDots_cons (Or.inl hdot)] at h
        obtain ⟨first, parts, hparts, hcons⟩ := splitOn_cons_of_ne rest hslash
        have hrest := ih h
        rw [hparts] at hrest
        rw [hcons]
        exact hrest
      · rw [dropDots_cons_of_not (not_or.mpr ⟨hdot, hslash⟩)] at h
        exact h

theorem goesBack_of_dropDots (h : GoesBack (dropDots path)) : GoesBack path := by
  unfold GoesBack at h ⊢
  refine List.mem_of_mem_tail (mem_tail_splitOn_dropDots ?_)
  rcases splitOn_dropDots path with hnil | ⟨c, part, parts, hdot, hparts⟩
  · rw [hnil] at h
    exact absurd (List.mem_singleton.mp h) (List.cons_ne_nil _ _)
  · rw [hparts] at h ⊢
    rcases List.mem_cons.mp h with heq | hmem
    · exact absurd (List.cons.inj heq).1.symm hdot
    · exact hmem

/-- A path that never goes back leads to the same place without its leading dots and slashes exactly
when its first name does not begin with a dot. -/
theorem walk_dropDots_iff (hback : ¬GoesBack path) (place : Place) :
    walk place (dropDots path) = walk place path ↔ ¬DotFirst path := by
  constructor
  · intro h hdot
    rw [walk_of_not_goesBack (fun h => hback (goesBack_of_dropDots h)), walk_of_not_goesBack hback] at h
    have hnames := List.reverse_injective (List.append_cancel_right h)
    refine not_dotFirst_dropDots path ?_
    unfold DotFirst
    rw [hnames]
    exact hdot
  · exact fun h => walk_dropDots h place

end DropDots

/-! ### Last names -/

section LastPart

variable {path : List Char}

/-- What stands behind the last slash. -/
def lastPart (path : List Char) : List Char := (path.splitOn '/').getLast?.getD []

/-- The last part of the path is the name of what the path leads to. -/
def NamesFile (path : List Char) : Prop := (walk [] path).head? = some (lastPart path)

instance : DecidablePred NamesFile := fun _ => inferInstanceAs (Decidable (_ = _))

theorem lastPart_append (dir path : List Char) : lastPart (dir ++ '/' :: path) = lastPart path := by
  unfold lastPart
  rw [List.splitOn_append_cons_self, List.getLast?_append]
  cases hlast : (path.splitOn '/').getLast? with
  | none => exact absurd (List.getLast?_eq_none_iff.mp hlast) (List.splitOn_ne_nil _ _)
  | some part => rfl

/-- A path that never goes back names a file exactly when it does not end in a slash or a dot. -/
theorem namesFile_iff (hback : ¬GoesBack path) :
    NamesFile path ↔ isName (lastPart path) = true := by
  unfold NamesFile
  rw [walk_of_not_goesBack hback, List.append_nil, List.head?_reverse]
  constructor
  · intro h
    exact (List.mem_filter.mp (List.mem_of_getLast? h)).2
  · intro h
    have hparts := List.dropLast_append_getLast? (lastPart path) (by
      unfold lastPart
      cases hlast : (path.splitOn '/').getLast? with
      | none => exact absurd (List.getLast?_eq_none_iff.mp hlast) (List.splitOn_ne_nil _ _)
      | some part => rfl)
    unfold namesOf
    rw [← hparts, List.filter_append, List.filter_cons_of_pos h, List.filter_nil,
      List.getLast?_concat]

end LastPart

end PveManager.Core
