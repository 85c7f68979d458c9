import Mathlib.Data.List.Basic

/-!
# Matching a whole word

The part of `grep -w` that patterns of literal characters and dots use: a dot accepts
every character, and a match counts when no letter, digit or underscore stands next to
it. Nothing here names a program.
-/

namespace PveManager.Core.Grep

/-- A dot accepts every character, another character itself. -/
def Accepts (p c : Char) : Prop := p = '.' ∨ p = c

instance (p c : Char) : Decidable (Accepts p c) := inferInstanceAs (Decidable (_ ∨ _))

/-- What follows a match at the start of a text. -/
def matchHere : List Char → List Char → Option (List Char)
  | [], cs => some cs
  | p :: ps, c :: cs => if Accepts p c then matchHere ps cs else none
  | _ :: _, [] => none

/-- A letter, a digit or an underscore. -/
def isWordChar (c : Char) : Bool := c.isAlphanum || c == '_'

/-- The end of the text, or a character that belongs to no word. -/
def boundary : Option Char → Bool
  | none => true
  | some c => !isWordChar c

/-- A match that counts, in a text that comes after `before`. -/
def wordFrom (pattern : List Char) (before : Option Char) : List Char → Bool
  | [] => boundary before && (matchHere pattern []).isSome
  | c :: cs =>
    boundary before && (matchHere pattern (c :: cs)).any (fun rest => boundary rest.head?) ||
      wordFrom pattern (some c) cs

/-- `grep -w` on one line. -/
def hasWord (pattern line : List Char) : Bool := wordFrom pattern none line

/-- A text matches itself. -/
theorem matchHere_append (pattern rest : List Char) :
    matchHere pattern (pattern ++ rest) = some rest := by
  induction pattern with
  | nil => rfl
  | cons p ps ih => rw [List.cons_append, matchHere, if_pos (show Accepts p p from Or.inr rfl), ih]

theorem wordFrom_self {pattern post : List Char} {before : Option Char}
    (hbefore : boundary before) (hpost : boundary post.head?) :
    wordFrom pattern before (pattern ++ post) := by
  have hmatch := matchHere_append pattern post
  cases h : pattern ++ post with
  | nil => simp [wordFrom, hbefore, ← h, hmatch]
  | cons c cs =>
    rw [wordFrom, ← h, hmatch]
    simp [hbefore, hpost]

/-- A text that stands between boundaries is found. -/
theorem hasWord_of_between {pattern pre post : List Char} (hpre : boundary pre.getLast?)
    (hpost : boundary post.head?) : hasWord pattern (pre ++ (pattern ++ post)) := by
  have hfrom : ∀ before, boundary (pre.getLast?.or before) →
      wordFrom pattern before (pre ++ (pattern ++ post)) := by
    clear hpre
    induction pre with
    | nil => exact fun before hbefore => wordFrom_self hbefore hpost
    | cons c pre ih =>
      intro before hbefore
      have hrest : boundary (pre.getLast?.or (some c)) := by
        cases pre with
        | nil => exact hbefore
        | cons d pre => simpa [List.getLast?_cons] using hbefore
      rw [List.cons_append, wordFrom, ih (some c) hrest, Bool.or_true]
  exact hfrom none (by simpa using hpre)

end PveManager.Core.Grep
