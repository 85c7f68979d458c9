import Mathlib.Data.List.Basic

/-!
# Cron expressions

The common language of cron fields: lists of numbers, names and ranges with
steps. A dialect says which numbers a field takes, what the names mean and which
number stands for a moment; two dialects differ only in how they number the days
of the week. The standard rule takes the two day fields as alternatives when both
are restricted.
-/

namespace PveManager.Cron

/-- The fields in the order of an expression. -/
inductive Field
  | minute
  | hour
  | day
  | month
  | weekday
  deriving DecidableEq, Repr

/-- All fields. -/
def Field.all : List Field := [.minute, .hour, .day, .month, .weekday]

theorem Field.mem_all (f : Field) : f ∈ Field.all := by
  cases f <;> simp [Field.all]

/-! ### The calendar -/

/-- The Gregorian leap years. -/
def leapYear (year : Nat) : Bool :=
  decide (year % 4 = 0 ∧ (year % 100 ≠ 0 ∨ year % 400 = 0))

def daysInMonth (year month : Nat) : Nat :=
  if month = 2 then if leapYear year then 29 else 28
  else if month ∈ [4, 6, 9, 11] then 30 else 31

/-- One minute of the calendar. -/
structure Moment where
  year : Nat
  month : Nat
  day : Nat
  hour : Nat
  minute : Nat
  month_mem : 1 ≤ month ∧ month ≤ 12
  day_mem : 1 ≤ day ∧ day ≤ daysInMonth year month
  hour_lt : hour < 24
  minute_lt : minute < 60

/-- The day of the week, Monday being 0. -/
def Moment.weekday (t : Moment) : Nat :=
  let year := if t.month < 3 then t.year - 1 else t.year
  let shift := [0, 3, 2, 5, 0, 3, 5, 1, 4, 6, 2, 4].getD (t.month - 1) 0
  (year + year / 4 - year / 100 + year / 400 + shift + t.day + 6) % 7

theorem Moment.weekday_lt (t : Moment) : t.weekday < 7 := Nat.mod_lt _ (by omega)

/-! ### The language -/

/-- A number or a name. -/
inductive Token
  | number (n : Nat)
  | name (letters : List Char)
  deriving DecidableEq, Repr

inductive Base
  | star
  | value (a : Token)
  | range (a b : Token)
  deriving DecidableEq, Repr

/-- One element of a list, with its step. -/
structure Item where
  base : Base
  step : Option Nat
  deriving DecidableEq, Repr

def parseNumber (chars : List Char) : Option Nat :=
  if chars ≠ [] ∧ chars.all Char.isDigit then
    some (chars.foldl (fun n c => 10 * n + (c.toNat - '0'.toNat)) 0)
  else none

def parseToken (chars : List Char) : Option Token :=
  match parseNumber chars with
  | some n => some (.number n)
  | none =>
    if chars ≠ [] ∧ chars.all Char.isAlpha then some (.name (chars.map Char.toLower)) else none

def parseBase (chars : List Char) : Option Base :=
  if chars = ['*'] then some .star
  else
    match chars.splitOn '-' with
    | [a] => (parseToken a).map .value
    | [a, b] => do
      let a ← parseToken a
      let b ← parseToken b
      pure (.range a b)
    | _ => none

def parseItem (chars : List Char) : Option Item :=
  match chars.splitOn '/' with
  | [base] => (parseBase base).map fun base => ⟨base, none⟩
  | [base, step] => do
    let base ← parseBase base
    let step ← parseNumber step
    pure ⟨base, some step⟩
  | _ => none

/-- The elements of a field. -/
def parseField (chars : List Char) : Option (List Item) := (chars.splitOn ',').mapM parseItem

/-! ### Dialects -/

/-- How the numbers and names of a field are read. -/
structure Dialect where
  first : Field → Nat
  last : Field → Nat
  name : Field → List Char → Option Nat
  /-- The number stands for the field of the moment. -/
  stands : Field → Moment → Nat → Bool

/-- The numbers from `lo` to `hi`, `step` apart. -/
structure Range where
  lo : Nat
  hi : Nat
  step : Nat
  deriving DecidableEq, Repr

namespace Dialect

variable (d : Dialect)

def value (f : Field) : Token → Option Nat
  | .number n => some n
  | .name letters => d.name f letters

/-- The numbers an element means; a step needs a range. -/
def resolve (f : Field) (item : Item) : Option Range := do
  let range : Range ← match item.base, item.step with
    | .star, step => some ⟨d.first f, d.last f, step.getD 1⟩
    | .value a, none => (d.value f a).map fun a => ⟨a, a, 1⟩
    | .value _, some _ => none
    | .range a b, step => do
      let a ← d.value f a
      let b ← d.value f b
      pure ⟨a, b, step.getD 1⟩
  if d.first f ≤ range.lo ∧ range.lo ≤ range.hi ∧ range.hi ≤ d.last f ∧ 0 < range.step then
    some range
  else none

/-- All elements of a field, when each of them means something. -/
def read (f : Field) (chars : List Char) : Option (List Range) := do
  let items ← parseField chars
  items.mapM (d.resolve f)

/-- One of the numbers stands for the moment. -/
def hits (f : Field) (t : Moment) (r : Range) : Bool :=
  (List.range (r.hi + 1)).any fun n =>
    decide (r.lo ≤ n ∧ (n - r.lo) % r.step = 0) && d.stands f t n

/-- The moment is among those the field selects; a field without a meaning selects none. -/
def selects (f : Field) (chars : List Char) (t : Moment) : Bool :=
  ((d.read f chars).getD []).any (d.hits f t)

end Dialect

def monthNames : List (List Char) :=
  ["jan", "feb", "mar", "apr", "may", "jun", "jul", "aug", "sep", "oct", "nov", "dec"].map
    String.toList

def dayNames : List (List Char) := ["mon", "tue", "wed", "thu", "fri", "sat", "sun"].map String.toList

/-- The place of a name in a list, where it is one. -/
def place (names : List (List Char)) (letters : List Char) : Option Nat :=
  if letters ∈ names then some (names.idxOf letters) else none

/-- Standard cron: 0 and 7 are Sunday. -/
def standard : Dialect where
  first
    | .day | .month => 1
    | .minute | .hour | .weekday => 0
  last
    | .minute => 59
    | .hour => 23
    | .day => 31
    | .month => 12
    | .weekday => 7
  name
    | .month, letters => (place monthNames letters).map (· + 1)
    | .weekday, letters => (place dayNames letters).map fun n => (n + 1) % 7
    | _, _ => none
  stands
    | .minute, t, n => decide (n = t.minute)
    | .hour, t, n => decide (n = t.hour)
    | .day, t, n => decide (n = t.day)
    | .month, t, n => decide (n = t.month)
    | .weekday, t, n => decide (n % 7 = (t.weekday + 1) % 7)

/-- The same with days of the week from Monday, which is 0. -/
def fromMonday : Dialect where
  first := standard.first
  last
    | .weekday => 6
    | f => standard.last f
  name
    | .weekday, letters => place dayNames letters
    | f, letters => standard.name f letters
  stands
    | .weekday, t, n => decide (n = t.weekday)
    | f, t, n => standard.stands f t n

/-- Only the days of the week are read differently. -/
theorem fromMonday_read {f : Field} (hf : f ≠ .weekday) (chars : List Char) :
    fromMonday.read f chars = standard.read f chars := by
  have hresolve : fromMonday.resolve f = standard.resolve f := by
    funext item
    unfold Dialect.resolve Dialect.value
    cases f with
    | weekday => exact absurd rfl hf
    | minute => rfl
    | hour => rfl
    | day => rfl
    | month => rfl
  unfold Dialect.read
  rw [hresolve]

theorem fromMonday_selects {f : Field} (hf : f ≠ .weekday) (chars : List Char) (t : Moment) :
    fromMonday.selects f chars t = standard.selects f chars t := by
  have hhits : fromMonday.hits f t = standard.hits f t := by
    funext r
    unfold Dialect.hits
    cases f with
    | weekday => exact absurd rfl hf
    | minute => rfl
    | hour => rfl
    | day => rfl
    | month => rfl
  unfold Dialect.selects
  rw [fromMonday_read hf, hhits]

/-! ### Expressions -/

/-- The texts of the five fields. -/
abbrev Expression := Field → List Char

/-- Every field means something. -/
def Dialect.reads (d : Dialect) (e : Expression) : Prop := ∀ f, (d.read f (e f)).isSome = true

instance (d : Dialect) (e : Expression) : Decidable (d.reads e) :=
  decidable_of_iff (∀ f ∈ Field.all, (d.read f (e f)).isSome = true)
    ⟨fun h f => h f f.mem_all, fun h f _ => h f⟩

/-- A field that does not begin with a star. -/
def restricted (chars : List Char) : Bool := decide (chars.head? ≠ some '*')

/-- The two day fields are alternatives when both are restricted. -/
def dayMatches (e : Expression) (t : Moment) : Bool :=
  if restricted (e .day) && restricted (e .weekday) then
    standard.selects .day (e .day) t || standard.selects .weekday (e .weekday) t
  else standard.selects .day (e .day) t && standard.selects .weekday (e .weekday) t

/-- The standard rule for a moment. -/
def Matches (e : Expression) (t : Moment) : Prop :=
  standard.reads e ∧ standard.selects .minute (e .minute) t = true ∧
    standard.selects .hour (e .hour) t = true ∧ standard.selects .month (e .month) t = true ∧
    dayMatches e t = true

instance (e : Expression) (t : Moment) : Decidable (Matches e t) :=
  inferInstanceAs (Decidable (_ ∧ _ ∧ _ ∧ _ ∧ _))

/-- No step of a field exceeds its range. -/
def Dialect.stepsFit (d : Dialect) (e : Expression) : Prop :=
  ∀ f, ∀ r ∈ (d.read f (e f)).getD [], r.step = 1 ∨ r.step ≤ r.hi - r.lo

instance (d : Dialect) (e : Expression) : Decidable (d.stepsFit e) :=
  decidable_of_iff
    (∀ f ∈ Field.all, ∀ r ∈ (d.read f (e f)).getD [], r.step = 1 ∨ r.step ≤ r.hi - r.lo)
    ⟨fun h f => h f f.mem_all, fun h f _ => h f⟩

/-- A star selects every day of the week. -/
theorem fromMonday_selects_star (t : Moment) : fromMonday.selects .weekday ['*'] t = true := by
  have hread : fromMonday.read .weekday ['*'] = some [⟨0, 6, 1⟩] := by decide
  have hlt := t.weekday_lt
  simp only [Dialect.selects, hread, Option.getD_some, List.any_cons, List.any_nil, Bool.or_false,
    Dialect.hits, List.any_eq_true, List.mem_range, Bool.and_eq_true, decide_eq_true_eq]
  exact ⟨t.weekday, by omega, ⟨Nat.zero_le _, Nat.mod_one _⟩, by simp [fromMonday]⟩

theorem standard_selects_star (t : Moment) : standard.selects .weekday ['*'] t = true := by
  have hread : standard.read .weekday ['*'] = some [⟨0, 7, 1⟩] := by decide
  have hlt := t.weekday_lt
  simp only [Dialect.selects, hread, Option.getD_some, List.any_cons, List.any_nil, Bool.or_false,
    Dialect.hits, List.any_eq_true, List.mem_range, Bool.and_eq_true, decide_eq_true_eq]
  exact ⟨t.weekday + 1, by omega, ⟨Nat.zero_le _, Nat.mod_one _⟩, by simp [standard]⟩

/-- Read by conjunction with days from Monday, the expression selects the moments it matches. -/
structure Portable (e : Expression) : Prop where
  reads : fromMonday.reads e
  standard : standard.reads e
  /-- The days of the week are the same in both numberings. -/
  weekdays : ∀ t, fromMonday.selects .weekday (e .weekday) t =
    Cron.standard.selects .weekday (e .weekday) t
  /-- Two restricted day fields select the same days of the selected months. -/
  days : restricted (e .day) = true → restricted (e .weekday) = true → ∀ t,
    Cron.standard.selects .month (e .month) t = true →
      (Cron.standard.selects .day (e .day) t = true ↔
        Cron.standard.selects .weekday (e .weekday) t = true)

/-- With any weekday an expression that both dialects accept is portable. -/
theorem portable_of_star {e : Expression} (hm : fromMonday.reads e) (hs : standard.reads e)
    (hw : e .weekday = ['*']) : Portable e where
  reads := hm
  standard := hs
  weekdays := fun t => by rw [hw, fromMonday_selects_star, standard_selects_star]
  days := fun _ h => by rw [hw] at h; cases h

/-- For a portable expression the conjunction of the fields is the standard rule. -/
theorem Portable.forall_selects_iff {e : Expression} (h : Portable e) (t : Moment) :
    (∀ f, fromMonday.selects f (e f) t = true) ↔ Matches e t := by
  have hall : (∀ f, fromMonday.selects f (e f) t = true) ↔
      Cron.standard.selects .minute (e .minute) t = true ∧
        Cron.standard.selects .hour (e .hour) t = true ∧
        Cron.standard.selects .month (e .month) t = true ∧
        Cron.standard.selects .day (e .day) t = true ∧
        Cron.standard.selects .weekday (e .weekday) t = true := by
    constructor
    · intro hf
      refine ⟨?_, ?_, ?_, ?_, ?_⟩
      · rw [← fromMonday_selects (by simp)]
        exact hf .minute
      · rw [← fromMonday_selects (by simp)]
        exact hf .hour
      · rw [← fromMonday_selects (by simp)]
        exact hf .month
      · rw [← fromMonday_selects (by simp)]
        exact hf .day
      · rw [← h.weekdays]
        exact hf .weekday
    · rintro ⟨hmin, hhour, hmonth, hday, hwd⟩ f
      cases f with
      | minute => rwa [fromMonday_selects (by simp)]
      | hour => rwa [fromMonday_selects (by simp)]
      | day => rwa [fromMonday_selects (by simp)]
      | month => rwa [fromMonday_selects (by simp)]
      | weekday => rwa [h.weekdays]
  rw [hall]
  unfold Matches dayMatches
  refine Iff.trans ?_ (and_iff_right h.standard).symm
  refine and_congr_right fun _ => and_congr_right fun _ => and_congr_right fun hmonth => ?_
  by_cases hr : (restricted (e .day) && restricted (e .weekday)) = true
  · rw [if_pos hr]
    obtain ⟨hd, hw⟩ := Bool.and_eq_true_iff.mp hr
    rw [Bool.or_eq_true, h.days hd hw t hmonth, and_self, or_self]
  · rw [if_neg hr, Bool.and_eq_true]

end PveManager.Cron
