import Mathlib.Logic.Basic

/-!
# Outcomes

Computations that end with a value or an error, read backwards: a sequence that
ends well has parts that ended well.
-/

namespace PveManager.Core

variable {ε α β : Type}

/-- A sequence that ends well has a first part that ended well. -/
theorem bind_ok {x : Except ε α} {f : α → Except ε β} {b : β} (h : (x >>= f) = .ok b) :
    ∃ a, x = .ok a ∧ f a = .ok b := by
  cases x with
  | error e => cases h
  | ok a => exact ⟨a, rfl, h⟩

/-- What follows a part that ended well. -/
theorem bind_of_ok {x : Except ε α} {a : α} (hx : x = .ok a) (f : α → Except ε β) :
    (x >>= f) = f a := by
  rw [hx]
  rfl

/-- A sequence ends well exactly when both parts do. -/
theorem bind_eq_ok_iff {x : Except ε α} {f : α → Except ε β} {b : β} :
    (x >>= f) = .ok b ↔ ∃ a, x = .ok a ∧ f a = .ok b := by
  constructor
  · exact bind_ok
  · rintro ⟨a, hx, hf⟩
    rw [bind_of_ok hx, hf]

/-- Another text for the error leaves the value. -/
theorem mapError_eq_ok_iff {ε' : Type} {f : ε → ε'} {x : Except ε α} {a : α} :
    x.mapError f = .ok a ↔ x = .ok a := by
  cases x with
  | ok b => exact ⟨fun h => congrArg _ (Except.ok.inj h), fun h => congrArg _ (Except.ok.inj h)⟩
  | error e => exact iff_of_false (fun h => by cases h) fun h => by cases h

/-- Every error of the computation meets a condition. -/
def ErrorsMeet (P : ε → Prop) (x : Except ε α) : Prop := ∀ e, x = .error e → P e

theorem errorsMeet_ok {P : ε → Prop} {a : α} : ErrorsMeet P (.ok a : Except ε α) := by
  intro e he
  cases he

theorem errorsMeet_error {P : ε → Prop} {e : ε} (h : P e) :
    ErrorsMeet P (.error e : Except ε α) := by
  intro e' he
  cases he
  exact h

/-- The errors of a sequence are those of its parts. -/
theorem errorsMeet_bind {P : ε → Prop} {x : Except ε α} {f : α → Except ε β}
    (hx : ErrorsMeet P x) (hf : ∀ a, x = .ok a → ErrorsMeet P (f a)) : ErrorsMeet P (x >>= f) := by
  cases x with
  | error e => exact errorsMeet_error (hx e rfl)
  | ok a => exact hf a rfl

end PveManager.Core
