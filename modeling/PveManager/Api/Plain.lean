import PveManager.Api.Handler
import PveManager.Core.Outcome

/-!
# Handlers as plain computations

A handler whose answers from outside are given beforehand is a computation that
ends with a value or an exception.
-/

namespace PveManager.Api

/-- A condition or an exception. -/
def ensure (b : Bool) (e : Exc) : Except Exc Unit := if b then .ok () else .error e

/-- `except HTTPException: raise`, and every other exception becomes a server error. -/
def serverError : Exc → Exc
  | .http status detail => .http status detail
  | .other text => .http 500 text

theorem ensure_eq_ok_iff {b : Bool} {e : Exc} {u : Unit} : ensure b e = .ok u ↔ b = true := by
  cases b with
  | true => exact iff_of_true rfl rfl
  | false => exact iff_of_false (fun h => by cases h) Bool.false_ne_true

end PveManager.Api
