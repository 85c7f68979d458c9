import PveManager.Core.Proc

/-!
# Phases of a procedure

An observer keeps a phase that every call and its answer move on. A procedure
leads to a kind of phases when it ends in them however its calls are answered.
-/

namespace PveManager.Core

/-- How a call and its answer move the phase. -/
abbrev Phasing (I : Interface) (φ : Type) := φ → (c : I.Call) → I.Answer c → φ

namespace Proc

variable {I : Interface} {φ ε α β : Type} (next : Phasing I φ)

/-- However the calls are answered, the end is in a phase that meets the condition. -/
def Leads (Q : φ → Except ε α → Prop) : φ → Proc I ε α → Prop
  | x, .pure a => Q x (.ok a)
  | x, .throw e => Q x (.error e)
  | x, .call c k => ∀ a, Leads Q (next x c a) (k a)

variable {next} {x : φ}

/-- The first part of a sequence leads to where the second part starts. -/
theorem leads_bind {Q : φ → Except ε β → Prop} {p : Proc I ε α} {f : α → Proc I ε β} :
    (p >>= f).Leads next Q x ↔
      p.Leads next (fun y r => match r with
        | .ok a => (f a).Leads next Q y
        | .error e => Q y (.error e)) x := by
  change (p.bind f).Leads next Q x ↔ _
  induction p generalizing x with
  | pure a => exact Iff.rfl
  | throw e => exact Iff.rfl
  | call c k ih => exact forall_congr' fun a => ih a

/-- The handler starts in the phase the exception left. -/
theorem leads_tryCatch {Q : φ → Except ε α → Prop} {p : Proc I ε α} {f : ε → Proc I ε α} :
    (tryCatch p f).Leads next Q x ↔
      p.Leads next (fun y r => match r with
        | .ok a => Q y (.ok a)
        | .error e => (f e).Leads next Q y) x := by
  change (p.handle f).Leads next Q x ↔ _
  induction p generalizing x with
  | pure a => exact Iff.rfl
  | throw e => exact Iff.rfl
  | call c k ih => exact forall_congr' fun a => ih a

/-- Calls that keep a kind of phases lead to phases of that kind. -/
theorem leads_of_only {P : I.Call → Prop} {J : φ → Prop}
    (hkeeps : ∀ y c a, P c → J y → J (next y c a)) {Q : φ → Except ε α → Prop}
    (hQ : ∀ y r, J y → Q y r) {p : Proc I ε α} (hp : p.Only P) (hx : J x) :
    p.Leads next Q x := by
  induction p generalizing x with
  | pure a => exact hQ x (.ok a) hx
  | throw e => exact hQ x (.error e) hx
  | call c k ih =>
    intro a
    exact ih a (hp.2 a) (hkeeps x c a hp.1 hx)

end Proc

end PveManager.Core
