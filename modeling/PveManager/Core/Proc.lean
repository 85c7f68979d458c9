import Mathlib.Data.List.Basic
import Mathlib.Logic.Function.Basic

/-!
# Procedures that call an environment

A procedure returns a value, raises an exception, or makes a call and continues
with the answer. What it does against an environment is a list of calls and an
outcome; the environment may answer every call by what was called before. The
run lemmas execute a procedure written with `do`, and `Only` bounds the calls it
can make against any environment.
-/

namespace PveManager.Core

/-- The calls an environment understands, each with the type of its answer. -/
structure Interface where
  Call : Type
  Answer : Call → Type

/-- Procedures over an interface, with exceptions. -/
inductive Proc (I : Interface) (ε α : Type) : Type
  | pure (a : α)
  | throw (e : ε)
  | call (c : I.Call) (next : I.Answer c → Proc I ε α)

/-- An environment answers a call knowing the calls before it. -/
abbrev Environment (I : Interface) := List I.Call → (c : I.Call) → I.Answer c

namespace Proc

variable {I : Interface} {ε α β : Type}

/-- Continue with the value, unless an exception was raised. -/
def bind : Proc I ε α → (α → Proc I ε β) → Proc I ε β
  | .pure a, f => f a
  | .throw e, _ => .throw e
  | .call c next, f => .call c fun a => (next a).bind f

/-- Handle the exception. -/
def handle : Proc I ε α → (ε → Proc I ε α) → Proc I ε α
  | .pure a, _ => .pure a
  | .throw e, f => f e
  | .call c next, f => .call c fun a => (next a).handle f

instance : Monad (Proc I ε) where
  pure := Proc.pure
  bind := Proc.bind

/-- Sequencing is associative. -/
theorem bind_assoc {γ : Type} (p : Proc I ε α) (f : α → Proc I ε β) (g : β → Proc I ε γ) :
    (p.bind f).bind g = p.bind fun a => (f a).bind g := by
  induction p with
  | pure a => rfl
  | throw e => rfl
  | call c next ih => exact congrArg (call c) (funext ih)

theorem bind_pure (p : Proc I ε α) : p.bind .pure = p := by
  induction p with
  | pure a => rfl
  | throw e => rfl
  | call c next ih => exact congrArg (call c) (funext ih)

instance : LawfulMonad (Proc I ε) :=
  LawfulMonad.mk' (Proc I ε) bind_pure (fun _ _ => rfl) bind_assoc

instance : MonadExceptOf ε (Proc I ε) where
  throw := Proc.throw
  tryCatch := Proc.handle

/-- Make one call. -/
def ask (c : I.Call) : Proc I ε (I.Answer c) := .call c .pure

/-- Raise the exception unless the condition holds. -/
def ensure (b : Bool) (e : ε) : Proc I ε Unit := if b then .pure () else .throw e

/-- The calls made after `h` and the outcome. -/
def run (env : Environment I) : List I.Call → Proc I ε α → List I.Call × Except ε α
  | h, .pure a => (h, .ok a)
  | h, .throw e => (h, .error e)
  | h, .call c next => run env (h ++ [c]) (next (env h c))

section Run

variable (env : Environment I) (h : List I.Call)

@[simp] theorem run_pure (a : α) : run env h (Pure.pure a : Proc I ε α) = (h, .ok a) := rfl

@[simp] theorem run_throw (e : ε) :
    run env h (MonadExcept.throw e : Proc I ε α) = (h, .error e) := rfl

@[simp] theorem run_ask (c : I.Call) :
    run env h (ask c : Proc I ε (I.Answer c)) = (h ++ [c], .ok (env h c)) := rfl

/-- A sequence runs its second part after the calls of the first. -/
theorem run_bind (p : Proc I ε α) (f : α → Proc I ε β) :
    run env h (p >>= f) =
      match run env h p with
      | (h', .ok a) => run env h' (f a)
      | (h', .error e) => (h', .error e) := by
  change run env h (p.bind f) = _
  induction p generalizing h with
  | pure a => rfl
  | throw e => rfl
  | call c next ih => exact ih (env h c) (h ++ [c])

/-- A handler runs after the calls of the part that raised. -/
theorem run_tryCatch (p : Proc I ε α) (f : ε → Proc I ε α) :
    run env h (tryCatch p f) =
      match run env h p with
      | (h', .ok a) => (h', .ok a)
      | (h', .error e) => run env h' (f e) := by
  change run env h (p.handle f) = _
  induction p generalizing h with
  | pure a => rfl
  | throw e => rfl
  | call c next ih => exact ih (env h c) (h ++ [c])

/-- A call is made before everything that follows it. -/
theorem run_ask_bind (c : I.Call) (f : I.Answer c → Proc I ε β) :
    run env h (ask c >>= f) = run env (h ++ [c]) (f (env h c)) := rfl

/-- A condition that holds is passed. -/
theorem run_ensure_bind_of {b : Bool} {e : ε} (hb : b = true) (f : Unit → Proc I ε β) :
    run env h (ensure b e >>= f) = run env h (f ()) := by
  rw [hb]
  rfl

/-- A condition that fails ends the procedure. -/
theorem run_ensure_bind_of_not {b : Bool} {e : ε} (hb : b = false) (f : Unit → Proc I ε β) :
    run env h (ensure b e >>= f) = (h, .error e) := by
  rw [hb]
  rfl

end Run

/-- Every call the procedure can make, whatever it is answered, meets a condition. -/
def Only (P : I.Call → Prop) : Proc I ε α → Prop
  | .pure _ => True
  | .throw _ => True
  | .call c next => P c ∧ ∀ a, (next a).Only P

section Only

variable {P : I.Call → Prop}

theorem only_pure (a : α) : (Pure.pure a : Proc I ε α).Only P := trivial

theorem only_throw (e : ε) : (MonadExcept.throw e : Proc I ε α).Only P := trivial

theorem only_ask {c : I.Call} (hc : P c) : (ask c : Proc I ε (I.Answer c)).Only P :=
  ⟨hc, fun _ => trivial⟩

theorem only_ensure (b : Bool) (e : ε) : (ensure b e : Proc I ε Unit).Only P := by
  cases b with
  | false => trivial
  | true => trivial

theorem only_bind {p : Proc I ε α} {f : α → Proc I ε β} (hp : p.Only P)
    (hf : ∀ a, (f a).Only P) : (p >>= f).Only P := by
  change (p.bind f).Only P
  induction p with
  | pure a => exact hf a
  | throw e => trivial
  | call c next ih => exact ⟨hp.1, fun a => ih a (hp.2 a)⟩

/-- What follows a condition is only reached where it holds. -/
theorem only_ensure_bind {b : Bool} {e : ε} {f : Unit → Proc I ε β}
    (hf : b = true → (f ()).Only P) : (ensure b e >>= f).Only P := by
  cases b with
  | false => trivial
  | true => exact hf rfl

theorem only_tryCatch {p : Proc I ε α} {f : ε → Proc I ε α} (hp : p.Only P)
    (hf : ∀ e, (f e).Only P) : (tryCatch p f).Only P := by
  change (p.handle f).Only P
  induction p with
  | pure a => trivial
  | throw e => exact hf e
  | call c next ih => exact ⟨hp.1, fun a => ih a (hp.2 a)⟩

/-- A procedure bounded by a condition makes only such calls. -/
theorem run_only {p : Proc I ε α} (hp : p.Only P) (env : Environment I) {h : List I.Call}
    (hh : ∀ c ∈ h, P c) : ∀ c ∈ (run env h p).1, P c := by
  induction p generalizing h with
  | pure a => exact hh
  | throw e => exact hh
  | call c next ih =>
    refine ih (env h c) (hp.2 _) ?_
    intro d hd
    rcases List.mem_append.mp hd with hd | hd
    · exact hh d hd
    · rw [List.mem_singleton.mp hd]
      exact hp.1

end Only

/-- The same procedure over a larger interface. -/
def embed {J : Interface} {ε' : Type} (f : I.Call → J.Call)
    (g : (c : I.Call) → J.Answer (f c) → I.Answer c) (e : ε → ε') : Proc I ε α → Proc J ε' α
  | .pure a => .pure a
  | .throw x => .throw (e x)
  | .call c next => .call (f c) fun a => (next (g c a)).embed f g e

/-- The environment an embedded procedure meets after the calls `h`. -/
def pull {J : Interface} (f : I.Call → J.Call) (g : (c : I.Call) → J.Answer (f c) → I.Answer c)
    (env : Environment J) (h : List J.Call) : Environment I :=
  fun h' c => g c (env (h ++ h'.map f) (f c))

/-- An embedded procedure makes the same calls. -/
theorem run_embed {J : Interface} {ε' : Type} (f : I.Call → J.Call)
    (g : (c : I.Call) → J.Answer (f c) → I.Answer c) (e : ε → ε') (env : Environment J)
    (h : List J.Call) (h' : List I.Call) (p : Proc I ε α) :
    run env (h ++ h'.map f) (p.embed f g e) =
      (h ++ (run (pull f g env h) h' p).1.map f, (run (pull f g env h) h' p).2.mapError e) := by
  induction p generalizing h' with
  | pure a => rfl
  | throw x => rfl
  | call c next ih =>
    have hc : h ++ h'.map f ++ [f c] = h ++ (h' ++ [c]).map f := by simp
    rw [embed, run, hc, ih]
    rfl

/-- The calls made before a procedure stay. -/
theorem prefix_run (env : Environment I) (h : List I.Call) (p : Proc I ε α) :
    h <+: (run env h p).1 := by
  induction p generalizing h with
  | pure a => exact List.prefix_refl h
  | throw e => exact List.prefix_refl h
  | call c next ih => exact (List.prefix_append h [c]).trans (ih _ (h ++ [c]))

end Proc

end PveManager.Core
