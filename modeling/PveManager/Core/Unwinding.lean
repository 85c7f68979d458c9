import Mathlib.Data.List.Basic
import PveManager.Core.Run

/-!
# Two runs side by side

A run may contain elements that an observer must not see. Two runs stand alongside
when what the observer may see faces its like in the same order; elements that are
hidden stand alone. Steps that keep a relation of the states, on a pair of likes and
on a single hidden element, keep it over the whole runs.
-/

namespace PveManager.Core

universe u v w x

section Steps

variable {σ : Type u} {ε : Type v}

/-- A loop that a step may leave; the flag says that it goes on. -/
def runWhile (step : σ → ε → σ × Bool) : σ → List ε → σ
  | s, [] => s
  | s, e :: es => if (step s e).2 = true then runWhile step (step s e).1 es else (step s e).1

/-- Every step that the loop gets to meets a condition in its own state. -/
def Along (step : σ → ε → σ × Bool) (ok : σ → ε → Prop) : σ → List ε → Prop
  | _, [] => True
  | s, e :: es => ok s e ∧ ((step s e).2 = true → Along step ok (step s e).1 es)

end Steps

section Alongside

variable {α : Type u} {β : Type v} {σ : Type w} {τ : Type x}

/-- Two lists that differ in hidden elements only. -/
inductive Alongside (hidden : α → Prop) (hidden' : β → Prop) (alike : α → β → Prop) :
    List α → List β → Prop
  | nil : Alongside hidden hidden' alike [] []
  | left {a as bs} : hidden a → Alongside hidden hidden' alike as bs →
      Alongside hidden hidden' alike (a :: as) bs
  | right {b as bs} : hidden' b → Alongside hidden hidden' alike as bs →
      Alongside hidden hidden' alike as (b :: bs)
  | both {a b as bs} : alike a b → Alongside hidden hidden' alike as bs →
      Alongside hidden hidden' alike (a :: as) (b :: bs)

variable {hidden : α → Prop} {hidden' : β → Prop} {alike : α → β → Prop}

/-- Lists with the same selection stand alongside, each element read in its own way. -/
theorem alongside_of_filter_eq {γ : Type*} {p : γ → Bool} {f : γ → α} {g : γ → β}
    (hleft : ∀ c, p c = false → hidden (f c)) (hright : ∀ c, p c = false → hidden' (g c))
    (hboth : ∀ c, p c = true → alike (f c) (g c)) :
    ∀ {xs ys : List γ}, xs.filter p = ys.filter p →
      Alongside hidden hidden' alike (xs.map f) (ys.map g)
  | [], [], _ => .nil
  | [], y :: ys, h => by
    have hy : p y = false := by
      cases hp : p y with
      | true => exact absurd h (by rw [List.filter_cons_of_pos hp]; exact (List.cons_ne_nil _ _).symm)
      | false => rfl
    rw [List.filter_cons_of_neg (Bool.eq_false_iff.mp hy)] at h
    exact .right (hright y hy) (alongside_of_filter_eq hleft hright hboth h)
  | x :: xs, [], h => by
    have hx : p x = false := by
      cases hp : p x with
      | true => exact absurd h (by rw [List.filter_cons_of_pos hp]; exact List.cons_ne_nil _ _)
      | false => rfl
    rw [List.filter_cons_of_neg (Bool.eq_false_iff.mp hx)] at h
    exact .left (hleft x hx) (alongside_of_filter_eq hleft hright hboth h)
  | x :: xs, y :: ys, h => by
    cases hx : p x with
    | false =>
      rw [List.filter_cons_of_neg (Bool.eq_false_iff.mp hx)] at h
      exact .left (hleft x hx)
        (alongside_of_filter_eq hleft hright hboth h)
    | true =>
      cases hy : p y with
      | false =>
        rw [List.filter_cons_of_neg (l := ys) (Bool.eq_false_iff.mp hy)] at h
        exact .right (hright y hy)
          (alongside_of_filter_eq hleft hright hboth h)
      | true =>
        rw [List.filter_cons_of_pos hx, List.filter_cons_of_pos hy, List.cons.injEq] at h
        obtain ⟨rfl, h⟩ := h
        exact .both (hboth x hx) (alongside_of_filter_eq hleft hright hboth h)

variable {step : σ → α → σ × Bool} {step' : τ → β → τ × Bool} {ok : σ → α → Prop}
  {ok' : τ → β → Prop} {R : σ → τ → Prop}

/-- Loops over lists that stand alongside keep what their steps keep. A hidden element must not
end a loop. -/
theorem Alongside.runWhile {as : List α} {bs : List β}
    (h : Alongside hidden hidden' alike as bs)
    (hleft : ∀ s t a, hidden a → ok s a → R s t → (step s a).2 = true ∧ R (step s a).1 t)
    (hright : ∀ s t b, hidden' b → ok' t b → R s t → (step' t b).2 = true ∧ R s (step' t b).1)
    (hboth : ∀ s t a b, alike a b → R s t →
      (step s a).2 = (step' t b).2 ∧ R (step s a).1 (step' t b).1)
    {s : σ} {t : τ} (hR : R s t) (hok : Along step ok s as) (hok' : Along step' ok' t bs) :
    R (Core.runWhile step s as) (Core.runWhile step' t bs) := by
  induction h generalizing s t with
  | nil => exact hR
  | @left a as bs hhidden _ ih =>
    obtain ⟨hon, hnext⟩ := hleft s t a hhidden hok.1 hR
    rw [Core.runWhile, if_pos hon]
    exact ih hnext (hok.2 hon) hok'
  | @right b as bs hhidden _ ih =>
    obtain ⟨hon, hnext⟩ := hright s t b hhidden hok'.1 hR
    rw [Core.runWhile.eq_2 step', if_pos hon]
    exact ih hnext hok (hok'.2 hon)
  | @both a b as bs halike _ ih =>
    obtain ⟨hflag, hnext⟩ := hboth s t a b halike hR
    rw [Core.runWhile, Core.runWhile]
    cases hon : (step s a).2 with
    | true =>
      rw [if_pos rfl, if_pos (hflag.symm.trans hon)]
      exact ih hnext (hok.2 hon) (hok'.2 (hflag.symm.trans hon))
    | false =>
      rw [if_neg Bool.false_ne_true, if_neg (by rw [← hflag, hon]; exact Bool.false_ne_true)]
      exact hnext

variable {f : σ → α → σ} {g : τ → β → τ}

/-- The same for folds. -/
theorem Alongside.foldl {as : List α} {bs : List β} (h : Alongside hidden hidden' alike as bs)
    (hleft : ∀ s t a, hidden a → ok s a → R s t → R (f s a) t)
    (hright : ∀ s t b, hidden' b → ok' t b → R s t → R s (g t b))
    (hboth : ∀ s t a b, alike a b → ok s a → ok' t b → R s t → R (f s a) (g t b)) {s : σ} {t : τ}
    (hR : R s t) (hok : Guarded f ok s as) (hok' : Guarded g ok' t bs) :
    R (as.foldl f s) (bs.foldl g t) := by
  induction h generalizing s t with
  | nil => exact hR
  | left hhidden _ ih => exact ih (hleft _ _ _ hhidden hok.1 hR) hok.2 hok'
  | right hhidden _ ih => exact ih (hright _ _ _ hhidden hok'.1 hR) hok hok'.2
  | both halike _ ih =>
    exact ih (hboth _ _ _ _ halike hok.1 hok'.1 hR) hok.2 hok'.2

/-- Runs step by step: steps that face each other keep the relation of the states. -/
theorem foldl_of_forall₂ {P : α → β → Prop} {as : List α} {bs : List β} (h : List.Forall₂ P as bs)
    (hstep : ∀ s t a b, P a b → ok s a → ok' t b → R s t → R (f s a) (g t b)) {s : σ} {t : τ}
    (hR : R s t) (hok : Guarded f ok s as) (hok' : Guarded g ok' t bs) :
    R (as.foldl f s) (bs.foldl g t) := by
  induction h generalizing s t with
  | nil => exact hR
  | cons hP _ ih => exact ih (hstep _ _ _ _ hP hok.1 hok'.1 hR) hok.2 hok'.2

end Alongside

end PveManager.Core
