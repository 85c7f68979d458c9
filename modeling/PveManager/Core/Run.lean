import Mathlib.Data.List.Basic

/-!
# Runs of a step function

A system is a step function on states. A run visits the state after every
prefix of its steps. `Guarded` says that every step of a run meets a condition
in the state it is taken in; an invariant that guarded steps keep then holds in
every visited state.
-/

namespace PveManager.Core

universe u v

variable {σ : Type u} {ε : Type v}

/-- The states a run visits, the first one included. -/
def visited (step : σ → ε → σ) : σ → List ε → List σ
  | s, [] => [s]
  | s, e :: es => s :: visited step (step s e) es

/-- Every step of the run meets the guard in its own state. -/
def Guarded (step : σ → ε → σ) (guard : σ → ε → Prop) : σ → List ε → Prop
  | _, [] => True
  | s, e :: es => guard s e ∧ Guarded step guard (step s e) es

/-- A run visits its last state. -/
theorem foldl_mem_visited (step : σ → ε → σ) (s : σ) (es : List ε) :
    es.foldl step s ∈ visited step s es := by
  induction es generalizing s with
  | nil => exact List.mem_singleton_self _
  | cons e es ih => exact List.mem_cons_of_mem _ (ih (step s e))

/-- Without a guard every run is guarded. -/
theorem guarded_true (step : σ → ε → σ) (s : σ) (es : List ε) :
    Guarded step (fun _ _ => True) s es := by
  induction es generalizing s with
  | nil => trivial
  | cons e es ih => exact ⟨trivial, ih (step s e)⟩

/-- A condition on the events alone. -/
theorem guarded_of_forall {step : σ → ε → σ} {p : ε → Prop} {es : List ε} (h : ∀ e ∈ es, p e)
    (s : σ) : Guarded step (fun _ e => p e) s es := by
  induction es generalizing s with
  | nil => trivial
  | cons e es ih =>
    exact ⟨h e List.mem_cons_self, ih (fun e' he' => h e' (List.mem_cons_of_mem _ he')) (step s e)⟩

/-- Guards that agree on every step guard the same runs. -/
theorem guarded_congr {step : σ → ε → σ} {guard guard' : σ → ε → Prop}
    (h : ∀ s e, guard s e ↔ guard' s e) {s : σ} {es : List ε} :
    Guarded step guard s es ↔ Guarded step guard' s es := by
  induction es generalizing s with
  | nil => exact Iff.rfl
  | cons e es ih => exact and_congr (h s e) ih

/-- An invariant kept by every guarded step holds in every state of a guarded run. -/
theorem invariant_of_guarded {step : σ → ε → σ} {guard : σ → ε → Prop} {P : σ → Prop}
    (hstep : ∀ s e, P s → guard s e → P (step s e)) {s : σ} (h0 : P s) {es : List ε}
    (hg : Guarded step guard s es) : ∀ s' ∈ visited step s es, P s' := by
  induction es generalizing s with
  | nil =>
    intro s' hs'
    rw [visited, List.mem_singleton] at hs'
    exact hs' ▸ h0
  | cons e es ih =>
    intro s' hs'
    rcases List.mem_cons.mp hs' with rfl | hs'
    · exact h0
    · exact ih (hstep s e h0 hg.1) hg.2 s' hs'

/-- An invariant kept by every step holds in every visited state. -/
theorem invariant_of_step {step : σ → ε → σ} {P : σ → Prop}
    (hstep : ∀ s e, P s → P (step s e)) {s : σ} (h0 : P s) (es : List ε) :
    ∀ s' ∈ visited step s es, P s' :=
  invariant_of_guarded (fun s e h _ => hstep s e h) h0 (guarded_true step s es)

/-- Guarded steps that keep an invariant do in every run what they do where it holds. -/
theorem guarded_of_invariant {step : σ → ε → σ} {guard guard' : σ → ε → Prop} {P : σ → Prop}
    (hkeep : ∀ s e, P s → guard s e → P (step s e))
    (hgives : ∀ s e, P s → guard s e → guard' s e) {s : σ} (h0 : P s) {es : List ε}
    (h : Guarded step guard s es) : Guarded step guard' s es := by
  induction es generalizing s with
  | nil => trivial
  | cons e es ih => exact ⟨hgives s e h0 h.1, ih (hkeep s e h0 h.1) h.2⟩

/-- What a step keeps where a property holds, a run keeps where it holds all along. -/
theorem invariant_of_visited {step : σ → ε → σ} {P Q : σ → Prop}
    (hstep : ∀ s e, P s → Q s → Q (step s e)) {s : σ} (h0 : Q s) {es : List ε}
    (hP : ∀ s' ∈ visited step s es, P s') : ∀ s' ∈ visited step s es, Q s' := by
  induction es generalizing s with
  | nil =>
    intro s' hs'
    rw [visited, List.mem_singleton] at hs'
    exact hs' ▸ h0
  | cons e es ih =>
    intro s' hs'
    rcases List.mem_cons.mp hs' with rfl | hs'
    · exact h0
    · exact ih (hstep s e (hP s List.mem_cons_self) h0)
        (fun s' hs' => hP s' (List.mem_cons_of_mem _ hs')) s' hs'

/-- Where a step keeps the invariant exactly when it meets the guard, so does a run. -/
theorem forall_visited_iff_guarded {step : σ → ε → σ} {guard : σ → ε → Prop} {P : σ → Prop}
    {s : σ} {es : List ε} (hstep : ∀ s, ∀ e ∈ es, P s → (P (step s e) ↔ guard s e)) (h0 : P s) :
    (∀ s' ∈ visited step s es, P s') ↔ Guarded step guard s es := by
  induction es generalizing s with
  | nil =>
    refine iff_of_true (fun s' hs' => ?_) trivial
    rw [visited, List.mem_singleton] at hs'
    exact hs' ▸ h0
  | cons e es ih =>
    have hrest : ∀ s, ∀ e' ∈ es, P s → (P (step s e') ↔ guard s e') :=
      fun s e' he' => hstep s e' (List.mem_cons_of_mem _ he')
    have hhead := hstep s e List.mem_cons_self h0
    constructor
    · intro h
      have hnext : P (step s e) := by
        refine h _ (List.mem_cons_of_mem _ ?_)
        cases es with
        | nil => exact List.mem_singleton_self _
        | cons e' es => exact List.mem_cons_self
      exact ⟨hhead.mp hnext, (ih hrest hnext).mp fun s' hs' => h s' (List.mem_cons_of_mem _ hs')⟩
    · rintro ⟨hg, hgs⟩ s' hs'
      rcases List.mem_cons.mp hs' with rfl | hs'
      · exact h0
      · exact (ih hrest (hhead.mpr hg)).mpr hgs s' hs'

/-- A property of every visited state, with the invariant that a step keeps where it gives the
property. -/
theorem forall_visited_iff_guarded_of_kept {step : σ → ε → σ} {guard : σ → ε → Prop}
    {P Q : σ → Prop} (hgives : ∀ s, Q s → P s)
    (hstep : ∀ s e, Q s → (P (step s e) ↔ guard s e))
    (hkeep : ∀ s e, Q s → P (step s e) → Q (step s e)) {s : σ} (h0 : Q s) {es : List ε} :
    (∀ s' ∈ visited step s es, P s') ↔ Guarded step guard s es := by
  have hiff : ∀ s e, Q s → (Q (step s e) ↔ guard s e) := fun s e hs =>
    ⟨fun h => (hstep s e hs).mp (hgives _ h), fun h => hkeep s e hs ((hstep s e hs).mpr h)⟩
  rw [← forall_visited_iff_guarded (fun s e _ => hiff s e) h0]
  constructor
  · intro h
    induction es generalizing s with
    | nil =>
      intro s' hs'
      rw [visited, List.mem_singleton] at hs'
      exact hs' ▸ h0
    | cons e es ih =>
      intro s' hs'
      rcases List.mem_cons.mp hs' with rfl | hs'
      · exact h0
      · have hrest : ∀ s' ∈ visited step (step s e) es, P s' :=
          fun s' hs' => h s' (List.mem_cons_of_mem _ hs')
        have hnext : P (step s e) := by
          refine hrest _ ?_
          cases es with
          | nil => exact List.mem_singleton_self _
          | cons e' es => exact List.mem_cons_self
        exact ih (hkeep s e h0 hnext) hrest s' hs'
  · exact fun h s' hs' => hgives s' (h s' hs')

/-- Where a step outside the guard loses something for good, a run ends with the invariant
exactly when every step meets the guard. -/
theorem foldl_iff_guarded {step : σ → ε → σ} {guard : σ → ε → Prop} {P Q : σ → Prop}
    (hkeep : ∀ s e, P s → guard s e → P (step s e))
    (hlose : ∀ s e, P s → ¬guard s e → Q (step s e))
    (hstay : ∀ s e, Q s → Q (step s e)) (hexcl : ∀ s, Q s → ¬P s) {s : σ} (h0 : P s)
    {es : List ε} : P (es.foldl step s) ↔ Guarded step guard s es := by
  have hgone : ∀ (es : List ε) (s : σ), Q s → ¬P (es.foldl step s) := by
    intro es
    induction es with
    | nil => exact hexcl
    | cons e es ih => exact fun s hs => ih (step s e) (hstay s e hs)
  induction es generalizing s with
  | nil => exact iff_of_true h0 trivial
  | cons e es ih =>
    by_cases hg : guard s e
    · exact (ih (hkeep s e h0 hg)).trans (and_iff_right hg).symm
    · exact iff_of_false (hgone es _ (hlose s e h0 hg)) fun h => hg h.1

end PveManager.Core
