import Mathlib.Data.List.Nodup

/-!
# Folds that work apart

A fold whose steps each change one part of the state only. Where the items name
different parts, every part sees at most one step, and that step finds it as the
fold found it.
-/

namespace PveManager.Core

universe u v w x

variable {σ : Type u} {α : Type v} {κ : Type w} {β : Type x}

/-- A part that no item names is left alone. -/
theorem part_foldl_of_forall_ne {step : σ → α → σ} {key : α → κ} {part : κ → σ → β}
    (hframe : ∀ s a k, key a ≠ k → part k (step s a) = part k s) (s : σ) (k : κ) {as : List α}
    (hk : ∀ a ∈ as, key a ≠ k) : part k (as.foldl step s) = part k s := by
  induction as generalizing s with
  | nil => rfl
  | cons a as ih =>
    rw [List.foldl_cons, ih _ fun b hb => hk b (List.mem_cons_of_mem _ hb)]
    exact hframe s a k (hk a List.mem_cons_self)

/-- The part that an item names sees the step of this item alone. -/
theorem part_foldl_of_mem {step : σ → α → σ} {key : α → κ} {part : κ → σ → β}
    (hframe : ∀ s a k, key a ≠ k → part k (step s a) = part k s) (s : σ) {as : List α}
    (hnd : (as.map key).Nodup) {a : α} (ha : a ∈ as) :
    ∃ s', part (key a) s' = part (key a) s ∧
      part (key a) (as.foldl step s) = part (key a) (step s' a) := by
  induction as generalizing s with
  | nil => exact absurd ha List.not_mem_nil
  | cons b as ih =>
    obtain ⟨hb, hnd⟩ := List.nodup_cons.mp hnd
    rw [List.foldl_cons]
    rcases List.mem_cons.mp ha with rfl | ha
    · refine ⟨s, rfl, part_foldl_of_forall_ne hframe _ _ fun c hc hck => hb ?_⟩
      exact List.mem_map.mpr ⟨c, hc, hck⟩
    · have hne : key b ≠ key a := fun heq => hb (heq ▸ List.mem_map.mpr ⟨a, ha, rfl⟩)
      obtain ⟨s', hs', h⟩ := ih (step s b) hnd ha
      exact ⟨s', hs'.trans (hframe s b _ hne), h⟩

/-- A part is left alone, or the one item that names it takes its step there. -/
theorem part_foldl {step : σ → α → σ} {key : α → κ} {part : κ → σ → β}
    (hframe : ∀ s a k, key a ≠ k → part k (step s a) = part k s) (s : σ) (k : κ) {as : List α}
    (hnd : (as.map key).Nodup) :
    part k (as.foldl step s) = part k s ∨
      ∃ a ∈ as, key a = k ∧ ∃ s', part k s' = part k s ∧
        part k (as.foldl step s) = part k (step s' a) := by
  by_cases hk : ∃ a ∈ as, key a = k
  · obtain ⟨a, ha, rfl⟩ := hk
    exact Or.inr ⟨a, ha, rfl, part_foldl_of_mem hframe s hnd ha⟩
  · exact Or.inl (part_foldl_of_forall_ne hframe s k fun a ha hak => hk ⟨a, ha, hak⟩)

end PveManager.Core
