import Mathlib.Data.Finset.Card
import Mathlib.Data.List.Basic
import Mathlib.Logic.Function.Basic

/-!
# Watchers

A watcher keeps one memory cell per key, fires on some observations and updates
the cell of the observation's key. What it fires on under one key depends on the
observations under that key only, so a property that one cell guarantees for its
own firings leaves the pairs of different keys as the only ones to look at.
-/

namespace PveManager.Core

universe u v w x

/-- When a cell makes an observation fire, and what the cell holds afterwards. -/
structure Watcher (O : Type u) (K : Type v) (M : Type w) where
  key : O → K
  fires : M → O → Bool
  next : M → O → M

namespace Watcher

variable {O : Type u} {K : Type v} {M : Type w} [DecidableEq K] (w : Watcher O K M)

/-- The cells after an observation. -/
def step (mem : K → M) (o : O) : K → M := Function.update mem (w.key o) (w.next (mem (w.key o)) o)

/-- The observations that fire, in order, each with the cell it met. -/
def fired : (K → M) → List O → List (M × O)
  | _, [] => []
  | mem, o :: os =>
    if w.fires (mem (w.key o)) o then (mem (w.key o), o) :: fired (w.step mem o) os
    else fired (w.step mem o) os

variable {w}

theorem step_of_key_eq {mem : K → M} {o : O} {k : K} (h : w.key o = k) :
    w.step mem o k = w.next (mem k) o := by
  subst h
  exact Function.update_self ..

theorem step_of_key_ne {mem : K → M} {o : O} {k : K} (h : w.key o ≠ k) :
    w.step mem o k = mem k :=
  Function.update_of_ne h.symm ..

/-- Observations in two parts fire in two parts. -/
theorem fired_append (mem : K → M) (os os' : List O) :
    w.fired mem (os ++ os') = w.fired mem os ++ w.fired (os.foldl w.step mem) os' := by
  induction os generalizing mem with
  | nil => rfl
  | cons o os ih =>
    simp only [List.cons_append, fired, List.foldl_cons, ih]
    split <;> rfl

section Emit

variable {T : Type x} (w) (emit : M × O → List T)

/-- The cells and a log that every firing adds to. -/
def run (d : (K → M) × List T) (os : List O) : (K → M) × List T :=
  (os.foldl w.step d.1, d.2 ++ (w.fired d.1 os).flatMap emit)

@[simp] theorem run_nil (d : (K → M) × List T) : w.run emit d [] = d := by simp [run, fired]

theorem run_append (d : (K → M) × List T) (os os' : List O) :
    w.run emit d (os ++ os') = w.run emit (w.run emit d os) os' := by
  simp [run, fired_append, List.foldl_append, List.append_assoc]

/-- One observation that fires. -/
theorem run_singleton_of_fires {d : (K → M) × List T} {o : O}
    (h : w.fires (d.1 (w.key o)) o = true) :
    w.run emit d [o] = (w.step d.1 o, d.2 ++ emit (d.1 (w.key o), o)) := by
  simp [run, fired, h]

/-- One observation that does not fire. -/
theorem run_singleton_of_not_fires {d : (K → M) × List T} {o : O}
    (h : ¬w.fires (d.1 (w.key o)) o = true) : w.run emit d [o] = (w.step d.1 o, d.2) := by
  simp [run, fired, h]

end Emit

/-- What a cell remembers of a firing, before the observations still to come; `T` orders the
observations of one key. -/
structure Remembers (w : Watcher O K M) (T R : O → O → Prop) (P : O → M → List O → Prop) :
    Prop where
  fire : ∀ m o os, (∀ b ∈ os, w.key b = w.key o → T o b) → w.fires m o = true →
    P o (w.next m o) os
  keep : ∀ a m o os, w.key o = w.key a → (∀ b ∈ os, w.key b = w.key o → T o b) →
    P a m (o :: os) → P a (w.next m o) os
  skip : ∀ a m o os, w.key o ≠ w.key a → P a m (o :: os) → P a m os
  clear : ∀ a m o os, w.key o = w.key a → P a m (o :: os) → w.fires m o = true → R a o

variable {T R : O → O → Prop} {P : O → M → List O → Prop}

/-- A remembered firing is related to the later firings of its key. -/
private theorem related_of_remembered (h : w.Remembers T R P) {a : O} {mem : K → M} {os : List O}
    (ht : os.Pairwise fun o b => w.key b = w.key o → T o b) (ha : P a (mem (w.key a)) os) :
    ∀ b ∈ w.fired mem os, w.key b.2 = w.key a → R a b.2 := by
  induction os generalizing mem with
  | nil => simp [fired]
  | cons o os ih =>
    obtain ⟨hto, ht⟩ := List.pairwise_cons.mp ht
    have hnext : P a (w.step mem o (w.key a)) os := by
      by_cases hk : w.key o = w.key a
      · rw [step_of_key_eq hk]
        exact h.keep a _ o os hk hto ha
      · rw [step_of_key_ne hk]
        exact h.skip a _ o os hk ha
    intro b hb hkb
    unfold fired at hb
    split at hb
    · rename_i hfires
      rcases List.mem_cons.mp hb with rfl | hb
      · exact h.clear a _ o os hkb ha (hkb ▸ hfires)
      · exact ih ht hnext b hb hkb
    · exact ih ht hnext b hb hkb

/-- The firings of one key are related in order. -/
theorem pairwise_fired (h : w.Remembers T R P) (mem : K → M) {os : List O}
    (ht : os.Pairwise fun o b => w.key b = w.key o → T o b) :
    (w.fired mem os).Pairwise fun a b => w.key b.2 = w.key a.2 → R a.2 b.2 := by
  induction os generalizing mem with
  | nil => exact List.Pairwise.nil
  | cons o os ih =>
    obtain ⟨hto, ht⟩ := List.pairwise_cons.mp ht
    unfold fired
    split
    · rename_i hfires
      refine List.pairwise_cons.mpr ⟨?_, ih _ ht⟩
      have ho : P o (w.step mem o (w.key o)) os := by
        rw [step_of_key_eq rfl]
        exact h.fire _ o os hto hfires
      exact related_of_remembered h ht ho
    · exact ih _ ht

/-- Among some firings, only pairs of different keys can fail to be related. -/
theorem pairwise_iff_of_remembers (h : w.Remembers T R P) (mem : K → M) {os : List O}
    (ht : os.Pairwise fun o b => w.key b = w.key o → T o b) {l : List (M × O)}
    (hl : l.Sublist (w.fired mem os)) {S : O → O → Prop}
    (hS : ∀ a b, (w.key b ≠ w.key a → R a b) ↔ S a b) :
    (l.Pairwise fun a b => R a.2 b.2) ↔ l.Pairwise fun a b => S a.2 b.2 := by
  constructor
  · intro hp
    exact hp.imp fun {a b} hr => (hS a.2 b.2).mp fun _ => hr
  · intro hp
    have hsame := (pairwise_fired h mem ht).sublist hl
    refine (hp.and hsame).imp ?_
    rintro a b ⟨hother, hsame⟩
    by_cases hk : w.key b.2 = w.key a.2
    · exact hsame hk
    · exact (hS a.2 b.2).mpr hother hk

end Watcher

/-! ### Counting -/

/-- The total is the number of different items. -/
def CountsOnce {α : Type u} (items : List α) (total : Nat) : Prop :=
  ∃ distinct : Finset α, (∀ a, a ∈ distinct ↔ a ∈ items) ∧ total = distinct.card

/-- The length of a list counts every item once exactly when no item is repeated. -/
theorem countsOnce_length_iff {α : Type u} {items : List α} :
    CountsOnce items items.length ↔ items.Nodup := by
  classical
  constructor
  · rintro ⟨distinct, hmem, hcard⟩
    have hset : distinct = items.toFinset := by
      ext a
      rw [hmem, List.mem_toFinset]
    rw [hset, List.card_toFinset] at hcard
    have heq : items.dedup = items :=
      (List.dedup_sublist items).eq_of_length hcard.symm
    exact List.dedup_eq_self.mp heq
  · intro h
    exact ⟨items.toFinset, fun a => List.mem_toFinset, (List.toFinset_card_of_nodup h).symm⟩

/-- The same for items read through a function. -/
theorem countsOnce_map_iff {α : Type u} {β : Type v} (f : α → β) (items : List α) :
    CountsOnce (items.map f) items.length ↔ (items.map f).Nodup := by
  rw [← countsOnce_length_iff, List.length_map]

/-- Two counts of the same items are equal. -/
theorem CountsOnce.eq_of_same {α : Type u} {items items' : List α} {n n' : Nat}
    (h : CountsOnce items n) (h' : CountsOnce items' n') (hsame : ∀ a, a ∈ items ↔ a ∈ items') :
    n = n' := by
  obtain ⟨distinct, hmem, rfl⟩ := h
  obtain ⟨distinct', hmem', rfl⟩ := h'
  have hset : distinct = distinct' := by
    ext a
    rw [hmem, hmem', hsame]
  rw [hset]

end PveManager.Core
