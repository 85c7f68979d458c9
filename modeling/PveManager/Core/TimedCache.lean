import Mathlib.Data.List.MinMax
import PveManager.Core.KeyedTable

/-!
# Caches whose entries age

A cache keeps one value under a key, with the time it was last stored. It is bounded: a
new key pushes the entry out that was stored longest ago.
-/

namespace PveManager.Core

universe u v

/-- A value under its key. -/
structure Timed (κ : Type u) (σ : Type v) where
  key : κ
  value : σ
  created : Nat

/-- Entries in storage order, one for each key. -/
abbrev TimedCache (κ : Type u) (σ : Type v) := KeyedTable (Timed.key : Timed κ σ → κ)

namespace TimedCache

variable {κ : Type u} {σ : Type v} [DecidableEq κ]

/-- The entry of a key, unless it was stored too long ago. -/
def live? (cache : TimedCache κ σ) (lifetime now : Nat) (k : κ) : Option (Timed κ σ) :=
  (cache.find? k).filter fun e => decide (now < e.created + lifetime)

/-- Without the entry that was stored longest ago when the cache is full. -/
def makeRoom (cache : TimedCache κ σ) (capacity : Nat) : TimedCache κ σ :=
  if capacity ≤ cache.rows.length then
    (cache.rows.argmin Timed.created).elim cache fun e => cache.erase e.key
  else cache

/-- Store an entry under a key that is not there. -/
def put (cache : TimedCache κ σ) (capacity : Nat) (e : Timed κ σ) : TimedCache κ σ :=
  (cache.makeRoom capacity).save e

variable {cache : TimedCache κ σ} {lifetime now capacity : Nat} {k : κ} {e e' : Timed κ σ}

/-- An entry that is found is stored, under its key, and young enough. -/
theorem live?_eq_some_iff :
    cache.live? lifetime now k = some e ↔
      cache.find? k = some e ∧ now < e.created + lifetime := by
  rw [live?, Option.filter_eq_some_iff, decide_eq_true_iff]

theorem mem_of_mem_makeRoom (h : e' ∈ (cache.makeRoom capacity).rows) : e' ∈ cache.rows := by
  unfold makeRoom at h
  split at h
  · cases hmin : cache.rows.argmin Timed.created with
    | none =>
      rw [hmin] at h
      exact h
    | some oldest =>
      rw [hmin] at h
      exact ((cache.mem_rows_erase oldest.key e').mp h).1
  · exact h

/-- A stored entry is the new one or an old one. -/
theorem eq_or_mem_of_mem_put (h : e' ∈ (cache.put capacity e).rows) : e' = e ∨ e' ∈ cache.rows := by
  rcases ((cache.makeRoom capacity).mem_rows_save e e').mp h with heq | ⟨hold, -⟩
  · exact Or.inl heq
  · exact Or.inr (mem_of_mem_makeRoom hold)

/-- Dropping a key that is there makes the cache smaller. -/
theorem length_erase_lt (h : e ∈ cache.rows) : (cache.erase e.key).rows.length < cache.rows.length := by
  refine List.length_filter_lt_length_iff_exists.mpr ⟨e, h, ?_⟩
  simp

/-- Making room leaves room for one. -/
theorem length_makeRoom_lt (hpos : 0 < capacity) (hle : cache.rows.length ≤ capacity) :
    (cache.makeRoom capacity).rows.length < capacity := by
  unfold makeRoom
  split
  · rename_i hfull
    cases hmin : cache.rows.argmin Timed.created with
    | none =>
      have hnil := List.argmin_eq_none.mp hmin
      rw [hnil] at hfull
      exact absurd hfull (Nat.not_le_of_lt hpos)
    | some oldest =>
      have hmem : oldest ∈ cache.rows := List.argmin_mem hmin
      exact Nat.lt_of_lt_of_le (length_erase_lt hmem) hle
  · rename_i hroom
    exact Nat.lt_of_not_le hroom

/-- Storing an entry adds at most one. -/
theorem length_save_le (cache : TimedCache κ σ) (e : Timed κ σ) :
    (cache.save e).rows.length ≤ cache.rows.length + 1 := by
  unfold KeyedTable.save
  split
  · rw [List.length_map]
    exact Nat.le_succ _
  · rw [List.length_append]
    exact Nat.le_refl _

/-- Storing an entry under a key that is there adds none. -/
theorem length_save_of_find? (h : cache.find? e.key = some e') :
    (cache.save e).rows.length = cache.rows.length := by
  unfold KeyedTable.save
  rw [dif_pos (by rw [h]; rfl), List.length_map]

/-- The capacity is kept. -/
theorem length_put_le (hpos : 0 < capacity) (hle : cache.rows.length ≤ capacity) :
    (cache.put capacity e).rows.length ≤ capacity := by
  have hroom := length_makeRoom_lt hpos hle
  have hsave := length_save_le (cache.makeRoom capacity) e
  unfold put
  omega

end TimedCache

end PveManager.Core
