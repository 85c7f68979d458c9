import Mathlib.Data.List.Sort
import PveManager.Core.KeyedTable

/-!
# First come, first kept

A row is stored only where its key is free, so a table filled from several sources in turn
shows, under each key, what the first source with that key has. The order of the sources
does not matter exactly when they agree.
-/

namespace PveManager.Core

universe u v w

namespace KeyedTable

variable {α : Type u} {κ : Type v} {key : α → κ}

theorem eq_of_rows_eq {t t' : KeyedTable key} (h : t.rows = t'.rows) : t = t' := by
  cases t
  cases t'
  cases h
  rfl

section Keep

variable [DecidableEq κ]

/-- Store a row unless there is one of its key. -/
def keep (t : KeyedTable key) (x : α) : KeyedTable key :=
  if (t.find? (key x)).isSome then t else t.save x

/-- What was there comes before the new row. -/
theorem find?_keep (t : KeyedTable key) (x : α) (k : κ) :
    (t.keep x).find? k = (t.find? k).or (if key x = k then some x else none) := by
  unfold keep
  by_cases hk : key x = k
  · subst hk
    rw [if_pos rfl]
    cases hf : t.find? (key x) with
    | none => simp [find?_save]
    | some a => simp [hf]
  · rw [if_neg hk, Option.or_none]
    split
    · rfl
    · rw [find?_save, if_neg hk]

/-- After rows are kept one by one, a key shows what was there, or its first new row. -/
theorem find?_foldl_keep (xs : List α) (t : KeyedTable key) (k : κ) :
    (xs.foldl keep t).find? k = (t.find? k).or (xs.find? fun x => decide (key x = k)) := by
  induction xs generalizing t with
  | nil => simp
  | cons x xs ih =>
    rw [List.foldl_cons, ih, find?_keep, List.find?_cons, Option.or_assoc]
    by_cases hk : key x = k
    · simp [hk]
    · simp [hk]

/-- A saved row replaces the row of its key, or is appended. -/
theorem rows_save (t : KeyedTable key) (x : α) :
    (t.save x).rows = if (t.find? (key x)).isSome then
      t.rows.map fun a => if key a = key x then x else a else t.rows ++ [x] := by
  unfold save
  split <;> rfl

/-- A change of the rows that leaves the keys alone may come before a save or after it. -/
theorem mapRows_save (t : KeyedTable key) (x : α) {f : α → α} (hf : ∀ a, key (f a) = key a) :
    (t.save x).mapRows f hf = (t.mapRows f hf).save (f x) := by
  have hfind : ((t.mapRows f hf).find? (key (f x))).isSome = (t.find? (key x)).isSome := by
    rw [hf, find?_mapRows, Option.isSome_map]
  refine eq_of_rows_eq ?_
  rw [rows_mapRows, rows_save, rows_save, hfind]
  split
  · rw [rows_mapRows, List.map_map, List.map_map]
    refine List.map_congr_left fun a _ => ?_
    by_cases ha : key a = key x
    · simp [ha, hf]
    · simp [ha, hf]
  · rw [rows_mapRows, List.map_append, List.map_cons, List.map_nil]

/-- The same for rows that are kept. -/
theorem mapRows_foldl_keep (xs : List α) (t : KeyedTable key) {f : α → α}
    (hf : ∀ a, key (f a) = key a) :
    (xs.foldl keep t).mapRows f hf = (xs.map f).foldl keep (t.mapRows f hf) := by
  induction xs generalizing t with
  | nil => rfl
  | cons x xs ih =>
    rw [List.foldl_cons, ih, List.map_cons, List.foldl_cons]
    congr 1
    unfold keep
    rw [hf, find?_mapRows, Option.isSome_map]
    split
    · rfl
    · exact mapRows_save t x hf

end Keep

/-- Sorted by their keys, two tables look the same exactly when the same views are in both. -/
theorem map_insertionSort_eq_iff {β : Type w} [LinearOrder κ] {view : α → β} {viewKey : β → κ}
    (hkey : ∀ a, viewKey (view a) = key a) (t t' : KeyedTable key) :
    (t.rows.insertionSort fun a b => key a ≤ key b).map view =
        (t'.rows.insertionSort fun a b => key a ≤ key b).map view ↔
      ∀ y, y ∈ t.rows.map view ↔ y ∈ t'.rows.map view := by
  have hmem : ∀ (t : KeyedTable key) y,
      y ∈ (t.rows.insertionSort fun a b => key a ≤ key b).map view ↔ y ∈ t.rows.map view :=
    fun t y => ((List.perm_insertionSort _ t.rows).map view).mem_iff
  have hsorted : ∀ t : KeyedTable key,
      ((t.rows.insertionSort fun a b => key a ≤ key b).map view).Pairwise fun x y =>
        viewKey x < viewKey y := by
    intro t
    have : Std.Total fun a b => key a ≤ key b := ⟨fun a b => le_total (key a) (key b)⟩
    have : IsTrans α fun a b => key a ≤ key b := ⟨fun _ _ _ => le_trans⟩
    have hle := List.pairwise_insertionSort (fun a b => key a ≤ key b) t.rows
    have hne : (t.rows.insertionSort fun a b => key a ≤ key b).Pairwise fun a b => key a ≠ key b :=
      List.pairwise_map.mp (((List.perm_insertionSort _ t.rows).map key).nodup_iff.mpr t.keys_nodup)
    refine List.pairwise_map.mpr ((hle.and hne).imp fun h => ?_)
    rw [hkey, hkey]
    exact lt_of_le_of_ne h.1 h.2
  constructor
  · intro h y
    rw [← hmem t, ← hmem t', h]
  · intro h
    have : Std.Irrefl fun x y => viewKey x < viewKey y := ⟨fun _ => lt_irrefl _⟩
    refine List.Pairwise.eq_of_mem_iff (hsorted t) (hsorted t') fun y => ?_
    rw [hmem, hmem, h]

end KeyedTable

variable {α : Type u} {β : Type v} {γ : Type w}

/-- Whatever the order of the sources, the first that has something shows the same, exactly
when any two that have something show the same. -/
theorem findSome?_perm_iff (f : α → Option β) (view : β → γ) (l : List α) :
    (∀ l' : List α, l'.Perm l → (l'.findSome? f).map view = (l.findSome? f).map view) ↔
      ∀ a ∈ l, ∀ b ∈ l, ∀ x y, f a = some x → f b = some y → view x = view y := by
  classical
  constructor
  · intro h a ha b hb x y hx hy
    have hfirst : ∀ c ∈ l, ∀ z, f c = some z → (l.findSome? f).map view = some (view z) := by
      intro c hc z hz
      have hperm := h (c :: l.erase c) (List.perm_cons_erase hc).symm
      rw [← hperm, List.findSome?_cons, hz]
      rfl
    exact Option.some.inj ((hfirst a ha x hx).symm.trans (hfirst b hb y hy))
  · intro h l' hl'
    cases hfound : l.findSome? f with
    | none =>
      have hnone : l'.findSome? f = none := by
        rw [List.findSome?_eq_none_iff] at hfound ⊢
        exact fun a ha => hfound a (hl'.mem_iff.mp ha)
      rw [hnone]
    | some x =>
      obtain ⟨a, ha, hx⟩ := List.exists_of_findSome?_eq_some hfound
      cases hfound' : l'.findSome? f with
      | none =>
        rw [List.findSome?_eq_none_iff] at hfound'
        rw [hfound' a (hl'.mem_iff.mpr ha)] at hx
        cases hx
      | some y =>
        obtain ⟨b, hb, hy⟩ := List.exists_of_findSome?_eq_some hfound'
        rw [Option.map_some, Option.map_some, h b (hl'.mem_iff.mp hb) a ha y x hy hx]

end PveManager.Core
