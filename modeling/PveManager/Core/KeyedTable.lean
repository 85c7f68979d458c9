import Mathlib.Data.List.Nodup
import Mathlib.Data.List.Perm.Basic

/-!
# Tables with a unique key

A table keeps its rows in storage order together with the proof that no two of
them share a key, so a lookup by key has one answer. Every operation returns a
table again, and each comes with the lemma that says what a lookup in the
result reads. Nothing here names a particular record type.
-/

namespace PveManager.Core

universe u v

/-- Rows in storage order, no two of which share a key. -/
structure KeyedTable {α : Type u} {κ : Type v} (key : α → κ) where
  /-- The rows as the store lists them. -/
  rows : List α
  /-- The unique index on the key column. -/
  keys_nodup : (rows.map key).Nodup

namespace KeyedTable

variable {α : Type u} {κ : Type v} {key : α → κ}

/-- The table without rows. -/
def empty : KeyedTable key := ⟨[], List.nodup_nil⟩

/-- Rows of one key are equal, by the unique index. -/
theorem eq_of_key_eq (t : KeyedTable key) {a b : α} (ha : a ∈ t.rows) (hb : b ∈ t.rows)
    (h : key a = key b) : a = b :=
  List.inj_on_of_nodup_map t.keys_nodup ha hb h

/-- Rows selected by a condition keep their order and their distinct keys. -/
def filter (t : KeyedTable key) (p : α → Bool) : KeyedTable key where
  rows := t.rows.filter p
  keys_nodup := t.keys_nodup.sublist (List.filter_sublist.map key)

@[simp] theorem rows_filter (t : KeyedTable key) (p : α → Bool) :
    (t.filter p).rows = t.rows.filter p := rfl

/-- A condition that all rows meet selects all of them. -/
theorem filter_eq_self (t : KeyedTable key) {p : α → Bool} (h : ∀ a ∈ t.rows, p a = true) :
    t.filter p = t := by
  cases t with
  | mk rows keys_nodup =>
    unfold filter
    congr 1
    exact List.filter_eq_self.mpr h

/-- Rewrite every row by a function that leaves the key alone. -/
def mapRows (t : KeyedTable key) (f : α → α) (hf : ∀ a, key (f a) = key a) : KeyedTable key where
  rows := t.rows.map f
  keys_nodup := by
    have he : (t.rows.map f).map key = t.rows.map key := by
      rw [List.map_map]
      exact List.map_congr_left fun a _ => hf a
    rw [he]
    exact t.keys_nodup

@[simp] theorem rows_mapRows (t : KeyedTable key) (f : α → α) (hf : ∀ a, key (f a) = key a) :
    (t.mapRows f hf).rows = t.rows.map f := rfl

section Lookup

variable [DecidableEq κ]

/-- The row stored under a key. -/
def find? (t : KeyedTable key) (k : κ) : Option α := t.rows.find? fun a => key a = k

/-- A lookup answers exactly the stored row of that key. -/
theorem find?_eq_some_iff (t : KeyedTable key) {k : κ} {a : α} :
    t.find? k = some a ↔ a ∈ t.rows ∧ key a = k := by
  constructor
  · intro h
    exact ⟨List.mem_of_find?_eq_some h, by simpa using List.find?_some h⟩
  · rintro ⟨hm, hk⟩
    cases hf : t.find? k with
    | none =>
      have hn := List.find?_eq_none.mp hf a hm
      simp [hk] at hn
    | some b =>
      have hb : key b = k := by simpa using List.find?_some hf
      rw [t.eq_of_key_eq hm (List.mem_of_find?_eq_some hf) (hk.trans hb.symm)]

/-- A lookup fails exactly when no row has the key. -/
theorem find?_eq_none_iff (t : KeyedTable key) {k : κ} :
    t.find? k = none ↔ ∀ a ∈ t.rows, key a ≠ k := by
  simp [find?, List.find?_eq_none]

/-- Every stored row is found under its own key. -/
theorem find?_key (t : KeyedTable key) {a : α} (h : a ∈ t.rows) : t.find? (key a) = some a :=
  t.find?_eq_some_iff.mpr ⟨h, rfl⟩

theorem key_of_find? (t : KeyedTable key) {k : κ} {a : α} (h : t.find? k = some a) : key a = k :=
  (t.find?_eq_some_iff.mp h).2

theorem mem_of_find? (t : KeyedTable key) {k : κ} {a : α} (h : t.find? k = some a) :
    a ∈ t.rows :=
  (t.find?_eq_some_iff.mp h).1

/-- Selecting rows selects the answers. -/
theorem find?_filter (t : KeyedTable key) (p : α → Bool) (k : κ) :
    (t.filter p).find? k = (t.find? k).filter p := by
  apply Option.ext
  intro a
  rw [find?_eq_some_iff, Option.filter_eq_some_iff, find?_eq_some_iff, rows_filter, List.mem_filter]
  tauto

/-- Rewriting the rows rewrites the answers. -/
theorem find?_mapRows (t : KeyedTable key) (f : α → α) (hf : ∀ a, key (f a) = key a) (k : κ) :
    (t.mapRows f hf).find? k = (t.find? k).map f := by
  apply Option.ext
  intro b
  rw [find?_eq_some_iff, Option.map_eq_some_iff, rows_mapRows, List.mem_map]
  constructor
  · rintro ⟨⟨a, ha, rfl⟩, hk⟩
    exact ⟨a, t.find?_eq_some_iff.mpr ⟨ha, (hf a).symm.trans hk⟩, rfl⟩
  · rintro ⟨a, ha, rfl⟩
    have h := t.find?_eq_some_iff.mp ha
    exact ⟨⟨a, h.1, rfl⟩, (hf a).trans h.2⟩

/-- Store a row: replace the row of its key in place, or append it. -/
def save (t : KeyedTable key) (x : α) : KeyedTable key :=
  if h : (t.find? (key x)).isSome then
    { rows := t.rows.map fun a => if key a = key x then x else a
      keys_nodup := by
        have he : (t.rows.map fun a => if key a = key x then x else a).map key =
            t.rows.map key := by
          rw [List.map_map]
          apply List.map_congr_left
          intro a _
          by_cases hk : key a = key x
          · simp [hk]
          · simp [hk]
        rw [he]
        exact t.keys_nodup }
  else
    { rows := t.rows ++ [x]
      keys_nodup := by
        rw [List.map_append, List.map_cons, List.map_nil]
        refine List.nodup_append.mpr ⟨t.keys_nodup, List.nodup_singleton _, ?_⟩
        intro a ha b hb
        rw [List.mem_singleton] at hb
        subst hb
        obtain ⟨r, hr, rfl⟩ := List.mem_map.mp ha
        have hn : t.find? (key x) = none := by simpa using h
        exact t.find?_eq_none_iff.mp hn r hr }

/-- A row of the table after a save is the saved row or an old row of another key. -/
theorem mem_rows_save (t : KeyedTable key) (x a : α) :
    a ∈ (t.save x).rows ↔ a = x ∨ (a ∈ t.rows ∧ key a ≠ key x) := by
  unfold save
  split
  · rename_i h
    obtain ⟨r, hr⟩ := Option.isSome_iff_exists.mp h
    obtain ⟨hm, hk⟩ := t.find?_eq_some_iff.mp hr
    rw [List.mem_map]
    constructor
    · rintro ⟨b, hb, rfl⟩
      by_cases hbk : key b = key x
      · exact Or.inl (by simp [hbk])
      · exact Or.inr (by simpa [hbk] using hb)
    · rintro (rfl | ⟨ha, hak⟩)
      · exact ⟨r, hm, by simp [hk]⟩
      · exact ⟨a, ha, by simp [hak]⟩
  · rename_i h
    have hn : t.find? (key x) = none := by simpa using h
    rw [List.mem_append, List.mem_singleton]
    constructor
    · rintro (ha | rfl)
      · exact Or.inr ⟨ha, t.find?_eq_none_iff.mp hn a ha⟩
      · exact Or.inl rfl
    · rintro (rfl | ⟨ha, _⟩)
      · exact Or.inr rfl
      · exact Or.inl ha

/-- Storing a row that is there changes nothing. -/
theorem save_of_mem (t : KeyedTable key) {a : α} (h : a ∈ t.rows) : t.save a = t := by
  have hmap : t.rows.map (fun b => if key b = key a then a else b) = t.rows := by
    refine (List.map_congr_left fun b hb => ?_).trans (List.map_id _)
    by_cases hk : key b = key a
    · rw [if_pos hk]
      exact t.eq_of_key_eq h hb hk.symm
    · rw [if_neg hk]
      rfl
  unfold save
  rw [dif_pos (by rw [t.find?_key h]; rfl)]
  cases t
  simp only [hmap]

/-- Selecting rows without the saved key selects the old ones. -/
theorem filter_rows_save (t : KeyedTable key) (x : α) {p : α → Bool}
    (hp : ∀ a, key a = key x → p a = false) : (t.save x).rows.filter p = t.rows.filter p := by
  unfold save
  split
  · rw [List.filter_map]
    have hcongr : t.rows.filter (p ∘ fun a => if key a = key x then x else a) = t.rows.filter p := by
      refine List.filter_congr fun a _ => ?_
      by_cases ha : key a = key x
      · simp [ha, hp x rfl, hp a ha]
      · simp [ha]
    rw [hcongr]
    refine (List.map_congr_left fun a ha => ?_).trans (List.map_id _)
    have hk : key a ≠ key x := fun hk => by simp [hp a hk] at ha
    rw [if_neg hk]
    rfl
  · rw [List.filter_append, List.filter_singleton, hp x rfl]
    simp

/-- A lookup after a save reads the saved row under its key and the old answer elsewhere. -/
theorem find?_save (t : KeyedTable key) (x : α) (k : κ) :
    (t.save x).find? k = if key x = k then some x else t.find? k := by
  apply Option.ext
  intro a
  rw [find?_eq_some_iff, mem_rows_save]
  by_cases h : key x = k
  · simp only [h, ite_true, Option.some.injEq]
    constructor
    · rintro ⟨(rfl | ⟨_, hne⟩), hk⟩
      · rfl
      · exact absurd hk hne
    · rintro rfl
      exact ⟨Or.inl rfl, h⟩
  · simp only [h, ite_false, find?_eq_some_iff]
    constructor
    · rintro ⟨(rfl | ⟨ha, _⟩), hk⟩
      · exact absurd hk h
      · exact ⟨ha, hk⟩
    · rintro ⟨ha, hk⟩
      exact ⟨Or.inr ⟨ha, fun he => h (he.symm.trans hk)⟩, hk⟩

/-- After rows are stored one by one, a lookup reads the last row of its key, or what was
there before when there is none. -/
theorem find?_foldl_save {β : Type*} (mk : β → α) (xs : List β) (t : KeyedTable key) (k : κ) :
    (∃ x ∈ xs, key (mk x) = k ∧ (xs.foldl (fun t x => t.save (mk x)) t).find? k = some (mk x)) ∨
      (∀ x ∈ xs, key (mk x) ≠ k) ∧
        (xs.foldl (fun t x => t.save (mk x)) t).find? k = t.find? k := by
  induction xs generalizing t with
  | nil => exact Or.inr ⟨fun _ hx => absurd hx List.not_mem_nil, rfl⟩
  | cons x xs ih =>
    rw [List.foldl_cons]
    rcases ih (t.save (mk x)) with ⟨y, hy, hkey, hfind⟩ | ⟨hnone, hfind⟩
    · exact Or.inl ⟨y, List.mem_cons_of_mem _ hy, hkey, hfind⟩
    · rw [find?_save] at hfind
      by_cases hk : key (mk x) = k
      · rw [if_pos hk] at hfind
        exact Or.inl ⟨x, List.mem_cons_self, hk, hfind⟩
      · rw [if_neg hk] at hfind
        refine Or.inr ⟨fun y hy => ?_, hfind⟩
        rcases List.mem_cons.mp hy with rfl | hy
        · exact hk
        · exact hnone y hy

/-- Drop the row of a key. -/
def erase (t : KeyedTable key) (k : κ) : KeyedTable key := t.filter fun a => key a ≠ k

/-- A lookup after an erase misses that key and reads the old answer elsewhere. -/
theorem find?_erase (t : KeyedTable key) (k k' : κ) :
    (t.erase k).find? k' = if k' = k then none else t.find? k' := by
  rw [erase, find?_filter]
  cases hf : t.find? k' with
  | none => simp
  | some a =>
    have hk := t.key_of_find? hf
    by_cases h : k' = k <;> simp [Option.filter, hk, h]

/-- A row outlives an erase exactly when its key is another one. -/
theorem mem_rows_erase (t : KeyedTable key) (k : κ) (a : α) :
    a ∈ (t.erase k).rows ↔ a ∈ t.rows ∧ key a ≠ k := by
  simp [erase]

end Lookup

end KeyedTable

end PveManager.Core
