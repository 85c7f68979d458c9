import Mathlib.Data.List.Induction
import Mathlib.Data.List.Nodup
import Mathlib.Data.List.Sort
import Mathlib.Logic.Function.Basic

/-!
# What a search through listed rows finds

A search takes the first row of a kind, a dictionary filled row by row keeps the
last one. Both depend on the order of the rows, which is said by pairs: one row
stands before another.
-/

namespace PveManager.Core

universe u v w

variable {α : Type u}

/-- One row stands before another one in the list. -/
def Before (l : List α) (a b : α) : Prop := [a, b].Sublist l

theorem before_cons_of_mem {l : List α} {a b : α} (hb : b ∈ l) : Before (a :: l) a b :=
  (List.singleton_sublist.mpr hb).cons_cons a

theorem before_cons_iff {l : List α} {a b x : α} (hne : a ≠ x) :
    Before (x :: l) a b ↔ Before l a b := by
  constructor
  · intro h
    rcases List.sublist_cons_iff.mp h with h | ⟨r, hr, -⟩
    · exact h
    · exact absurd (List.cons.inj hr).1 hne
  · exact fun h => h.cons x

theorem Before.mem_left {l : List α} {a b : α} (h : Before l a b) : a ∈ l :=
  h.subset List.mem_cons_self

theorem before_reverse_iff {l : List α} {a b : α} : Before l.reverse a b ↔ Before l b a := by
  unfold Before
  rw [← List.reverse_sublist, List.reverse_reverse]
  rfl

/-- A search finds the row of the kind that stands before all others of it. -/
theorem find?_eq_some_iff_before {l : List α} (hl : l.Nodup) {p : α → Bool} {a : α} :
    l.find? p = some a ↔
      a ∈ l ∧ p a = true ∧ ∀ b ∈ l, p b = true → b ≠ a → Before l a b := by
  induction l with
  | nil => simp
  | cons x l ih =>
    obtain ⟨hx, hl⟩ := List.nodup_cons.mp hl
    by_cases hp : p x = true
    · rw [List.find?_cons_of_pos hp]
      constructor
      · intro h
        cases h
        refine ⟨List.mem_cons_self, hp, fun b hb _ hne => ?_⟩
        rcases List.mem_cons.mp hb with rfl | hb
        · exact absurd rfl hne
        · exact before_cons_of_mem hb
      · rintro ⟨-, -, hall⟩
        by_contra hne
        have hxa : x ≠ a := fun h => hne (congrArg some h)
        have hbefore := hall x List.mem_cons_self hp hxa
        rw [before_cons_iff hxa.symm] at hbefore
        exact hx (hbefore.subset (by simp))
    · rw [List.find?_cons_of_neg hp, ih hl]
      constructor
      · rintro ⟨ha, hpa, hall⟩
        have hax : a ≠ x := fun h => hx (h ▸ ha)
        refine ⟨List.mem_cons_of_mem x ha, hpa, fun b hb hpb hne => ?_⟩
        rcases List.mem_cons.mp hb with rfl | hb
        · exact absurd hpb hp
        · exact (before_cons_iff hax).mpr (hall b hb hpb hne)
      · rintro ⟨ha, hpa, hall⟩
        have hax : a ≠ x := fun h => hp (h ▸ hpa)
        refine ⟨List.mem_of_ne_of_mem hax ha, hpa, fun b hb hpb hne => ?_⟩
        exact (before_cons_iff hax).mp (hall b (List.mem_cons_of_mem x hb) hpb hne)

/-- The last row of a kind is the one that all others of it stand before. -/
theorem find?_reverse_eq_some_iff_before {l : List α} (hl : l.Nodup) {p : α → Bool} {a : α} :
    l.reverse.find? p = some a ↔
      a ∈ l ∧ p a = true ∧ ∀ b ∈ l, p b = true → b ≠ a → Before l b a := by
  rw [find?_eq_some_iff_before (List.nodup_reverse.mpr hl)]
  simp only [List.mem_reverse, before_reverse_iff]

/-- The first row of a sorted list comes before every other one. -/
theorem rel_of_head?_insertionSort {r : α → α → Prop} [DecidableRel r]
    (htotal : ∀ a b, r a b ∨ r b a) (htrans : ∀ a b c, r a b → r b c → r a c) {l : List α} {a : α}
    (h : (l.insertionSort r).head? = some a) : a ∈ l ∧ ∀ b ∈ l, r a b := by
  have : Std.Total r := ⟨htotal⟩
  have : IsTrans α r := ⟨htrans⟩
  obtain ⟨rest, hrest⟩ := List.head?_eq_some_iff.mp h
  have hsorted := List.pairwise_insertionSort r l
  rw [hrest, List.pairwise_cons] at hsorted
  have hmem : ∀ b, b ∈ l ↔ b = a ∨ b ∈ rest := by
    intro b
    rw [← List.mem_insertionSort r, hrest, List.mem_cons]
  refine ⟨(hmem a).mpr (Or.inl rfl), fun b hb => ?_⟩
  rcases (hmem b).mp hb with rfl | hb
  · exact (htotal b b).elim id id
  · exact hsorted.1 b hb

/-- Keeping the first row unless one with the mark replaces one without it. -/
theorem foldl_pick (p : α → Bool) {pick : Option α → α → Option α}
    (hnone : ∀ a, pick none a = some a)
    (hsome : ∀ c a, pick (some c) a = if p a && !p c then some a else some c) (l : List α) :
    l.foldl pick none = (l.find? p).or l.head? := by
  have hmarked : ∀ (l : List α) (c : α), l.foldl pick (some c) =
      if p c then some c else (l.find? p).or (some c) := by
    intro l
    induction l with
    | nil =>
      intro c
      split <;> rfl
    | cons a l ih =>
      intro c
      rw [List.foldl_cons, hsome]
      cases hc : p c with
      | true => simp [ih, hc]
      | false =>
        cases ha : p a with
        | true => simp [ih, ha]
        | false => simp [ih, ha, hc]
  cases l with
  | nil => rfl
  | cons a l =>
    rw [List.foldl_cons, hnone, hmarked]
    cases ha : p a with
    | true => simp [ha]
    | false => simp [ha]

/-- Keeping the value of the last row of a kind. -/
theorem foldl_last {β : Type v} (p : α → Bool) (value : α → β) {pick : Option β → α → Option β}
    (htake : ∀ c a, p a = true → pick c a = some (value a))
    (hkeep : ∀ c a, p a = false → pick c a = c) (l : List α) :
    l.foldl pick none = (l.reverse.find? p).map value := by
  induction l using List.reverseRecOn with
  | nil => rfl
  | append_singleton l a ih =>
    rw [List.foldl_append, List.foldl_cons, List.foldl_nil, List.reverse_append]
    cases ha : p a with
    | true => simp [htake _ a ha, ha]
    | false => simp [hkeep _ a ha, ha, ih]

/-- What a dictionary filled row by row says under one key: the fold over the rows of the key. -/
theorem foldl_update_apply {κ : Type v} {β : Type w} {entry : α → Option κ} [DecidableEq κ]
    {fill : (κ → β) → α → κ → β} {pick : β → α → β}
    (hkey : ∀ lookup a key, entry a = some key → fill lookup a key = pick (lookup key) a)
    (hother : ∀ lookup a key, entry a ≠ some key → fill lookup a key = lookup key)
    (l : List α) (lookup : κ → β) (key : κ) :
    l.foldl fill lookup key =
      (l.filter fun a => decide (entry a = some key)).foldl pick (lookup key) := by
  induction l generalizing lookup with
  | nil => rfl
  | cons a l ih =>
    rw [List.foldl_cons, ih]
    by_cases ha : entry a = some key
    · rw [hkey lookup a key ha, List.filter_cons_of_pos (by simpa using ha), List.foldl_cons]
    · rw [hother lookup a key ha, List.filter_cons_of_neg (by simpa using ha)]

/-- The first answer is that of the first row with an answer. -/
theorem findSome?_eq_bind_find? {β : Type v} (f : α → Option β) (l : List α) :
    l.findSome? f = (l.find? fun a => (f a).isSome).bind f := by
  induction l with
  | nil => rfl
  | cons a l ih =>
    rw [List.findSome?_cons, List.find?_cons]
    cases ha : f a with
    | none => exact ih
    | some b => exact ha.symm

theorem findSome?_congr {β : Type v} {f g : α → Option β} {l : List α}
    (h : ∀ a ∈ l, f a = g a) : l.findSome? f = l.findSome? g := by
  induction l with
  | nil => rfl
  | cons a l ih =>
    rw [List.findSome?_cons, List.findSome?_cons, h a List.mem_cons_self,
      ih fun b hb => h b (List.mem_cons_of_mem a hb)]

/-- In rows with rising keys the first answer is that of the row with the least key. -/
theorem findSome?_eq_some_iff_least {κ : Type v} {β : Type w} [LinearOrder κ] {key : α → κ}
    {l : List α} (hl : l.Pairwise fun a a' => key a < key a') {f : α → Option β} {b : β} :
    l.findSome? f = some b ↔
      ∃ a ∈ l, f a = some b ∧ ∀ a' ∈ l, key a' < key a → f a' = none := by
  rw [List.findSome?_eq_some_iff]
  constructor
  · rintro ⟨before, a, after, rfl, ha, hbefore⟩
    refine ⟨a, by simp, ha, fun a' ha' hlt => ?_⟩
    rcases List.mem_append.mp ha' with ha' | ha'
    · exact hbefore a' ha'
    · rcases List.mem_cons.mp ha' with rfl | ha'
      · exact absurd hlt (lt_irrefl _)
      · have hrest := (List.pairwise_append.mp hl).2.1
        exact absurd hlt (lt_asymm ((List.pairwise_cons.mp hrest).1 a' ha'))
  · rintro ⟨a, ha, hb, hleast⟩
    obtain ⟨before, after, rfl⟩ := List.append_of_mem ha
    refine ⟨before, a, after, rfl, hb, fun a' ha' => hleast a' (by simp [ha']) ?_⟩
    exact (List.pairwise_append.mp hl).2.2 a' ha' a List.mem_cons_self

/-- Of the rows with different keys one at most has a given key. -/
theorem countP_key {κ : Type v} [DecidableEq κ] {key : α → κ} {l : List α}
    (hnodup : (l.map key).Nodup) {a : α} (ha : a ∈ l) (p : α → Bool) :
    l.countP (fun b => decide (key b = key a) && p b) = if p a then 1 else 0 := by
  induction l with
  | nil => exact absurd ha List.not_mem_nil
  | cons b l ih =>
    rw [List.map_cons, List.nodup_cons] at hnodup
    rw [List.countP_cons]
    rcases List.mem_cons.mp ha with rfl | ha
    · have hnone : l.countP (fun b => decide (key b = key a) && p b) = 0 := by
        refine List.countP_eq_zero.mpr fun b hb h => ?_
        rw [Bool.and_eq_true, decide_eq_true_eq] at h
        exact hnodup.1 (h.1 ▸ List.mem_map_of_mem hb)
      simp [hnone]
    · have hne : key b ≠ key a := fun h => hnodup.1 (h ▸ List.mem_map_of_mem ha)
      rw [ih hnodup.2 ha]
      simp [hne]

/-- Answers under the keys of their rows have different keys. -/
theorem nodup_filterMap_key {κ : Type v} {β : Type w} {key : α → κ} {l : List α}
    (hnodup : (l.map key).Nodup) (f : α → Option β) :
    ((l.filterMap fun a => (f a).map fun b => (key a, b)).map Prod.fst).Nodup := by
  have hsub : ((l.filterMap fun a => (f a).map fun b => (key a, b)).map Prod.fst).Sublist
      (l.map key) := by
    induction l with
    | nil => exact List.Sublist.slnil
    | cons a l ih =>
      rw [List.map_cons, List.nodup_cons] at hnodup
      rw [List.filterMap_cons, List.map_cons]
      cases f a with
      | none => exact (ih hnodup.2).cons _
      | some b => exact (ih hnodup.2).cons_cons _
  exact hnodup.sublist hsub

end PveManager.Core
