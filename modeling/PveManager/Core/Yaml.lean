import Mathlib.Data.List.Basic
import Mathlib.Data.List.Forall2

/-!
# YAML documents

Documents as a loader leaves them, with the operations of a mapping: reading a key, setting one in
its place or at the end, and removing some.
-/

namespace PveManager.Core

/-- A loaded document; a mapping lists its items in order. -/
inductive Yaml
  | null
  | bool (b : Bool)
  | int (n : Int)
  /-- A float or a date, with its text. -/
  | other (text : String)
  | str (s : String)
  | list (items : List Yaml)
  | dict (items : List (String × Yaml))

namespace Yaml

abbrev Items := List (String × Yaml)

/-- Python's truth test. -/
def truthy : Yaml → Bool
  | .null => false
  | .bool b => b
  | .int n => decide (n ≠ 0)
  | .other text => decide (text ≠ "0.0" ∧ text ≠ "-0.0")
  | .str s => decide (s ≠ "")
  | .list items => !items.isEmpty
  | .dict items => !items.isEmpty

/-- The items of a mapping. -/
def items? : Yaml → Option Items
  | .dict items => some items
  | _ => none

/-- The items of a mapping, and none of anything else. -/
def itemsOf (node : Yaml) : Items := node.items?.getD []

/-- The value of a key, where there is a mapping with it. -/
def get? (node : Yaml) (key : String) : Option Yaml := node.itemsOf.lookup key

/-- `items[key] = value`. -/
def setKey (key : String) (value : Yaml) : Items → Items
  | [] => [(key, value)]
  | item :: rest => if item.1 = key then (key, value) :: rest else item :: setKey key value rest

/-- `items.pop(key)` for all these keys. -/
def dropKeys (keys : List String) (items : Items) : Items :=
  items.filter fun item => decide (item.1 ∉ keys)

section Items

variable {key key' : String} {value : Yaml} {items : Items}

theorem lookup_cons (k : String) (v : Yaml) :
    List.lookup key ((k, v) :: items) = if key = k then some v else items.lookup key := by
  by_cases h : key = k
  · rw [if_pos h, h, List.lookup_cons_self]
  · have hne : (key == k) = false := beq_eq_false_iff_ne.mpr h
    rw [if_neg h, List.lookup_cons, hne]

theorem lookup_setKey :
    (setKey key value items).lookup key' = if key' = key then some value else items.lookup key' := by
  induction items with
  | nil =>
    unfold setKey
    rw [lookup_cons]
  | cons item rest ih =>
    obtain ⟨k, v⟩ := item
    unfold setKey
    by_cases hk : k = key
    · rw [if_pos hk, lookup_cons, lookup_cons]
      by_cases h : key' = key
      · rw [if_pos h, if_pos h]
      · rw [if_neg h, if_neg h, if_neg (hk ▸ h)]
    · rw [if_neg hk, lookup_cons, lookup_cons, ih]
      by_cases h : key' = k
      · rw [if_pos h, if_pos h, if_neg (h ▸ hk)]
      · rw [if_neg h, if_neg h]

theorem mem_dropKeys {keys : List String} {item : String × Yaml} :
    item ∈ dropKeys keys items ↔ item ∈ items ∧ item.1 ∉ keys := by
  unfold dropKeys
  rw [List.mem_filter, decide_eq_true_iff]

/-- Removing keys hides them and nothing else. -/
theorem lookup_dropKeys {keys : List String} :
    (dropKeys keys items).lookup key = if key ∈ keys then none else items.lookup key := by
  induction items with
  | nil =>
    have hnone : dropKeys keys [] = [] := rfl
    rw [hnone, List.lookup_nil, ite_self]
  | cons item rest ih =>
    obtain ⟨k, v⟩ := item
    unfold dropKeys at ih ⊢
    rw [lookup_cons]
    by_cases hk : k ∈ keys
    · rw [List.filter_cons_of_neg (by simpa using hk), ih]
      by_cases h : key ∈ keys
      · rw [if_pos h, if_pos h]
      · have hne : key ≠ k := fun heq => h (heq ▸ hk)
        rw [if_neg h, if_neg h, if_neg hne]
    · rw [List.filter_cons_of_pos (by simpa using hk), lookup_cons, ih]
      by_cases h : key = k
      · rw [if_pos h, if_pos h, if_neg (h ▸ hk)]
      · rw [if_neg h, if_neg h]

/-- What is read is an item. -/
theorem mem_of_lookup (h : items.lookup key = some value) : (key, value) ∈ items := by
  induction items with
  | nil => cases h
  | cons item rest ih =>
    obtain ⟨k, v⟩ := item
    rw [lookup_cons] at h
    by_cases hk : key = k
    · rw [if_pos hk] at h
      rw [hk, Option.some.inj h]
      exact List.mem_cons_self
    · rw [if_neg hk] at h
      exact List.mem_cons_of_mem _ (ih h)

end Items

/-! ### Mappings with the same keys -/

/-- The mappings have the same keys in the same order, and values that are related. -/
def Aligned (R : Yaml → Yaml → Prop) (xs ys : Items) : Prop :=
  List.Forall₂ (fun a b : String × Yaml => b.1 = a.1 ∧ R a.2 b.2) xs ys

section Aligned

variable {R S : Yaml → Yaml → Prop} {xs ys zs : Items} {key : String}

theorem Aligned.refl (hrefl : ∀ x, R x x) (xs : Items) : Aligned R xs xs :=
  List.forall₂_same.mpr fun _ _ => ⟨rfl, hrefl _⟩

theorem Aligned.keys (h : Aligned R xs ys) : ys.map Prod.fst = xs.map Prod.fst := by
  unfold Aligned at h
  induction h with
  | nil => rfl
  | cons hab _ ih => rw [List.map_cons, List.map_cons, hab.1, ih]

/-- An item of the second mapping has one in the first. -/
theorem Aligned.mem_right (h : Aligned R xs ys) {b : String × Yaml} (hb : b ∈ ys) :
    ∃ a ∈ xs, b.1 = a.1 ∧ R a.2 b.2 := by
  unfold Aligned at h
  induction h with
  | nil => exact absurd hb List.not_mem_nil
  | cons hab _ ih =>
    rcases List.mem_cons.mp hb with rfl | hb
    · exact ⟨_, List.mem_cons_self, hab⟩
    · obtain ⟨a, ha, hrel⟩ := ih hb
      exact ⟨a, List.mem_cons_of_mem _ ha, hrel⟩

/-- An item of the first mapping has one in the second. -/
theorem Aligned.mem_left (h : Aligned R xs ys) {a : String × Yaml} (ha : a ∈ xs) :
    ∃ b ∈ ys, b.1 = a.1 ∧ R a.2 b.2 := by
  unfold Aligned at h
  induction h with
  | nil => exact absurd ha List.not_mem_nil
  | cons hab _ ih =>
    rcases List.mem_cons.mp ha with rfl | ha
    · exact ⟨_, List.mem_cons_self, hab⟩
    · obtain ⟨b, hb, hrel⟩ := ih ha
      exact ⟨b, List.mem_cons_of_mem _ hb, hrel⟩

/-- A key is missing in both, or its values are related. -/
theorem Aligned.lookup (h : Aligned R xs ys) (key : String) : xs.lookup key = none ∧ ys.lookup key = none ∨
    ∃ a b, xs.lookup key = some a ∧ ys.lookup key = some b ∧ R a b := by
  unfold Aligned at h
  induction h with
  | nil => exact Or.inl ⟨rfl, rfl⟩
  | @cons a b _ _ hab _ ih =>
    obtain ⟨k, v⟩ := a
    obtain ⟨k', v'⟩ := b
    obtain ⟨rfl, hrel⟩ := hab
    rw [lookup_cons, lookup_cons]
    by_cases hk : key = k'
    · rw [if_pos hk, if_pos hk]
      exact Or.inr ⟨v, v', rfl, rfl, hrel⟩
    · rw [if_neg hk, if_neg hk]
      exact ih

/-- The first items that meet a condition on what is aligned have the same key. -/
theorem Aligned.find? {p : String × Yaml → Bool} (h : Aligned R xs ys)
    (hp : ∀ a b : String × Yaml, b.1 = a.1 → R a.2 b.2 → p b = p a) :
    (ys.find? p).map Prod.fst = (xs.find? p).map Prod.fst := by
  unfold Aligned at h
  induction h with
  | nil => rfl
  | @cons a b _ _ hab _ ih =>
    rw [List.find?_cons, List.find?_cons, hp a b hab.1 hab.2]
    cases p a with
    | true => exact congrArg some hab.1
    | false => exact ih

/-- Setting a key to something related to its value. -/
theorem aligned_setKey {old value : Yaml} (hrefl : ∀ x, R x x) (hold : xs.lookup key = some old)
    (hnew : R old value) : Aligned R xs (setKey key value xs) := by
  induction xs with
  | nil => cases hold
  | cons item rest ih =>
    obtain ⟨k, v⟩ := item
    rw [lookup_cons] at hold
    unfold setKey
    by_cases hk : k = key
    · rw [if_pos hk.symm] at hold
      rw [if_pos hk]
      exact .cons ⟨hk.symm, Option.some.inj hold ▸ hnew⟩ (Aligned.refl hrefl rest)
    · rw [if_neg (Ne.symm hk)] at hold
      rw [if_neg hk]
      exact .cons ⟨rfl, hrefl _⟩ (ih hold)

end Aligned

/-- The documents are the same apart from one field. -/
def SameBut (key : String) (a b : Yaml) : Prop :=
  b.items?.isSome = a.items?.isSome ∧ ∀ k, k ≠ key → b.get? k = a.get? k

theorem SameBut.refl (key : String) (a : Yaml) : SameBut key a a := ⟨rfl, fun _ _ => rfl⟩

theorem sameBut_setKey (key : String) (value : Yaml) (items : Items) :
    SameBut key (.dict items) (.dict (setKey key value items)) := by
  refine ⟨rfl, fun k hk => ?_⟩
  change (setKey key value items).lookup k = items.lookup k
  rw [lookup_setKey, if_neg hk]

theorem sameBut_dropKeys (key : String) (items : Items) :
    SameBut key (.dict items) (.dict (dropKeys [key] items)) := by
  refine ⟨rfl, fun k hk => ?_⟩
  change (dropKeys [key] items).lookup k = items.lookup k
  rw [lookup_dropKeys, if_neg (by simpa using hk)]

end Yaml

end PveManager.Core
