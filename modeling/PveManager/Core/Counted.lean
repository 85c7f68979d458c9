import Mathlib.Data.Finset.Card
import Mathlib.Data.List.Basic

/-!
# Counting keys by their first rows

Several rows may have one key. The keys of a set that some row has are as many as the rows that
come first under their key, with a key of the set.
-/

namespace PveManager.Core

universe u v

variable {α : Type u} {κ : Type v} [DecidableEq α] [DecidableEq κ]

/-- The row is the one that a search for its key finds among the rows of a kind. -/
def isFirst (l : List α) (key : α → Option κ) (p : α → Bool) (a : α) : Bool :=
  decide (l.find? (fun b => p b && decide (key b = key a)) = some a)

/-- Some row of the kind has the key. -/
def hasKey (l : List α) (key : α → Option κ) (p : α → Bool) (k : κ) : Bool :=
  l.any fun a => p a && decide (key a = some k)

/-- The row has a key of the set. -/
def keyIn (key : α → Option κ) (S : Finset κ) (a : α) : Bool := (key a).any fun k => decide (k ∈ S)

variable {l : List α} {key : α → Option κ} {p : α → Bool}

theorem of_isFirst {a : α} (h : isFirst l key p a = true) : a ∈ l ∧ p a = true := by
  have hfind := of_decide_eq_true h
  have hp := List.find?_some hfind
  rw [Bool.and_eq_true] at hp
  exact ⟨List.mem_of_find?_eq_some hfind, hp.1⟩

/-- Under a key that a row has there is a first row. -/
theorem exists_isFirst (key : α → Option κ) {a : α} (ha : a ∈ l) (hp : p a = true) :
    ∃ b, isFirst l key p b = true ∧ key b = key a := by
  have hsome : (l.find? fun b => p b && decide (key b = key a)).isSome = true := by
    rw [List.find?_isSome]
    exact ⟨a, ha, by simp [hp]⟩
  obtain ⟨b, hb⟩ := Option.isSome_iff_exists.mp hsome
  have hkey := List.find?_some hb
  rw [Bool.and_eq_true, decide_eq_true_eq] at hkey
  refine ⟨b, decide_eq_true ?_, hkey.2⟩
  rw [hkey.2]
  exact hb

/-- The keys of the set that some row has are as many as the first rows with such a key. -/
theorem card_hasKey (key : α → Option κ) (p : α → Bool) (hl : l.Nodup) (S : Finset κ) :
    (S.filter fun k => hasKey l key p k = true).card =
      l.countP fun a => isFirst l key p a && keyIn key S a := by
  have hsome : ((S.filter fun k => hasKey l key p k = true).image some).card =
      (S.filter fun k => hasKey l key p k = true).card :=
    Finset.card_image_of_injective _ (Option.some_injective κ)
  have hrows : ((l.filter fun a => isFirst l key p a && keyIn key S a).toFinset.image key).card =
      (l.filter fun a => isFirst l key p a && keyIn key S a).length := by
    rw [Finset.card_image_of_injOn, List.toFinset_card_of_nodup (hl.filter _)]
    intro a ha b hb hab
    rw [Finset.mem_coe, List.mem_toFinset, List.mem_filter, Bool.and_eq_true] at ha hb
    have hfirst := of_decide_eq_true ha.2.1
    have hfirst' := of_decide_eq_true hb.2.1
    rw [hab, hfirst'] at hfirst
    exact (Option.some.inj hfirst).symm
  rw [← hsome, List.countP_eq_length_filter, ← hrows]
  congr 1
  ext k
  simp only [Finset.mem_image, Finset.mem_filter, List.mem_toFinset, List.mem_filter,
    Bool.and_eq_true]
  constructor
  · rintro ⟨n, ⟨hn, hhas⟩, rfl⟩
    obtain ⟨a, ha, hkey⟩ := List.any_eq_true.mp hhas
    rw [Bool.and_eq_true, decide_eq_true_eq] at hkey
    obtain ⟨b, hb, hba⟩ := exists_isFirst key ha hkey.1
    refine ⟨b, ⟨(of_isFirst hb).1, hb, ?_⟩, hba.trans hkey.2⟩
    unfold keyIn
    rw [hba, hkey.2]
    exact decide_eq_true hn
  · rintro ⟨a, ⟨ha, hfirst, hin⟩, rfl⟩
    unfold keyIn at hin
    cases hkey : key a with
    | none =>
      rw [hkey] at hin
      cases hin
    | some n =>
      rw [hkey] at hin
      refine ⟨n, ⟨of_decide_eq_true hin, List.any_eq_true.mpr ⟨a, ha, ?_⟩⟩, rfl⟩
      rw [(of_isFirst hfirst).2, hkey]
      simp

omit [DecidableEq α] in
/-- Rows of one kind are of another kind as well or not. -/
theorem countP_split (l : List α) (p q : α → Bool) :
    l.countP p = (l.countP fun a => p a && q a) + l.countP fun a => p a && !q a := by
  induction l with
  | nil => rfl
  | cons a l ih =>
    simp only [List.countP_cons, ih]
    cases p a with
    | false => simp
    | true =>
      cases q a with
      | false => simp; omega
      | true => simp; omega

omit [DecidableEq α] in
/-- Two kinds of rows are equally many exactly when those of the first kind alone and those of the
second kind alone are. -/
theorem countP_eq_iff_alone (l : List α) (p q : α → Bool) :
    l.countP p = l.countP q ↔
      (l.countP fun a => p a && !q a) = l.countP fun a => q a && !p a := by
  have hboth : (l.countP fun a => p a && q a) = l.countP fun a => q a && p a :=
    List.countP_congr fun a _ => by rw [Bool.and_comm]
  rw [countP_split l p q, countP_split l q p, hboth]
  omega

end PveManager.Core
