import Mathlib.Logic.Basic
import Mathlib.Tactic.Cases

/-!
# The first answer among numbers

A search through numbers one after another stops at the first one with an answer. Two searches
end alike exactly when they agree up to the first answer of one of them, unless they give one
answer at different numbers.
-/

namespace PveManager.Core

universe u

variable {β : Type u}

/-- The first answer among a count of numbers from `start` on. -/
def firstFrom (f : Nat → Option β) (start : Nat) : Nat → Option β
  | 0 => none
  | count + 1 => (f start).or (firstFrom f (start + 1) count)

variable {f g : Nat → Option β} {start count : Nat}

theorem firstFrom_eq_none_iff :
    firstFrom f start count = none ↔ ∀ n, start ≤ n → n < start + count → f n = none := by
  induction count generalizing start with
  | zero =>
    constructor
    · intro _ n hge hlt
      omega
    · exact fun _ => rfl
  | succ count ih =>
    rw [firstFrom, Option.or_eq_none_iff, ih]
    constructor
    · rintro ⟨hstart, hrest⟩ n hge hlt
      by_cases hn : n = start
      · rw [hn, hstart]
      · exact hrest n (by omega) (by omega)
    · intro h
      exact ⟨h start (Nat.le_refl _) (by omega), fun n hge hlt => h n (by omega) (by omega)⟩

theorem firstFrom_eq_some_iff {b : β} :
    firstFrom f start count = some b ↔
      ∃ n, start ≤ n ∧ n < start + count ∧ f n = some b ∧ ∀ m, start ≤ m → m < n → f m = none := by
  induction count generalizing start with
  | zero =>
    constructor
    · exact fun h => nomatch h
    · rintro ⟨n, hge, hlt, -⟩
      omega
  | succ count ih =>
    rw [firstFrom, Option.or_eq_some_iff, ih]
    constructor
    · rintro (hstart | ⟨hstart, n, hge, hlt, hn, hbefore⟩)
      · exact ⟨start, Nat.le_refl _, by omega, hstart, fun m hge hlt => by omega⟩
      · refine ⟨n, by omega, by omega, hn, fun m hm hmn => ?_⟩
        by_cases hms : m = start
        · rw [hms, hstart]
        · exact hbefore m (by omega) hmn
    · rintro ⟨n, hge, hlt, hn, hbefore⟩
      by_cases hns : n = start
      · exact Or.inl (hns ▸ hn)
      · refine Or.inr ⟨hbefore start (Nat.le_refl _) (by omega), n, by omega, by omega, hn, ?_⟩
        exact fun m hm hmn => hbefore m (by omega) hmn

/-- The searches agree up to the first answer of the second. -/
def AgreeToFirst (f g : Nat → Option β) (start count : Nat) : Prop :=
  ∀ n, start ≤ n → n < start + count → (∀ m, start ≤ m → m < n → g m = none) → f n = g n

theorem firstFrom_eq_of_agree (h : AgreeToFirst f g start count) :
    firstFrom f start count = firstFrom g start count := by
  cases hg : firstFrom g start count with
  | none =>
    rw [firstFrom_eq_none_iff] at hg ⊢
    intro n hge hlt
    rw [h n hge hlt fun m hm hmn => hg m hm (by omega), hg n hge hlt]
  | some b =>
    rw [firstFrom_eq_some_iff] at hg ⊢
    obtain ⟨n, hge, hlt, hn, hbefore⟩ := hg
    refine ⟨n, hge, hlt, (h n hge hlt hbefore).trans hn, fun m hm hmn => ?_⟩
    rw [h m hm (by omega) fun k hk hkm => hbefore k hk (by omega), hbefore m hm hmn]

/-- Searches that end alike agree up to the first answer, when no answer of one is an answer of the
other at another number. -/
theorem agree_of_firstFrom_eq (hsame : firstFrom f start count = firstFrom g start count)
    (hapart : ∀ n m b, start ≤ n → n < start + count → start ≤ m → m < start + count →
      f n = some b → g m = some b → n = m) : AgreeToFirst f g start count := by
  intro n
  induction n using Nat.strongRecOn with
  | ind n ih =>
    intro hge hlt hbefore
    have hbefore' : ∀ m, start ≤ m → m < n → f m = none := by
      intro m hm hmn
      rw [ih m hmn hm (by omega) fun k hk hkm => hbefore k hk (by omega), hbefore m hm hmn]
    cases hf : f n with
    | some b =>
      have hfirst : firstFrom g start count = some b :=
        hsame.symm.trans (firstFrom_eq_some_iff.mpr ⟨n, hge, hlt, hf, hbefore'⟩)
      obtain ⟨m, hmge, hmlt, hm, -⟩ := firstFrom_eq_some_iff.mp hfirst
      rw [hapart n m b hge hlt hmge hmlt hf hm, hm]
    | none =>
      cases hg : g n with
      | none => rfl
      | some b =>
        have hfirst : firstFrom f start count = some b :=
          hsame.trans (firstFrom_eq_some_iff.mpr ⟨n, hge, hlt, hg, hbefore⟩)
        obtain ⟨m, hmge, hmlt, hm, -⟩ := firstFrom_eq_some_iff.mp hfirst
        rw [hapart m n b hmge hmlt hge hlt hm hg, hf] at hm
        cases hm

end PveManager.Core
