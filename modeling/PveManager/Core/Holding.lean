import Mathlib.Data.List.Basic

/-!
# Logs of what is held

A log tells when something is taken and when it is given back, each time with a mark. Replaying
the log gives what is held at its end, or nothing where the log does not fit together. Lines of
one mark can be taken out of a log that fits together, and it still does.
-/

namespace PveManager.Core

variable {τ : Type*}

/-- A line of the log. -/
inductive Holding (τ : Type*)
  | taken (mark : τ)
  | returned (mark : τ)
  deriving DecidableEq

namespace Holding

def mark : Holding τ → τ
  | .taken t => t
  | .returned t => t

variable [DecidableEq τ]

/-- What is held after a line, if the line fits. -/
def next : Option τ → Holding τ → Option (Option τ)
  | none, .taken t => some (some t)
  | some held, .returned t => if held = t then some none else none
  | _, _ => none

/-- What is held at the end of a log that fits together. -/
def replay (held : Option τ) (log : List (Holding τ)) : Option (Option τ) :=
  log.foldlM next held

theorem replay_append (held : Option τ) (log log' : List (Holding τ)) :
    replay held (log ++ log') = (replay held log).bind fun held => replay held log' :=
  List.foldlM_append

/-- Lines of a mark are taken out, and what is held under it goes. -/
theorem replay_filter (mark : τ) {held final : Option τ} {log : List (Holding τ)}
    (h : replay held log = some final) :
    replay (held.filter fun t => decide (t ≠ mark)) (log.filter fun e => decide (e.mark ≠ mark)) =
      some (final.filter fun t => decide (t ≠ mark)) := by
  induction log generalizing held with
  | nil =>
    cases h
    rfl
  | cons e log ih =>
    unfold replay at h
    rw [List.foldlM_cons] at h
    cases hnext : next held e with
    | none => simp [hnext] at h
    | some held' =>
      rw [hnext] at h
      have hrest := ih h
      cases held with
      | none =>
        cases e with
        | returned t => cases hnext
        | taken t =>
          cases hnext
          by_cases ht : t = mark
          · subst ht
            simpa [Holding.mark, Option.filter] using hrest
          · rw [List.filter_cons_of_pos (by simp [Holding.mark, ht])]
            unfold replay at hrest ⊢
            rw [List.foldlM_cons]
            simpa [next, Option.filter, ht] using hrest
      | some t =>
        cases e with
        | taken t' => cases hnext
        | returned t' =>
          by_cases htt : t = t'
          · subst htt
            have hheld : held' = none := by simpa [next] using hnext.symm
            subst hheld
            by_cases ht : t = mark
            · subst ht
              simpa [Holding.mark, Option.filter] using hrest
            · rw [List.filter_cons_of_pos (by simp [Holding.mark, ht])]
              unfold replay at hrest ⊢
              rw [List.foldlM_cons]
              simpa [next, Option.filter, ht] using hrest
          · simp [next, htt] at hnext

/-- The last line tells whether something is held, and under which mark. -/
theorem replay_eq_getLast {held final : Option τ} {log : List (Holding τ)}
    (h : replay held log = some final) :
    final = match log.getLast? with
      | none => held
      | some (.taken t) => some t
      | some (.returned _) => none := by
  rcases List.eq_nil_or_concat log with rfl | ⟨log', e, rfl⟩
  · cases h
    rfl
  · rw [List.concat_eq_append, replay_append] at h
    obtain ⟨held', -, hlast⟩ := Option.bind_eq_some_iff.mp h
    rw [List.concat_eq_append, List.getLast?_append]
    unfold replay at hlast
    rw [List.foldlM_cons] at hlast
    cases held' <;> cases e <;> simp_all [next]

end Holding

end PveManager.Core
