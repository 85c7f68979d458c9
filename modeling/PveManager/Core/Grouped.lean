import PveManager.Core.Dict

/-!
# Values grouped under keys

A dictionary of lists that a loop over rows fills: each row gives a value with
its key, or is passed over. What is stored under a key does not depend on the
order of the rows, the order inside the list apart.
-/

namespace PveManager.Core.KeyedTable

universe u v w

variable {κ : Type u} {β : Type v} {ρ : Type w} [DecidableEq κ]

/-- `d.setdefault(k, []).append(x)`. -/
def push (d : KeyedTable (Prod.fst : κ × List β → κ)) (k : κ) (x : β) :
    KeyedTable (Prod.fst : κ × List β → κ) :=
  d.set k ((d.get? k).getD [] ++ [x])

/-- The values that the rows give, each appended to the list of its key. -/
def group (read : ρ → Option (κ × β)) (rows : List ρ) :
    KeyedTable (Prod.fst : κ × List β → κ) :=
  rows.foldl (fun d row => (read row).elim d fun item => d.push item.1 item.2) .empty

/-- `d.get(k, [])`. -/
def group? (d : KeyedTable (Prod.fst : κ × List β → κ)) (k : κ) : List β := (d.get? k).getD []

/-- An appended value is read under its own key. -/
theorem mem_group?_push {d : KeyedTable (Prod.fst : κ × List β → κ)} {k k' : κ} {x y : β} :
    y ∈ (d.push k x).group? k' ↔ y ∈ d.group? k' ∨ k = k' ∧ y = x := by
  unfold push group?
  rw [get?_set]
  by_cases h : k = k'
  · subst h
    simp
  · simp [h]

/-- What a loop over rows has stored under a key. -/
theorem mem_group?_foldl (read : ρ → Option (κ × β)) (rows : List ρ)
    (d : KeyedTable (Prod.fst : κ × List β → κ)) {k : κ} {y : β} :
    y ∈ (rows.foldl (fun d row => (read row).elim d fun item => d.push item.1 item.2) d).group? k ↔
      y ∈ d.group? k ∨ ∃ row ∈ rows, read row = some (k, y) := by
  induction rows generalizing d with
  | nil => simp
  | cons row rows ih =>
    rw [List.foldl_cons, ih, List.exists_mem_cons_iff, ← or_assoc]
    refine or_congr_left ?_
    cases hread : read row with
    | none => simp
    | some item =>
      rw [Option.elim_some, mem_group?_push, Option.some.injEq, Prod.ext_iff]
      exact or_congr_right (and_congr_right fun _ => eq_comm)

/-- A value stands under a key exactly when a row gave both. -/
theorem mem_group (read : ρ → Option (κ × β)) (rows : List ρ) {k : κ} {y : β} :
    y ∈ (group read rows).group? k ↔ ∃ row ∈ rows, read row = some (k, y) := by
  unfold group
  rw [mem_group?_foldl]
  exact or_iff_right List.not_mem_nil

end PveManager.Core.KeyedTable
