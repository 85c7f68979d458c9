import Mathlib.Data.Bool.Basic
import Mathlib.Logic.Function.Basic

/-!
# Edits in flight

One side keeps a set of keys and tells the other side every change of it. The messages wait
in a queue and arrive in order, so the other side lags behind. `settled` is what it has once
the queue is empty, and `InStep` says that this is the set of the first side.
-/

namespace PveManager.Core

variable {κ : Type*} [DecidableEq κ]

/-- A change of a set of keys. -/
inductive Edit (κ : Type*)
  | add (key : κ)
  | remove (key : κ)

namespace Edit

/-- The key that a change is about. -/
def key : Edit κ → κ
  | .add k => k
  | .remove k => k

/-- A set of keys after a change. -/
def apply (has : κ → Bool) : Edit κ → κ → Bool
  | .add k => Function.update has k true
  | .remove k => Function.update has k false

theorem apply_of_ne (has : κ → Bool) {e : Edit κ} {k : κ} (h : e.key ≠ k) :
    e.apply has k = has k := by
  cases e <;> exact Function.update_of_ne (Ne.symm h) _ _

/-- A change of a key does not depend on the other keys. -/
theorem apply_congr {has has' : κ → Bool} {k : κ} (h : has k = has' k) (e : Edit κ) :
    e.apply has k = e.apply has' k := by
  by_cases hk : e.key = k
  · cases e <;> cases hk <;> simp [apply, key]
  · rw [apply_of_ne has hk, apply_of_ne has' hk, h]

end Edit

/-- The set of keys once all changes of the queue have arrived. -/
def settled (has : κ → Bool) (queue : List (Edit κ)) : κ → Bool := queue.foldl Edit.apply has

@[simp] theorem settled_nil (has : κ → Bool) : settled has [] = has := rfl

@[simp] theorem settled_cons (has : κ → Bool) (e : Edit κ) (queue : List (Edit κ)) :
    settled has (e :: queue) = settled (e.apply has) queue := rfl

theorem settled_append (has : κ → Bool) (queue queue' : List (Edit κ)) :
    settled has (queue ++ queue') = settled (settled has queue) queue' :=
  List.foldl_append

/-- What a key settles to depends on this key only. -/
theorem settled_congr {has has' : κ → Bool} {k : κ} (h : has k = has' k) (queue : List (Edit κ)) :
    settled has queue k = settled has' queue k := by
  induction queue generalizing has has' with
  | nil => exact h
  | cons e queue ih => exact ih (e.apply_congr h)

/-- A key without a change in the queue has settled. -/
theorem settled_of_quiet {has : κ → Bool} {k : κ} {queue : List (Edit κ)}
    (h : ∀ e ∈ queue, e.key ≠ k) : settled has queue k = has k := by
  induction queue generalizing has with
  | nil => rfl
  | cons e queue ih =>
    rw [settled_cons, ih fun e' he' => h e' (List.mem_cons_of_mem _ he'),
      Edit.apply_of_ne has (h e List.mem_cons_self)]

/-- Adding keys one by one. -/
theorem settled_adds (has : κ → Bool) (keys : List κ) (k : κ) :
    settled has (keys.map .add) k = (has k || decide (k ∈ keys)) := by
  induction keys generalizing has with
  | nil => simp
  | cons k' keys ih =>
    rw [List.map_cons, settled_cons, ih, Edit.apply]
    by_cases hk : k = k'
    · simp [hk]
    · simp [hk]

/-- What is on its way makes the set of the receiver that of the sender. -/
def InStep (wanted has : κ → Bool) (queue : List (Edit κ)) : Prop :=
  ∀ k, settled has queue k = wanted k

namespace InStep

variable {wanted has : κ → Bool} {queue : List (Edit κ)} {e : Edit κ}

/-- Changes that the sender makes and sends. -/
theorem send (h : InStep wanted has queue) (edits : List (Edit κ)) :
    InStep (settled wanted edits) has (queue ++ edits) := by
  intro k
  rw [settled_append]
  exact settled_congr (h k) edits

/-- A change that arrives. -/
theorem receive (h : InStep wanted has (e :: queue)) : InStep wanted (e.apply has) queue := h

/-- The receiver has no key, and is sent all of them. -/
theorem replay {keys : List κ} (hnone : ∀ k, has k = false) :
    InStep (fun k => decide (k ∈ keys)) has (keys.map .add) := by
  intro k
  rw [settled_adds, hnone, Bool.false_or]

/-- A key without a change on its way is the same on both sides. -/
theorem quiet (h : InStep wanted has queue) {k : κ} (hquiet : ∀ e ∈ queue, e.key ≠ k) :
    has k = wanted k :=
  (settled_of_quiet hquiet).symm.trans (h k)

end InStep

end PveManager.Core
