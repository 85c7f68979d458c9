import Mathlib.Data.List.Basic

/-!
# Database sessions

A session holds the rows it has committed beside the rows of its open transaction. A
statement that fails takes the transaction with it, and the session then refuses every
statement until it is rolled back.
-/

namespace PveManager.Core

universe u

/-- The rows that one unit of work adds. -/
structure Session (α : Type u) where
  /-- Committed. -/
  stored : List α
  /-- Sent to the database, in the open transaction. -/
  flushed : List α
  /-- Whether the transaction takes statements. -/
  works : Bool

namespace Session

variable {α : Type u} (s : Session α) {a b : α} {ok : Bool}

/-- The rows that the session would commit. -/
def rows : List α := s.stored ++ s.flushed

/-- Add a row and send it. -/
def flush (a : α) (ok : Bool) : Session α :=
  if s.works = false then s
  else if ok = true then { s with flushed := s.flushed ++ [a] }
  else { s with flushed := [], works := false }

/-- Give the open transaction up. -/
def rollback : Session α := { s with flushed := [], works := true }

/-- Commit; a commit that fails leaves a transaction that can only be rolled back. -/
def commit (ok : Bool) : Session α :=
  if s.works = true ∧ ok = true then ⟨s.stored ++ s.flushed, [], true⟩
  else { s with flushed := [], works := false }

/-- Commit, and roll back where that fails. -/
def commitOrRollback (ok : Bool) : Session α :=
  if s.works = true ∧ ok = true then s.commit ok else s.rollback

variable {s}

theorem flush_of_works (h : s.works = true) (a : α) :
    s.flush a true = { s with flushed := s.flushed ++ [a] } := by
  rw [flush, h, if_neg Bool.noConfusion, if_pos rfl]

theorem commit_of_works (h : s.works = true) : s.commit true = ⟨s.rows, [], true⟩ :=
  if_pos ⟨h, rfl⟩

theorem commitOrRollback_of_works (h : s.works = true) :
    s.commitOrRollback true = ⟨s.rows, [], true⟩ := by
  rw [commitOrRollback, if_pos ⟨h, rfl⟩, commit_of_works h]

/-- A flush commits nothing. -/
theorem stored_flush (a : α) (ok : Bool) : (s.flush a ok).stored = s.stored := by
  unfold flush
  split
  · rfl
  · split
    · rfl
    · rfl

/-- A commit that fails commits nothing. -/
theorem stored_commit_of_not (h : ok ≠ true) : (s.commit ok).stored = s.stored := by
  rw [commit, if_neg fun hboth => h hboth.2]

/-- A row is there after a flush only if it was there before, or was sent. -/
theorem mem_rows_flush (h : b ∈ (s.flush a ok).rows) :
    b ∈ s.rows ∨ b = a ∧ s.works = true ∧ ok = true := by
  unfold flush at h
  split at h
  · exact .inl h
  · rename_i hworks
    split at h
    · rename_i hok
      rw [rows, ← List.append_assoc] at h
      rcases List.mem_append.mp h with h | h
      · exact .inl h
      · exact .inr ⟨List.mem_singleton.mp h, Bool.not_eq_false _ ▸ hworks, hok⟩
    · rw [rows, List.append_nil] at h
      exact .inl (List.mem_append_left _ h)

/-- A rollback adds no row. -/
theorem mem_rows_rollback (h : b ∈ s.rollback.rows) : b ∈ s.rows := by
  rw [rows, rollback, List.append_nil] at h
  exact List.mem_append_left _ h

/-- A commit adds no row. -/
theorem mem_rows_commit (h : b ∈ (s.commit ok).rows) : b ∈ s.rows := by
  unfold commit at h
  split at h
  · rw [rows, List.append_nil] at h
    exact h
  · rw [rows, List.append_nil] at h
    exact List.mem_append_left _ h

theorem mem_rows_commitOrRollback (h : b ∈ (s.commitOrRollback ok).rows) : b ∈ s.rows := by
  unfold commitOrRollback at h
  split at h
  · exact mem_rows_commit h
  · exact mem_rows_rollback h

/-- A commit or rollback that fails leaves what was committed before. -/
theorem rows_commitOrRollback_of_not (h : ¬(s.works = true ∧ ok = true)) :
    (s.commitOrRollback ok).rows = s.stored := by
  rw [commitOrRollback, if_neg h]
  exact List.append_nil _

end Session

end PveManager.Core
