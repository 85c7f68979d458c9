import PveManager.Monitoring.UpidSync

/-!
# Two verdicts on one task

The poller completes a stopped task when it ended `OK`. The operations that wait for
their task in the process also accept an end with warnings. The two agree on every
other text.
-/

namespace PveManager.Monitoring

/-- The exit status tells of a success, with or without warnings. -/
def exitSucceeded : Option String → Bool
  | none => false
  | some text => decide (text = "OK") || decide ("WARNINGS:".toList <+: text.toList)

/-- Read the status until the task stops or the time is over. Every reading comes with the
seconds since the start and is missing where the request failed. -/
def waitUntilStopped (timeout : Nat) : List (Nat × Option TaskStatus) → Bool
  | [] => false
  | (elapsed, answer) :: rest =>
    if elapsed < timeout then
      match answer with
      | some status =>
        if status.status = some "stopped" then exitSucceeded status.exitstatus
        else waitUntilStopped timeout rest
      | none => waitUntilStopped timeout rest
    else false

/-- `_wait_clone_with_progress`, called for ten minutes. -/
def waitCloneWithProgress : List (Nat × Option TaskStatus) → Bool := waitUntilStopped 600

/-- `_wait_migrate_with_progress`, called for an hour. -/
def waitMigrateWithProgress : List (Nat × Option TaskStatus) → Bool := waitUntilStopped 3600

/-- `_wait_download_with_progress`, called for an hour. -/
def waitDownloadWithProgress : List (Nat × Option TaskStatus) → Bool := waitUntilStopped 3600

/-- The waiters of the asynchronous operations. -/
inductive Waiter
  | clone
  | migrate
  | download

/-- What a waiter returns. -/
def Waiter.wait : Waiter → List (Nat × Option TaskStatus) → Bool
  | .clone => waitCloneWithProgress
  | .migrate => waitMigrateWithProgress
  | .download => waitDownloadWithProgress

/-- The seconds a waiter has. -/
def Waiter.timeout : Waiter → Nat
  | .clone => 600
  | .migrate => 3600
  | .download => 3600

theorem Waiter.wait_eq (w : Waiter) : w.wait = waitUntilStopped w.timeout := by
  cases w with
  | clone => rfl
  | migrate => rfl
  | download => rfl

/-- A reading in time that does not end the wait. -/
def Waits (timeout : Nat) (reading : Nat × Option TaskStatus) : Prop :=
  reading.1 < timeout ∧ ∀ status, reading.2 = some status → status.status ≠ some "stopped"

/-- A wait that has seen nothing yet goes on. -/
theorem waitUntilStopped_cons {timeout : Nat} {reading : Nat × Option TaskStatus}
    (h : Waits timeout reading) (rest : List (Nat × Option TaskStatus)) :
    waitUntilStopped timeout (reading :: rest) = waitUntilStopped timeout rest := by
  obtain ⟨elapsed, answer⟩ := reading
  cases answer with
  | none =>
    rw [waitUntilStopped]
    exact if_pos h.1
  | some status =>
    rw [waitUntilStopped]
    exact (if_pos h.1).trans (if_neg (h.2 status rfl))

/-- The wait returns the verdict on the first stopped status. -/
theorem waitUntilStopped_append {timeout elapsed : Nat} (htime : elapsed < timeout)
    (exitstatus : Option String) (after : List (Nat × Option TaskStatus))
    {before : List (Nat × Option TaskStatus)} (hbefore : ∀ r ∈ before, Waits timeout r) :
    waitUntilStopped timeout
      (before ++ (elapsed, some ⟨some "stopped", exitstatus⟩) :: after) =
        exitSucceeded exitstatus := by
  induction before with
  | nil =>
    rw [List.nil_append, waitUntilStopped]
    exact (if_pos htime).trans (if_pos rfl)
  | cons r before ih =>
    obtain ⟨hr, hrest⟩ := List.forall_mem_cons.mp hbefore
    rw [List.cons_append, waitUntilStopped_cons hr]
    exact ih hrest

/-- The status that a verdict stands for. -/
def verdict (ok : Bool) : UpidStatus := if ok then .completed else .failed

/-- The poller and every waiter that sees the task stop give it the same status. -/
def FinalizersAgree (exitStatus : String) : Prop :=
  ∀ (w : Waiter) (t : ProxmoxTask) (now : Time) (log : Option (List String)) (elapsed : Nat)
    (before after : List (Nat × Option TaskStatus)),
    elapsed < w.timeout → (∀ r ∈ before, Waits w.timeout r) →
      (t.readAnswer now ⟨some "stopped", some exitStatus⟩ log).status =
        verdict (w.wait (before ++ (elapsed, some ⟨some "stopped", some exitStatus⟩) :: after))

theorem status_readAnswer_stopped (t : ProxmoxTask) (now : Time) (exitStatus : String)
    (log : Option (List String)) :
    (t.readAnswer now ⟨some "stopped", some exitStatus⟩ log).status =
      verdict (decide (exitStatus = "OK")) := by
  by_cases hok : exitStatus = "OK"
  · simp [ProxmoxTask.readAnswer, ProxmoxTask.finalise, verdict, hok]
  · simp [ProxmoxTask.readAnswer, ProxmoxTask.finalise, verdict, hok]

/-- Agreement is about the text alone. -/
theorem finalizersAgree_iff_exitSucceeded (exitStatus : String) :
    FinalizersAgree exitStatus ↔
      verdict (decide (exitStatus = "OK")) = verdict (exitSucceeded (some exitStatus)) := by
  constructor
  · intro h
    have hclone := h .clone ⟨0, "", none, 0, none, .running, none, none, none, none⟩ 0 none 0 [] []
      (by decide) (fun r hr => absurd hr List.not_mem_nil)
    rw [status_readAnswer_stopped, Waiter.wait_eq,
      waitUntilStopped_append (by decide) _ _ fun r hr => absurd hr List.not_mem_nil] at hclone
    exact hclone
  · intro h w t now log elapsed before after htime hbefore
    rw [w.wait_eq, waitUntilStopped_append htime _ _ hbefore, status_readAnswer_stopped]
    exact h

/-- The finalizers agree exactly on the texts that do not tell of warnings. -/
theorem finalizersAgree_iff (exitStatus : String) :
    FinalizersAgree exitStatus ↔ ¬"WARNINGS:".toList <+: exitStatus.toList := by
  rw [finalizersAgree_iff_exitSucceeded, exitSucceeded]
  by_cases hwarn : "WARNINGS:".toList <+: exitStatus.toList
  · have hok : exitStatus ≠ "OK" := by
      rintro rfl
      exact absurd hwarn (by decide)
    rw [decide_eq_true hwarn, decide_eq_false hok]
    exact iff_of_false (by decide) fun h => h hwarn
  · rw [decide_eq_false hwarn, Bool.or_false]
    exact iff_of_true rfl hwarn

/-- A task that ended with a warning is failed for the poller and completed for a waiter. -/
theorem warning_divides : ¬∀ exitStatus, FinalizersAgree exitStatus := by
  intro h
  have hclone := h "WARNINGS: 1" .clone
    ⟨7, "UPID:pve:7", some 1, 1, some "pve", .running, none, none, none, none⟩ 0 none 2 [] []
    (by decide) (fun r hr => absurd hr List.not_mem_nil)
  exact absurd hclone (by decide +kernel)

end PveManager.Monitoring
