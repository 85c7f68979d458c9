import PveManager.Users.Accounts

/-!
# Sessions

The table of active sessions with the methods of the security service, and the
tokens that name a session. A session is over when its row is gone, switched off
or past its expiry; no method brings it back.
-/

namespace PveManager.Users

open PveManager.Core PveManager.Rbac PveManager.Api

/-- A row of `active_sessions`. -/
structure ActiveSession where
  id : Nat
  userId : UserId
  sessionToken : String
  expiresAt : Time
  isActive : Bool
  deriving DecidableEq, Repr

/-- The table, with its unique index. -/
abbrev Sessions := KeyedTable ActiveSession.sessionToken

namespace Sessions

variable (s : Sessions)

/-- Switch a session off. -/
def deactivate (row : ActiveSession) : ActiveSession := { row with isActive := false }

/-- `validate_session`: a session that is over is refused, one that is not is extended. -/
def validateSession (now timeout : Time) (token : String) : Sessions × Bool :=
  match (s.find? token).filter ActiveSession.isActive with
  | none => (s, false)
  | some row =>
    if row.expiresAt < now then (s.save (deactivate row), false)
    else (s.save { row with expiresAt := now + timeout }, true)

/-- `terminate_session`. -/
def terminateSession (token : String) : Sessions :=
  match s.find? token with
  | none => s
  | some row => s.save (deactivate row)

/-- `terminate_all_user_sessions`. -/
def terminateAllUserSessions (userId : UserId) : Sessions :=
  s.mapRows (fun row => if row.userId = userId then deactivate row else row) fun row => by
    split <;> rfl

/-- `create_session`; the insertion of a token that is there fails. -/
def createSession (id : Nat) (userId : UserId) (now timeout : Time) (token : String) :
    Option Sessions :=
  if (s.find? token).isSome then none else some (s.save ⟨id, userId, token, now + timeout, true⟩)

/-- The rows of a user, removed together with the account. -/
def deleteOfUser (userId : UserId) : Sessions := s.filter fun row => decide (row.userId ≠ userId)

/-- `terminate_session` of the users router, which deletes the row. -/
def deleteSession (id : Nat) : Sessions := s.filter fun row => decide (row.id ≠ id)

/-- `terminate_all_sessions`: only the rows of the caller stay. -/
def deleteAllExcept (userId : UserId) : Sessions := s.filter fun row => decide (row.userId = userId)

/-- The rows of a user. -/
def ofUser (userId : UserId) : List ActiveSession :=
  s.rows.filter fun row => decide (row.userId = userId)

/-- The session of this token is over. -/
def Over (token : String) (now : Time) : Prop :=
  ∀ row, s.find? token = some row → row.isActive = false ∨ row.expiresAt < now

section Over

variable {s} {token : String} {now : Time}

/-- A session that is over stays over as time passes. -/
theorem Over.later {now' : Time} (h : s.Over token now) (hle : now ≤ now') : s.Over token now' :=
  fun row hrow => (h row hrow).imp_right fun hlt => Nat.lt_of_lt_of_le hlt hle

/-- A write of another session's row does not matter. -/
theorem Over.save_of_ne {row : ActiveSession} (h : s.Over token now)
    (hne : row.sessionToken ≠ token) : Over (s.save row) token now := by
  intro r hr
  rw [KeyedTable.find?_save, if_neg hne] at hr
  exact h r hr

/-- Switching a session off ends it. -/
theorem over_save_deactivate {row : ActiveSession} (hkey : row.sessionToken = token) :
    Over (s.save (deactivate row)) token now := by
  intro r hr
  rw [KeyedTable.find?_save, if_pos (show (deactivate row).sessionToken = token from hkey)] at hr
  cases hr
  exact Or.inl rfl

theorem Over.filter (h : s.Over token now) (p : ActiveSession → Bool) :
    Over (KeyedTable.filter s p) token now := by
  intro r hr
  rw [KeyedTable.find?_filter, Option.filter_eq_some_iff] at hr
  exact h r hr.1

/-- Validation refuses a session that is over. -/
theorem Over.refused (h : s.Over token now) (timeout : Time) :
    (s.validateSession now timeout token).2 = false := by
  unfold validateSession
  split
  · rfl
  · rename_i row hrow
    obtain ⟨hfind, hactive⟩ := Option.filter_eq_some_iff.mp hrow
    rcases h row hfind with hoff | hexpired
    · exact absurd (hoff.symm.trans hactive) Bool.false_ne_true
    · rw [if_pos hexpired]

/-- Validation of any token leaves a session that is over as it is. -/
theorem Over.validateSession (h : s.Over token now) (timeout : Time) (token' : String) :
    Over (s.validateSession now timeout token').1 token now := by
  unfold Sessions.validateSession
  split
  · exact h
  · rename_i row hrow
    obtain ⟨hfind, hactive⟩ := Option.filter_eq_some_iff.mp hrow
    have hkey : row.sessionToken = token' := s.key_of_find? hfind
    by_cases heq : token' = token
    · subst heq
      rcases h row hfind with hoff | hexpired
      · exact absurd (hoff.symm.trans hactive) Bool.false_ne_true
      · rw [if_pos hexpired]
        exact over_save_deactivate hkey
    · have hne : row.sessionToken ≠ token := hkey ▸ heq
      split
      · exact h.save_of_ne hne
      · exact h.save_of_ne hne

theorem Over.terminateSession (h : s.Over token now) (token' : String) :
    Over (s.terminateSession token') token now := by
  unfold Sessions.terminateSession
  split
  · exact h
  · rename_i row hfind
    have hkey : row.sessionToken = token' := s.key_of_find? hfind
    by_cases heq : token' = token
    · exact over_save_deactivate (hkey.trans heq)
    · exact h.save_of_ne (hkey ▸ heq)

theorem Over.terminateAllUserSessions (h : s.Over token now) (userId : UserId) :
    Over (s.terminateAllUserSessions userId) token now := by
  intro r hr
  unfold Sessions.terminateAllUserSessions at hr
  rw [KeyedTable.find?_mapRows, Option.map_eq_some_iff] at hr
  obtain ⟨row, hrow, rfl⟩ := hr
  split
  · exact Or.inl rfl
  · exact h row hrow

theorem Over.createSession {id : Nat} {userId : UserId} {time timeout : Time} {fresh : String}
    {s' : Sessions} (h : s.Over token now) (hne : fresh ≠ token)
    (hs : s.createSession id userId time timeout fresh = some s') : Over s' token now := by
  unfold Sessions.createSession at hs
  split at hs
  · cases hs
  · cases hs
    exact h.save_of_ne hne

end Over

end Sessions

end PveManager.Users
