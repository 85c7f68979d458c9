import PveManager.Users.AdminProtection

/-!
# Revocation of sessions

Access tokens name a session. `get_current_user` and `authenticate_ws_token`
validate it; `stop_impersonating` and the task socket only decode the token. A
session that is over is never honoured again exactly when no call reaches one
of these two with a token that still decodes.
-/

namespace PveManager.Users

open PveManager.Core PveManager.Rbac PveManager.Api

/-- The claims of an access token. -/
structure Jwt where
  sub : Option String
  session : Option String
  impersonator : Option String
  exp : Time
  deriving DecidableEq, Repr

/-- A claim that is there and not empty. -/
def given (claim : Option String) : Option String := claim.filter fun s => decide (s ≠ "")

/-- `create_access_token`. -/
def createAccessToken (now lifetime : Time) (sub : String) (session impersonator : Option String) :
    Jwt :=
  ⟨some sub, given session, impersonator, now + lifetime⟩

/-- `decode_access_token`; a token without the panel's signature has no claims. -/
def decodeAccessToken (now : Time) : Option Jwt → Except Exc Jwt
  | none => .error (.http 401 "Could not validate credentials")
  | some jwt => if jwt.exp ≤ now then .error (.http 401 "Token has expired") else .ok jwt

namespace Accounts

variable (st : Accounts)

def byUsername (username : String) : Option Account :=
  st.users.rows.find? fun a => decide (a.username = username)

/-- A write that meets no constraint but the foreign key of the role. -/
def put (a : Account) : Accounts :=
  match st.writeUser a true with
  | .ok st' => st'
  | .error _ => st

end Accounts

def Account.isLocked (a : Account) (now : Time) : Bool :=
  a.lockedUntil.any fun t => decide (now < t)

/-! ### Authentication -/

section Authentication

variable (now timeout : Time) (p : Panel)

/-- The session of the token, validated if the token names one. -/
def validateBound (jwt : Jwt) : Panel × Bool :=
  match given jwt.session with
  | none => (p, true)
  | some token =>
    let out := p.sessions.validateSession now timeout token
    (⟨p.accounts, out.1⟩, out.2)

/-- The part of `get_current_user` after the session is validated. -/
def availableUser (username : String) : Except Exc Account :=
  match p.accounts.byUsername username with
  | none => .error (.http 401 "User not found")
  | some a =>
    if !a.isActive then .error (.http 403 "User account is disabled")
    else if a.isLocked now then .error (.http 403 "Account is locked. Please try again later.")
    else .ok a

/-- `get_current_user`. -/
def getCurrentUser (token : Option Jwt) : Panel × Except Exc Account :=
  match decodeAccessToken now token with
  | .error e => (p, .error e)
  | .ok jwt =>
    match jwt.sub with
    | none => (p, .error (.http 401 "Could not validate credentials"))
    | some username =>
      match validateBound now timeout p jwt with
      | (p', false) => (p', .error (.http 401 "Session expired or invalid. Please login again."))
      | (p', true) => (p', availableUser now p' username)

/-- `authenticate_ws_token`. -/
def authenticateWsToken (token : Option Jwt) : Panel × Option Account :=
  match decodeAccessToken now token with
  | .error _ => (p, none)
  | .ok jwt =>
    match given jwt.sub with
    | none => (p, none)
    | some username =>
      match validateBound now timeout p jwt with
      | (p', false) => (p', none)
      | (p', true) =>
        (p', (p'.accounts.byUsername username).filter fun a => a.isActive && !a.isLocked now)

end Authentication

/-! ### The calls -/

/-- What an answer makes of the token the call carries. -/
inductive Answer
  | refused (e : Exc)
  /-- A socket that is closed before it is accepted. -/
  | closed (reason : String)
  /-- A caller whom the dependency let through, with the outcome of the endpoint. -/
  | authenticated (caller : Account) (outcome : Except Exc (Option Jwt))
  /-- A new token for the one that was sent. -/
  | exchanged (jwt : Jwt)
  /-- A call that carries no token. -/
  | anonymous (outcome : Except Exc (Option Jwt))

/-- The token was taken for the authority of its session. -/
def Answer.honours : Answer → Bool
  | .refused _ | .closed _ | .anonymous _ => false
  | .authenticated _ _ | .exchanged _ => true

/-- What a login meets besides the two tables. -/
structure LoginChecks where
  /-- `is_ip_blocked` and `check_brute_force`. -/
  blocked : Option String
  password : Account → Bool
  /-- The outcome of the second factor, if a code is sent. -/
  code : Option (Account → Bool)
  maxAttempts : Nat
  lockout : Time
  /-- A time as the messages show it. -/
  clock : Time → String

/-- The calls of the API, by what they do with tokens and sessions. -/
inductive Call
  | login (username : String) (checks : LoginChecks)
  /-- The reset by mail, for a link of this account or a link that is not valid. -/
  | resetPassword (id : Option UserId) (newPassword : String) (sur : Surroundings)
  | refresh (token : Option Jwt)
  | logout (token : Option Jwt)
  | impersonate (token : Option Jwt) (id : UserId)
  | stopImpersonating (token : Option Jwt)
  /-- The endpoints of the users router. -/
  | users (token : Option Jwt) (sur : Surroundings) (request : PanelRequest)
  /-- `delete_user` of the auth router. -/
  | deleteUser (token : Option Jwt) (id : UserId)
  /-- Any other endpoint behind `get_current_user`. -/
  | request (token : Option Jwt) (effect : Accounts → Account → Accounts)
  | websocketTasks (token : Option Jwt)
  /-- The sockets behind `authenticate_ws_token`. -/
  | websocket (token : Option Jwt)

/-- The token a call carries. -/
def Call.token : Call → Option Jwt
  | .login _ _ | .resetPassword _ _ _ => none
  | .refresh token | .logout token | .impersonate token _ | .stopImpersonating token
  | .users token _ _ | .deleteUser token _ | .request token _ | .websocketTasks token
  | .websocket token => token

/-- A call, the time since the one before it, and what the panel draws for a new session. -/
structure ServiceEvent where
  call : Call
  elapsed : Time
  sessionId : Nat
  fresh : String
  timeout : Time

section Calls

variable (e : ServiceEvent) (now : Time) (p : Panel)

/-- `create_session` and the token for it. -/
def openSession (a : Account) (impersonator : Option String) : Panel × Except Exc Jwt :=
  match p.sessions.createSession e.sessionId a.id now e.timeout e.fresh with
  | none => (p, .error refusedCommit)
  | some sessions =>
    (⟨p.accounts, sessions⟩,
      .ok (createAccessToken now e.timeout a.username (some e.fresh) impersonator))

/-- An endpoint behind `get_current_user`. -/
def behindCurrentUser (token : Option Jwt)
    (body : Panel → Account → Panel × Except Exc (Option Jwt)) : Panel × Answer :=
  match getCurrentUser now e.timeout p token with
  | (p', .error exc) => (p', .refused exc)
  | (p', .ok caller) =>
    let out := body p' caller
    (out.1, .authenticated caller out.2)

/-- `increment_failed_attempts`. -/
def failedAttempt (checks : LoginChecks) (a : Account) : Account :=
  let attempts := a.failedLoginAttempts + 1
  if checks.maxAttempts ≤ attempts then
    { a with failedLoginAttempts := attempts, lockedUntil := some (now + checks.lockout) }
  else { a with failedLoginAttempts := attempts }

def login (username : String) (checks : LoginChecks) : Panel × Except Exc (Option Jwt) :=
  match checks.blocked with
  | some detail => (p, .error (.http 403 detail))
  | none =>
    match p.accounts.byUsername username with
    | none => (p, .error (.http 401 "Incorrect username or password"))
    | some a =>
      if a.isLocked now then
        let lockedUntil := (a.lockedUntil.map checks.clock).getD ""
        (p, .error (.http 403 s!"Account is locked until {lockedUntil}"))
      else if !checks.password a then
        let p' := { p with accounts := p.accounts.put (failedAttempt now checks a) }
        if checks.maxAttempts ≤ a.failedLoginAttempts + 1 then
          (p', .error (.http 403 "Account locked due to too many failed attempts"))
        else (p', .error (.http 401 "Incorrect username or password"))
      else if !a.isActive then (p, .error (.http 403 "User account is disabled"))
      else if a.twoFactorEnabled && checks.code.isNone then (p, .ok none)
      else if a.twoFactorEnabled && !checks.code.any (fun code => code a) then
        (p, .error (.http 400 "Invalid two-factor code"))
      else
        let accounts := p.accounts.put { a with failedLoginAttempts := 0, lockedUntil := none }
        match openSession e now ⟨accounts, p.sessions⟩ a none with
        | (p', .error exc) => (p', .error exc)
        | (p', .ok jwt) => (p', .ok (some jwt))

/-- `reset_password` of the auth router. -/
def resetPassword (id : Option UserId) (newPassword : String) (sur : Surroundings) :
    Panel × Except Exc (Option Jwt) :=
  match (id.bind p.accounts.users.find?).filter Account.isActive with
  | none => (p, .error (.http 400 "Reset link is invalid or has expired"))
  | some a =>
    match checkPassword sur newPassword with
    | .error exc => (p, .error exc)
    | .ok () =>
      (⟨p.accounts.put { a with
          hashedPassword := sur.hash newPassword
          requirePasswordChange := false
          failedLoginAttempts := 0
          lockedUntil := none }, p.sessions.terminateAllUserSessions a.id⟩, .ok none)

/-- `impersonate_user` behind `get_current_active_admin`. -/
def impersonate (token : Option Jwt) (id : UserId) (admin : Account) :
    Panel × Except Exc (Option Jwt) :=
  let checked : Except Exc Account := do
    refuseIf (!p.accounts.administers admin) 403 "Administrator access required"
    let jwt ← decodeAccessToken now token
    refuseIf (given jwt.impersonator).isSome 400
      "Already impersonating. Return to your admin account first."
    let target ← findUser p.accounts id
    refuseIf (decide (target.id = admin.id)) 400 "Cannot impersonate yourself"
    refuseIf (!target.isActive) 400 "Cannot impersonate a disabled user"
    refuseIf (p.accounts.administers target) 403 "Cannot impersonate another administrator"
    .ok target
  match checked with
  | .error exc => (p, .error exc)
  | .ok target =>
    match openSession e now p target (some admin.username) with
    | (p', .error exc) => (p', .error exc)
    | (p', .ok jwt) => (p', .ok (some jwt))

/-- The administrator behind an impersonation, who gets a session of his own again. -/
def impersonatorOf (jwt : Jwt) : Except Exc Account :=
  match given jwt.impersonator with
  | none => .error (.http 400 "Not currently impersonating")
  | some username =>
    match p.accounts.byUsername username with
    | none => .error (.http 403 "Original administrator account is no longer available")
    | some admin =>
      if admin.isActive && p.accounts.administers admin then .ok admin
      else .error (.http 403 "Original administrator account is no longer available")

/-- The token is decoded, and its session is not validated. -/
def stopImpersonating (token : Option Jwt) : Panel × Answer :=
  match decodeAccessToken now token with
  | .error exc => (p, .refused exc)
  | .ok jwt =>
    match impersonatorOf p jwt with
    | .error exc => (p, .refused exc)
    | .ok admin =>
      let sessions := match given jwt.session with
        | some session => p.sessions.terminateSession session
        | none => p.sessions
      match openSession e now ⟨p.accounts, sessions⟩ admin none with
      | (p', .error exc) => (p', .refused exc)
      | (p', .ok jwt') => (p', .exchanged jwt')

/-- `delete_user` of the auth router, for administrators. -/
def deleteAccount (id : UserId) (admin : Account) : Panel × Except Exc (Option Jwt) :=
  let checked : Except Exc Unit := do
    refuseIf (!p.accounts.administers admin) 403 "Administrator access required"
    let a ← findUser p.accounts id
    refuseIf (decide (a.id = admin.id)) 400 "Cannot delete your own account"
  match checked with
  | .error exc => (p, .error exc)
  | .ok () =>
    (⟨p.accounts.eraseUser id, (p.sessions.terminateAllUserSessions id).deleteOfUser id⟩, .ok none)

/-- The task socket decodes the token and looks for an active account of its name. -/
def websocketTasks (token : Option Jwt) : Answer :=
  match decodeAccessToken now token with
  | .error _ => .closed "Invalid token"
  | .ok jwt =>
    match given jwt.sub with
    | none => .closed "Invalid token"
    | some username =>
      match p.accounts.users.rows.find? fun a => decide (a.username = username) && a.isActive with
      | none => .closed "User not found"
      | some a => .authenticated a (.ok none)

/-- The panel after a call, and the answer. -/
def answer : Call → Panel × Answer
  | .login username checks =>
    let out := Users.login e now p username checks
    (out.1, .anonymous out.2)
  | .resetPassword id newPassword sur =>
    let out := resetPassword p id newPassword sur
    (out.1, .anonymous out.2)
  | .refresh token =>
    behindCurrentUser e now p token fun p' caller =>
      (p', .ok (some (createAccessToken now e.timeout caller.username
        (token.bind Jwt.session) none)))
  | .logout token =>
    behindCurrentUser e now p token fun p' _ =>
      match token.bind fun jwt => given jwt.session with
      | some session => (⟨p'.accounts, p'.sessions.terminateSession session⟩, .ok none)
      | none => (p', .ok none)
  | .impersonate token id => behindCurrentUser e now p token fun p' caller =>
      impersonate e now p' token id caller
  | .stopImpersonating token => stopImpersonating e now p token
  | .users token sur request => behindCurrentUser e now p token fun p' caller =>
      let out := handlePanel sur p' caller request
      (out.1, out.2.map fun _ => none)
  | .deleteUser token id => behindCurrentUser e now p token fun p' caller =>
      deleteAccount p' id caller
  | .request token effect => behindCurrentUser e now p token fun p' caller =>
      (⟨effect p'.accounts caller, p'.sessions⟩, .ok none)
  | .websocketTasks token => (p, websocketTasks now p token)
  | .websocket token =>
    match authenticateWsToken now e.timeout p token with
    | (p', none) => (p', .closed "Authentication required")
    | (p', some a) => (p', .authenticated a (.ok none))

end Calls

/-! ### Sessions that are over -/

section Over

variable {p : Panel} {now : Time} {token : String}

theorem decodeAccessToken_eq_ok_iff {sent : Option Jwt} {jwt : Jwt} :
    decodeAccessToken now sent = .ok jwt ↔ sent = some jwt ∧ now < jwt.exp := by
  cases sent with
  | none =>
    refine iff_of_false (fun h => ?_) fun h => ?_
    · cases h
    · cases h.1
  | some jwt' =>
    change (if jwt'.exp ≤ now then Except.error (Exc.http 401 "Token has expired")
      else .ok jwt') = .ok jwt ↔ _
    by_cases hle : jwt'.exp ≤ now
    · rw [if_pos hle]
      refine iff_of_false (fun h => ?_) ?_
      · cases h
      · rintro ⟨⟨⟩, hlt⟩
        exact absurd hlt (Nat.not_lt.mpr hle)
    · rw [if_neg hle]
      constructor
      · rintro ⟨⟩
        exact ⟨rfl, Nat.lt_of_not_le hle⟩
      · rintro ⟨⟨⟩, -⟩
        rfl

theorem Sessions.Over.deleteOfUser {s : Sessions} (h : s.Over token now) (id : UserId) :
    (s.deleteOfUser id).Over token now :=
  Sessions.Over.filter h _

/-- No endpoint of the users router brings a session back. -/
theorem Sessions.Over.handlePanel (h : p.sessions.Over token now) (sur : Surroundings)
    (caller : Account) (request : PanelRequest) :
    (handlePanel sur p caller request).1.sessions.Over token now := by
  have hend : ∀ (check : Except Exc Unit) (sessions : Sessions) (text : String),
      sessions.Over token now →
        (endSessions sur p caller check sessions text).1.sessions.Over token now := by
    intro check sessions text hs
    rcases endSessions_cases sur p caller check with ⟨-, heq⟩ | ⟨-, heq⟩
    · rw [heq]
      exact hs
    · rw [heq]
      exact h
  cases request with
  | account request =>
    cases request with
    | updateUser id data =>
      change (sessionsAfterUpdate sur p caller id data).Over token now
      unfold sessionsAfterUpdate
      split
      · exact h
      · split
        · split
          · exact h
          · exact h.terminateAllUserSessions id
        · exact h
    | deleteUser id =>
      change (sessionsAfterDelete sur p caller id).Over token now
      unfold sessionsAfterDelete
      split
      · exact h
      · split
        · split
          · exact (h.terminateAllUserSessions id).deleteOfUser id
          · exact h.terminateAllUserSessions id
        · exact h
    | resetUserPassword id password =>
      change (handleAccount sur p caller (.resetUserPassword id password)).1.sessions.Over token now
      unfold handleAccount
      dsimp only
      split
      · exact h
      · split
        · exact h.terminateAllUserSessions id
        · exact h
    | _ => exact h
  | terminateUserSessions id => exact hend _ _ _ (h.terminateAllUserSessions id)
  | terminateSession id => exact hend _ _ _ (Sessions.Over.filter h _)
  | terminateAllSessions => exact hend _ _ _ (Sessions.Over.filter h _)

theorem Sessions.Over.validateBound (h : p.sessions.Over token now) (timeout : Time) (jwt : Jwt) :
    (validateBound now timeout p jwt).1.sessions.Over token now := by
  unfold Users.validateBound
  split
  · exact h
  · exact Sessions.Over.validateSession h timeout _

/-- A token whose session is over is not valid. -/
theorem validateBound_over (timeout : Time) (h : p.sessions.Over token now) (htoken : token ≠ "")
    {jwt : Jwt}
    (hjwt : jwt.session = some token) : (validateBound now timeout p jwt).2 = false := by
  have hgiven : given jwt.session = some token := by simp [given, hjwt, htoken]
  unfold validateBound
  rw [hgiven]
  exact h.refused timeout

theorem Sessions.Over.getCurrentUser (h : p.sessions.Over token now) (timeout : Time)
    (sent : Option Jwt) :
    (getCurrentUser now timeout p sent).1.sessions.Over token now := by
  unfold Users.getCurrentUser
  split
  · exact h
  · rename_i jwt _
    split
    · exact h
    · have hbound := h.validateBound timeout jwt
      split <;> rename_i heq <;> rw [heq] at hbound <;> exact hbound

/-- `get_current_user` refuses a token whose session is over. -/
theorem getCurrentUser_over (timeout : Time) (h : p.sessions.Over token now) (htoken : token ≠ "")
    {jwt : Jwt}
    (hjwt : jwt.session = some token) :
    ∃ exc, (getCurrentUser now timeout p (some jwt)).2 = .error exc := by
  unfold getCurrentUser
  split
  · exact ⟨_, rfl⟩
  · rename_i jwt' hdecode
    obtain rfl := Option.some.inj (decodeAccessToken_eq_ok_iff.mp hdecode).1
    have hover := validateBound_over timeout h htoken hjwt
    split
    · exact ⟨_, rfl⟩
    · split
      · exact ⟨_, rfl⟩
      · rename_i heq
        rw [heq] at hover
        cases hover

theorem Sessions.Over.authenticateWsToken (h : p.sessions.Over token now) (timeout : Time)
    (sent : Option Jwt) :
    (authenticateWsToken now timeout p sent).1.sessions.Over token now := by
  unfold Users.authenticateWsToken
  split
  · exact h
  · rename_i jwt _
    split
    · exact h
    · have hbound := h.validateBound timeout jwt
      split <;> rename_i heq <;> rw [heq] at hbound <;> exact hbound

/-- So does `authenticate_ws_token`. -/
theorem authenticateWsToken_over (timeout : Time) (h : p.sessions.Over token now)
    (htoken : token ≠ "") {jwt : Jwt} (hjwt : jwt.session = some token) :
    (authenticateWsToken now timeout p (some jwt)).2 = none := by
  unfold authenticateWsToken
  split
  · rfl
  · rename_i jwt' hdecode
    obtain rfl := Option.some.inj (decodeAccessToken_eq_ok_iff.mp hdecode).1
    have hover := validateBound_over timeout h htoken hjwt
    split
    · rfl
    · split
      · rfl
      · rename_i heq
        rw [heq] at hover
        cases hover

/-- A new session does not bring back another one. -/
theorem Sessions.Over.openSession {e : ServiceEvent} (h : p.sessions.Over token now)
    (hfresh : e.fresh ≠ token) (a : Account) (impersonator : Option String) :
    (openSession e now p a impersonator).1.sessions.Over token now := by
  unfold Users.openSession
  split
  · exact h
  · rename_i heq
    exact h.createSession hfresh heq

theorem Sessions.Over.login {e : ServiceEvent} (h : p.sessions.Over token now)
    (hfresh : e.fresh ≠ token) (username : String) (checks : LoginChecks) :
    (login e now p username checks).1.sessions.Over token now := by
  unfold Users.login
  split
  · exact h
  · split
    · exact h
    · rename_i a _
      dsimp only
      split
      · exact h
      · split
        · split <;> exact h
        · split
          · exact h
          · split
            · exact h
            · split
              · exact h
              · have hopen := Sessions.Over.openSession (p := ⟨p.accounts.put { a with
                    failedLoginAttempts := 0
                    lockedUntil := none }, p.sessions⟩) h hfresh a none
                split <;> rename_i heq <;> rw [heq] at hopen <;> exact hopen

theorem Sessions.Over.resetPassword (h : p.sessions.Over token now) (id : Option UserId)
    (newPassword : String) (sur : Surroundings) :
    (resetPassword p id newPassword sur).1.sessions.Over token now := by
  unfold Users.resetPassword
  split
  · exact h
  · split
    · exact h
    · exact h.terminateAllUserSessions _

theorem Sessions.Over.impersonate {e : ServiceEvent} (h : p.sessions.Over token now)
    (hfresh : e.fresh ≠ token) (sent : Option Jwt) (id : UserId) (admin : Account) :
    (impersonate e now p sent id admin).1.sessions.Over token now := by
  unfold Users.impersonate
  dsimp only
  split
  · exact h
  · rename_i target _
    have hopen := h.openSession hfresh target (some admin.username)
    split <;> rename_i heq <;> rw [heq] at hopen <;> exact hopen

theorem Sessions.Over.stopImpersonating {e : ServiceEvent} (h : p.sessions.Over token now)
    (hfresh : e.fresh ≠ token) (sent : Option Jwt) :
    (stopImpersonating e now p sent).1.sessions.Over token now := by
  unfold Users.stopImpersonating
  split
  · exact h
  · rename_i jwt _
    split
    · exact h
    · rename_i admin _
      dsimp only
      have hended : Sessions.Over (match given jwt.session with
          | some session => p.sessions.terminateSession session
          | none => p.sessions) token now := by
        split
        · exact h.terminateSession _
        · exact h
      have hopen := Sessions.Over.openSession (p := ⟨p.accounts, _⟩) hended hfresh admin none
      split <;> rename_i heq <;> rw [heq] at hopen <;> exact hopen

theorem Sessions.Over.deleteAccount (h : p.sessions.Over token now) (id : UserId)
    (admin : Account) : (deleteAccount p id admin).1.sessions.Over token now := by
  unfold Users.deleteAccount
  dsimp only
  split
  · exact h
  · exact (h.terminateAllUserSessions id).deleteOfUser id

theorem Sessions.Over.behindCurrentUser {e : ServiceEvent} (h : p.sessions.Over token now)
    (sent : Option Jwt) {body : Panel → Account → Panel × Except Exc (Option Jwt)}
    (hbody : ∀ p' caller, p'.sessions.Over token now → (body p' caller).1.sessions.Over token now) :
    (behindCurrentUser e now p sent body).1.sessions.Over token now := by
  unfold Users.behindCurrentUser
  have huser := h.getCurrentUser e.timeout sent
  split
  · rename_i heq
    rw [heq] at huser
    exact huser
  · rename_i heq
    rw [heq] at huser
    exact hbody _ _ huser

/-- No call brings back a session that is over. -/
theorem Sessions.Over.answer {e : ServiceEvent} (h : p.sessions.Over token now)
    (hfresh : e.fresh ≠ token) (call : Call) : (answer e now p call).1.sessions.Over token now := by
  cases call with
  | login username checks => exact h.login hfresh username checks
  | resetPassword id newPassword sur => exact h.resetPassword id newPassword sur
  | refresh sent => exact h.behindCurrentUser sent fun _ _ h' => h'
  | logout sent =>
    apply h.behindCurrentUser sent
    intro p' caller h'
    split
    · exact h'.terminateSession _
    · exact h'
  | impersonate sent id =>
    exact h.behindCurrentUser sent fun _ caller h' => h'.impersonate hfresh sent id caller
  | stopImpersonating sent => exact h.stopImpersonating hfresh sent
  | users sent sur request =>
    exact h.behindCurrentUser sent fun _ caller h' => h'.handlePanel sur caller request
  | deleteUser sent id => exact h.behindCurrentUser sent fun _ caller h' => h'.deleteAccount id caller
  | request sent effect => exact h.behindCurrentUser sent fun _ _ h' => h'
  | websocketTasks sent => exact h
  | websocket sent =>
    have hws := h.authenticateWsToken e.timeout sent
    unfold Users.answer
    dsimp only
    split <;> rename_i heq <;> rw [heq] at hws <;> exact hws

/-- A dependency on `get_current_user` honours no token whose session is over. -/
theorem behindCurrentUser_over {e : ServiceEvent} (h : p.sessions.Over token now)
    (htoken : token ≠ "") {jwt : Jwt} (hjwt : jwt.session = some token)
    (body : Panel → Account → Panel × Except Exc (Option Jwt)) :
    (behindCurrentUser e now p (some jwt) body).2.honours = false := by
  obtain ⟨exc, hexc⟩ := getCurrentUser_over e.timeout h htoken hjwt
  unfold behindCurrentUser
  split
  · rfl
  · rename_i heq
    rw [heq] at hexc
    cases hexc

/-- Who the task socket takes a token for. -/
def Accounts.activeByUsername (st : Accounts) (username : String) : Option Account :=
  st.users.rows.find? fun a => decide (a.username = username) && a.isActive

theorem websocketTasks_honours_iff {sent : Option Jwt} :
    (websocketTasks now p sent).honours = true ↔
      ∃ jwt, sent = some jwt ∧ now < jwt.exp ∧
        ∃ username, given jwt.sub = some username ∧
          (p.accounts.activeByUsername username).isSome = true := by
  unfold websocketTasks
  cases hdecode : decodeAccessToken now sent with
  | error exc =>
    refine iff_of_false Bool.false_ne_true ?_
    rintro ⟨jwt, hsent, hlt, -⟩
    rw [decodeAccessToken_eq_ok_iff.mpr ⟨hsent, hlt⟩] at hdecode
    cases hdecode
  | ok jwt =>
    obtain ⟨rfl, hlt⟩ := decodeAccessToken_eq_ok_iff.mp hdecode
    have hone : (∃ jwt', some jwt = some jwt' ∧ now < jwt'.exp ∧ ∃ username,
        given jwt'.sub = some username ∧ (p.accounts.activeByUsername username).isSome = true) ↔
          ∃ username, given jwt.sub = some username ∧
            (p.accounts.activeByUsername username).isSome = true := by
      constructor
      · rintro ⟨_, ⟨⟩, -, hname⟩
        exact hname
      · exact fun hname => ⟨jwt, rfl, hlt, hname⟩
    rw [hone]
    dsimp only
    cases hname : given jwt.sub with
    | none =>
      refine iff_of_false Bool.false_ne_true ?_
      rintro ⟨_, h, -⟩
      cases h
    | some username =>
      have hfound : (∃ username', some username = some username' ∧
          (p.accounts.activeByUsername username').isSome = true) ↔
            (p.accounts.activeByUsername username).isSome = true := by
        constructor
        · rintro ⟨_, ⟨⟩, h⟩
          exact h
        · exact fun h => ⟨username, rfl, h⟩
      rw [hfound]
      unfold Accounts.activeByUsername
      dsimp only
      split
      · rename_i hf
        rw [hf]
        exact iff_of_false Bool.false_ne_true Bool.false_ne_true
      · rename_i hf
        rw [hf]
        exact iff_of_true rfl rfl

theorem impersonatorOf_eq_ok_iff {jwt : Jwt} {admin : Account} :
    impersonatorOf p jwt = .ok admin ↔
      ∃ username, given jwt.impersonator = some username ∧
        p.accounts.byUsername username = some admin ∧ admin.isActive = true ∧
          p.accounts.administers admin = true := by
  unfold impersonatorOf
  constructor
  · intro h
    split at h
    · cases h
    · rename_i username hname
      split at h
      · cases h
      · rename_i a hfind
        split at h
        · rename_i hactive
          cases h
          exact ⟨username, hname, hfind, Bool.and_eq_true_iff.mp hactive⟩
        · cases h
  · rintro ⟨username, hname, hfind, hactive⟩
    rw [hname]
    dsimp only
    rw [hfind]
    exact if_pos (Bool.and_eq_true_iff.mpr hactive)

theorem openSession_ok_iff {e : ServiceEvent} {a : Account} {impersonator : Option String} :
    (∃ jwt, (openSession e now p a impersonator).2 = .ok jwt) ↔
      p.sessions.find? e.fresh = none := by
  unfold openSession Sessions.createSession
  cases hf : p.sessions.find? e.fresh with
  | none => exact iff_of_true ⟨_, rfl⟩ rfl
  | some row =>
    refine iff_of_false ?_ (fun h => by cases h)
    rintro ⟨_, h⟩
    cases h

/-- Ending a session leaves the keys of the table. -/
theorem Sessions.find?_terminateSession_eq_none_iff {s : Sessions} {token' fresh : String} :
    (s.terminateSession token').find? fresh = none ↔ s.find? fresh = none := by
  unfold Sessions.terminateSession
  split
  · exact Iff.rfl
  · rename_i row hrow
    have hkey : row.sessionToken = token' := s.key_of_find? hrow
    rw [KeyedTable.find?_save]
    split
    · rename_i heq
      have hfresh : token' = fresh := hkey.symm.trans heq
      rw [← hfresh, hrow]
      exact iff_of_false (fun h => by cases h) fun h => by cases h
    · exact Iff.rfl

theorem stopImpersonating_honours_iff {e : ServiceEvent} {sent : Option Jwt} :
    (stopImpersonating e now p sent).2.honours = true ↔
      ∃ jwt, sent = some jwt ∧ now < jwt.exp ∧ (∃ admin, impersonatorOf p jwt = .ok admin) ∧
        p.sessions.find? e.fresh = none := by
  unfold stopImpersonating
  cases hdecode : decodeAccessToken now sent with
  | error exc =>
    refine iff_of_false Bool.false_ne_true ?_
    rintro ⟨jwt, hsent, hlt, -⟩
    rw [decodeAccessToken_eq_ok_iff.mpr ⟨hsent, hlt⟩] at hdecode
    cases hdecode
  | ok jwt =>
    obtain ⟨rfl, hlt⟩ := decodeAccessToken_eq_ok_iff.mp hdecode
    dsimp only
    cases himp : impersonatorOf p jwt with
    | error exc =>
      refine iff_of_false Bool.false_ne_true ?_
      rintro ⟨_, ⟨⟩, -, ⟨admin, hadmin⟩, -⟩
      rw [himp] at hadmin
      cases hadmin
    | ok admin =>
      dsimp only
      generalize hs : (match given jwt.session with
        | some session => p.sessions.terminateSession session
        | none => p.sessions) = sessions
      have hnone : sessions.find? e.fresh = none ↔ p.sessions.find? e.fresh = none := by
        rw [← hs]
        split
        · exact Sessions.find?_terminateSession_eq_none_iff
        · exact Iff.rfl
      have hopen : (∃ jwt', (openSession e now ⟨p.accounts, sessions⟩ admin none).2 = .ok jwt') ↔
          p.sessions.find? e.fresh = none := openSession_ok_iff.trans hnone
      split
      · rename_i heq
        rw [heq] at hopen
        refine iff_of_false Bool.false_ne_true ?_
        rintro ⟨_, ⟨⟩, -, -, hfresh⟩
        obtain ⟨_, h⟩ := hopen.mpr hfresh
        cases h
      · rename_i heq
        rw [heq] at hopen
        exact iff_of_true rfl ⟨jwt, rfl, hlt, ⟨admin, himp⟩, hopen.mp ⟨_, rfl⟩⟩

end Over

/-! ### Runs after a revocation -/

/-- The panel, the time, and the tokens that were taken for the authority of their session. -/
structure Service where
  panel : Panel
  clock : Time
  honoured : List Jwt

/-- The tokens after an answer. -/
def honouredAfter (honoured : List Jwt) (call : Call) (reply : Answer) : List Jwt :=
  match call.token with
  | some jwt => if reply.honours then jwt :: honoured else honoured
  | none => honoured

def serviceStep (s : Service) (e : ServiceEvent) : Service :=
  let now := s.clock + e.elapsed
  let out := answer e now s.panel e.call
  ⟨out.1, now, honouredAfter s.honoured e.call out.2⟩

/-- A session that is over, and the calls from then on. -/
structure Revocation where
  token : String
  token_ne : token ≠ ""
  panel : Panel
  since : Time
  ended : panel.sessions.Over token since
  events : List ServiceEvent
  /-- `generate_session_token` does not draw the token of the session again. -/
  fresh : ∀ e ∈ events, e.fresh ≠ token

namespace Revocation

variable (r : Revocation)

/-- No token of the session was honoured. -/
def Final (s : Service) : Prop := ∀ jwt ∈ s.honoured, jwt.session ≠ some r.token

/-- The call carries a token of the session to an endpoint that only decodes it. -/
def Opens (s : Service) (e : ServiceEvent) : Prop :=
  ∃ jwt, e.call.token = some jwt ∧ jwt.session = some r.token ∧ s.clock + e.elapsed < jwt.exp ∧
    match e.call with
    | .websocketTasks _ =>
      ∃ username, given jwt.sub = some username ∧
        (s.panel.accounts.activeByUsername username).isSome = true
    | .stopImpersonating _ =>
      (∃ username admin, given jwt.impersonator = some username ∧
        s.panel.accounts.byUsername username = some admin ∧ admin.isActive = true ∧
        s.panel.accounts.administers admin = true) ∧ s.panel.sessions.find? e.fresh = none
    | _ => False

/-- The session is over, and it was not honoured since. -/
def Ended (s : Service) : Prop := s.panel.sessions.Over r.token s.clock ∧ r.Final s

variable {r}

/-- An answer honours the session exactly when the call opens it. -/
theorem honours_iff_opens {s : Service} {e : ServiceEvent}
    (h : s.panel.sessions.Over r.token s.clock) :
    (∃ jwt, e.call.token = some jwt ∧ jwt.session = some r.token ∧
      (answer e (s.clock + e.elapsed) s.panel e.call).2.honours = true) ↔ r.Opens s e := by
  have hlater := h.later (Nat.le_add_right s.clock e.elapsed)
  have hbehind : ∀ {sent : Option Jwt} {body : Panel → Account → Panel × Except Exc (Option Jwt)},
      (∃ jwt, sent = some jwt ∧ jwt.session = some r.token ∧
        (behindCurrentUser e (s.clock + e.elapsed) s.panel sent body).2.honours = true) → False := by
    rintro _ body ⟨jwt, rfl, hjwt, hon⟩
    rw [behindCurrentUser_over hlater r.token_ne hjwt body] at hon
    cases hon
  unfold Opens
  cases hcall : e.call with
  | login username checks =>
    refine iff_of_false ?_ fun ⟨_, _, _, _, h⟩ => h
    rintro ⟨_, ⟨⟩, -⟩
  | resetPassword id newPassword sur =>
    refine iff_of_false ?_ fun ⟨_, _, _, _, h⟩ => h
    rintro ⟨_, ⟨⟩, -⟩
  | refresh sent => exact iff_of_false hbehind fun ⟨_, _, _, _, h⟩ => h
  | logout sent => exact iff_of_false hbehind fun ⟨_, _, _, _, h⟩ => h
  | impersonate sent id => exact iff_of_false hbehind fun ⟨_, _, _, _, h⟩ => h
  | users sent sur request => exact iff_of_false hbehind fun ⟨_, _, _, _, h⟩ => h
  | deleteUser sent id => exact iff_of_false hbehind fun ⟨_, _, _, _, h⟩ => h
  | request sent effect => exact iff_of_false hbehind fun ⟨_, _, _, _, h⟩ => h
  | websocket sent =>
    refine iff_of_false ?_ fun ⟨_, _, _, _, h⟩ => h
    rintro ⟨jwt, hsent, hjwt, hon⟩
    have hnone := authenticateWsToken_over e.timeout hlater r.token_ne hjwt
    change sent = some jwt at hsent
    subst hsent
    unfold answer at hon
    dsimp only at hon
    split at hon
    · cases hon
    · rename_i heq
      rw [heq] at hnone
      cases hnone
  | websocketTasks sent =>
    constructor
    · rintro ⟨jwt, hsent, hjwt, hon⟩
      obtain ⟨jwt', hsent', hlt, hname⟩ := websocketTasks_honours_iff.mp hon
      obtain rfl : jwt' = jwt := Option.some.inj (hsent'.symm.trans hsent)
      exact ⟨jwt', hsent, hjwt, hlt, hname⟩
    · rintro ⟨jwt, hsent, hjwt, hlt, hname⟩
      exact ⟨jwt, hsent, hjwt, websocketTasks_honours_iff.mpr ⟨jwt, hsent, hlt, hname⟩⟩
  | stopImpersonating sent =>
    constructor
    · rintro ⟨jwt, hsent, hjwt, hon⟩
      obtain ⟨jwt', hsent', hlt, ⟨admin, hadmin⟩, hnew⟩ := stopImpersonating_honours_iff.mp hon
      obtain rfl : jwt' = jwt := Option.some.inj (hsent'.symm.trans hsent)
      obtain ⟨username, hname⟩ := impersonatorOf_eq_ok_iff.mp hadmin
      exact ⟨jwt', hsent, hjwt, hlt, ⟨username, admin, hname⟩, hnew⟩
    · rintro ⟨jwt, hsent, hjwt, hlt, ⟨username, admin, hname⟩, hnew⟩
      have hadmin := impersonatorOf_eq_ok_iff.mpr ⟨username, hname⟩
      exact ⟨jwt, hsent, hjwt,
        stopImpersonating_honours_iff.mpr ⟨jwt, hsent, hlt, ⟨admin, hadmin⟩, hnew⟩⟩

/-- What is honoured after a call was honoured before it or is the token of the call. -/
theorem final_serviceStep_iff {s : Service} {e : ServiceEvent} (h : r.Final s) :
    r.Final (serviceStep s e) ↔ ¬∃ jwt, e.call.token = some jwt ∧ jwt.session = some r.token ∧
      (answer e (s.clock + e.elapsed) s.panel e.call).2.honours = true := by
  change (∀ jwt ∈ honouredAfter s.honoured e.call _, jwt.session ≠ some r.token) ↔ _
  unfold honouredAfter
  cases htoken : e.call.token with
  | none =>
    refine iff_of_true h ?_
    rintro ⟨_, ⟨⟩, -⟩
  | some jwt =>
    dsimp only
    split
    · rename_i hon
      constructor
      · rintro hall ⟨_, ⟨⟩, hjwt, -⟩
        exact hall jwt List.mem_cons_self hjwt
      · intro hno jwt' hjwt'
        rcases List.mem_cons.mp hjwt' with rfl | hold
        · exact fun hsession => hno ⟨jwt', rfl, hsession, hon⟩
        · exact h jwt' hold
    · rename_i hoff
      refine iff_of_true h ?_
      rintro ⟨_, ⟨⟩, -, hon⟩
      exact hoff hon

/-- A call leaves the session ended exactly when it does not open it. -/
theorem ended_serviceStep_iff {s : Service} {e : ServiceEvent} (he : e ∈ r.events)
    (h : r.Ended s) : r.Ended (serviceStep s e) ↔ ¬r.Opens s e := by
  have hlater := h.1.later (Nat.le_add_right s.clock e.elapsed)
  have hover : (serviceStep s e).panel.sessions.Over r.token (serviceStep s e).clock :=
    hlater.answer (r.fresh e he) e.call
  have hended : r.Ended (serviceStep s e) ↔ r.Final (serviceStep s e) := and_iff_right hover
  rw [hended, final_serviceStep_iff h.2, honours_iff_opens h.1]

variable (r)

/-- The panel right after the revocation. -/
def start : Service := ⟨r.panel, r.since, []⟩

/-- No token of the session is honoured after its end exactly when no call opens the session. -/
theorem final_iff :
    (∀ s ∈ visited serviceStep r.start r.events, r.Final s) ↔
      Guarded serviceStep (fun s e => ¬r.Opens s e) r.start r.events := by
  have hover : ∀ s ∈ visited serviceStep r.start r.events,
      s.panel.sessions.Over r.token s.clock := by
    have hkeep : ∀ s : Service, ∀ e ∈ r.events, s.panel.sessions.Over r.token s.clock →
        ((serviceStep s e).panel.sessions.Over r.token (serviceStep s e).clock ↔ True) := by
      intro s e he h
      have hlater := h.later (Nat.le_add_right s.clock e.elapsed)
      exact iff_true_intro (hlater.answer (r.fresh e he) e.call)
    exact (forall_visited_iff_guarded (s := r.start)
      (P := fun s : Service => s.panel.sessions.Over r.token s.clock) hkeep r.ended).mpr
        (guarded_true _ _ _)
  have hstart : r.Ended r.start := ⟨r.ended, fun _ hjwt => absurd hjwt List.not_mem_nil⟩
  rw [← forall_visited_iff_guarded (fun _ _ he h => ended_serviceStep_iff he h) hstart]
  constructor
  · exact fun h s hs => ⟨hover s hs, h s hs⟩
  · exact fun h s hs => (h s hs).2

/-! ### A terminated impersonation -/

/-- The account of the impersonator. -/
def warden : Account := ⟨1, "warden", "warden@example.com", "", none, true, true, none, 0, none,
  false, false, none⟩

/-- An impersonation whose session an administrator has terminated is given back for a new one. -/
def exchange : Revocation where
  token := "old"
  token_ne := by decide
  panel := ⟨⟨KeyedTable.empty.save warden, KeyedTable.empty, 2, 1, by decide, by decide, by decide⟩,
    KeyedTable.empty.save ⟨1, 2, "old", 100, false⟩⟩
  since := 0
  ended := by
    intro row hrow
    cases hrow
    exact Or.inl rfl
  events := [⟨.stopImpersonating (some ⟨some "guest", some "old", some "warden", 100⟩), 1, 2, "new",
    60⟩]
  fresh := fun e he => by rw [List.mem_singleton.mp he]; decide

/-- The token of the terminated session was taken, and a new session was opened for it. -/
theorem exchange_not_final :
    ¬∀ s ∈ visited serviceStep exchange.start exchange.events, exchange.Final s := by
  intro h
  have hend := h _ (foldl_mem_visited _ _ _)
  have hhonoured : (exchange.events.foldl serviceStep exchange.start).honoured =
      [⟨some "guest", some "old", some "warden", 100⟩] := by decide
  rw [Final, hhonoured] at hend
  exact hend _ List.mem_cons_self rfl

end Revocation

end PveManager.Users
