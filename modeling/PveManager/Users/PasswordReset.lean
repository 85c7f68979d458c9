import PveManager.Users.Revocation

/-!
# Password resets by mail

A request for a link spends the unused tokens of the account and stores a new one. A reset
reads a token by its hash, spends all tokens of the account and ends its sessions. A row is
never removed and never unspent, so a token changes one password at most.
-/

namespace PveManager.Users

open PveManager.Core PveManager.Rbac PveManager.Api

/-- A row of `password_reset_tokens`. -/
structure PasswordResetToken where
  userId : UserId
  tokenHash : String
  expiresAt : Time
  usedAt : Option Time
  createdAt : Time
  deriving DecidableEq

/-- The token is unused and not expired. -/
def PasswordResetToken.isValid (r : PasswordResetToken) (now : Time) : Bool :=
  if r.usedAt.isSome then false else if r.expiresAt ≤ now then false else true

/-- The table, with its unique index. -/
abbrev ResetTokens := KeyedTable PasswordResetToken.tokenHash

/-- What the endpoints take from the settings, the database and the libraries. -/
structure ResetSettings where
  sha256 : String → String
  /-- `ILIKE`, with the pattern first. -/
  ilike : String → String → Bool
  expireMinutes : Nat

/-- The unused tokens of an account become used. -/
def spendOfUser (userId : UserId) (now : Time) (r : PasswordResetToken) : PasswordResetToken :=
  if r.userId = userId ∧ r.usedAt.isNone then { r with usedAt := some now } else r

@[simp] theorem tokenHash_spendOfUser (userId : UserId) (now : Time) (r : PasswordResetToken) :
    (spendOfUser userId now r).tokenHash = r.tokenHash := by
  unfold spendOfUser
  split <;> rfl

@[simp] theorem userId_spendOfUser (userId : UserId) (now : Time) (r : PasswordResetToken) :
    (spendOfUser userId now r).userId = r.userId := by
  unfold spendOfUser
  split <;> rfl

/-- Accounts and sessions with the tokens. -/
structure ResetState where
  panel : Panel
  tokens : ResetTokens
  /-- The tokens that changed a password, with the time of the check. -/
  changes : List (PasswordResetToken × Time)

inductive ResetRequest
  /-- With the token that the panel draws. -/
  | forgotPassword (email rawToken : String)
  | resetPassword (token newPassword : String)
  /-- The reset by an administrator, which neither issues nor takes a token. -/
  | resetUserPassword (caller : Account) (id : UserId) (newPassword : String)
  | login (e : ServiceEvent) (username : String) (checks : LoginChecks)

/-- A request with what it meets. -/
structure ResetEvent where
  request : ResetRequest
  sur : Surroundings

/-! ### The endpoints -/

namespace ResetState

section Endpoints

variable (cfg : ResetSettings) (s : ResetState) (sur : Surroundings)

/-- The same reply for every address. -/
def genericReply : String :=
  "If an account with that email exists, a password reset link has been sent."

/-- The first account of the address, if it is active. -/
def mailedAccount (email : String) : Option Account :=
  (s.panel.accounts.users.rows.find? fun a =>
    cfg.ilike (PveManager.strip email) a.email).filter Account.isActive

/-- A token was stored for the account within the last minute. -/
def throttled (userId : UserId) : Bool :=
  s.tokens.rows.any fun r => decide (r.userId = userId) && decide (sur.now ≤ r.createdAt + 60)

/-- The row for a new token. -/
def issuedToken (userId : UserId) (rawToken : String) : PasswordResetToken where
  userId := userId
  tokenHash := cfg.sha256 rawToken
  expiresAt := sur.now + 60 * cfg.expireMinutes
  usedAt := none
  createdAt := sur.now

/-- All unused tokens of the account are spent. -/
def spent (userId : UserId) : ResetTokens :=
  s.tokens.mapRows (spendOfUser userId sur.now) (tokenHash_spendOfUser userId sur.now)

/-- `forgot_password`. -/
def forgotPassword (email rawToken : String) : ResetState × Except Exc String :=
  match s.mailedAccount cfg email with
  | none => (s, .ok genericReply)
  | some a =>
    if s.throttled sur a.id then (s, .ok genericReply)
    else if (s.tokens.find? (cfg.sha256 rawToken)).isSome || !sur.commits 0 then
      (s, .error refusedCommit)
    else
      ({ s with tokens := (s.spent sur a.id).save (issuedToken cfg sur a.id rawToken) },
        .ok genericReply)

/-- The row of a token that can still be used. -/
def validToken (token : String) : Option PasswordResetToken :=
  (s.tokens.find? (cfg.sha256 token)).filter fun r => r.isValid sur.now

/-- `validate_reset_token`. -/
def validateResetToken (token : String) : Bool := (s.validToken cfg sur token).isSome

/-- `reset_password`: one commit for the password and the tokens, one for the sessions. -/
def resetPassword (token newPassword : String) : ResetState × Except Exc String :=
  match s.validToken cfg sur token with
  | none => (s, .error (.http 400 "Reset link is invalid or has expired"))
  | some r =>
    match Users.resetPassword s.panel (some r.userId) newPassword sur with
    | (_, .error exc) => (s, .error exc)
    | (p, .ok _) =>
      let changes := s.changes ++ [(r, sur.now)]
      if !sur.commits 0 then (s, .error refusedCommit)
      else if !sur.commits 1 then
        (⟨⟨p.accounts, s.panel.sessions⟩, s.spent sur r.userId, changes⟩, .error refusedCommit)
      else (⟨p, s.spent sur r.userId, changes⟩, .ok "Password has been reset successfully")

end Endpoints

/-- The state after a request. -/
def step (cfg : ResetSettings) (s : ResetState) (e : ResetEvent) : ResetState :=
  match e.request with
  | .forgotPassword email rawToken => (s.forgotPassword cfg e.sur email rawToken).1
  | .resetPassword token newPassword => (s.resetPassword cfg e.sur token newPassword).1
  | .resetUserPassword caller id newPassword =>
    { s with panel :=
        (handlePanel e.sur s.panel caller (.account (.resetUserPassword id newPassword))).1 }
  | .login ev username checks =>
    { s with panel := (Users.login ev e.sur.now s.panel username checks).1 }

/-- The token of a reset that is answered with success. -/
def accepted (cfg : ResetSettings) (s : ResetState) (e : ResetEvent) :
    Option PasswordResetToken :=
  match e.request with
  | .resetPassword token newPassword =>
    match (s.resetPassword cfg e.sur token newPassword).2 with
    | .ok _ => s.tokens.find? (cfg.sha256 token)
    | .error _ => none
  | _ => none

/-- A panel that has issued no token. -/
def start (p : Panel) : ResetState := ⟨p, .empty, []⟩

/-! ### What holds of the tokens -/

/-- At no time can two tokens of an account be used, and those that changed a password are
different ones that had not expired. -/
structure SingleLink (s : ResetState) : Prop where
  one_valid : ∀ now, ∀ r ∈ s.tokens.rows, ∀ r' ∈ s.tokens.rows, r.userId = r'.userId →
    r.isValid now = true → r'.isValid now = true → r = r'
  once : (s.changes.map fun c => c.1.tokenHash).Nodup
  in_time : ∀ c ∈ s.changes, c.2 < c.1.expiresAt

/-- No token of the account can be used, and none of its sessions is active. -/
structure Settled (s : ResetState) (userId : UserId) : Prop where
  used : ∀ r ∈ s.tokens.rows, r.userId = userId → r.usedAt.isSome
  ended : ∀ x ∈ s.panel.sessions.rows, x.userId = userId → x.isActive = false

/-- The invariant of the table and of the changes made. -/
structure Sound (s : ResetState) : Prop where
  one_unused : ∀ r ∈ s.tokens.rows, ∀ r' ∈ s.tokens.rows, r.userId = r'.userId →
    r.usedAt = none → r'.usedAt = none → r = r'
  once : (s.changes.map fun c => c.1.tokenHash).Nodup
  in_time : ∀ c ∈ s.changes, c.2 < c.1.expiresAt
  /-- A token that changed a password is still there, and used. -/
  used : ∀ c ∈ s.changes, ∃ r, s.tokens.find? c.1.tokenHash = some r ∧ r.usedAt.isSome

section Sound

variable {cfg : ResetSettings} {s : ResetState} {sur : Surroundings}

theorem isValid_iff {r : PasswordResetToken} {now : Time} :
    r.isValid now = true ↔ r.usedAt = none ∧ now < r.expiresAt := by
  unfold PasswordResetToken.isValid
  cases r.usedAt with
  | none => simp
  | some t => simp

theorem sound_start (p : Panel) : (start p).Sound where
  one_unused := fun _ h => absurd h List.not_mem_nil
  once := List.nodup_nil
  in_time := fun _ h => absurd h List.not_mem_nil
  used := fun _ h => absurd h List.not_mem_nil

theorem Sound.singleLink (h : s.Sound) : s.SingleLink where
  one_valid := by
    intro now r hr r' hr' hid hvalid hvalid'
    exact h.one_unused r hr r' hr' hid (isValid_iff.mp hvalid).1 (isValid_iff.mp hvalid').1
  once := h.once
  in_time := h.in_time

/-- Changes to accounts and sessions do not touch the tokens. -/
theorem Sound.of_panel (h : s.Sound) (p : Panel) : Sound { s with panel := p } :=
  ⟨h.one_unused, h.once, h.in_time, h.used⟩

/-- An unused token after the spending was unused before, and is of another account. -/
theorem mem_spent_unused {userId : UserId} {r : PasswordResetToken}
    (hr : r ∈ (s.spent sur userId).rows) (hunused : r.usedAt = none) :
    r ∈ s.tokens.rows ∧ r.userId ≠ userId := by
  obtain ⟨r', hmem, rfl⟩ := List.mem_map.mp hr
  unfold spendOfUser at hunused ⊢
  split at hunused
  · cases hunused
  · rename_i hkeep
    rw [if_neg hkeep]
    refine ⟨hmem, fun hid => hkeep ⟨hid, ?_⟩⟩
    rw [hunused]
    rfl

/-- After the spending every token of the account is used. -/
theorem isSome_usedAt_of_mem_spent {userId : UserId} {r : PasswordResetToken}
    (hr : r ∈ (s.spent sur userId).rows) (hid : r.userId = userId) : r.usedAt.isSome = true := by
  by_contra hnone
  exact (mem_spent_unused hr (by simpa using hnone)).2 hid

/-- A used token stays used. -/
theorem find?_spent (sur : Surroundings) (userId : UserId) {hash : String}
    {r : PasswordResetToken} (hfind : s.tokens.find? hash = some r) :
    ∃ r', (s.spent sur userId).find? hash = some r' ∧ r'.userId = r.userId ∧
      (r.usedAt.isSome = true → r'.usedAt.isSome = true) := by
  refine ⟨spendOfUser userId sur.now r, ?_, userId_spendOfUser userId sur.now r, fun hused => ?_⟩
  · unfold spent
    rw [KeyedTable.find?_mapRows, hfind]
    rfl
  · unfold spendOfUser
    split
    · rfl
    · exact hused

/-- The spending and one new row keep the invariant. -/
theorem Sound.issue (h : s.Sound) {a : UserId} {rawToken : String}
    (hfresh : s.tokens.find? (cfg.sha256 rawToken) = none) :
    Sound { s with tokens := (s.spent sur a).save (issuedToken cfg sur a rawToken) } where
  one_unused := by
    intro r hr r' hr' hid hunused hunused'
    rcases ((s.spent sur a).mem_rows_save _ r).mp hr with rfl | ⟨hold, -⟩
    · rcases ((s.spent sur a).mem_rows_save _ r').mp hr' with rfl | ⟨hold', -⟩
      · rfl
      · exact absurd hid.symm (mem_spent_unused hold' hunused').2
    · have hspent := mem_spent_unused hold hunused
      rcases ((s.spent sur a).mem_rows_save _ r').mp hr' with rfl | ⟨hold', -⟩
      · exact absurd hid hspent.2
      · exact h.one_unused r hspent.1 r' (mem_spent_unused hold' hunused').1 hid hunused hunused'
  once := h.once
  in_time := h.in_time
  used := by
    intro c hc
    obtain ⟨r, hfind, hused⟩ := h.used c hc
    obtain ⟨r', hfind', -, hused'⟩ := find?_spent sur a hfind
    have hne : cfg.sha256 rawToken ≠ c.1.tokenHash := by
      intro heq
      rw [heq, hfind] at hfresh
      cases hfresh
    refine ⟨r', ?_, hused' hused⟩
    rw [KeyedTable.find?_save, if_neg (show (issuedToken cfg sur a rawToken).tokenHash ≠ _ from hne)]
    exact hfind'

theorem Sound.forgotPassword (h : s.Sound) (email rawToken : String) :
    (s.forgotPassword cfg sur email rawToken).1.Sound := by
  unfold ResetState.forgotPassword
  split
  · exact h
  · split
    · exact h
    · split
      · exact h
      · rename_i hfresh
        rw [Bool.or_eq_true, not_or] at hfresh
        exact h.issue (by simpa using hfresh.1)

/-- The spending after a password was changed keeps the invariant. -/
theorem Sound.consume (h : s.Sound) {token : String} {r : PasswordResetToken}
    (hvalid : s.validToken cfg sur token = some r) (p : Panel) :
    Sound ⟨p, s.spent sur r.userId, s.changes ++ [(r, sur.now)]⟩ := by
  obtain ⟨hfind, hcheck⟩ := Option.filter_eq_some_iff.mp hvalid
  obtain ⟨hunused, htime⟩ := isValid_iff.mp hcheck
  have hkey := s.tokens.key_of_find? hfind
  have hused : ∀ c ∈ s.changes ++ [(r, sur.now)],
      ∃ r', (s.spent sur r.userId).find? c.1.tokenHash = some r' ∧ r'.usedAt.isSome := by
    intro c hc
    rcases List.mem_append.mp hc with hold | hnew
    · obtain ⟨r', hfind', hused⟩ := h.used c hold
      obtain ⟨r'', hfind'', -, hused''⟩ := find?_spent sur r.userId hfind'
      exact ⟨r'', hfind'', hused'' hused⟩
    · rw [List.mem_singleton] at hnew
      subst hnew
      obtain ⟨r', hfind', hid, -⟩ := find?_spent sur r.userId hfind
      rw [hkey]
      exact ⟨r', hfind', isSome_usedAt_of_mem_spent (KeyedTable.mem_of_find? _ hfind') hid⟩
  refine ⟨fun r₁ hr₁ r₂ hr₂ hid hunused₁ hunused₂ => ?_, ?_, fun c hc => ?_, hused⟩
  · exact h.one_unused r₁ (mem_spent_unused hr₁ hunused₁).1 r₂
      (mem_spent_unused hr₂ hunused₂).1 hid hunused₁ hunused₂
  · rw [List.map_append, List.nodup_append]
    refine ⟨h.once, List.nodup_singleton _, fun hash hold hash' hnew heq => ?_⟩
    obtain ⟨c, hc, rfl⟩ := List.mem_map.mp hold
    obtain rfl := List.mem_singleton.mp hnew
    obtain ⟨r', hfind', hused'⟩ := h.used c hc
    rw [show c.1.tokenHash = cfg.sha256 token from heq.trans hkey, hfind] at hfind'
    obtain rfl := Option.some.inj hfind'
    rw [hunused] at hused'
    cases hused'
  · rcases List.mem_append.mp hc with hold | hnew
    · exact h.in_time c hold
    · rw [List.mem_singleton] at hnew
      subst hnew
      exact htime

/-- A reset leaves the state, or spends the tokens of the account after its check. -/
theorem resetPassword_cases (cfg : ResetSettings) (sur : Surroundings)
    (token newPassword : String) :
    (s.resetPassword cfg sur token newPassword).1 = s ∨
      ∃ r p, s.validToken cfg sur token = some r ∧
        (s.resetPassword cfg sur token newPassword).1 =
          ⟨p, s.spent sur r.userId, s.changes ++ [(r, sur.now)]⟩ := by
  unfold ResetState.resetPassword
  split
  · exact Or.inl rfl
  · rename_i r hvalid
    split
    · exact Or.inl rfl
    · dsimp only
      split
      · exact Or.inl rfl
      · split
        · exact Or.inr ⟨r, _, hvalid, rfl⟩
        · exact Or.inr ⟨r, _, hvalid, rfl⟩

theorem Sound.resetPassword (h : s.Sound) (token newPassword : String) :
    (s.resetPassword cfg sur token newPassword).1.Sound := by
  rcases s.resetPassword_cases cfg sur token newPassword with
    hsame | ⟨r, p, hvalid, hreset⟩
  · rw [hsame]
    exact h
  · rw [hreset]
    exact h.consume hvalid p

theorem Sound.step (cfg : ResetSettings) (h : s.Sound) (e : ResetEvent) :
    (s.step cfg e).Sound := by
  unfold ResetState.step
  split
  · exact h.forgotPassword _ _
  · exact h.resetPassword _ _
  · exact h.of_panel _
  · exact h.of_panel _

end Sound

/-! ### An accepted reset -/

section Accepted

variable {cfg : ResetSettings} {s : ResetState} {sur : Surroundings}

/-- A reset of the panel that works ends every session of the account. -/
theorem over_of_resetPassword {p p' : Panel} {id : UserId} {newPassword : String}
    {reply : Option Jwt} (h : Users.resetPassword p (some id) newPassword sur = (p', .ok reply)) :
    ∀ x ∈ p'.sessions.rows, x.userId = id → x.isActive = false := by
  unfold Users.resetPassword at h
  split at h
  · cases h
  · rename_i a hfind
    have hid : a.id = id := p.accounts.users.key_of_find? (Option.filter_eq_some_iff.mp hfind).1
    split at h
    · cases h
    · cases h
      intro x hx hxid
      obtain ⟨y, -, rfl⟩ := List.mem_map.mp hx
      by_cases hy : y.userId = a.id
      · rw [if_pos hy]
        rfl
      · rw [if_neg hy] at hxid
        exact absurd (hxid.trans hid.symm) hy

/-- A reset that is answered with success settles the account and is recorded. -/
theorem resetPassword_ok {token newPassword reply : String}
    (h : (s.resetPassword cfg sur token newPassword).2 = .ok reply) :
    ∃ r, s.validToken cfg sur token = some r ∧
      (s.resetPassword cfg sur token newPassword).1.changes = s.changes ++ [(r, sur.now)] ∧
      (s.resetPassword cfg sur token newPassword).1.Settled r.userId := by
  revert h
  unfold ResetState.resetPassword
  split
  · exact fun h => nomatch h
  · rename_i r hvalid
    split
    · exact fun h => nomatch h
    · rename_i p _ hreset
      dsimp only
      split
      · exact fun h => nomatch h
      · split
        · exact fun h => nomatch h
        · exact fun _ => ⟨r, hvalid, rfl,
            fun _ hr hid => isSome_usedAt_of_mem_spent hr hid, over_of_resetPassword hreset⟩

/-- An accepted request is a reset with a token that was valid. -/
theorem settled_of_accepted {e : ResetEvent} {r : PasswordResetToken}
    (h : s.accepted cfg e = some r) :
    r.isValid e.sur.now = true ∧ (s.step cfg e).changes = s.changes ++ [(r, e.sur.now)] ∧
      (s.step cfg e).Settled r.userId := by
  unfold accepted at h
  split at h
  · rename_i token newPassword hrequest
    split at h
    · rename_i reply hreply
      obtain ⟨r', hvalid, hchanges, hsettled⟩ := resetPassword_ok hreply
      obtain ⟨hfind, hcheck⟩ := Option.filter_eq_some_iff.mp hvalid
      obtain rfl := Option.some.inj (hfind.symm.trans h)
      unfold step
      rw [hrequest]
      exact ⟨hcheck, hchanges, hsettled⟩
    · cases h
  · cases h

end Accepted

/-- At any point of any sequence of requests an account has one token that can be used at most;
an accepted token was valid and had changed no password, and no token and no session of its
account is left. -/
theorem singleLink_of_requests (cfg : ResetSettings) (p : Panel) (es : List ResetEvent) :
    ∀ s ∈ visited (step cfg) (start p) es, s.SingleLink ∧
      ∀ e r, s.accepted cfg e = some r →
        e.sur.now < r.expiresAt ∧ (∀ c ∈ s.changes, c.1.tokenHash ≠ r.tokenHash) ∧
          (s.step cfg e).changes = s.changes ++ [(r, e.sur.now)] ∧
            (s.step cfg e).Settled r.userId := by
  have hsound := invariant_of_step (P := Sound) (fun s e h => h.step cfg e)
    (sound_start p) es
  intro s hs
  refine ⟨(hsound s hs).singleLink, fun e r haccepted => ?_⟩
  obtain ⟨hvalid, hchanges, hsettled⟩ := settled_of_accepted haccepted
  refine ⟨(isValid_iff.mp hvalid).2, fun c hc heq => ?_, hchanges, hsettled⟩
  have honce := ((hsound s hs).step cfg e).once
  rw [hchanges, List.map_append, List.nodup_append] at honce
  exact honce.2.2 c.1.tokenHash (List.mem_map_of_mem hc) r.tokenHash
    (List.mem_singleton_self _) heq

/-! ### One link -/

/-- A panel with one account, which has no role. -/
def onlyAccount (a : Account) (h : a.roleId = none) : Panel where
  accounts := {
    users := KeyedTable.empty.save a
    roles := .empty
    nextUserId := a.id + 1
    nextRoleId := 0
    user_fresh := by
      intro b hb
      rcases (KeyedTable.empty.mem_rows_save a b).mp hb with rfl | ⟨hnone, -⟩
      · exact Nat.lt_succ_self _
      · exact absurd hnone List.not_mem_nil
    role_fresh := fun _ hr => absurd hr List.not_mem_nil
    role_exists := by
      intro b hb r hr
      rcases (KeyedTable.empty.mem_rows_save a b).mp hb with rfl | ⟨hnone, -⟩
      · rw [h] at hr
        cases hr
      · exact absurd hnone List.not_mem_nil }
  sessions := .empty

/-- Mail for one account, hashes that show the token, and commits that work. -/
def mailSettings : ResetSettings := ⟨fun s => s, fun pattern email => decide (pattern = email), 30⟩

def mailEvent (now : Time) (request : ResetRequest) : ResetEvent :=
  ⟨request, ⟨now, fun _ => [], fun s => s, fun _ => true⟩⟩

/-- The owner of the account asks for a link. -/
def linkRequest : ResetEvent := mailEvent 100 (.forgotPassword "ann@example.com" "drawn-token")

/-- The owner follows it ten minutes later. -/
def linkFollowed : ResetEvent := mailEvent 700 (.resetPassword "drawn-token" "new")

def annsPanel : Panel :=
  onlyAccount ⟨1, "ann", "ann@example.com", "old", none, true, false, none, 0, none, false, false,
    none⟩ rfl

theorem singleLink_of_requests_ann :
    let s := [linkRequest].foldl (step mailSettings) (start annsPanel)
    s.SingleLink ∧ 700 < 1900 ∧ (s.step mailSettings linkFollowed).Settled 1 := by
  have h := singleLink_of_requests mailSettings annsPanel [linkRequest] _
    (foldl_mem_visited _ _ _)
  have haccepted := h.2 linkFollowed ⟨1, "drawn-token", 1900, none, 100⟩ (by decide +kernel)
  exact ⟨h.1, haccepted.1, haccepted.2.2.2⟩

end ResetState

end PveManager.Users
