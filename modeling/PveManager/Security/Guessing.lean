import PveManager.Core.IpText
import PveManager.Core.Sparse
import PveManager.Users.Accounts
import PveManager.Users.BackupCodes

/-!
# Guessing at the login

A failing password counts for the account and for the source, a failing second factor for the source
only. So the attempts of a source are always bounded, and those on an account as long as nobody who
has its password guesses the second factor.
-/

namespace PveManager.Security

open PveManager.Core PveManager.Net PveManager.Users

/-! ### Tables -/

/-- A row of `users` with the column of the backup codes. -/
structure LoginAccount extends Account where
  twoFactorBackupCodes : Option (List String)

/-- The unique index on the name. -/
def LoginAccount.key (a : LoginAccount) : String := a.username

/-- The columns of the second factor. -/
def LoginAccount.factor (a : LoginAccount) : Factor :=
  ⟨a.twoFactorEnabled, a.twoFactorSecret, a.twoFactorBackupCodes⟩

/-- A row of `login_attempts`. -/
structure LoginAttempt where
  username : String
  ipAddress : String
  success : Bool
  failureReason : Option String
  attemptedAt : Time

/-- A row of `blocked_ips`. -/
structure BlockedIP where
  ipAddress : String
  reason : Option String
  blockedBy : String
  blockedAt : Time
  expiresAt : Option Time
  isPermanent : Bool
  attemptsCount : Nat

structure LoginTables where
  users : KeyedTable LoginAccount.key
  attempts : List LoginAttempt
  blocked : KeyedTable BlockedIP.ipAddress

/-- The settings that bound guessing. -/
structure GuessingSettings where
  maxLoginAttempts : Nat
  lockoutDurationMinutes : Nat
  ipBlockThreshold : Nat
  ipBlockDurationMinutes : Nat
  /-- The settings endpoint takes no smaller number. -/
  attempts_pos : 1 ≤ maxLoginAttempts

/-- A number of minutes in seconds. -/
def minutes (n : Nat) : Time := 60 * n

def GuessingSettings.lockout (cfg : GuessingSettings) : Time := minutes cfg.lockoutDurationMinutes

/-- The window in which the attempts of a source are counted. -/
def bruteForceWindow : Time := minutes 30

/-! ### The source -/

/-- Where a request comes from. -/
structure Origin where
  forwardedFor : Option String
  realIp : Option String
  host : Option String

/-- `_validate_ip`. -/
def validateIp (ip : String) : Bool := (IpAddress.parse ip).isSome

/-- `get_client_ip`. -/
def getClientIp (o : Origin) : String :=
  let candidate := strip (String.ofList ((o.forwardedFor.getD "").toList.takeWhile (· ≠ ',')))
  let realIp := strip (o.realIp.getD "")
  if truthy o.forwardedFor ∧ validateIp candidate then candidate
  else if realIp ≠ "" ∧ validateIp realIp then realIp
  else o.host.getD "unknown"

/-! ### The security service -/

/-- The block is permanent or not yet over. -/
def BlockedIP.inForce (row : BlockedIP) (now : Time) : Bool :=
  row.isPermanent || row.expiresAt.any fun expiry => decide (now < expiry)

/-- `is_ip_blocked`; a block that is over is deleted. -/
def isIpBlocked (now : Time) (blocked : KeyedTable BlockedIP.ipAddress) (ip : String) :
    Bool × Option String × KeyedTable BlockedIP.ipAddress :=
  match blocked.find? ip with
  | none => (false, none, blocked)
  | some row =>
    if row.inForce now then (true, row.reason, blocked) else (false, none, blocked.erase ip)

/-- `block_ip`. -/
def blockIp (now : Time) (blocked : KeyedTable BlockedIP.ipAddress) (ip reason blockedBy : String)
    (durationMinutes : Nat) (permanent : Bool) : KeyedTable BlockedIP.ipAddress :=
  let expiry := now + minutes durationMinutes
  match blocked.find? ip with
  | some row => blocked.save
      { row with
        reason := some reason
        blockedBy := blockedBy
        blockedAt := now
        attemptsCount := row.attemptsCount + 1
        isPermanent := permanent
        expiresAt := if permanent then row.expiresAt else some expiry }
  | none => blocked.save
      { ipAddress := ip
        reason := some reason
        blockedBy := blockedBy
        blockedAt := now
        expiresAt := if permanent then none else some expiry
        isPermanent := permanent
        attemptsCount := 1 }

/-- A failed attempt of the source. -/
def LoginAttempt.failedFrom (ip : String) (row : LoginAttempt) : Bool :=
  decide (row.ipAddress = ip) && !row.success

/-- The failed attempts of the source within the window. -/
def failedCount (now : Time) (attempts : List LoginAttempt) (ip : String) : Nat :=
  attempts.countP fun row =>
    row.failedFrom ip && decide (now < row.attemptedAt + bruteForceWindow)

/-- `check_brute_force`: the reason for a block. -/
def checkBruteForce (cfg : GuessingSettings) (now : Time) (attempts : List LoginAttempt)
    (ip : String) : Option String :=
  let count := failedCount now attempts ip
  if cfg.ipBlockThreshold ≤ count then some s!"Too many failed login attempts ({count})" else none

/-- `record_login_attempt`. -/
def LoginTables.record (t : LoginTables) (now : Time) (ip username : String) (success : Bool)
    (failureReason : Option String) : LoginTables :=
  { t with attempts := t.attempts ++ [⟨username, ip, success, failureReason, now⟩] }

/-- `increment_failed_attempts`: the row, and whether it is now locked. -/
def incrementFailedAttempts (cfg : GuessingSettings) (now : Time) (a : LoginAccount) :
    LoginAccount × Bool :=
  let failed := a.failedLoginAttempts + 1
  if cfg.maxLoginAttempts ≤ failed then
    ({ a with failedLoginAttempts := failed, lockedUntil := some (now + cfg.lockout) }, true)
  else ({ a with failedLoginAttempts := failed }, false)

/-- `reset_failed_attempts`. -/
def resetFailedAttempts (a : LoginAccount) : LoginAccount :=
  { a with failedLoginAttempts := 0, lockedUntil := none }

/-- `is_account_locked`. -/
def isAccountLocked (now : Time) (a : LoginAccount) : Bool :=
  a.lockedUntil.any fun expiry => decide (now < expiry)

/-! ### The endpoint -/

structure LoginRequest where
  username : String
  password : String
  code : Option String
  origin : Origin

/-- What the endpoint takes from the settings and the libraries. -/
structure Site where
  cfg : GuessingSettings
  verifyPassword : String → String → Bool
  sha256 : String → String
  totp : Time → String → String → Bool
  /-- `strftime('%H:%M:%S')`. -/
  clockText : Time → String

inductive LoginReply
  | refused (status : Nat) (detail : String)
  | twoFactorRequired
  | token

inductive Credential
  | password
  | secondFactor
  deriving DecidableEq

/-- What happens to the credentials of an account. -/
inductive Happening
  /-- One is checked for a request. -/
  | checked (credential : Credential) (account source : String) (passed : Bool) (time : Time)
  /-- Its failures are forgotten, by a login or by hand. -/
  | cleared (account : String)

structure LoginOutcome where
  tables : LoginTables
  reply : LoginReply
  happenings : List Happening

namespace Site

variable (site : Site) (now : Time) (t : LoginTables) (r : LoginRequest)

/-- The gate of the second factor, behind the password. -/
def secondFactorOf (a : LoginAccount) : SecondFactor :=
  secondFactor site.sha256 a.factor ⟨.login, r.code, true, site.totp now⟩

/-- The end of a successful login. -/
def finishLogin (a : LoginAccount) (codes : List Happening) : LoginOutcome where
  tables := { t with users := t.users.save (resetFailedAttempts a) }.record now
    (getClientIp r.origin) r.username true none
  reply := .token
  happenings := .checked .password a.username (getClientIp r.origin) true now :: codes ++
    [.cleared a.username]

/-- The request for an account that may log in. -/
def loginTo (a : LoginAccount) : LoginOutcome :=
  let ip := getClientIp r.origin
  let password : Happening := .checked .password a.username ip true now
  let code (passed : Bool) : Happening := .checked .secondFactor a.username ip passed now
  if a.isActive = false then
    ⟨t.record now ip r.username false (some "Account disabled"),
      .refused 403 "User account is disabled", [password]⟩
  else
    match site.secondFactorOf now r a with
    | .required => ⟨t, .twoFactorRequired, [password]⟩
    | .refused =>
      ⟨t.record now ip r.username false (some "Invalid 2FA code"),
        .refused 400 "Invalid two-factor code", [password, code false]⟩
    | .notAsked => finishLogin now t r a []
    | .byTotp => finishLogin now t r a [code true]
    | .byCode _ rest =>
      finishLogin now t r { a with twoFactorBackupCodes := some rest } [code true]

/-- The end of a request with a wrong password. -/
def wrongPassword (a : LoginAccount) : LoginOutcome :=
  let ip := getClientIp r.origin
  let counted := incrementFailedAttempts site.cfg now a
  let reply : LoginReply :=
    if counted.2 then .refused 403 "Account locked due to too many failed attempts"
    else .refused 401 "Incorrect username or password"
  ⟨{ t with users := t.users.save counted.1 }.record now ip r.username false
      (some "Wrong password"), reply,
    [.checked .password a.username ip false now]⟩

/-- The request of a source that may log in. -/
def loginFrom : LoginOutcome :=
  let ip := getClientIp r.origin
  match t.users.find? r.username with
  | none =>
    ⟨t.record now ip r.username false (some "User not found"),
      .refused 401 "Incorrect username or password", []⟩
  | some a =>
    if isAccountLocked now a then
      ⟨t.record now ip r.username false (some "Account locked"),
        .refused 403 s!"Account is locked until {site.clockText (a.lockedUntil.getD 0)}", []⟩
    else if site.verifyPassword r.password a.hashedPassword = false then
      site.wrongPassword now t r a
    else site.loginTo now t r a

/-- `login`. -/
def login : LoginOutcome :=
  let ip := getClientIp r.origin
  let answer := isIpBlocked now t.blocked ip
  let t := { t with blocked := answer.2.2 }
  if answer.1 then
    ⟨t.record now ip r.username false (some "IP blocked"),
      .refused 403 ("Access denied: " ++ answer.2.1.getD "None"), []⟩
  else
    match checkBruteForce site.cfg now t.attempts ip with
    | some reason =>
      let blocked := blockIp now t.blocked ip reason "system" site.cfg.ipBlockDurationMinutes false
      ⟨{ t with blocked := blocked }.record now ip r.username false (some "Brute force detected"),
        .refused 403 "Too many failed attempts. IP blocked temporarily.", []⟩
    | none => site.loginFrom now t r

end Site

/-! ### What a request does -/

section Request

variable {site : Site} {now : Time} {t : LoginTables} {r : LoginRequest} {out : LoginOutcome}

/-- The request reaches the second factor of the account with a code that is neither the current one
nor a backup code. -/
structure PresentsWrongCode (site : Site) (now : Time) (t : LoginTables) (r : LoginRequest)
    (a : LoginAccount) : Prop where
  source : (isIpBlocked now t.blocked (getClientIp r.origin)).1 = false
  room : checkBruteForce site.cfg now t.attempts (getClientIp r.origin) = none
  found : t.users.find? r.username = some a
  unlocked : isAccountLocked now a = false
  password : site.verifyPassword r.password a.hashedPassword = true
  active : a.isActive = true
  enabled : a.twoFactorEnabled = true
  code : r.code.getD "" ≠ ""
  totp : verifyTotp (site.totp now) a.twoFactorSecret (r.code.getD "") = false
  backup : consumeBackupCode site.sha256 (r.code.getD "") (a.twoFactorBackupCodes.getD []) = none

/-- The attempts have grown by a failed one of the source. -/
def RecordsFailure (now : Time) (t : LoginTables) (ip : String) (out : LoginOutcome) : Prop :=
  ∃ row, out.tables.attempts = t.attempts ++ [row] ∧ row.failedFrom ip = true ∧
    row.attemptedAt = now

/-- What a request does with accounts, attempts and credentials. -/
inductive Effect (site : Site) (now : Time) (t : LoginTables) (r : LoginRequest)
    (out : LoginOutcome) : Prop
  | unchecked (users : out.tables.users = t.users) (attempts : t.attempts <+: out.tables.attempts)
      (happenings : out.happenings = [])
  | wrongPassword (a : LoginAccount) (found : t.users.find? r.username = some a)
      (unlocked : isAccountLocked now a = false)
      (room : failedCount now t.attempts (getClientIp r.origin) < site.cfg.ipBlockThreshold)
      (users : out.tables.users = t.users.save (incrementFailedAttempts site.cfg now a).1)
      (attempts : RecordsFailure now t (getClientIp r.origin) out)
      (happenings : out.happenings =
        [.checked .password r.username (getClientIp r.origin) false now])
  | passed (a : LoginAccount) (found : t.users.find? r.username = some a)
      (unlocked : isAccountLocked now a = false) (users : out.tables.users = t.users)
      (attempts : t.attempts <+: out.tables.attempts)
      (happenings : out.happenings =
        [.checked .password r.username (getClientIp r.origin) true now])
  | wrongCode (a : LoginAccount) (wrong : PresentsWrongCode site now t r a)
      (room : failedCount now t.attempts (getClientIp r.origin) < site.cfg.ipBlockThreshold)
      (users : out.tables.users = t.users)
      (attempts : RecordsFailure now t (getClientIp r.origin) out)
      (happenings : out.happenings =
        [.checked .password r.username (getClientIp r.origin) true now,
          .checked .secondFactor r.username (getClientIp r.origin) false now])
  | loggedIn (a a' : LoginAccount) (found : t.users.find? r.username = some a)
      (unlocked : isAccountLocked now a = false) (name : a'.username = r.username)
      (users : out.tables.users = t.users.save (resetFailedAttempts a'))
      (attempts : t.attempts <+: out.tables.attempts) (codes : List Happening)
      (passed : ∀ h ∈ codes, h = .checked .secondFactor r.username (getClientIp r.origin) true now)
      (happenings : out.happenings =
        .checked .password r.username (getClientIp r.origin) true now :: codes ++
          [.cleared r.username])

/-- A refused second factor is a wrong code. -/
theorem secondFactorOf_eq_refused {a : LoginAccount} (h : site.secondFactorOf now r a = .refused) :
    a.twoFactorEnabled = true ∧ r.code.getD "" ≠ "" ∧
      verifyTotp (site.totp now) a.twoFactorSecret (r.code.getD "") = false ∧
      consumeBackupCode site.sha256 (r.code.getD "") (a.twoFactorBackupCodes.getD []) = none := by
  unfold Site.secondFactorOf secondFactor LoginAccount.factor at h
  simp only [Bool.not_true, Bool.false_eq_true, if_false, true_and] at h
  split at h
  · cases h
  · rename_i henabled
    split at h
    · cases h
    · rename_i hcode
      split at h
      · cases h
      · rename_i htotp
        split at h
        · cases h
        · rename_i hbackup
          exact ⟨by simpa using henabled, hcode, Bool.eq_false_iff.mpr htotp, hbackup⟩

theorem room_of_checkBruteForce {cfg : GuessingSettings} {attempts : List LoginAttempt}
    {ip : String} (h : checkBruteForce cfg now attempts ip = none) :
    failedCount now attempts ip < cfg.ipBlockThreshold := by
  unfold checkBruteForce at h
  dsimp only at h
  split at h
  · cases h
  · rename_i hroom
    exact Nat.lt_of_not_le hroom

theorem prefix_record (t : LoginTables) (ip username : String) (success : Bool)
    (reason : Option String) : t.attempts <+: (t.record now ip username success reason).attempts :=
  List.prefix_append _ _

theorem recordsFailure (t : LoginTables) (ip username : String) (reason : Option String)
    (reply : LoginReply) (happenings : List Happening) :
    RecordsFailure now t ip ⟨t.record now ip username false reason, reply, happenings⟩ := by
  refine ⟨_, rfl, ?_, rfl⟩
  unfold LoginAttempt.failedFrom
  rw [Bool.not_false, Bool.and_true]
  exact decide_eq_true rfl

variable {blocked : KeyedTable BlockedIP.ipAddress} {a : LoginAccount}

theorem effect_loginTo (hsource : (isIpBlocked now t.blocked (getClientIp r.origin)).1 = false)
    (hroom : checkBruteForce site.cfg now t.attempts (getClientIp r.origin) = none)
    (hfound : t.users.find? r.username = some a) (hunlocked : isAccountLocked now a = false)
    (hpassword : site.verifyPassword r.password a.hashedPassword = true) :
    Effect site now t r (site.loginTo now { t with blocked := blocked } r a) := by
  have hname : a.username = r.username := t.users.key_of_find? hfound
  unfold Site.loginTo
  rw [hname]
  dsimp only
  by_cases hactive : a.isActive = false
  · rw [if_pos hactive]
    exact .passed a hfound hunlocked rfl (prefix_record _ _ _ _ _) rfl
  · rw [if_neg hactive]
    cases hfactor : site.secondFactorOf now r a with
    | required => exact .passed a hfound hunlocked rfl List.prefix_rfl rfl
    | refused =>
      obtain ⟨henabled, hcode, htotp, hbackup⟩ := secondFactorOf_eq_refused hfactor
      have hwrong : PresentsWrongCode site now t r a :=
        ⟨hsource, hroom, hfound, hunlocked, hpassword, by simpa using hactive, henabled, hcode,
          htotp, hbackup⟩
      exact .wrongCode a hwrong (room_of_checkBruteForce hroom) rfl (recordsFailure _ _ _ _ _ _) rfl
    | notAsked =>
      refine .loggedIn a a hfound hunlocked hname rfl (prefix_record _ _ _ _ _) []
        (fun h hh => absurd hh List.not_mem_nil) ?_
      unfold Site.finishLogin
      rw [hname]
    | byTotp =>
      refine .loggedIn a a hfound hunlocked hname rfl (prefix_record _ _ _ _ _) [_]
        (fun h hh => List.mem_singleton.mp hh) ?_
      unfold Site.finishLogin
      rw [hname]
    | byCode hash rest =>
      refine .loggedIn a { a with twoFactorBackupCodes := some rest } hfound hunlocked hname rfl
        (prefix_record _ _ _ _ _) [_] (fun h hh => List.mem_singleton.mp hh) ?_
      unfold Site.finishLogin
      dsimp only
      rw [hname]

theorem effect_wrongPassword
    (hroom : checkBruteForce site.cfg now t.attempts (getClientIp r.origin) = none)
    (hfound : t.users.find? r.username = some a) (hunlocked : isAccountLocked now a = false) :
    Effect site now t r (site.wrongPassword now { t with blocked := blocked } r a) := by
  have hname : a.username = r.username := t.users.key_of_find? hfound
  refine .wrongPassword a hfound hunlocked (room_of_checkBruteForce hroom) rfl
    (recordsFailure _ _ _ _ _ _) ?_
  unfold Site.wrongPassword
  rw [hname]

theorem effect_loginFrom (hsource : (isIpBlocked now t.blocked (getClientIp r.origin)).1 = false)
    (hroom : checkBruteForce site.cfg now t.attempts (getClientIp r.origin) = none) :
    Effect site now t r (site.loginFrom now { t with blocked := blocked } r) := by
  unfold Site.loginFrom
  dsimp only
  cases hfound : t.users.find? r.username with
  | none => exact .unchecked rfl (prefix_record _ _ _ _ _) rfl
  | some a =>
    dsimp only
    cases hlocked : isAccountLocked now a with
    | true => exact .unchecked rfl (prefix_record _ _ _ _ _) rfl
    | false =>
      rw [if_neg Bool.false_ne_true]
      split
      · exact effect_wrongPassword hroom hfound hlocked
      · rename_i hpassword
        exact effect_loginTo hsource hroom hfound hlocked (by simpa using hpassword)

/-- What a login does, whatever its answer. -/
theorem effect_login (site : Site) (now : Time) (t : LoginTables) (r : LoginRequest) :
    Effect site now t r (site.login now t r) := by
  unfold Site.login
  dsimp only
  cases hsource : (isIpBlocked now t.blocked (getClientIp r.origin)).1 with
  | true => exact .unchecked rfl (prefix_record _ _ _ _ _) rfl
  | false =>
    rw [if_neg Bool.false_ne_true]
    cases hroom : checkBruteForce site.cfg now t.attempts (getClientIp r.origin) with
    | some reason => exact .unchecked rfl (prefix_record _ _ _ _ _) rfl
    | none => exact effect_loginFrom hsource hroom

/-! ### Blocks -/

/-- A block in force is found, and left as it is. -/
theorem isIpBlocked_of_inForce {table : KeyedTable BlockedIP.ipAddress} {ip : String}
    {row : BlockedIP} (hfound : table.find? ip = some row) (hforce : row.inForce now = true) :
    isIpBlocked now table ip = (true, row.reason, table) := by
  unfold isIpBlocked
  rw [hfound]
  dsimp only
  rw [if_pos hforce]

/-- Looking for one source leaves the rows of all others. -/
theorem find?_isIpBlocked {table : KeyedTable BlockedIP.ipAddress} {ip ip' : String}
    (hne : ip ≠ ip') : (isIpBlocked now table ip).2.2.find? ip' = table.find? ip' := by
  unfold isIpBlocked
  split
  · rfl
  · split
    · rfl
    · rw [KeyedTable.find?_erase, if_neg hne.symm]

/-- Blocking one source leaves the rows of all others. -/
theorem find?_blockIp {table : KeyedTable BlockedIP.ipAddress} {ip ip' reason blockedBy : String}
    {duration : Nat} {permanent : Bool} (hne : ip ≠ ip') :
    (blockIp now table ip reason blockedBy duration permanent).find? ip' = table.find? ip' := by
  unfold blockIp
  dsimp only
  split
  · rename_i row hrow
    have hkey : row.ipAddress = ip := table.key_of_find? hrow
    rw [KeyedTable.find?_save, if_neg (by rw [hkey]; exact hne)]
  · rw [KeyedTable.find?_save, if_neg hne]

theorem blocked_loginFrom : (site.loginFrom now t r).tables.blocked = t.blocked := by
  unfold Site.loginFrom
  dsimp only
  split
  · rfl
  · split
    · rfl
    · split
      · rfl
      · unfold Site.loginTo
        dsimp only
        split
        · rfl
        · split <;> rfl

/-- A block in force outlasts every login. -/
theorem find?_blocked_login {ip : String} {row : BlockedIP} (hfound : t.blocked.find? ip = some row)
    (hforce : row.inForce now = true) : (site.login now t r).tables.blocked.find? ip = some row := by
  unfold Site.login
  dsimp only
  by_cases heq : getClientIp r.origin = ip
  · rw [heq, isIpBlocked_of_inForce hfound hforce, if_pos rfl]
    exact hfound
  · have hkept : (isIpBlocked now t.blocked (getClientIp r.origin)).2.2.find? ip = some row :=
      (find?_isIpBlocked heq).trans hfound
    split
    · exact hkept
    · split
      · exact (find?_blockIp heq).trans hkept
      · rw [blocked_loginFrom]
        exact hkept

/-- A blocked source has no credential checked. -/
theorem happenings_of_blocked {row : BlockedIP}
    (hfound : t.blocked.find? (getClientIp r.origin) = some row) (hforce : row.inForce now = true) :
    (site.login now t r).happenings = [] := by
  unfold Site.login
  dsimp only
  rw [isIpBlocked_of_inForce hfound hforce, if_pos rfl]

end Request

end PveManager.Security
