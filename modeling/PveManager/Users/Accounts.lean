import PveManager.Api.Handler
import PveManager.Core.Run

/-!
# User and role management

The account and role tables with the endpoints that write them. Administrator
status has two forms, a flag of the account and membership in the role `admin`;
the endpoints guard the flag of an existing account only.
-/

namespace PveManager.Users

open PveManager.Core PveManager.Rbac PveManager.Api

/-- A row of `roles`. -/
structure RoleRow where
  id : Nat
  name : String
  displayName : String
  description : Option String
  permissions : PermissionMap
  isSystem : Bool
  isActive : Bool

/-- A row of `users`. -/
structure Account where
  id : UserId
  username : String
  email : String
  hashedPassword : String
  fullName : Option String
  isActive : Bool
  isAdmin : Bool
  roleId : Option Nat
  failedLoginAttempts : Nat
  lockedUntil : Option Time
  requirePasswordChange : Bool
  twoFactorEnabled : Bool
  twoFactorSecret : Option String

/-- The two tables. -/
structure Accounts where
  users : KeyedTable Account.id
  roles : KeyedTable RoleRow.id
  nextUserId : UserId
  nextRoleId : Nat
  user_fresh : ∀ a ∈ users.rows, a.id < nextUserId
  role_fresh : ∀ r ∈ roles.rows, r.id < nextRoleId
  /-- The foreign key of `role_id`. -/
  role_exists : ∀ a ∈ users.rows, ∀ r, a.roleId = some r → (roles.find? r).isSome = true

namespace Accounts

variable (st : Accounts)

/-- The role of an account. -/
def roleOf (a : Account) : Option RoleRow := a.roleId.bind st.roles.find?

/-- The account as the permission engine sees it. -/
def userOf (a : Account) : User where
  id := a.id
  username := a.username
  isAdmin := a.isAdmin
  role := (st.roleOf a).map fun r => ⟨r.name, r.permissions⟩
  assignedServers := []

/-- `role.name == "admin"` for the role with this identifier. -/
def isAdminRole (roleId : Nat) : Bool :=
  (st.roles.find? roleId).any fun r => decide (r.name = "admin")

/-- Administrator by flag or by role. -/
def administers (a : Account) : Bool := a.isAdmin || a.roleId.any st.isAdminRole

/-- There is an account with this identifier, and it is an administrator. -/
def Administrator (id : UserId) : Prop :=
  ∃ a, st.users.find? id = some a ∧ st.administers a = true

end Accounts

structure UserCreate where
  username : String
  email : String
  password : String
  fullName : Option String
  roleId : Option Nat
  isActive : Bool
  isAdmin : Bool

structure UserUpdate where
  email : Option String
  fullName : Option String
  password : Option String
  roleId : Option Nat
  isActive : Option Bool
  isAdmin : Option Bool
  requirePasswordChange : Option Bool

structure RoleCreate where
  name : String
  displayName : String
  description : Option String
  permissions : PermissionMap

structure RoleUpdate where
  displayName : Option String
  description : Option String
  permissions : Option PermissionMap
  isActive : Option Bool

/-- What a request meets outside of the two tables. -/
structure Surroundings where
  now : Time
  /-- `SecurityService.validate_password`: the texts of its errors. -/
  passwordErrors : String → List String
  hash : String → String
  /-- The outcomes of the request's commits. -/
  commits : Nat → Bool

/-- A successful response. -/
inductive AccountReply
  | user (a : Account)
  | role (r : RoleRow)
  | message (text : String)

/-- A commit that fails. -/
def refusedCommit : Exc := .other "IntegrityError"

/-! ### Writing rows -/

namespace Accounts

variable (st : Accounts)

/-- The foreign key holds for the row. -/
def roleKnown (a : Account) : Bool := a.roleId.all fun r => (st.roles.find? r).isSome

/-- Insert or replace an account whose role exists. -/
def saveUser (a : Account) (h : st.roleKnown a = true) : Accounts where
  users := st.users.save a
  roles := st.roles
  nextUserId := max st.nextUserId (a.id + 1)
  nextRoleId := st.nextRoleId
  user_fresh := by
    intro row hrow
    rcases (st.users.mem_rows_save a row).mp hrow with rfl | ⟨hold, -⟩
    · exact Nat.lt_of_lt_of_le (Nat.lt_succ_self _) (Nat.le_max_right _ _)
    · exact Nat.lt_of_lt_of_le (st.user_fresh row hold) (Nat.le_max_left _ _)
  role_fresh := st.role_fresh
  role_exists := by
    intro row hrow r hr
    rcases (st.users.mem_rows_save a row).mp hrow with rfl | ⟨hold, -⟩
    · unfold roleKnown at h
      rw [hr] at h
      exact h
    · exact st.role_exists row hold r hr

/-- A write of an account with its commit. -/
def writeUser (a : Account) (commit : Bool) : Except Exc Accounts :=
  if h : st.roleKnown a = true then
    if commit then .ok (st.saveUser a h) else .error refusedCommit
  else .error refusedCommit

def eraseUser (id : UserId) : Accounts where
  users := st.users.erase id
  roles := st.roles
  nextUserId := st.nextUserId
  nextRoleId := st.nextRoleId
  user_fresh := fun row hrow => st.user_fresh row ((st.users.mem_rows_erase id row).mp hrow).1
  role_fresh := st.role_fresh
  role_exists := fun row hrow => st.role_exists row ((st.users.mem_rows_erase id row).mp hrow).1

/-- Insert or replace a role. -/
def saveRole (r : RoleRow) : Accounts where
  users := st.users
  roles := st.roles.save r
  nextUserId := st.nextUserId
  nextRoleId := max st.nextRoleId (r.id + 1)
  user_fresh := st.user_fresh
  role_fresh := by
    intro row hrow
    rcases (st.roles.mem_rows_save r row).mp hrow with rfl | ⟨hold, -⟩
    · omega
    · have hlt := st.role_fresh row hold
      omega
  role_exists := by
    intro row hrow id hid
    rw [KeyedTable.find?_save]
    split
    · rfl
    · exact st.role_exists row hrow id hid

/-- Drop a role that no account has. -/
def eraseRole (id : Nat) (h : ∀ a ∈ st.users.rows, a.roleId ≠ some id) : Accounts where
  users := st.users
  roles := st.roles.erase id
  nextUserId := st.nextUserId
  nextRoleId := st.nextRoleId
  user_fresh := st.user_fresh
  role_fresh := fun row hrow => st.role_fresh row ((st.roles.mem_rows_erase id row).mp hrow).1
  role_exists := by
    intro row hrow r hr
    have hne : r ≠ id := by
      intro he
      exact h row hrow (he ▸ hr)
    rw [KeyedTable.find?_erase, if_neg hne]
    exact st.role_exists row hrow r hr

end Accounts

/-! ### The endpoints -/

section Endpoints

variable (sur : Surroundings) (st : Accounts) (caller : Account)

/-- `PermissionChecker`. -/
def requires (permission : String) : Except Exc Unit :=
  if hasPermission (st.userOf caller) permission then .ok ()
  else .error (.http 403 s!"Permission denied: {permission}")

/-- The account of a request, or 404. -/
def findUser (id : UserId) : Except Exc Account :=
  match st.users.find? id with
  | some a => .ok a
  | none => .error (.http 404 "User not found")

def refuseIf (b : Bool) (status : Nat) (detail : String) : Except Exc Unit :=
  if b then .error (.http status detail) else .ok ()

/-- A password that the settings accept. -/
def checkPassword (password : String) : Except Exc Unit :=
  refuseIf (decide (sur.passwordErrors password ≠ [])) 400
    ("; ".intercalate (sur.passwordErrors password))

/-- The same for a password that need not be given. -/
def checkNewPassword : Option String → Except Exc Unit
  | some password => checkPassword sur password
  | none => .ok ()

/-- The account that `create_user` inserts. -/
def createdAccount (data : UserCreate) : Except Exc Account := do
  requires st caller "user:create"
  refuseIf (st.users.rows.any fun a => decide (a.username = data.username)) 400
    "Username already exists"
  refuseIf (st.users.rows.any fun a => decide (a.email = data.email)) 400 "Email already exists"
  checkPassword sur data.password
  refuseIf (data.roleId.any fun r => decide (r ≠ 0) && (st.roles.find? r).isNone) 400
    "Invalid role"
  .ok { id := st.nextUserId, username := data.username, email := data.email,
        hashedPassword := sur.hash data.password, fullName := data.fullName,
        isActive := data.isActive, isAdmin := data.isAdmin, roleId := data.roleId,
        failedLoginAttempts := 0, lockedUntil := none, requirePasswordChange := false,
        twoFactorEnabled := false, twoFactorSecret := none }

def createUser (data : UserCreate) : Accounts × Except Exc AccountReply :=
  match createdAccount sur st caller data with
  | .error e => (st, .error e)
  | .ok a =>
    match st.writeUser a (sur.commits 0) with
    | .error e => (st, .error e)
    | .ok st' => (st', .ok (.user a))

/-- `update_user` up to the role. -/
def updatedAccount (id : UserId) (data : UserUpdate) : Except Exc Account := do
  requires st caller "user:update"
  let a ← findUser st id
  refuseIf (a.isAdmin && !caller.isAdmin) 403 "Cannot edit admin user"
  refuseIf (data.email.any fun email =>
    st.users.rows.any fun b => decide (b.email = email ∧ b.id ≠ id)) 400 "Email already exists"
  checkNewPassword sur data.password
  refuseIf (data.roleId.any fun r => (st.roles.find? r).isNone) 400 "Invalid role"
  refuseIf (decide (id = caller.id ∧ data.isActive = some false)) 400 "Cannot deactivate yourself"
  .ok { a with
    email := data.email.getD a.email
    fullName := data.fullName.or a.fullName
    hashedPassword := (data.password.map sur.hash).getD a.hashedPassword
    roleId := data.roleId.or a.roleId
    isActive := data.isActive.getD a.isActive }

/-- The part of `update_user` after the sessions of a deactivated account are closed. -/
def finishUpdate (a : Account) (data : UserUpdate) (commit : Bool) :
    Accounts × Except Exc AccountReply :=
  let checked : Except Exc Account := do
    refuseIf (data.isAdmin.isSome && !caller.isAdmin) 403 "Only admin can change admin status"
    refuseIf (decide (a.id = caller.id ∧ data.isAdmin = some false)) 400
      "Cannot remove your own admin status"
    .ok { a with
      requirePasswordChange := data.requirePasswordChange.getD a.requirePasswordChange
      isAdmin := data.isAdmin.getD a.isAdmin }
  match checked with
  | .error e => (st, .error e)
  | .ok a =>
    match st.writeUser a commit with
    | .error e => (st, .error e)
    | .ok st' => (st', .ok (.user a))

/-- Closing the sessions of a deactivated account commits what was set before. -/
def updateUser (id : UserId) (data : UserUpdate) : Accounts × Except Exc AccountReply :=
  match updatedAccount sur st caller id data with
  | .error e => (st, .error e)
  | .ok a =>
    if data.isActive = some false then
      match st.writeUser a (sur.commits 0) with
      | .error e => (st, .error e)
      | .ok st' => finishUpdate st' caller a data (sur.commits 1)
    else finishUpdate st caller a data (sur.commits 0)

/-- Closing the sessions commits before the deletion does. -/
def deleteUser (id : UserId) : Accounts × Except Exc AccountReply :=
  let checked : Except Exc Account := do
    requires st caller "user:delete"
    let a ← findUser st id
    refuseIf (decide (id = caller.id)) 400 "Cannot delete yourself"
    refuseIf a.isAdmin 400 "Cannot delete admin user"
    .ok a
  match checked with
  | .error e => (st, .error e)
  | .ok _ =>
    if sur.commits 0 && sur.commits 1 then (st.eraseUser id, .ok (.message "User deleted"))
    else (st, .error refusedCommit)

/-- The endpoints that set columns of an account and leave its status alone. -/
def touchUser (id : UserId) (check : Except Exc Unit) (set : Account → Account) (text : String) :
    Accounts × Except Exc AccountReply :=
  let checked : Except Exc Account := do
    requires st caller "user:update"
    let a ← findUser st id
    check
    .ok a
  match checked with
  | .error e => (st, .error e)
  | .ok a =>
    match st.writeUser (set a) (sur.commits 0) with
    | .error e => (st, .error e)
    | .ok st' => (st', .ok (.message text))

def resetUserPassword (id : UserId) (newPassword : String) : Accounts × Except Exc AccountReply :=
  touchUser sur st caller id (checkPassword sur newPassword)
    (fun a => { a with
      hashedPassword := sur.hash newPassword
      requirePasswordChange := true
      failedLoginAttempts := 0
      lockedUntil := none })
    "Password reset successfully"

def unlockUser (id : UserId) : Accounts × Except Exc AccountReply :=
  touchUser sur st caller id (.ok ()) (fun a => { a with failedLoginAttempts := 0, lockedUntil := none })
    "User unlocked"

/-- An account without the factor is left as it is. -/
def adminDisableTwoFactor (id : UserId) : Accounts × Except Exc AccountReply :=
  let settled : Except Exc Bool := do
    requires st caller "user:update"
    let a ← findUser st id
    .ok (!a.twoFactorEnabled && a.twoFactorSecret.all fun secret => decide (secret = ""))
  match settled with
  | .ok true => (st, .ok (.message "2FA is not enabled for this user"))
  | _ =>
    touchUser sur st caller id (.ok ())
      (fun a => { a with twoFactorEnabled := false, twoFactorSecret := none })
      "Two-factor authentication disabled for user"

def createRole (data : RoleCreate) : Accounts × Except Exc AccountReply :=
  let checked : Except Exc RoleRow := do
    requires st caller "role:manage"
    refuseIf (st.roles.rows.any fun r => decide (r.name = data.name.toLower)) 400
      "Role name already exists"
    .ok ⟨st.nextRoleId, data.name.toLower, data.displayName, data.description, data.permissions,
      false, true⟩
  match checked with
  | .error e => (st, .error e)
  | .ok r =>
    if sur.commits 0 then (st.saveRole r, .ok (.role r)) else (st, .error refusedCommit)

def updateRole (id : Nat) (data : RoleUpdate) : Accounts × Except Exc AccountReply :=
  let checked : Except Exc RoleRow := do
    requires st caller "role:manage"
    match st.roles.find? id with
    | none => .error (.http 404 "Role not found")
    | some r =>
      .ok { r with
        displayName := data.displayName.getD r.displayName
        description := data.description.or r.description
        permissions := data.permissions.getD r.permissions
        isActive := data.isActive.getD r.isActive }
  match checked with
  | .error e => (st, .error e)
  | .ok r =>
    if sur.commits 0 then (st.saveRole r, .ok (.role r)) else (st, .error refusedCommit)

def deleteRole (id : Nat) : Accounts × Except Exc AccountReply :=
  let checked : Except Exc Unit := do
    requires st caller "role:manage"
    match st.roles.find? id with
    | none => .error (.http 400 "Role not found")
    | some r =>
      refuseIf r.isSystem 400 "Cannot delete system role"
  match checked with
  | .error e => (st, .error e)
  | .ok () =>
    let count := st.users.rows.countP fun a => decide (a.roleId = some id)
    if h : count = 0 then
      if sur.commits 0 then
        (st.eraseRole id (by
          intro a ha he
          have hpos : 0 < count := List.countP_pos_iff.mpr ⟨a, ha, decide_eq_true he⟩
          omega), .ok (.message "Role deleted"))
      else (st, .error refusedCommit)
    else (st, .error (.http 400 s!"Cannot delete role with {count} assigned users"))

end Endpoints

/-- A request to the user and role endpoints that write the tables. -/
inductive AccountRequest
  | createUser (data : UserCreate)
  | updateUser (id : UserId) (data : UserUpdate)
  | deleteUser (id : UserId)
  | resetUserPassword (id : UserId) (newPassword : String)
  | unlockUser (id : UserId)
  | adminDisableTwoFactor (id : UserId)
  | createRole (data : RoleCreate)
  | updateRole (id : Nat) (data : RoleUpdate)
  | deleteRole (id : Nat)

def handle (sur : Surroundings) (st : Accounts) (caller : Account) :
    AccountRequest → Accounts × Except Exc AccountReply
  | .createUser data => createUser sur st caller data
  | .updateUser id data => updateUser sur st caller id data
  | .deleteUser id => deleteUser sur st caller id
  | .resetUserPassword id newPassword => resetUserPassword sur st caller id newPassword
  | .unlockUser id => unlockUser sur st caller id
  | .adminDisableTwoFactor id => adminDisableTwoFactor sur st caller id
  | .createRole data => createRole sur st caller data
  | .updateRole id data => updateRole sur st caller id data
  | .deleteRole id => deleteRole sur st caller id

/-- A request with its sender and its surroundings. -/
structure AccountEvent where
  caller : UserId
  request : AccountRequest
  sur : Surroundings

/-- `get_current_user`: the account of the token, when it may send requests. -/
def currentUser (st : Accounts) (e : AccountEvent) : Option Account :=
  (st.users.find? e.caller).filter fun a =>
    a.isActive && !(a.lockedUntil.any fun t => decide (e.sur.now < t))

def accountStep (st : Accounts) (e : AccountEvent) : Accounts :=
  match currentUser st e with
  | some caller => (handle e.sur st caller e.request).1
  | none => st

end PveManager.Users
