import PveManager.Users.Escalation
import PveManager.Users.Revocation

/-!
# The last administrator

The users router and the auth router both write the account table. The users
router refuses to delete or to demote an account with the flag of an
administrator; the auth router lets nobody delete the own account. An
administrator by role has no such guard in the users router: a run keeps an
active administrator exactly when none of its requests goes through to the last
one, and that one has the status by role.
-/

namespace PveManager.Users

open PveManager.Core PveManager.Rbac PveManager.Api

namespace Accounts

variable (st : Accounts)

/-- There is an account with this identifier, and it is active. -/
def Active (id : UserId) : Prop := ∃ a, st.users.find? id = some a ∧ a.isActive = true

/-- An active account that passes the check of `get_current_active_admin`. -/
def Staff (id : UserId) : Prop :=
  ∃ a, st.users.find? id = some a ∧ a.isActive = true ∧ st.administers a = true

/-- Someone can administrate the panel. -/
def Staffed : Prop := ∃ id, st.Staff id

/-- The only active administrator, by role and not by flag. -/
structure LastByRole (b : Account) : Prop where
  stored : st.users.find? b.id = some b
  active : b.isActive = true
  flag : b.isAdmin = false
  role : b.roleId.any st.isAdminRole = true
  only : ∀ id, st.Staff id → id = b.id

end Accounts

/-! ### The auth router -/

/-- The body of `/api/auth/register`. -/
structure UserRegistration where
  username : String
  email : String
  password : String
  fullName : Option String

section Endpoints

variable (sur : Surroundings) (st : Accounts) (caller : Account)

/-- `get_current_active_admin`. -/
def requiresAdmin : Except Exc Unit :=
  refuseIf (!st.administers caller) 403 "Administrator access required"

/-- The account that `register_user` inserts: active, without flag and role. -/
def registeredAccount (data : UserRegistration) : Except Exc Account := do
  requiresAdmin st caller
  refuseIf (st.users.rows.any fun a => decide (a.username = data.username)) 400
    "Username already registered"
  refuseIf (st.users.rows.any fun a => decide (a.email = data.email)) 400 "Email already registered"
  checkPassword sur data.password
  .ok { id := st.nextUserId, username := data.username, email := data.email,
        hashedPassword := sur.hash data.password, fullName := data.fullName,
        isActive := true, isAdmin := false, roleId := none,
        failedLoginAttempts := 0, lockedUntil := none, requirePasswordChange := false,
        twoFactorEnabled := false, twoFactorSecret := none }

def registerUser (data : UserRegistration) : Accounts × Except Exc AccountReply :=
  match registeredAccount sur st caller data with
  | .error e => (st, .error e)
  | .ok a =>
    match st.writeUser a (sur.commits 0) with
    | .error e => (st, .error e)
    | .ok st' => (st', .ok (.user a))

/-- `delete_user` of the auth router: closing the sessions commits before the deletion does. -/
def Auth.deleteUser (id : UserId) : Accounts × Except Exc Unit :=
  let checked : Except Exc Unit := do
    requiresAdmin st caller
    let a ← findUser st id
    refuseIf (decide (a.id = caller.id)) 400 "Cannot delete your own account"
  match checked with
  | .error e => (st, .error e)
  | .ok () =>
    if sur.commits 0 && sur.commits 1 then (st.eraseUser id, .ok ()) else (st, .error refusedCommit)

end Endpoints

/-- A call to one of the two routers. -/
inductive UserCall
  | users (request : AccountRequest)
  | registerUser (data : UserRegistration)
  | deleteUser (id : UserId)

/-- A call with its sender and its surroundings. -/
structure UserEvent where
  caller : UserId
  call : UserCall
  sur : Surroundings

/-- `get_current_user`, for both routers. -/
def activeUser (st : Accounts) (caller : UserId) (now : Time) : Option Account :=
  (st.users.find? caller).filter fun a =>
    a.isActive && !(a.lockedUntil.any fun t => decide (now < t))

def serveUser (sur : Surroundings) (st : Accounts) (caller : Account) : UserCall → Accounts
  | .users request => (handle sur st caller request).1
  | .registerUser data => (registerUser sur st caller data).1
  | .deleteUser id => (Auth.deleteUser sur st caller id).1

def userStep (st : Accounts) (e : UserEvent) : Accounts :=
  match activeUser st e.caller e.sur.now with
  | some caller => serveUser e.sur st caller e.call
  | none => st

/-- The deletion by the users router goes through. -/
structure Deletable (sur : Surroundings) (st : Accounts) (caller b : Account) : Prop where
  permission : hasPermission (st.userOf caller) "user:delete" = true
  notSelf : b.id ≠ caller.id
  flag : b.isAdmin = false
  commits : (sur.commits 0 && sur.commits 1) = true

/-- The call leaves this last administrator by role the account, active and in the role. -/
def SparesLast (sur : Surroundings) (st : Accounts) (caller b : Account) : UserCall → Prop
  | .users (.updateUser id data) =>
    id = b.id → Carried sur st caller b data →
      data.isActive ≠ some false ∧ data.roleId.all st.isAdminRole = true
  | .users (.deleteUser id) => id = b.id → ¬Deletable sur st caller b
  | _ => True

/-- No last administrator by role is lost to the call. -/
def Spares (st : Accounts) (e : UserEvent) : Prop :=
  ∀ caller, activeUser st e.caller e.sur.now = some caller →
    ∀ b, st.LastByRole b → SparesLast e.sur st caller b e.call

/-- The router's deletion with its sessions is this one where the commits work. -/
theorem accounts_deleteAccount (p : Panel) (id : UserId) (admin : Account) {sur : Surroundings}
    (hsur : ∀ n, sur.commits n = true) :
    (deleteAccount p id admin).1.accounts = (Auth.deleteUser sur p.accounts admin id).1 := by
  unfold deleteAccount Auth.deleteUser
  rw [hsur 0, hsur 1]
  change (match (do requiresAdmin p.accounts admin
                    let a ← findUser p.accounts id
                    refuseIf (decide (a.id = admin.id)) 400 "Cannot delete your own account" :
      Except Exc Unit) with
    | .error exc => (p, .error exc)
    | .ok () => (⟨p.accounts.eraseUser id, _⟩, .ok none) : Panel × Except Exc (Option Jwt)).1.accounts = _
  dsimp only
  split <;> rfl

/-! ### Staff -/

section Staff

variable {st st' : Accounts} {id : UserId}

namespace Accounts

theorem staff_iff : st.Staff id ↔ st.Active id ∧ st.Administrator id := by
  constructor
  · rintro ⟨a, hfind, hactive, hadm⟩
    exact ⟨⟨a, hfind, hactive⟩, ⟨a, hfind, hadm⟩⟩
  · rintro ⟨⟨a, hfind, hactive⟩, ⟨b, hfind', hadm⟩⟩
    obtain rfl := Option.some.inj (hfind.symm.trans hfind')
    exact ⟨a, hfind, hactive, hadm⟩

theorem staff_congr (hactive : st'.Active id ↔ st.Active id)
    (hadm : st'.Administrator id ↔ st.Administrator id) : st'.Staff id ↔ st.Staff id := by
  rw [staff_iff, staff_iff, hactive, hadm]

/-- The same row and the same roles make the same member of staff. -/
theorem staff_of_find? (hfind : st'.users.find? id = st.users.find? id)
    (hroles : st'.roles = st.roles) : st'.Staff id ↔ st.Staff id := by
  unfold Staff administers isAdminRole
  rw [hfind, hroles]

theorem active_of_users (h : st'.users = st.users) : st'.Active id ↔ st.Active id := by
  unfold Active
  rw [h]

namespace LastByRole

variable {b c : Account}

theorem staff (h : st.LastByRole b) : st.Staff b.id := by
  refine ⟨b, h.stored, h.active, ?_⟩
  unfold administers
  rw [h.role, Bool.or_true]

/-- There is at most one last administrator. -/
theorem eq (h : st.LastByRole b) (hc : st.LastByRole c) : b = c := by
  have hid : b.id = c.id := hc.only b.id h.staff
  exact Option.some.inj (h.stored.symm.trans (hid ▸ hc.stored))

/-- An account with the flag is not stored under the identifier of the last one. -/
theorem find?_ne_of_flag (h : st.LastByRole b) (hflag : c.isAdmin = true) :
    st.users.find? b.id ≠ some c := by
  intro hfind
  obtain rfl := Option.some.inj (h.stored.symm.trans hfind)
  rw [h.flag] at hflag
  cases hflag

end LastByRole

/-- There is another active administrator, or one by flag, or the last one by role. -/
theorem Staffed.cases (h : st.Staffed) (id : UserId) :
    (∃ id', id' ≠ id ∧ st.Staff id') ∨
      (∃ b, st.users.find? id = some b ∧ b.isAdmin = true ∧ ∀ id', st.Staff id' → id' = id) ∨
      ∃ b, b.id = id ∧ st.LastByRole b := by
  by_cases hother : ∃ id', id' ≠ id ∧ st.Staff id'
  · exact Or.inl hother
  · have honly : ∀ id', st.Staff id' → id' = id := by
      intro id' hid'
      by_contra hne
      exact hother ⟨id', hne, hid'⟩
    obtain ⟨id', hid'⟩ := h
    obtain ⟨b, hfind, hactive, hadm⟩ := honly id' hid' ▸ hid'
    have hid : b.id = id := st.users.key_of_find? hfind
    refine Or.inr ?_
    cases hflag : b.isAdmin with
    | true => exact Or.inl ⟨b, hfind, hflag, honly⟩
    | false =>
      refine Or.inr ⟨b, hid, hid ▸ hfind, hactive, hflag, ?_, fun id' hid' => hid ▸ honly id' hid'⟩
      simpa [administers, hflag] using hadm

end Accounts

end Staff

/-! ### One request -/

section Requests

variable {sur : Surroundings} {st : Accounts} {caller : Account} {id id' : UserId}

theorem active_touchUser {check : Except Exc Unit} {set : Account → Account} {text : String}
    (hset : ∀ a, (set a).id = a.id ∧ (set a).isActive = a.isActive) :
    (touchUser sur st caller id check set text).1.Active id' ↔ st.Active id' := by
  by_cases hid : id = id'
  · subst hid
    unfold touchUser
    dsimp only
    split
    · exact Iff.rfl
    · rename_i a hchecked
      obtain ⟨_, -, hchecked⟩ := bind_ok hchecked
      obtain ⟨_, hfind, hchecked⟩ := bind_ok hchecked
      obtain ⟨_, -, hchecked⟩ := bind_ok hchecked
      cases hchecked
      have hfind' := findUser_ok hfind
      have haid : (set a).id = id := (hset a).1.trans (st.users.key_of_find? hfind')
      split
      · exact Iff.rfl
      · rename_i hw
        obtain ⟨-, hk, rfl⟩ := Accounts.writeUser_ok hw
        unfold Accounts.Active
        rw [Accounts.find?_saveUser_self hk haid, hfind']
        simp [(hset a).2]
  · unfold Accounts.Active
    rw [find?_touchUser_of_ne (fun a => (hset a).1) hid]

/-- An endpoint that leaves flag, role and activity alone leaves the staff as it is. -/
theorem staff_touchUser {check : Except Exc Unit} {set : Account → Account} {text : String}
    (hset : ∀ a, (set a).id = a.id ∧ (set a).isAdmin = a.isAdmin ∧ (set a).roleId = a.roleId)
    (hactive : ∀ a, (set a).isActive = a.isActive) :
    (touchUser sur st caller id check set text).1.Staff id' ↔ st.Staff id' :=
  Accounts.staff_congr (active_touchUser fun a => ⟨(hset a).1, hactive a⟩)
    (administrator_touchUser hset)

theorem staff_adminDisableTwoFactor :
    (adminDisableTwoFactor sur st caller id).1.Staff id' ↔ st.Staff id' := by
  unfold adminDisableTwoFactor
  dsimp only
  split
  · exact Iff.rfl
  · exact staff_touchUser (fun _ => ⟨rfl, rfl, rfl⟩) fun _ => rfl

/-- A new row leaves the staff there is. -/
theorem staff_writeUser_nextUserId {a : Account} {commit : Bool} {st' : Accounts}
    (hid : a.id = st.nextUserId) (h : st.writeUser a commit = .ok st') (hstaff : st.Staff id) :
    st'.Staff id := by
  refine (Accounts.staff_of_find? (Accounts.find?_writeUser_of_ne ?_ h) (roles_writeUser h)).mpr
    hstaff
  obtain ⟨b, hfind, -⟩ := hstaff
  intro he
  rw [← he, hid, st.find?_nextUserId] at hfind
  cases hfind

theorem staff_createUser {data : UserCreate} (h : st.Staff id) :
    (createUser sur st caller data).1.Staff id := by
  unfold createUser
  split
  · exact h
  · rename_i a hc
    obtain ⟨-, -, -, -, hid, -⟩ := createdAccount_ok hc
    split
    · exact h
    · rename_i hw
      exact staff_writeUser_nextUserId hid hw h

theorem staff_registerUser {data : UserRegistration} (h : st.Staff id) :
    (registerUser sur st caller data).1.Staff id := by
  unfold registerUser
  split
  · exact h
  · rename_i a hc
    have hid : a.id = st.nextUserId := by
      obtain ⟨_, -, hc⟩ := bind_ok hc
      obtain ⟨_, -, hc⟩ := bind_ok hc
      obtain ⟨_, -, hc⟩ := bind_ok hc
      obtain ⟨_, -, hc⟩ := bind_ok hc
      cases hc
      rfl
    split
    · exact h
    · rename_i hw
      exact staff_writeUser_nextUserId hid hw h

theorem staff_updateUser_of_ne {data : UserUpdate} (hne : id' ≠ id) :
    (updateUser sur st caller id data).1.Staff id' ↔ st.Staff id' :=
  Accounts.staff_of_find? (find?_updateUser_of_ne hne.symm) updateUser_quiet.1

theorem staff_eraseUser_of_ne (hne : id' ≠ id) :
    (st.eraseUser id).Staff id' ↔ st.Staff id' :=
  Accounts.staff_of_find? ((st.users.find?_erase id id').trans (if_neg hne)) rfl

theorem staff_deleteUser_of_ne (hne : id' ≠ id) :
    (deleteUser sur st caller id).1.Staff id' ↔ st.Staff id' :=
  Accounts.staff_of_find? (find?_deleteUser_of_ne (p := ⟨st, KeyedTable.empty⟩) hne.symm)
    deleteUser_quiet.1

/-- The sender of a request: an active account as the table has it. -/
structure Sender (st : Accounts) (caller : Account) : Prop where
  stored : st.users.find? caller.id = some caller
  active : caller.isActive = true

theorem sender_of_activeUser {now : Time} (h : activeUser st id now = some caller) :
    Sender st caller := by
  obtain ⟨hfind, hfree⟩ := Option.filter_eq_some_iff.mp h
  refine ⟨st.users.key_of_find? hfind ▸ hfind, ?_⟩
  rw [Bool.and_eq_true] at hfree
  exact hfree.1

theorem Sender.staff (h : Sender st caller) (hadm : st.administers caller = true) :
    st.Staff caller.id := ⟨caller, h.stored, h.active, hadm⟩

theorem Sender.staff_of_flag (h : Sender st caller) (hflag : caller.isAdmin = true) :
    st.Staff caller.id := h.staff (by simp [Accounts.administers, hflag])

/-- A sender with the flag is himself an active administrator. -/
theorem Sender.flag_of_last (h : Sender st caller) {b : Account} (hlast : st.LastByRole b) :
    caller.isAdmin = false := by
  rw [← Bool.not_eq_true]
  intro hflag
  have hid : caller.id = b.id := hlast.only caller.id (h.staff_of_flag hflag)
  exact hlast.find?_ne_of_flag hflag (hid ▸ h.stored)

/-- An administrator by flag who updates the own account keeps flag and activity. -/
theorem Sender.staff_updateUser_self (h : Sender st caller) (hflag : caller.isAdmin = true)
    {data : UserUpdate} : (updateUser sur st caller caller.id data).1.Staff caller.id := by
  have hstaff : st.Staff caller.id := h.staff_of_flag hflag
  unfold updateUser
  split
  · exact hstaff
  · rename_i a hok
    obtain ⟨b, hb, he, rfl⟩ := updatedAccount_eq_ok_iff.mp hok
    obtain rfl : caller = b := Option.some.inj (h.stored.symm.trans hb)
    have hon : data.isActive ≠ some false := fun hoff => he.notSelf hoff rfl
    rw [if_neg hon]
    unfold finishUpdate
    dsimp only
    split
    · exact hstaff
    · rename_i c hchecked
      obtain ⟨_, -, hchecked⟩ := bind_ok hchecked
      obtain ⟨_, hself, hchecked⟩ := bind_ok hchecked
      cases hchecked
      split
      · exact hstaff
      · rename_i hw
        obtain ⟨-, hk, rfl⟩ := Accounts.writeUser_ok hw
        refine ⟨_, Accounts.find?_saveUser_self hk rfl, ?_, ?_⟩
        · change data.isActive.getD caller.isActive = true
          cases hd : data.isActive with
          | none => exact h.active
          | some active => cases active with
            | true => rfl
            | false => exact absurd hd hon
        · have hkept : data.isAdmin.getD caller.isAdmin = true := by
            have hdrop := of_decide_eq_false (refuseIf_ok hself)
            cases hd : data.isAdmin with
            | none => exact hflag
            | some flag => cases flag with
              | true => rfl
              | false => exact absurd ⟨rfl, hd⟩ hdrop
          unfold Accounts.administers
          change (data.isAdmin.getD caller.isAdmin || _) = true
          rw [hkept, Bool.true_or]

/-- An update of the last administrator that is carried out, in the columns it writes. -/
theorem Accounts.LastByRole.staffed_updateUser {b c : Account} (hlast : st.LastByRole b)
    {data : UserUpdate}
    (hfind : (updateUser sur st caller b.id data).1.users.find? b.id = some c)
    (hcols : c.credentials = (edited sur b data).credentials) (hflag : c.isAdmin = b.isAdmin) :
    (updateUser sur st caller b.id data).1.Staffed ↔
      data.isActive ≠ some false ∧ data.roleId.all st.isAdminRole = true := by
  have hroles : (updateUser sur st caller b.id data).1.roles = st.roles := updateUser_quiet.1
  have hadmins : (updateUser sur st caller b.id data).1.administers c =
      c.roleId.any st.isAdminRole := by
    unfold Accounts.administers Accounts.isAdminRole
    rw [hflag, hlast.flag, Bool.false_or, hroles]
  have hone : (updateUser sur st caller b.id data).1.Staffed ↔
      c.isActive = true ∧ c.roleId.any st.isAdminRole = true := by
    rw [← hadmins]
    constructor
    · rintro ⟨id', hstaff⟩
      have hid : id' = b.id := by
        by_contra hne
        exact hne (hlast.only id' ((staff_updateUser_of_ne hne).mp hstaff))
      subst hid
      obtain ⟨c', hfind', hstaff⟩ := hstaff
      obtain rfl := Option.some.inj (hfind.symm.trans hfind')
      exact hstaff
    · exact fun hstaff => ⟨b.id, c, hfind, hstaff⟩
  have hactive : c.isActive = data.isActive.getD b.isActive := congrArg Credentials.isActive hcols
  have hrole : c.roleId = data.roleId.or b.roleId := congrArg Credentials.roleId hcols
  rw [hone, hactive, hrole, hlast.active]
  apply and_congr
  · cases data.isActive <;> simp
  · cases data.roleId with
    | none => simpa using hlast.role
    | some r => simp

/-- An update keeps an active administrator exactly when it leaves the last one by role. -/
theorem Sender.staffed_updateUser_iff (h : Sender st caller) (hstaffed : st.Staffed)
    {data : UserUpdate} : (updateUser sur st caller id data).1.Staffed ↔
      ∀ b, st.LastByRole b → SparesLast sur st caller b (.users (.updateUser id data)) := by
  rcases hstaffed.cases id with ⟨id', hne, hstaff⟩ | ⟨b, hfind, hflag, honly⟩ | ⟨b, rfl, hlast⟩
  · refine iff_of_true ⟨id', (staff_updateUser_of_ne hne).mpr hstaff⟩ fun b hlast hid => ?_
    exact absurd (hlast.only id' hstaff) (hid ▸ hne)
  · refine iff_of_true ?_ fun c hlast hid => absurd (hid ▸ hfind) (hlast.find?_ne_of_flag hflag)
    by_cases hcaller : caller.isAdmin = true
    · have hid := honly caller.id (h.staff_of_flag hcaller)
      exact ⟨caller.id, hid ▸ h.staff_updateUser_self hcaller⟩
    · rcases updateUser_cases sur data (Bool.eq_false_iff.mpr hcaller) hfind with
        ⟨hcarried, -⟩ | ⟨-, heq⟩
      · have hadmin := hcarried.editable.admin
        simp [hflag, hcaller] at hadmin
      · rw [heq]
        exact hstaffed
  · have hguard : (∀ c, st.LastByRole c →
          SparesLast sur st caller c (.users (.updateUser b.id data))) ↔
        (Carried sur st caller b data →
          data.isActive ≠ some false ∧ data.roleId.all st.isAdminRole = true) :=
      ⟨fun hall => hall b hlast rfl, fun hone c hc _ => hlast.eq hc ▸ hone⟩
    rw [hguard]
    rcases updateUser_cases sur data (h.flag_of_last hlast) hlast.stored with
      ⟨hcarried, c, hfind, hcols, hflag⟩ | ⟨hno, heq⟩
    · rw [imp_iff_right hcarried]
      exact hlast.staffed_updateUser hfind hcols hflag
    · rw [heq]
      exact iff_of_true hstaffed fun hcarried => absurd hcarried hno

/-- A deletion by the users router keeps an active administrator exactly when it does not go
through to the last one by role. -/
theorem staffed_deleteUser_iff (hstaffed : st.Staffed) :
    (deleteUser sur st caller id).1.Staffed ↔
      ∀ b, st.LastByRole b → SparesLast sur st caller b (.users (.deleteUser id)) := by
  rcases hstaffed.cases id with ⟨id', hne, hstaff⟩ | ⟨b, hfind, hflag, -⟩ | ⟨b, rfl, hlast⟩
  · refine iff_of_true ⟨id', (staff_deleteUser_of_ne hne).mpr hstaff⟩ fun b hlast hid => ?_
    exact absurd (hlast.only id' hstaff) (hid ▸ hne)
  · refine iff_of_true ?_ fun c hlast hid => absurd (hid ▸ hfind) (hlast.find?_ne_of_flag hflag)
    rw [deleteUser_eq (p := ⟨st, KeyedTable.empty⟩)]
    split
    · exact hstaffed
    · rename_i a hok
      obtain ⟨-, hfind', -, hplain⟩ := deletedAccount_eq_ok_iff.mp hok
      obtain rfl := Option.some.inj (hfind.symm.trans hfind')
      rw [hflag] at hplain
      cases hplain
  · have hguard : (∀ c, st.LastByRole c →
          SparesLast sur st caller c (.users (.deleteUser b.id))) ↔ ¬Deletable sur st caller b :=
      ⟨fun hall => hall b hlast rfl, fun hone c hc _ => hlast.eq hc ▸ hone⟩
    rw [hguard, deleteUser_eq (p := ⟨st, KeyedTable.empty⟩)]
    cases hok : deletedAccount ⟨st, KeyedTable.empty⟩ caller b.id with
    | error e =>
      refine iff_of_true hstaffed fun hdel => ?_
      have hok' := deletedAccount_eq_ok_iff (p := ⟨st, KeyedTable.empty⟩).mpr
        ⟨hdel.permission, hlast.stored, hdel.notSelf, hdel.flag⟩
      rw [hok] at hok'
      cases hok'
    | ok a =>
      obtain ⟨hmay, -, hself, -⟩ := deletedAccount_eq_ok_iff.mp hok
      dsimp only
      by_cases hcommits : (sur.commits 0 && sur.commits 1) = true
      · rw [if_pos hcommits]
        refine iff_of_false ?_ fun hno => hno ⟨hmay, hself, hlast.flag, hcommits⟩
        rintro ⟨id', hstaff⟩
        by_cases hid : b.id = id'
        · subst hid
          obtain ⟨c, hfind, -⟩ := hstaff
          change (st.users.erase b.id).find? b.id = some c at hfind
          rw [KeyedTable.find?_erase, if_pos rfl] at hfind
          cases hfind
        · exact hid (hlast.only id' ((staff_eraseUser_of_ne (Ne.symm hid)).mp hstaff)).symm
      · rw [if_neg hcommits]
        exact iff_of_true hstaffed fun hdel => hcommits hdel.commits

/-- Whoever deletes an account by the auth router stays. -/
theorem Sender.staffed_authDeleteUser (h : Sender st caller) (hstaffed : st.Staffed) :
    (Auth.deleteUser sur st caller id).1.Staffed := by
  unfold Auth.deleteUser
  dsimp only
  split
  · exact hstaffed
  · rename_i hchecked
    obtain ⟨_, hadmin, hchecked⟩ := bind_ok hchecked
    obtain ⟨a, hfind, hchecked⟩ := bind_ok hchecked
    have hne : caller.id ≠ id := by
      have haid : a.id = id := st.users.key_of_find? (findUser_ok hfind)
      exact fun he => of_decide_eq_false (refuseIf_ok hchecked) (haid.trans he.symm)
    split
    · have hadm : st.administers caller = true := by simpa using refuseIf_ok hadmin
      exact ⟨caller.id, (staff_eraseUser_of_ne hne).mpr (h.staff hadm)⟩
    · exact hstaffed

/-- A request keeps an active administrator exactly when it spares the last one by role. -/
theorem Sender.staffed_serveUser_iff (h : Sender st caller) (hstaffed : st.Staffed)
    (call : UserCall) :
    (serveUser sur st caller call).Staffed ↔
      ∀ b, st.LastByRole b → SparesLast sur st caller b call := by
  obtain ⟨id', hstaff⟩ := id hstaffed
  cases call with
  | registerUser data =>
    exact iff_of_true ⟨id', staff_registerUser hstaff⟩ fun _ _ => trivial
  | deleteUser id => exact iff_of_true (h.staffed_authDeleteUser hstaffed) fun _ _ => trivial
  | users request =>
    have hkept : ∀ {st' : Accounts}, (st'.Staff id' ↔ st.Staff id') → st'.Staffed :=
      fun hiff => ⟨id', hiff.mpr hstaff⟩
    cases request with
    | createUser data => exact iff_of_true ⟨id', staff_createUser hstaff⟩ fun _ _ => trivial
    | updateUser id data => exact h.staffed_updateUser_iff hstaffed
    | deleteUser id => exact staffed_deleteUser_iff hstaffed
    | resetUserPassword id newPassword =>
      exact iff_of_true (hkept (staff_touchUser (fun _ => ⟨rfl, rfl, rfl⟩) fun _ => rfl))
        fun _ _ => trivial
    | unlockUser id =>
      exact iff_of_true (hkept (staff_touchUser (fun _ => ⟨rfl, rfl, rfl⟩) fun _ => rfl))
        fun _ _ => trivial
    | adminDisableTwoFactor id =>
      exact iff_of_true (hkept staff_adminDisableTwoFactor) fun _ _ => trivial
    | createRole data =>
      exact iff_of_true (hkept (Accounts.staff_congr
        (Accounts.active_of_users (users_createRole data)) administrator_createRole))
        fun _ _ => trivial
    | updateRole roleId data =>
      exact iff_of_true (hkept (Accounts.staff_congr
        (Accounts.active_of_users (users_updateRole roleId data)) administrator_updateRole))
        fun _ _ => trivial
    | deleteRole roleId =>
      exact iff_of_true (hkept (Accounts.staff_congr
        (Accounts.active_of_users (users_deleteRole roleId)) administrator_deleteRole))
        fun _ _ => trivial

end Requests

/-- A step keeps an active administrator exactly when it spares the last one by role. -/
theorem staffed_userStep_iff {st : Accounts} (hstaffed : st.Staffed) (e : UserEvent) :
    (userStep st e).Staffed ↔ Spares st e := by
  unfold userStep Spares
  cases hcaller : activeUser st e.caller e.sur.now with
  | none => exact iff_of_true hstaffed fun _ h => by cases h
  | some caller =>
    dsimp only
    rw [(sender_of_activeUser hcaller).staffed_serveUser_iff hstaffed e.call]
    constructor
    · rintro hall _ ⟨⟩
      exact hall
    · exact fun hall => hall caller rfl

/-! ### Administrations -/

/-- Calls to a panel that has an active administrator at the start. -/
structure Administration where
  start : Accounts
  events : List UserEvent
  staffed : start.Staffed

namespace Administration

/-- An active administrator remains exactly when every call spares the last one by role. -/
theorem staffed_iff (m : Administration) :
    (∀ st ∈ visited userStep m.start m.events, st.Staffed) ↔
      Guarded userStep Spares m.start m.events :=
  forall_visited_iff_guarded (fun _ e _ hstaffed => staffed_userStep_iff hstaffed e) m.staffed

/-! ### Stepping down -/

/-- The only account, an administrator by role. -/
def chief : Account := ⟨1, "chief", "chief@example.com", "", none, true, false, some 1, 0, none,
  false, false, none⟩

/-- The panel of the chief, with a second role. -/
def bureau : Accounts where
  users := ⟨[chief], by decide⟩
  roles := ⟨[⟨1, "admin", "Admin", none, ⟨[("user:update", true)], by decide⟩, true, true⟩,
    ⟨2, "user", "User", none, .empty, true, true⟩], by decide⟩
  nextUserId := 2
  nextRoleId := 3
  user_fresh := by decide
  role_fresh := by decide
  role_exists := by decide

/-- The chief takes the second role. -/
def stepDown : UserEvent where
  caller := 1
  call := .users (.updateUser 1 ⟨none, none, none, some 2, none, none, none⟩)
  sur := ⟨0, fun _ => [], id, fun _ => true⟩

def resignation : Administration where
  start := bureau
  events := [stepDown]
  staffed := ⟨1, chief, rfl, rfl, by decide⟩

/-- Nobody is left to administrate the panel. -/
theorem resignation_not_staffed :
    ¬∀ st ∈ visited userStep resignation.start resignation.events, st.Staffed := by
  intro h
  obtain ⟨id, a, hfind, -, hadm⟩ := h _ (foldl_mem_visited _ _ _)
  have hnone : ((resignation.events.foldl userStep resignation.start).users.rows.any
      (resignation.events.foldl userStep resignation.start).administers) = false := by decide
  exact List.any_eq_false.mp hnone a (KeyedTable.mem_of_find? _ hfind) hadm

end Administration

end PveManager.Users
