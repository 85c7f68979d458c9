import PveManager.Users.AdminBoundary
import PveManager.Users.Sessions

/-!
# Protection of administrators

The user endpoints write the account table and the session table. `update_user`
and `delete_user` look at the flag of the account they are sent to; the others
do not look at its status at all. An administrator is spared exactly by the
requests that are not listed in `Exposed`.
-/

namespace PveManager.Users

open PveManager.Core PveManager.Rbac PveManager.Api

/-- Accounts with their sessions. -/
structure Panel where
  accounts : Accounts
  sessions : Sessions

/-- A request to the users router. -/
inductive PanelRequest
  | account (request : AccountRequest)
  | terminateUserSessions (id : UserId)
  | terminateSession (id : Nat)
  | terminateAllSessions

/-! ### The endpoints -/

section Endpoints

variable (sur : Surroundings) (p : Panel) (caller : Account)

/-- The checks of `delete_user`. -/
def deletedAccount (id : UserId) : Except Exc Account := do
  requires p.accounts caller "user:delete"
  let a ← findUser p.accounts id
  refuseIf (decide (id = caller.id)) 400 "Cannot delete yourself"
  refuseIf a.isAdmin 400 "Cannot delete admin user"
  .ok a

/-- An update that deactivates the account closes its sessions with the first commit. -/
def sessionsAfterUpdate (id : UserId) (data : UserUpdate) : Sessions :=
  match updatedAccount sur p.accounts caller id data with
  | .error _ => p.sessions
  | .ok a =>
    if data.isActive = some false then
      match p.accounts.writeUser a (sur.commits 0) with
      | .error _ => p.sessions
      | .ok _ => p.sessions.terminateAllUserSessions id
    else p.sessions

/-- A deletion closes the sessions with the first commit and removes them with the second. -/
def sessionsAfterDelete (id : UserId) : Sessions :=
  match deletedAccount p caller id with
  | .error _ => p.sessions
  | .ok _ =>
    if sur.commits 0 then
      if sur.commits 1 then (p.sessions.terminateAllUserSessions id).deleteOfUser id
      else p.sessions.terminateAllUserSessions id
    else p.sessions

/-- The account endpoints with what they do to the sessions. -/
def handleAccount (request : AccountRequest) : Panel × Except Exc AccountReply :=
  let out := handle sur p.accounts caller request
  match request with
  | .updateUser id data => (⟨out.1, sessionsAfterUpdate sur p caller id data⟩, out.2)
  | .deleteUser id => (⟨out.1, sessionsAfterDelete sur p caller id⟩, out.2)
  | .resetUserPassword id _ =>
    match out.2 with
    | .error e => (⟨out.1, p.sessions⟩, .error e)
    | .ok reply =>
      if sur.commits 1 then (⟨out.1, p.sessions.terminateAllUserSessions id⟩, .ok reply)
      else (⟨out.1, p.sessions⟩, .error refusedCommit)
  | _ => (⟨out.1, p.sessions⟩, out.2)

/-- The endpoints that end sessions and leave the accounts alone. -/
def endSessions (check : Except Exc Unit) (sessions : Sessions) (text : String) :
    Panel × Except Exc AccountReply :=
  match (do requires p.accounts caller "user:update"; check : Except Exc Unit) with
  | .error e => (p, .error e)
  | .ok () =>
    if sur.commits 0 then ({ p with sessions }, .ok (.message text))
    else (p, .error refusedCommit)

def terminateUserSessions (id : UserId) : Panel × Except Exc AccountReply :=
  let count := (p.sessions.ofUser id).countP ActiveSession.isActive
  endSessions sur p caller (do let _ ← findUser p.accounts id)
    (p.sessions.terminateAllUserSessions id) s!"Terminated {count} sessions"

def terminateSession (id : Nat) : Panel × Except Exc AccountReply :=
  endSessions sur p caller
    (refuseIf (!p.sessions.rows.any fun row => decide (row.id = id)) 404 "Session not found")
    (p.sessions.deleteSession id) "Session terminated"

def terminateAllSessions : Panel × Except Exc AccountReply :=
  let deleted := p.sessions.rows.countP fun row => decide (row.userId ≠ caller.id)
  endSessions sur p caller (.ok ()) (p.sessions.deleteAllExcept caller.id)
    s!"Terminated {deleted} sessions"

def handlePanel : PanelRequest → Panel × Except Exc AccountReply
  | .account request => handleAccount sur p caller request
  | .terminateUserSessions id => terminateUserSessions sur p caller id
  | .terminateSession id => terminateSession sur p caller id
  | .terminateAllSessions => terminateAllSessions sur p caller

end Endpoints

/-! ### The sessions of one account -/

namespace Sessions

variable {s : Sessions} {id id' : UserId}

theorem mem_ofUser {row : ActiveSession} : row ∈ s.ofUser id ↔ row ∈ s.rows ∧ row.userId = id := by
  simp [ofUser]

/-- Closing sessions rewrites the sessions of each account in place. -/
theorem ofUser_terminateAllUserSessions :
    (s.terminateAllUserSessions id').ofUser id =
      (s.ofUser id).map fun row => if row.userId = id' then deactivate row else row := by
  unfold ofUser terminateAllUserSessions
  rw [KeyedTable.rows_mapRows, List.filter_map]
  apply congrArg
  apply List.filter_congr
  intro row _
  rw [Function.comp_apply]
  split <;> rfl

private theorem map_eq_self_iff {f : ActiveSession → ActiveSession} {rows : List ActiveSession} :
    rows.map f = rows ↔ ∀ row ∈ rows, f row = row := by
  have h : rows.map f = rows.map id ↔ ∀ row ∈ rows, f row = id row := List.map_inj_left
  rwa [List.map_id] at h

/-- The sessions of other accounts stay. -/
theorem ofUser_terminateAll_of_ne (hne : id' ≠ id) :
    (s.terminateAllUserSessions id').ofUser id = s.ofUser id := by
  rw [ofUser_terminateAllUserSessions, map_eq_self_iff]
  intro row hrow
  rw [if_neg ((mem_ofUser.mp hrow).2 ▸ hne.symm)]

/-- Closing the sessions of an account changes them exactly when one is open. -/
theorem ofUser_terminateAll_eq_iff :
    (s.terminateAllUserSessions id).ofUser id = s.ofUser id ↔
      ¬∃ row ∈ s.ofUser id, row.isActive = true := by
  rw [ofUser_terminateAllUserSessions, map_eq_self_iff]
  constructor
  · rintro h ⟨row, hrow, hactive⟩
    have hsame := h row hrow
    rw [if_pos (mem_ofUser.mp hrow).2] at hsame
    rw [← hsame] at hactive
    cases hactive
  · intro h row hrow
    rw [if_pos (mem_ofUser.mp hrow).2]
    have hoff : row.isActive = false := by
      rw [← Bool.not_eq_true]
      exact fun hactive => h ⟨row, hrow, hactive⟩
    cases row
    cases hoff
    rfl

/-- A selection keeps the sessions of an account exactly when it keeps each of them. -/
theorem ofUser_filter_eq_iff {keep : ActiveSession → Bool} :
    ofUser (KeyedTable.filter s keep) id = s.ofUser id ↔ ∀ row ∈ s.ofUser id, keep row = true := by
  unfold ofUser
  rw [KeyedTable.rows_filter, List.filter_comm, List.filter_eq_self]

end Sessions

/-! ### The columns of one account -/

/-- What the claim of an administrator rests on. -/
structure Credentials where
  hashedPassword : String
  twoFactorSecret : Option String
  isActive : Bool
  roleId : Option Nat
  deriving DecidableEq, Repr

def Account.credentials (a : Account) : Credentials :=
  ⟨a.hashedPassword, a.twoFactorSecret, a.isActive, a.roleId⟩

def Accounts.credentials (st : Accounts) (id : UserId) : Option Credentials :=
  (st.users.find? id).map Account.credentials

section Writes

variable {sur : Surroundings} {st : Accounts} {caller a b : Account} {id id' : UserId}

theorem Accounts.credentials_saveUser (h : st.roleKnown a = true) :
    (st.saveUser a h).credentials id = if a.id = id then some a.credentials else st.credentials id := by
  unfold Accounts.credentials
  change ((st.users.save a).find? id).map _ = _
  rw [KeyedTable.find?_save]
  split <;> rfl

/-- A written account is found. -/
theorem Accounts.find?_saveUser_self (h : st.roleKnown a = true) (hid : a.id = id) :
    (st.saveUser a h).users.find? id = some a :=
  (st.users.find?_save a id).trans (if_pos hid)

/-- Writing one account leaves the others. -/
theorem Accounts.find?_writeUser_of_ne {commit : Bool} {st' : Accounts} (hne : a.id ≠ id)
    (h : st.writeUser a commit = .ok st') : st'.users.find? id = st.users.find? id := by
  obtain ⟨-, hk, rfl⟩ := Accounts.writeUser_ok h
  exact (st.users.find?_save a id).trans (if_neg hne)

/-- An account whose row stays keeps its credentials. -/
theorem Accounts.credentials_of_find? {st' : Accounts}
    (h : st'.users.find? id = st.users.find? id) : st'.credentials id = st.credentials id := by
  unfold Accounts.credentials
  rw [h]

/-- The role of a stored account exists. -/
theorem Accounts.roleKnown_of_stored (hb : st.users.find? id = some b) (hrole : a.roleId = b.roleId) :
    st.roleKnown a = true := by
  unfold Accounts.roleKnown
  rw [hrole]
  cases hr : b.roleId with
  | none => rfl
  | some r => exact st.role_exists b (st.users.mem_of_find? hb) r hr

theorem find?_createUser {data : UserCreate} (hb : st.users.find? id = some b) :
    (createUser sur st caller data).1.users.find? id = st.users.find? id := by
  unfold createUser
  cases hc : createdAccount sur st caller data with
  | error e => rfl
  | ok a =>
    dsimp only
    cases hw : st.writeUser a (sur.commits 0) with
    | error e => rfl
    | ok st' =>
      apply Accounts.find?_writeUser_of_ne _ hw
      obtain ⟨-, -, -, -, hid, -⟩ := createdAccount_ok hc
      intro he
      rw [← he, hid, st.find?_nextUserId] at hb
      cases hb

theorem credentials_congr {st' : Accounts} (h : st'.users = st.users) :
    st'.credentials id = st.credentials id := by
  unfold Accounts.credentials
  rw [h]

theorem users_createRole (data : RoleCreate) :
    (createRole sur st caller data).1.users = st.users := by
  unfold createRole
  dsimp only
  split
  · rfl
  · split <;> rfl

theorem users_updateRole (roleId : Nat) (data : RoleUpdate) :
    (updateRole sur st caller roleId data).1.users = st.users := by
  unfold updateRole
  dsimp only
  split
  · rfl
  · split <;> rfl

theorem users_deleteRole (roleId : Nat) :
    (deleteRole sur st caller roleId).1.users = st.users := by
  unfold deleteRole
  dsimp only
  split
  · rfl
  · split
    · split <;> rfl
    · rfl

/-- A touch that leaves the credentials leaves those of every account. -/
theorem credentials_touchUser_of_same {check : Except Exc Unit} {set : Account → Account}
    {text : String} (hset : ∀ a, (set a).id = a.id ∧ (set a).credentials = a.credentials) :
    (touchUser sur st caller id check set text).1.credentials id' = st.credentials id' := by
  unfold touchUser
  dsimp only
  split
  · rfl
  · rename_i a hchecked
    obtain ⟨_, -, hchecked⟩ := bind_ok hchecked
    obtain ⟨_, hfind, hchecked⟩ := bind_ok hchecked
    obtain ⟨_, -, hchecked⟩ := bind_ok hchecked
    cases hchecked
    have hfind' := findUser_ok hfind
    have hid : (set a).id = id := (hset a).1.trans (st.users.key_of_find? hfind')
    split
    · rfl
    · rename_i hw
      obtain ⟨-, hk, rfl⟩ := Accounts.writeUser_ok hw
      rw [Accounts.credentials_saveUser, (hset a).2, hid]
      split
      · rename_i heq
        rw [← heq]
        unfold Accounts.credentials
        rw [hfind', Option.map_some]
      · rfl

/-- A touched account is written, or the tables stay. -/
theorem touchUser_cases (sur : Surroundings) (caller : Account) (check : Except Exc Unit)
    (set : Account → Account) (text : String) (hb : st.users.find? id = some b)
    (hset : (set b).roleId = b.roleId) :
    ((hasPermission (st.userOf caller) "user:update" = true ∧ check = .ok () ∧
        sur.commits 0 = true) ∧
      ∃ hk, touchUser sur st caller id check set text =
        (st.saveUser (set b) hk, .ok (.message text))) ∨
    (¬(hasPermission (st.userOf caller) "user:update" = true ∧ check = .ok () ∧
        sur.commits 0 = true) ∧
      ∃ e, touchUser sur st caller id check set text = (st, .error e)) := by
  have hfind : findUser st id = .ok b := by simp [findUser, hb]
  have hknown : st.roleKnown (set b) = true := Accounts.roleKnown_of_stored hb hset
  unfold touchUser
  dsimp only
  by_cases hp : hasPermission (st.userOf caller) "user:update" = true
  · have hperm : requires st caller "user:update" = .ok () := by simp [requires, hp]
    rw [bind_of_ok hperm, bind_of_ok hfind]
    cases check with
    | error e =>
      refine Or.inr ⟨?_, e, rfl⟩
      rintro ⟨-, hcheck, -⟩
      cases hcheck
    | ok u =>
      by_cases hc : sur.commits 0 = true
      · refine Or.inl ⟨⟨hp, rfl, hc⟩, hknown, ?_⟩
        rw [bind_of_ok rfl]
        dsimp only
        rw [Accounts.writeUser_of hknown hc]
      · refine Or.inr ⟨fun h => hc h.2.2, refusedCommit, ?_⟩
        rw [bind_of_ok rfl]
        simp [Accounts.writeUser, hknown, hc]
  · obtain ⟨e, he⟩ : ∃ e, requires st caller "user:update" = .error e := ⟨_, if_neg hp⟩
    rw [he]
    exact Or.inr ⟨fun h => hp h.1, e, rfl⟩

theorem find?_touchUser_of_ne {check : Except Exc Unit} {set : Account → Account}
    {text : String} (hset : ∀ a, (set a).id = a.id) (hne : id ≠ id') :
    (touchUser sur st caller id check set text).1.users.find? id' = st.users.find? id' := by
  unfold touchUser
  dsimp only
  split
  · rfl
  · rename_i a hchecked
    obtain ⟨_, -, hchecked⟩ := bind_ok hchecked
    obtain ⟨_, hfind, hchecked⟩ := bind_ok hchecked
    obtain ⟨_, -, hchecked⟩ := bind_ok hchecked
    cases hchecked
    have hid : (set a).id = id := (hset a).trans (st.users.key_of_find? (findUser_ok hfind))
    split
    · rfl
    · rename_i hw
      exact Accounts.find?_writeUser_of_ne (hid ▸ hne) hw

/-- The end of an update by a caller without the flag. -/
theorem finishUpdate_cases {data : UserUpdate} {commit : Bool} (hc : caller.isAdmin = false)
    (hknown : st.roleKnown a = true) :
    ((data.isAdmin = none ∧ commit = true) ∧ ∃ c hk, c.id = a.id ∧ c.credentials = a.credentials ∧
      c.isAdmin = a.isAdmin ∧ (finishUpdate st caller a data commit).1 = st.saveUser c hk) ∨
    (¬(data.isAdmin = none ∧ commit = true) ∧ (finishUpdate st caller a data commit).1 = st) := by
  unfold finishUpdate
  cases hd : data.isAdmin with
  | some flag =>
    refine Or.inr ⟨(fun h => nomatch h.1), ?_⟩
    rw [hc]
    rfl
  | none =>
    have hflag : ((none : Option Bool).isSome && !caller.isAdmin) = false := rfl
    have hself : decide (a.id = caller.id ∧ (none : Option Bool) = some false) = false := by simp
    dsimp only
    rw [bind_of_ok (refuseIf_of hflag _ _), bind_of_ok (refuseIf_of hself _ _)]
    dsimp only
    have hwrite : ∀ c : Account, c.roleId = a.roleId →
        (if commit = true then ∃ hk, st.writeUser c commit = .ok (st.saveUser c hk)
          else st.writeUser c commit = .error refusedCommit) := by
      intro c hrole
      have hk : st.roleKnown c = true := by
        unfold Accounts.roleKnown at hknown ⊢
        rw [hrole]
        exact hknown
      split
      · rename_i hcommit
        exact ⟨hk, Accounts.writeUser_of hk hcommit⟩
      · rename_i hcommit
        simp [Accounts.writeUser, hk, hcommit]
    generalize hrow : ({ a with
        requirePasswordChange := data.requirePasswordChange.getD a.requirePasswordChange
        isAdmin := (none : Option Bool).getD a.isAdmin } : Account) = c
    have hsame : c.id = a.id ∧ c.credentials = a.credentials ∧ c.isAdmin = a.isAdmin ∧
        c.roleId = a.roleId := by
      subst hrow
      exact ⟨rfl, rfl, rfl, rfl⟩
    have hc' := hwrite c hsame.2.2.2
    by_cases hcommit : commit = true
    · rw [if_pos hcommit] at hc'
      obtain ⟨hk, hw⟩ := hc'
      refine Or.inl ⟨⟨rfl, hcommit⟩, c, hk, hsame.1, hsame.2.1, hsame.2.2.1, ?_⟩
      rw [hw]
    · rw [if_neg hcommit] at hc'
      refine Or.inr ⟨fun h => hcommit h.2, ?_⟩
      rw [hc']

theorem find?_finishUpdate_of_ne {data : UserUpdate} {commit : Bool} (hne : a.id ≠ id) :
    (finishUpdate st caller a data commit).1.users.find? id = st.users.find? id := by
  unfold finishUpdate
  dsimp only
  split
  · rfl
  · rename_i c hchecked
    obtain ⟨_, -, hchecked⟩ := bind_ok hchecked
    obtain ⟨_, -, hchecked⟩ := bind_ok hchecked
    cases hchecked
    split
    · rfl
    · rename_i hw
      apply Accounts.find?_writeUser_of_ne _ hw
      exact hne

theorem find?_updateUser_of_ne {data : UserUpdate} (hne : id ≠ id') :
    (updateUser sur st caller id data).1.users.find? id' = st.users.find? id' := by
  unfold updateUser
  split
  · rfl
  · rename_i a hok
    obtain ⟨b, hb, -, rfl⟩ := updatedAccount_eq_ok_iff.mp hok
    have hid : (edited sur b data).id ≠ id' := (st.users.key_of_find? hb).symm ▸ hne
    split
    · split
      · rfl
      · rename_i hw
        exact (find?_finishUpdate_of_ne hid).trans (Accounts.find?_writeUser_of_ne hid hw)
    · exact find?_finishUpdate_of_ne hid

/-- The update is carried out, at least up to the end of the sessions. -/
structure Carried (sur : Surroundings) (st : Accounts) (caller b : Account) (data : UserUpdate) :
    Prop where
  editable : Editable sur st caller b data
  /-- A mention of the flag is refused, but only after a deactivation is committed. -/
  flag : data.isActive ≠ some false → data.isAdmin = none
  commit : sur.commits 0 = true

theorem Editable.roleKnown {data : UserUpdate} (he : Editable sur st caller b data)
    (hb : st.users.find? id = some b) : st.roleKnown (edited sur b data) = true := by
  cases hr : data.roleId with
  | none => exact Accounts.roleKnown_of_stored hb (by simp [edited, hr])
  | some r =>
    have hsome := he.role r hr
    simpa [Accounts.roleKnown, edited, hr] using hsome

/-- An update by a caller without the flag writes the credentials and leaves the flag, or
leaves the tables. -/
theorem updateUser_cases (sur : Surroundings) (data : UserUpdate) (hc : caller.isAdmin = false)
    (hb : st.users.find? id = some b) :
    (Carried sur st caller b data ∧ ∃ c, (updateUser sur st caller id data).1.users.find? id = some c ∧
      c.credentials = (edited sur b data).credentials ∧ c.isAdmin = b.isAdmin) ∨
    (¬Carried sur st caller b data ∧ (updateUser sur st caller id data).1 = st) := by
  have hid : (edited sur b data).id = id := by
    change b.id = id
    exact st.users.key_of_find? hb
  unfold updateUser
  cases hok : updatedAccount sur st caller id data with
  | error e =>
    refine Or.inr ⟨fun h => ?_, rfl⟩
    rw [updatedAccount_eq_ok_iff.mpr ⟨b, hb, h.editable, rfl⟩] at hok
    cases hok
  | ok a =>
    obtain ⟨b', hb', he, rfl⟩ := updatedAccount_eq_ok_iff.mp hok
    obtain rfl : b = b' := Option.some.inj (hb.symm.trans hb')
    have hknown := he.roleKnown hb
    dsimp only
    by_cases hd : data.isActive = some false
    · rw [if_pos hd]
      by_cases hcommit : sur.commits 0 = true
      · refine Or.inl ⟨⟨he, fun h => absurd hd h, hcommit⟩, ?_⟩
        rw [Accounts.writeUser_of hknown hcommit]
        dsimp only
        have hknown' : (st.saveUser _ hknown).roleKnown (edited sur b data) = true := hknown
        rcases finishUpdate_cases hc hknown' with
          ⟨-, c, hk, hcid, hcols, hflag, heq⟩ | ⟨-, heq⟩
        · rw [heq]
          exact ⟨c, Accounts.find?_saveUser_self hk (hcid.trans hid), hcols, hflag⟩
        · rw [heq]
          exact ⟨_, Accounts.find?_saveUser_self hknown hid, rfl, rfl⟩
      · refine Or.inr ⟨fun h => hcommit h.commit, ?_⟩
        simp [Accounts.writeUser, hcommit]
    · rw [if_neg hd]
      rcases finishUpdate_cases hc hknown with
        ⟨⟨hnone, hcommit⟩, c, hk, hcid, hcols, hflag, heq⟩ | ⟨hno, heq⟩
      · refine Or.inl ⟨⟨he, fun _ => hnone, hcommit⟩, ?_⟩
        rw [heq]
        exact ⟨c, Accounts.find?_saveUser_self hk (hcid.trans hid), hcols, hflag⟩
      · exact Or.inr ⟨fun h => hno ⟨h.flag hd, h.commit⟩, heq⟩

private theorem getD_eq_iff {α : Type} {o : Option α} {x : α} :
    o.getD x = x ↔ ¬∃ y, o = some y ∧ y ≠ x := by
  cases o with
  | none => exact iff_of_true rfl fun ⟨_, h, _⟩ => nomatch h
  | some y => simp

/-- An update leaves the credentials exactly when it gives no other value for one of them. -/
theorem credentials_edited_iff {data : UserUpdate} :
    (edited sur b data).credentials = b.credentials ↔
      ¬((∃ password, data.password = some password ∧ sur.hash password ≠ b.hashedPassword) ∨
        (∃ r, data.roleId = some r ∧ b.roleId ≠ some r) ∨
        ∃ active, data.isActive = some active ∧ active ≠ b.isActive) := by
  have hpassword : (data.password.map sur.hash).getD b.hashedPassword = b.hashedPassword ↔
      ¬∃ password, data.password = some password ∧ sur.hash password ≠ b.hashedPassword := by
    rw [getD_eq_iff]
    simp
  have hrole : data.roleId.or b.roleId = b.roleId ↔
      ¬∃ r, data.roleId = some r ∧ b.roleId ≠ some r := by
    cases data.roleId with
    | none => exact iff_of_true rfl fun ⟨_, h, _⟩ => nomatch h
    | some r => simp [eq_comm]
  have hactive : data.isActive.getD b.isActive = b.isActive ↔
      ¬∃ active, data.isActive = some active ∧ active ≠ b.isActive := getD_eq_iff
  change Credentials.mk _ _ _ _ = Credentials.mk _ _ _ _ ↔ _
  rw [Credentials.mk.injEq, not_or, not_or, ← hpassword, ← hrole, ← hactive]
  constructor
  · rintro ⟨h1, -, h3, h4⟩
    exact ⟨h1, h4, h3⟩
  · rintro ⟨h1, h4, h3⟩
    exact ⟨h1, rfl, h3, h4⟩

end Writes

/-! ### The requests and the sessions -/

section Requests

variable {sur : Surroundings} {p : Panel} {caller b : Account} {id : UserId}

/-- Sessions end with a deactivation that is carried out, and with no other update. -/
theorem sessionsAfterUpdate_cases (sur : Surroundings) (caller : Account) (data : UserUpdate)
    (hb : p.accounts.users.find? id = some b) :
    ((Carried sur p.accounts caller b data ∧ data.isActive = some false) ∧
      sessionsAfterUpdate sur p caller id data = p.sessions.terminateAllUserSessions id) ∨
    (¬(Carried sur p.accounts caller b data ∧ data.isActive = some false) ∧
      sessionsAfterUpdate sur p caller id data = p.sessions) := by
  unfold sessionsAfterUpdate
  cases hok : updatedAccount sur p.accounts caller id data with
  | error e =>
    refine Or.inr ⟨fun h => ?_, rfl⟩
    rw [updatedAccount_eq_ok_iff.mpr ⟨b, hb, h.1.editable, rfl⟩] at hok
    cases hok
  | ok a =>
    obtain ⟨b', hb', he, rfl⟩ := updatedAccount_eq_ok_iff.mp hok
    obtain rfl : b = b' := Option.some.inj (hb.symm.trans hb')
    dsimp only
    by_cases hd : data.isActive = some false
    · rw [if_pos hd]
      by_cases hcommit : sur.commits 0 = true
      · refine Or.inl ⟨⟨⟨he, fun h => absurd hd h, hcommit⟩, hd⟩, ?_⟩
        rw [Accounts.writeUser_of (he.roleKnown hb) hcommit]
      · refine Or.inr ⟨fun h => hcommit h.1.commit, ?_⟩
        simp [Accounts.writeUser, hcommit]
    · exact Or.inr ⟨fun h => hd h.2, if_neg hd⟩

theorem ofUser_sessionsAfterUpdate_of_ne {data : UserUpdate} {id' : UserId} (hne : id ≠ id') :
    (sessionsAfterUpdate sur p caller id data).ofUser id' = p.sessions.ofUser id' := by
  unfold sessionsAfterUpdate
  split
  · rfl
  · split
    · split
      · rfl
      · exact Sessions.ofUser_terminateAll_of_ne hne
    · rfl

/-- Who may delete which account. -/
theorem deletedAccount_eq_ok_iff {a : Account} :
    deletedAccount p caller id = .ok a ↔
      hasPermission (p.accounts.userOf caller) "user:delete" = true ∧
        p.accounts.users.find? id = some a ∧ id ≠ caller.id ∧ a.isAdmin = false := by
  unfold deletedAccount
  constructor
  · intro h
    obtain ⟨_, hperm, h⟩ := bind_ok h
    obtain ⟨b, hfind, h⟩ := bind_ok h
    obtain ⟨_, hself, h⟩ := bind_ok h
    obtain ⟨_, hadmin, h⟩ := bind_ok h
    cases h
    exact ⟨requires_ok hperm, findUser_ok hfind, of_decide_eq_false (refuseIf_ok hself),
      refuseIf_ok hadmin⟩
  · rintro ⟨hperm, hfind, hself, hadmin⟩
    have hrequires : requires p.accounts caller "user:delete" = .ok () := by simp [requires, hperm]
    have hfound : findUser p.accounts id = .ok a := by simp [findUser, hfind]
    rw [bind_of_ok hrequires, bind_of_ok hfound, bind_of_ok (refuseIf_of (decide_eq_false hself) _ _),
      bind_of_ok (refuseIf_of hadmin _ _)]

theorem deleteUser_eq :
    (deleteUser sur p.accounts caller id).1 =
      match deletedAccount p caller id with
      | .error _ => p.accounts
      | .ok _ => if sur.commits 0 && sur.commits 1 then p.accounts.eraseUser id else p.accounts := by
  change (match deletedAccount p caller id with
    | .error e => (p.accounts, .error e)
    | .ok _ =>
      if sur.commits 0 && sur.commits 1 then
        (p.accounts.eraseUser id, .ok (.message "User deleted"))
      else (p.accounts, .error refusedCommit) : Accounts × Except Exc AccountReply).1 = _
  split
  · rfl
  · split <;> rfl

theorem find?_deleteUser_of_ne {id' : UserId} (hne : id ≠ id') :
    (deleteUser sur p.accounts caller id).1.users.find? id' = p.accounts.users.find? id' := by
  rw [deleteUser_eq]
  split
  · rfl
  · split
    · exact (p.accounts.users.find?_erase id id').trans (if_neg (Ne.symm hne))
    · rfl

theorem ofUser_sessionsAfterDelete_of_ne {id' : UserId} (hne : id ≠ id') :
    (sessionsAfterDelete sur p caller id).ofUser id' = p.sessions.ofUser id' := by
  unfold sessionsAfterDelete
  split
  · rfl
  · split
    · split
      · have hother : ∀ row ∈ (p.sessions.terminateAllUserSessions id).ofUser id',
            decide (row.userId ≠ id) = true := by
          intro row hrow
          exact decide_eq_true ((Sessions.mem_ofUser.mp hrow).2 ▸ Ne.symm hne)
        exact (Sessions.ofUser_filter_eq_iff.mpr hother).trans
          (Sessions.ofUser_terminateAll_of_ne hne)
      · exact Sessions.ofUser_terminateAll_of_ne hne
    · rfl

/-- Sessions end when the caller may update users, the request is right and the commit works. -/
theorem endSessions_cases (sur : Surroundings) (p : Panel) (caller : Account)
    (check : Except Exc Unit) {sessions : Sessions} {text : String} :
    ((hasPermission (p.accounts.userOf caller) "user:update" = true ∧ check = .ok () ∧
        sur.commits 0 = true) ∧
      (endSessions sur p caller check sessions text).1 = { p with sessions }) ∨
    (¬(hasPermission (p.accounts.userOf caller) "user:update" = true ∧ check = .ok () ∧
        sur.commits 0 = true) ∧
      (endSessions sur p caller check sessions text).1 = p) := by
  unfold endSessions
  by_cases hp : hasPermission (p.accounts.userOf caller) "user:update" = true
  · have hperm : requires p.accounts caller "user:update" = .ok () := by simp [requires, hp]
    rw [bind_of_ok hperm]
    cases check with
    | error e =>
      refine Or.inr ⟨?_, rfl⟩
      rintro ⟨-, hcheck, -⟩
      cases hcheck
    | ok u =>
      by_cases hc : sur.commits 0 = true
      · refine Or.inl ⟨⟨hp, rfl, hc⟩, ?_⟩
        dsimp only
        rw [if_pos hc]
      · refine Or.inr ⟨fun h => hc h.2.2, ?_⟩
        dsimp only
        rw [if_neg hc]
  · refine Or.inr ⟨fun h => hp h.1, ?_⟩
    simp [requires, hp]
    rfl

end Requests

/-! ### Encounters -/

/-- A caller who is no administrator, by flag or by role, and an account that is one. -/
structure Encounter where
  panel : Panel
  caller : Account
  target : Account
  caller_stored : panel.accounts.users.find? caller.id = some caller
  target_stored : panel.accounts.users.find? target.id = some target
  caller_lesser : panel.accounts.administers caller = false
  target_admin : panel.accounts.administers target = true

namespace Encounter

variable (m : Encounter)

/-- The administrator's credentials and sessions are what they were. -/
def Spared (after : Panel) : Prop :=
  after.accounts.credentials m.target.id = some m.target.credentials ∧
    after.sessions.ofUser m.target.id = m.panel.sessions.ofUser m.target.id

/-- The administrator has an open session. -/
def Live : Prop := ∃ row ∈ m.panel.sessions.ofUser m.target.id, row.isActive = true

def May (permission : String) : Prop :=
  hasPermission (m.panel.accounts.userOf m.caller) permission = true

/-- The update gives another password, role or active flag, or it closes a session. -/
def Rewrites (sur : Surroundings) (data : UserUpdate) : Prop :=
  ((∃ password, data.password = some password ∧ sur.hash password ≠ m.target.hashedPassword) ∨
    (∃ r, data.roleId = some r ∧ m.target.roleId ≠ some r) ∨
    ∃ active, data.isActive = some active ∧ active ≠ m.target.isActive) ∨
  (data.isActive = some false ∧ m.Live)

/-- The requests that reach the administrator. -/
def Exposed (sur : Surroundings) : PanelRequest → Prop
  | .account (.updateUser id data) =>
    id = m.target.id ∧ Carried sur m.panel.accounts m.caller m.target data ∧ m.Rewrites sur data
  | .account (.deleteUser id) =>
    id = m.target.id ∧ m.May "user:delete" ∧ m.target.isAdmin = false ∧ sur.commits 0 = true ∧
      (sur.commits 1 = true ∨ m.Live)
  | .account (.resetUserPassword id password) =>
    id = m.target.id ∧ m.May "user:update" ∧ sur.passwordErrors password = [] ∧
      sur.commits 0 = true ∧
      (sur.hash password ≠ m.target.hashedPassword ∨ (sur.commits 1 = true ∧ m.Live))
  | .account (.adminDisableTwoFactor id) =>
    id = m.target.id ∧ m.May "user:update" ∧ sur.commits 0 = true ∧
      m.target.twoFactorSecret ≠ none ∧
      (m.target.twoFactorEnabled = true ∨ m.target.twoFactorSecret ≠ some "")
  | .account _ => False
  | .terminateUserSessions id =>
    id = m.target.id ∧ m.May "user:update" ∧ sur.commits 0 = true ∧ m.Live
  | .terminateSession id =>
    m.May "user:update" ∧ sur.commits 0 = true ∧
      ∃ row ∈ m.panel.sessions.ofUser m.target.id, row.id = id
  | .terminateAllSessions =>
    m.May "user:update" ∧ sur.commits 0 = true ∧ m.panel.sessions.ofUser m.target.id ≠ []

variable {m} {sur : Surroundings}

theorem caller_unflagged : m.caller.isAdmin = false := by
  have h := m.caller_lesser
  unfold Accounts.administers at h
  exact (Bool.or_eq_false_iff.mp h).1

theorem caller_ne_target : m.caller.id ≠ m.target.id := by
  intro he
  have hsame : m.caller = m.target :=
    Option.some.inj (m.caller_stored.symm.trans (he ▸ m.target_stored))
  have h := m.caller_lesser
  rw [hsame, m.target_admin] at h
  cases h

theorem credentials_target :
    m.panel.accounts.credentials m.target.id = some m.target.credentials := by
  unfold Accounts.credentials
  rw [m.target_stored, Option.map_some]

theorem not_live_iff :
    (m.panel.sessions.terminateAllUserSessions m.target.id).ofUser m.target.id =
      m.panel.sessions.ofUser m.target.id ↔ ¬m.Live :=
  Sessions.ofUser_terminateAll_eq_iff

/-- A request that leaves the columns and the sessions spares the administrator. -/
theorem spared_of_same {after : Panel}
    (haccounts : after.accounts.credentials m.target.id =
      m.panel.accounts.credentials m.target.id)
    (hsessions : after.sessions.ofUser m.target.id = m.panel.sessions.ofUser m.target.id) :
    m.Spared after :=
  ⟨haccounts.trans credentials_target, hsessions⟩

theorem spared_updateUser_iff (id : UserId) (data : UserUpdate) :
    m.Spared (handlePanel sur m.panel m.caller (.account (.updateUser id data))).1 ↔
      ¬m.Exposed sur (.account (.updateUser id data)) := by
  change m.Spared ⟨(updateUser sur m.panel.accounts m.caller id data).1,
      sessionsAfterUpdate sur m.panel m.caller id data⟩ ↔
    ¬(id = m.target.id ∧ Carried sur m.panel.accounts m.caller m.target data ∧ m.Rewrites sur data)
  by_cases hid : id = m.target.id
  · subst hid
    have hstored := m.target_stored
    rcases updateUser_cases sur data caller_unflagged hstored with
      ⟨hcarried, c, hfind, hcols, -⟩ | ⟨hno, heq⟩
    · have hexposed : (m.target.id = m.target.id ∧
          Carried sur m.panel.accounts m.caller m.target data ∧ m.Rewrites sur data) ↔
            m.Rewrites sur data :=
        ⟨fun h => h.2.2, fun h => ⟨rfl, hcarried, h⟩⟩
      rw [hexposed]
      unfold Spared Rewrites
      rw [Accounts.credentials, hfind, Option.map_some, hcols, Option.some.injEq,
        credentials_edited_iff]
      refine Iff.trans ?_ not_or.symm
      apply and_congr_right'
      rcases sessionsAfterUpdate_cases sur m.caller data hstored with
        ⟨⟨-, hd⟩, hs⟩ | ⟨hnot, hs⟩
      · rw [hs, not_live_iff]
        exact not_congr (and_iff_right hd).symm
      · rw [hs]
        exact iff_of_true rfl fun h => hnot ⟨hcarried, h.1⟩
    · refine iff_of_true (spared_of_same (by rw [heq]) ?_) fun h => hno h.2.1
      rcases sessionsAfterUpdate_cases sur m.caller data hstored with
        ⟨⟨hcarried, -⟩, -⟩ | ⟨-, hs⟩
      · exact absurd hcarried hno
      · rw [hs]
  · refine iff_of_true (spared_of_same ?_ ?_) fun h => hid h.1
    · exact Accounts.credentials_of_find? (find?_updateUser_of_ne hid)
    · exact ofUser_sessionsAfterUpdate_of_ne hid

theorem spared_deleteUser_iff (id : UserId) :
    m.Spared (handlePanel sur m.panel m.caller (.account (.deleteUser id))).1 ↔
      ¬m.Exposed sur (.account (.deleteUser id)) := by
  change m.Spared ⟨(deleteUser sur m.panel.accounts m.caller id).1,
      sessionsAfterDelete sur m.panel m.caller id⟩ ↔
    ¬(id = m.target.id ∧ m.May "user:delete" ∧ m.target.isAdmin = false ∧ sur.commits 0 = true ∧
      (sur.commits 1 = true ∨ m.Live))
  by_cases hid : id = m.target.id
  · subst hid
    rw [deleteUser_eq]
    unfold sessionsAfterDelete
    cases hok : deletedAccount m.panel m.caller m.target.id with
    | error e =>
      refine iff_of_true (spared_of_same rfl rfl) ?_
      rintro ⟨-, hmay, hflag, -⟩
      rw [deletedAccount_eq_ok_iff.mpr ⟨hmay, m.target_stored, caller_ne_target.symm, hflag⟩] at hok
      cases hok
    | ok a =>
      obtain ⟨hmay, hfind, -, hflag⟩ := deletedAccount_eq_ok_iff.mp hok
      obtain rfl : m.target = a := Option.some.inj (m.target_stored.symm.trans hfind)
      dsimp only
      by_cases h0 : sur.commits 0 = true
      · rw [h0, if_pos rfl, Bool.true_and]
        by_cases h1 : sur.commits 1 = true
        · rw [if_pos h1, if_pos h1]
          refine iff_of_false (fun h => ?_) fun h => h ⟨rfl, hmay, hflag, rfl, Or.inl h1⟩
          have hgone : (m.panel.accounts.eraseUser m.target.id).users.find? m.target.id = none := by
            change (m.panel.accounts.users.erase m.target.id).find? m.target.id = none
            rw [KeyedTable.find?_erase, if_pos rfl]
          have hcols := h.1
          unfold Accounts.credentials at hcols
          rw [hgone] at hcols
          cases hcols
        · rw [if_neg h1, if_neg h1]
          have hspared : m.Spared ⟨m.panel.accounts,
              m.panel.sessions.terminateAllUserSessions m.target.id⟩ ↔ ¬m.Live :=
            (and_iff_right credentials_target).trans not_live_iff
          rw [hspared]
          refine not_congr ⟨fun h => ⟨rfl, hmay, hflag, rfl, Or.inr h⟩, ?_⟩
          rintro ⟨-, -, -, -, h | h⟩
          · exact absurd h h1
          · exact h
      · rw [if_neg h0, Bool.eq_false_iff.mpr h0, Bool.false_and]
        refine iff_of_true (spared_of_same rfl rfl) fun h => ?_
        cases h.2.2.2.1
  · refine iff_of_true (spared_of_same ?_ ?_) fun h => hid h.1
    · exact Accounts.credentials_of_find? (find?_deleteUser_of_ne hid)
    · exact ofUser_sessionsAfterDelete_of_ne hid

theorem spared_resetUserPassword_iff (id : UserId) (password : String) :
    m.Spared (handlePanel sur m.panel m.caller (.account (.resetUserPassword id password))).1 ↔
      ¬m.Exposed sur (.account (.resetUserPassword id password)) := by
  change m.Spared (handleAccount sur m.panel m.caller (.resetUserPassword id password)).1 ↔
    ¬(id = m.target.id ∧ m.May "user:update" ∧ sur.passwordErrors password = [] ∧
      sur.commits 0 = true ∧
      (sur.hash password ≠ m.target.hashedPassword ∨ (sur.commits 1 = true ∧ m.Live)))
  unfold handleAccount
  dsimp only [handle]
  have hcheck : checkPassword sur password = .ok () ↔ sur.passwordErrors password = [] := by
    by_cases h : sur.passwordErrors password = [] <;> simp [checkPassword, refuseIf, h]
  by_cases hid : id = m.target.id
  · subst hid
    unfold resetUserPassword
    rcases touchUser_cases sur m.caller (checkPassword sur password)
      (fun a => { a with
        hashedPassword := sur.hash password
        requirePasswordChange := true
        failedLoginAttempts := 0
        lockedUntil := none }) "Password reset successfully" m.target_stored rfl with
      ⟨⟨hmay, hok, hcommit⟩, hk, heq⟩ | ⟨hno, e, heq⟩
    · rw [heq]
      dsimp only
      have hcols : (m.panel.accounts.saveUser _ hk).credentials m.target.id =
          some m.target.credentials ↔ sur.hash password = m.target.hashedPassword := by
        rw [Accounts.credentials_saveUser, if_pos rfl, Option.some.injEq]
        simp [Account.credentials]
      have hpw := hcheck.mp hok
      have hallowed : m.May "user:update" := hmay
      by_cases h1 : sur.commits 1 = true
      · rw [if_pos h1]
        have hspared : m.Spared ⟨m.panel.accounts.saveUser _ hk,
            m.panel.sessions.terminateAllUserSessions m.target.id⟩ ↔
              sur.hash password = m.target.hashedPassword ∧ ¬m.Live :=
          and_congr hcols not_live_iff
        rw [hspared]
        simp [hallowed, hpw, hcommit, h1]
      · rw [if_neg h1]
        have hspared : m.Spared ⟨m.panel.accounts.saveUser _ hk, m.panel.sessions⟩ ↔
            sur.hash password = m.target.hashedPassword :=
          (and_iff_left rfl).trans hcols
        rw [hspared]
        simp [hallowed, hpw, hcommit, h1]
    · rw [heq]
      exact iff_of_true (spared_of_same rfl rfl) fun h =>
        hno ⟨h.2.1, hcheck.mpr h.2.2.1, h.2.2.2.1⟩
  · have hcols : (resetUserPassword sur m.panel.accounts m.caller id password).1.credentials
        m.target.id = m.panel.accounts.credentials m.target.id := by
      unfold resetUserPassword
      exact Accounts.credentials_of_find? (find?_touchUser_of_ne (fun _ => rfl) hid)
    refine iff_of_true (spared_of_same ?_ ?_) fun h => hid h.1
    · refine Eq.trans ?_ hcols
      split
      · rfl
      · split <;> rfl
    · split
      · rfl
      · split
        · exact Sessions.ofUser_terminateAll_of_ne hid
        · rfl

theorem spared_adminDisableTwoFactor_iff (id : UserId) :
    m.Spared (handlePanel sur m.panel m.caller (.account (.adminDisableTwoFactor id))).1 ↔
      ¬m.Exposed sur (.account (.adminDisableTwoFactor id)) := by
  change m.Spared ⟨(adminDisableTwoFactor sur m.panel.accounts m.caller id).1, m.panel.sessions⟩ ↔
    ¬(id = m.target.id ∧ m.May "user:update" ∧ sur.commits 0 = true ∧
      m.target.twoFactorSecret ≠ none ∧
      (m.target.twoFactorEnabled = true ∨ m.target.twoFactorSecret ≠ some ""))
  unfold adminDisableTwoFactor
  dsimp only
  by_cases hid : id = m.target.id
  · subst hid
    have hfind : findUser m.panel.accounts m.target.id = .ok m.target := by
      simp [findUser, m.target_stored]
    split
    · rename_i hsettled
      obtain ⟨_, -, hsettled⟩ := bind_ok hsettled
      rw [bind_of_ok hfind] at hsettled
      have hplain := Except.ok.inj hsettled
      rw [Bool.and_eq_true, Bool.not_eq_true'] at hplain
      refine iff_of_true (spared_of_same rfl rfl) ?_
      rintro ⟨-, -, -, hsome, hon | hsecret⟩
      · rw [hplain.1] at hon
        cases hon
      · cases hs : m.target.twoFactorSecret with
        | none => exact hsome hs
        | some secret =>
          rw [hs, Option.all_some, decide_eq_true_iff] at hplain
          exact hsecret (hs.trans (congrArg some hplain.2))
    · rename_i hsettled
      rcases touchUser_cases sur m.caller (.ok ())
        (fun a => { a with
          twoFactorEnabled := false
          twoFactorSecret := none }) "Two-factor authentication disabled for user"
        m.target_stored rfl with
        ⟨⟨hmay, -, hcommit⟩, hk, heq⟩ | ⟨hno, e, heq⟩
      · rw [heq]
        have hspared : m.Spared ⟨m.panel.accounts.saveUser _ hk, m.panel.sessions⟩ ↔
            m.target.twoFactorSecret = none := by
          refine (and_iff_left rfl).trans ?_
          rw [Accounts.credentials_saveUser, if_pos rfl, Option.some.injEq]
          simp [Account.credentials, eq_comm]
        rw [hspared]
        constructor
        · rintro hnone ⟨-, -, -, hsome, -⟩
          exact hsome hnone
        · intro h
          by_contra hsome
          refine h ⟨rfl, hmay, hcommit, hsome, ?_⟩
          by_contra hfactor
          rw [not_or, not_not, Bool.not_eq_true] at hfactor
          have hperm : requires m.panel.accounts m.caller "user:update" = .ok () :=
            if_pos hmay
          apply hsettled
          rw [bind_of_ok hperm, bind_of_ok hfind, hfactor.1, hfactor.2]
          rfl
      · rw [heq]
        exact iff_of_true (spared_of_same rfl rfl) fun h => hno ⟨h.2.1, rfl, h.2.2.1⟩
  · refine iff_of_true (spared_of_same ?_ rfl) fun h => hid h.1
    split
    · rfl
    · exact Accounts.credentials_of_find? (find?_touchUser_of_ne (fun _ => rfl) hid)

theorem spared_terminateUserSessions_iff (id : UserId) :
    m.Spared (handlePanel sur m.panel m.caller (.terminateUserSessions id)).1 ↔
      ¬m.Exposed sur (.terminateUserSessions id) := by
  change m.Spared (terminateUserSessions sur m.panel m.caller id).1 ↔
    ¬(id = m.target.id ∧ m.May "user:update" ∧ sur.commits 0 = true ∧ m.Live)
  unfold terminateUserSessions
  rcases endSessions_cases sur m.panel m.caller (do let _ ← findUser m.panel.accounts id) with
    ⟨⟨hmay, -, hcommit⟩, heq⟩ | ⟨hno, heq⟩
  · rw [heq]
    by_cases hid : id = m.target.id
    · subst hid
      have hspared : m.Spared ⟨m.panel.accounts,
          m.panel.sessions.terminateAllUserSessions m.target.id⟩ ↔ ¬m.Live :=
        (and_iff_right credentials_target).trans not_live_iff
      rw [hspared]
      exact not_congr ⟨fun h => ⟨rfl, hmay, hcommit, h⟩, fun h => h.2.2.2⟩
    · exact iff_of_true (spared_of_same rfl (Sessions.ofUser_terminateAll_of_ne hid))
        fun h => hid h.1
  · rw [heq]
    refine iff_of_true (spared_of_same rfl rfl) ?_
    rintro ⟨rfl, hmay, hcommit, -⟩
    refine hno ⟨hmay, ?_, hcommit⟩
    have hfind : findUser m.panel.accounts m.target.id = .ok m.target := by
      simp [findUser, m.target_stored]
    rw [bind_of_ok hfind]
    rfl

theorem spared_terminateSession_iff (id : Nat) :
    m.Spared (handlePanel sur m.panel m.caller (.terminateSession id)).1 ↔
      ¬m.Exposed sur (.terminateSession id) := by
  change m.Spared (terminateSession sur m.panel m.caller id).1 ↔
    ¬(m.May "user:update" ∧ sur.commits 0 = true ∧
      ∃ row ∈ m.panel.sessions.ofUser m.target.id, row.id = id)
  unfold terminateSession
  rcases endSessions_cases sur m.panel m.caller
    (refuseIf (!m.panel.sessions.rows.any fun row => decide (row.id = id)) 404
      "Session not found") with ⟨⟨hmay, -, hcommit⟩, heq⟩ | ⟨hno, heq⟩
  · rw [heq]
    have hspared : m.Spared ⟨m.panel.accounts, m.panel.sessions.deleteSession id⟩ ↔
        ∀ row ∈ m.panel.sessions.ofUser m.target.id, decide (row.id ≠ id) = true :=
      (and_iff_right credentials_target).trans Sessions.ofUser_filter_eq_iff
    rw [hspared]
    constructor
    · rintro hall ⟨-, -, row, hrow, hid⟩
      exact of_decide_eq_true (hall row hrow) hid
    · intro h row hrow
      exact decide_eq_true fun hid => h ⟨hmay, hcommit, row, hrow, hid⟩
  · rw [heq]
    refine iff_of_true (spared_of_same rfl rfl) ?_
    rintro ⟨hmay, hcommit, row, hrow, hid⟩
    refine hno ⟨hmay, refuseIf_of ?_ _ _, hcommit⟩
    rw [Bool.not_eq_false']
    exact List.any_eq_true.mpr ⟨row, (Sessions.mem_ofUser.mp hrow).1, decide_eq_true hid⟩

theorem spared_terminateAllSessions_iff :
    m.Spared (handlePanel sur m.panel m.caller .terminateAllSessions).1 ↔
      ¬m.Exposed sur .terminateAllSessions := by
  change m.Spared (terminateAllSessions sur m.panel m.caller).1 ↔
    ¬(m.May "user:update" ∧ sur.commits 0 = true ∧ m.panel.sessions.ofUser m.target.id ≠ [])
  unfold terminateAllSessions
  rcases endSessions_cases sur m.panel m.caller (.ok ()) with
    ⟨⟨hmay, -, hcommit⟩, heq⟩ | ⟨hno, heq⟩
  · rw [heq]
    have hspared : m.Spared ⟨m.panel.accounts, m.panel.sessions.deleteAllExcept m.caller.id⟩ ↔
        ∀ row ∈ m.panel.sessions.ofUser m.target.id, decide (row.userId = m.caller.id) = true :=
      (and_iff_right credentials_target).trans Sessions.ofUser_filter_eq_iff
    rw [hspared]
    constructor
    · rintro hall ⟨-, -, hrows⟩
      obtain ⟨row, hrow⟩ := List.exists_mem_of_ne_nil _ hrows
      have hcaller := of_decide_eq_true (hall row hrow)
      exact caller_ne_target (hcaller.symm.trans (Sessions.mem_ofUser.mp hrow).2)
    · intro h row hrow
      exact absurd ⟨hmay, hcommit, List.ne_nil_of_mem hrow⟩ h
  · rw [heq]
    exact iff_of_true (spared_of_same rfl rfl) fun h => hno ⟨h.1, rfl, h.2.1⟩

/-- Requests that leave the credentials of stored accounts. -/
theorem spared_of_credentials {accounts : Accounts}
    (h : accounts.credentials m.target.id = m.panel.accounts.credentials m.target.id) :
    m.Spared ⟨accounts, m.panel.sessions⟩ :=
  spared_of_same h rfl

/-- A request of the panel spares the administrator exactly when it is not exposed to it. -/
theorem spared_iff (m : Encounter) (sur : Surroundings) (request : PanelRequest) :
    m.Spared (handlePanel sur m.panel m.caller request).1 ↔ ¬m.Exposed sur request := by
  cases request with
  | account request =>
    cases request with
    | createUser data =>
      exact iff_of_true (spared_of_credentials
        (Accounts.credentials_of_find? (find?_createUser m.target_stored))) id
    | updateUser id data => exact spared_updateUser_iff id data
    | deleteUser id => exact spared_deleteUser_iff id
    | resetUserPassword id password => exact spared_resetUserPassword_iff id password
    | unlockUser id =>
      exact iff_of_true
        (spared_of_credentials (credentials_touchUser_of_same fun _ => ⟨rfl, rfl⟩)) not_false
    | adminDisableTwoFactor id => exact spared_adminDisableTwoFactor_iff id
    | createRole data =>
      exact iff_of_true (spared_of_credentials (credentials_congr (users_createRole data))) id
    | updateRole id data =>
      exact iff_of_true (spared_of_credentials (credentials_congr (users_updateRole id data)))
        not_false
    | deleteRole id =>
      exact iff_of_true (spared_of_credentials (credentials_congr (users_deleteRole id))) not_false
  | terminateUserSessions id => exact spared_terminateUserSessions_iff id
  | terminateSession id => exact spared_terminateSession_iff id
  | terminateAllSessions => exact spared_terminateAllSessions_iff

/-! ### A new password for the chief -/

/-- A clerk whose role only allows to update accounts, and the chief, who has the flag. -/
def reception : Encounter where
  panel := {
    accounts := {
      users := (KeyedTable.empty.save ⟨1, "chief", "chief@example.com", "chief's", none, true, true,
          none, 0, none, false, false, none⟩).save
        ⟨2, "clerk", "clerk@example.com", "clerk's", none, true, false, some 2, 0, none, false,
          false, none⟩
      roles := KeyedTable.empty.save
        ⟨2, "clerk", "Clerk", none, KeyedTable.empty.save ("user:update", true), false, true⟩
      nextUserId := 3
      nextRoleId := 3
      user_fresh := by decide
      role_fresh := by decide
      role_exists := by decide }
    sessions := KeyedTable.empty }
  caller := ⟨2, "clerk", "clerk@example.com", "clerk's", none, true, false, some 2, 0, none, false,
    false, none⟩
  target := ⟨1, "chief", "chief@example.com", "chief's", none, true, true, none, 0, none, false,
    false, none⟩
  caller_stored := rfl
  target_stored := rfl
  caller_lesser := rfl
  target_admin := rfl

/-- The clerk gives the chief a password of his own. -/
theorem reception_not_spared :
    ¬∀ request, reception.Spared (handlePanel ⟨0, fun _ => [], id, fun _ => true⟩
      reception.panel reception.caller request).1 := by
  intro h
  have hcols := (h (.account (.resetUserPassword 1 "mine"))).1
  revert hcols
  decide

end Encounter

end PveManager.Users
