import PveManager.Core.Outcome
import PveManager.Users.Accounts

/-!
# The administrator boundary

Which requests make an account an administrator, when their sender is none: the
creation of an account with the flag or the role, and an update that writes the
role. Every other request leaves the administrators as they are, so a campaign
of such senders stays outside exactly when it contains no such request.
-/

namespace PveManager.Users

open PveManager.Core PveManager.Rbac PveManager.Api

/-- The creation is carried out and gives the flag or the role. -/
structure GrantedByCreate (sur : Surroundings) (st : Accounts) (caller : Account)
    (data : UserCreate) : Prop where
  permission : hasPermission (st.userOf caller) "user:create" = true
  username : ∀ a ∈ st.users.rows, a.username ≠ data.username
  email : ∀ a ∈ st.users.rows, a.email ≠ data.email
  password : sur.passwordErrors data.password = []
  role : ∀ r, data.roleId = some r → (st.roles.find? r).isSome = true
  commit : sur.commits 0 = true
  grants : data.isAdmin = true ∨ data.roleId.any st.isAdminRole = true

/-- The update of an account without the flag is committed and gives the role. -/
structure GrantedByUpdate (sur : Surroundings) (st : Accounts) (caller : Account) (id : UserId)
    (data : UserUpdate) : Prop where
  permission : hasPermission (st.userOf caller) "user:update" = true
  target : ∃ a, st.users.find? id = some a ∧ a.isAdmin = false
  email : ∀ email, data.email = some email → ∀ b ∈ st.users.rows, b.email = email → b.id = id
  password : ∀ password, data.password = some password → sur.passwordErrors password = []
  grants : data.roleId.any st.isAdminRole = true
  notSelf : data.isActive = some false → id ≠ caller.id
  /-- A mention of the flag is refused, but only after a deactivation is committed. -/
  flag : data.isActive ≠ some false → data.isAdmin = none
  commit : sur.commits 0 = true

/-- The request makes this account an administrator. -/
def Promotes (st : Accounts) (e : AccountEvent) (id : UserId) : Prop :=
  ∃ caller, currentUser st e = some caller ∧
    match e.request with
    | .createUser data => id = st.nextUserId ∧ GrantedByCreate e.sur st caller data
    | .updateUser id' data => id = id' ∧ GrantedByUpdate e.sur st caller id data
    | _ => False

/-! ### Writes and administrators -/

section Writes

variable {st : Accounts} {a : Account} {id : UserId}

theorem Accounts.administrator_saveUser (h : st.roleKnown a = true) :
    (st.saveUser a h).Administrator id ↔
      if id = a.id then st.administers a = true else st.Administrator id := by
  unfold Accounts.Administrator
  change (∃ b, (st.users.save a).find? id = some b ∧ st.administers b = true) ↔ _
  rw [KeyedTable.find?_save]
  by_cases hid : a.id = id
  · rw [if_pos hid, if_pos hid.symm]
    constructor
    · rintro ⟨b, hb, hadm⟩
      cases hb
      exact hadm
    · intro hadm
      exact ⟨a, rfl, hadm⟩
  · rw [if_neg hid, if_neg (Ne.symm hid)]

theorem Accounts.administrator_eraseUser {id' : UserId}
    (h : (st.eraseUser id').Administrator id) : st.Administrator id := by
  obtain ⟨b, hb, hadm⟩ := h
  have hfind : (st.users.erase id').find? id = some b := hb
  rw [KeyedTable.find?_erase] at hfind
  split at hfind
  · cases hfind
  · exact ⟨b, hfind, hadm⟩

/-- Roles of the same names for the accounts there are leave the administrators as they are. -/
theorem Accounts.administrator_congr {st' : Accounts} (husers : st'.users = st.users)
    (hroles : ∀ b ∈ st.users.rows, ∀ r, b.roleId = some r → st'.isAdminRole r = st.isAdminRole r) :
    st'.Administrator id ↔ st.Administrator id := by
  have hadm : ∀ b ∈ st.users.rows, st'.administers b = st.administers b := by
    intro b hb
    unfold Accounts.administers
    cases hr : b.roleId with
    | none => rfl
    | some r => rw [Option.any_some, Option.any_some, hroles b hb r hr]
  unfold Accounts.Administrator
  rw [husers]
  constructor
  · rintro ⟨b, hb, h⟩
    exact ⟨b, hb, hadm b (st.users.mem_of_find? hb) ▸ h⟩
  · rintro ⟨b, hb, h⟩
    exact ⟨b, hb, (hadm b (st.users.mem_of_find? hb)).symm ▸ h⟩

theorem Accounts.writeUser_ok {commit : Bool} {st' : Accounts}
    (h : st.writeUser a commit = .ok st') :
    commit = true ∧ ∃ hr : st.roleKnown a = true, st' = st.saveUser a hr := by
  unfold Accounts.writeUser at h
  split at h
  · rename_i hr
    split at h
    · rename_i hc
      exact ⟨hc, hr, (Except.ok.inj h).symm⟩
    · cases h
  · cases h

theorem Accounts.writeUser_of {commit : Bool} (hr : st.roleKnown a = true) (hc : commit = true) :
    st.writeUser a commit = .ok (st.saveUser a hr) := by
  simp [Accounts.writeUser, hr, hc]

theorem refuseIf_ok {b : Bool} {status : Nat} {detail : String} {u : Unit}
    (h : refuseIf b status detail = .ok u) : b = false := by
  cases b with
  | false => rfl
  | true => cases h

theorem refuseIf_of {b : Bool} (hb : b = false) (status : Nat) (detail : String) :
    refuseIf b status detail = .ok () := by
  rw [hb]
  rfl

theorem requires_ok {caller : Account} {permission : String} {u : Unit}
    (h : requires st caller permission = .ok u) :
    hasPermission (st.userOf caller) permission = true := by
  unfold requires at h
  split at h
  · rename_i hp
    exact hp
  · cases h

theorem findUser_ok (h : findUser st id = .ok a) : st.users.find? id = some a := by
  unfold findUser at h
  cases hf : st.users.find? id with
  | none => simp [hf] at h
  | some b =>
    rw [hf] at h
    exact congrArg some (Except.ok.inj h)

end Writes

/-! ### The requests -/

section Requests

variable {sur : Surroundings} {st : Accounts} {caller : Account} {id id' : UserId}

/-- The identifiers of stored accounts are below the next one. -/
theorem Accounts.find?_nextUserId (st : Accounts) : st.users.find? st.nextUserId = none := by
  rw [KeyedTable.find?_eq_none_iff]
  intro a ha he
  have hlt := st.user_fresh a ha
  rw [he] at hlt
  exact absurd hlt (Nat.lt_irrefl _)

theorem createdAccount_ok {data : UserCreate} {a : Account}
    (h : createdAccount sur st caller data = .ok a) :
    hasPermission (st.userOf caller) "user:create" = true ∧
      (∀ b ∈ st.users.rows, b.username ≠ data.username) ∧
      (∀ b ∈ st.users.rows, b.email ≠ data.email) ∧ sur.passwordErrors data.password = [] ∧
      a.id = st.nextUserId ∧ a.isAdmin = data.isAdmin ∧ a.roleId = data.roleId := by
  unfold createdAccount at h
  obtain ⟨_, hperm, h⟩ := bind_ok h
  obtain ⟨_, huser, h⟩ := bind_ok h
  obtain ⟨_, hemail, h⟩ := bind_ok h
  obtain ⟨_, hpw, h⟩ := bind_ok h
  obtain ⟨_, hrole, h⟩ := bind_ok h
  cases h
  have hpw' := refuseIf_ok hpw
  have huser' := refuseIf_ok huser
  have hemail' := refuseIf_ok hemail
  rw [List.any_eq_false] at huser' hemail'
  refine ⟨requires_ok hperm, fun b hb => ?_, fun b hb => ?_, ?_, rfl, rfl, rfl⟩
  · simpa using huser' b hb
  · simpa using hemail' b hb
  · simpa using hpw'

/-- The new account is the only one whose status a creation can change. -/
theorem administrator_createUser (data : UserCreate) :
    (createUser sur st caller data).1.Administrator id ↔
      st.Administrator id ∨ id = st.nextUserId ∧ GrantedByCreate sur st caller data := by
  have hnone : ¬st.Administrator st.nextUserId := by
    rintro ⟨a, ha, -⟩
    rw [st.find?_nextUserId] at ha
    cases ha
  unfold createUser
  cases hc : createdAccount sur st caller data with
  | error e =>
    refine ⟨Or.inl, fun h => h.elim (fun h => h) fun ⟨_, hg⟩ => ?_⟩
    -- a granted creation is not refused
    unfold createdAccount requires checkPassword refuseIf at hc
    have huser : (st.users.rows.any fun a => decide (a.username = data.username)) = false := by
      rw [List.any_eq_false]
      intro b hb
      simpa using hg.username b hb
    have hemail : (st.users.rows.any fun a => decide (a.email = data.email)) = false := by
      rw [List.any_eq_false]
      intro b hb
      simpa using hg.email b hb
    have hrole : (data.roleId.any fun r => decide (r ≠ 0) && (st.roles.find? r).isNone) = false := by
      cases hr : data.roleId with
      | none => rfl
      | some r =>
        have hsome := hg.role r hr
        rw [Option.any_some, Option.isNone_eq_false_iff.mpr hsome, Bool.and_false]
    rw [if_pos hg.permission, huser, hemail, hg.password, hrole] at hc
    cases hc
  | ok a =>
    obtain ⟨hperm, huser, hemail, hpw, hid, hadm, hrole⟩ := createdAccount_ok hc
    dsimp only
    cases hw : st.writeUser a (sur.commits 0) with
    | error e =>
      refine ⟨Or.inl, fun h => h.elim (fun h => h) fun ⟨_, hg⟩ => ?_⟩
      have hknown : st.roleKnown a = true := by
        unfold Accounts.roleKnown
        rw [hrole]
        cases hr : data.roleId with
        | none => rfl
        | some r => exact hg.role r hr
      rw [Accounts.writeUser_of hknown hg.commit] at hw
      cases hw
    | ok st' =>
      obtain ⟨hcommit, hknown, rfl⟩ := Accounts.writeUser_ok hw
      have hadmin : st.administers a = true ↔
          data.isAdmin = true ∨ data.roleId.any st.isAdminRole = true := by
        unfold Accounts.administers
        rw [hadm, hrole, Bool.or_eq_true]
      dsimp only
      rw [Accounts.administrator_saveUser, hid]
      by_cases he : id = st.nextUserId
      · rw [if_pos he, hadmin]
        constructor
        · intro hgr
          refine Or.inr ⟨he, hperm, huser, hemail, hpw, fun r hr => ?_, hcommit, hgr⟩
          unfold Accounts.roleKnown at hknown
          rw [hrole, hr] at hknown
          exact hknown
        · rintro (h | ⟨-, hg⟩)
          · exact absurd (he ▸ h) hnone
          · exact hg.grants
      · rw [if_neg he]
        exact ⟨Or.inl, fun h => h.elim (fun h => h) fun h => absurd h.1 he⟩

/-- The update of this account passes the checks. -/
structure Editable (sur : Surroundings) (st : Accounts) (caller b : Account) (data : UserUpdate) :
    Prop where
  permission : hasPermission (st.userOf caller) "user:update" = true
  admin : (b.isAdmin && !caller.isAdmin) = false
  email : ∀ email, data.email = some email → ∀ c ∈ st.users.rows, c.email = email → c.id = b.id
  password : ∀ password, data.password = some password → sur.passwordErrors password = []
  role : ∀ r, data.roleId = some r → (st.roles.find? r).isSome = true
  notSelf : data.isActive = some false → b.id ≠ caller.id

/-- The account with the fields of the update. -/
def edited (sur : Surroundings) (b : Account) (data : UserUpdate) : Account :=
  { b with
    email := data.email.getD b.email
    fullName := data.fullName.or b.fullName
    hashedPassword := (data.password.map sur.hash).getD b.hashedPassword
    roleId := data.roleId.or b.roleId
    isActive := data.isActive.getD b.isActive }

/-- The checks before the first commit, read off the request. -/
theorem updatedAccount_eq_ok_iff {data : UserUpdate} {a : Account} :
    updatedAccount sur st caller id data = .ok a ↔
      ∃ b, st.users.find? id = some b ∧ Editable sur st caller b data ∧ a = edited sur b data := by
  constructor
  · intro h
    unfold updatedAccount at h
    obtain ⟨_, hperm, h⟩ := bind_ok h
    obtain ⟨b, hfind, h⟩ := bind_ok h
    obtain ⟨_, hadmin, h⟩ := bind_ok h
    obtain ⟨_, hemail, h⟩ := bind_ok h
    obtain ⟨_, hpw, h⟩ := bind_ok h
    obtain ⟨_, hrole, h⟩ := bind_ok h
    obtain ⟨_, hself, h⟩ := bind_ok h
    cases h
    have hemail' := refuseIf_ok hemail
    have hrole' := refuseIf_ok hrole
    have hself' := refuseIf_ok hself
    have hfind' := findUser_ok hfind
    have hid : b.id = id := st.users.key_of_find? hfind'
    refine ⟨b, hfind', ⟨requires_ok hperm, refuseIf_ok hadmin, ?_, ?_, ?_, ?_⟩, rfl⟩
    · intro email he c hc hce
      rw [he, Option.any_some, List.any_eq_false] at hemail'
      have hne := hemail' c hc
      by_contra hcid
      exact hne (decide_eq_true ⟨hce, hid ▸ hcid⟩)
    · intro password hp
      rw [hp] at hpw
      simpa [checkNewPassword, checkPassword, refuseIf] using hpw
    · intro r hr
      rw [hr, Option.any_some] at hrole'
      simpa using hrole'
    · intro hd hself
      have hid' : id = caller.id := hid.symm.trans hself
      simp [hd, hid'] at hself'
  · rintro ⟨b, hb, he, rfl⟩
    have hid : b.id = id := st.users.key_of_find? hb
    have hemail : (data.email.any fun email =>
        st.users.rows.any fun c => decide (c.email = email ∧ c.id ≠ id)) = false := by
      cases hd : data.email with
      | none => rfl
      | some email =>
        rw [Option.any_some, List.any_eq_false]
        intro c hc hce
        obtain ⟨hce, hne⟩ := of_decide_eq_true hce
        exact hne ((he.email email hd c hc hce).trans hid)
    have hpw : checkNewPassword sur data.password = .ok () := by
      cases hp : data.password with
      | none => rfl
      | some password => simp [checkNewPassword, checkPassword, refuseIf, he.password password hp]
    have hr : (data.roleId.any fun r => (st.roles.find? r).isNone) = false := by
      cases hr : data.roleId with
      | none => rfl
      | some r =>
        rw [Option.any_some, Option.isNone_eq_false_iff]
        exact he.role r hr
    have hself : decide (id = caller.id ∧ data.isActive = some false) = false :=
      decide_eq_false fun h => he.notSelf h.2 (hid.trans h.1)
    have hfind : findUser st id = .ok b := by simp [findUser, hb]
    have hperm : requires st caller "user:update" = .ok () := by simp [requires, he.permission]
    unfold updatedAccount
    rw [bind_of_ok hperm, bind_of_ok hfind, bind_of_ok (refuseIf_of he.admin _ _),
      bind_of_ok (refuseIf_of hemail _ _), bind_of_ok hpw, bind_of_ok (refuseIf_of hr _ _),
      bind_of_ok (refuseIf_of hself _ _)]
    rfl

theorem updatedAccount_ok {data : UserUpdate} {a : Account}
    (h : updatedAccount sur st caller id data = .ok a) :
    hasPermission (st.userOf caller) "user:update" = true ∧
      (∃ b, st.users.find? id = some b ∧ (b.isAdmin && !caller.isAdmin) = false ∧
        a.isAdmin = b.isAdmin ∧ a.roleId = data.roleId.or b.roleId) ∧
      (∀ email, data.email = some email → ∀ b ∈ st.users.rows, b.email = email → b.id = id) ∧
      (∀ password, data.password = some password → sur.passwordErrors password = []) ∧
      (∀ r, data.roleId = some r → (st.roles.find? r).isSome = true) ∧
      (data.isActive = some false → id ≠ caller.id) ∧ a.id = id := by
  obtain ⟨b, hb, he, rfl⟩ := updatedAccount_eq_ok_iff.mp h
  have hid : b.id = id := st.users.key_of_find? hb
  subst hid
  exact ⟨he.permission, ⟨b, hb, he.admin, rfl, rfl⟩, he.email, he.password, he.role, he.notSelf, rfl⟩

/-- A granted update is not refused before its commit. -/
theorem updatedAccount_of_granted {data : UserUpdate}
    (hg : GrantedByUpdate sur st caller id data) (hrole : ∀ r, data.roleId = some r →
      (st.roles.find? r).isSome = true) :
    ∃ a, updatedAccount sur st caller id data = .ok a := by
  obtain ⟨b, hb, hflag⟩ := hg.target
  have hid : b.id = id := st.users.key_of_find? hb
  subst hid
  have hadmin : (b.isAdmin && !caller.isAdmin) = false := by rw [hflag, Bool.false_and]
  exact ⟨_, updatedAccount_eq_ok_iff.mpr
    ⟨b, hb, ⟨hg.permission, hadmin, hg.email, hg.password, hrole, hg.notSelf⟩, rfl⟩⟩

/-- The end of an update by a caller without the flag changes the status of the target at most
by what is already in the row. -/
theorem administrator_finishUpdate (hc : caller.isAdmin = false) {a : Account} {data : UserUpdate}
    {commit : Bool} : (finishUpdate st caller a data commit).1.Administrator id' ↔
      if id' = a.id ∧ data.isAdmin = none ∧ commit = true ∧ st.roleKnown a = true then
        st.administers a = true
      else st.Administrator id' := by
  unfold finishUpdate
  cases hd : data.isAdmin with
  | some flag =>
    rw [if_neg (by simp), hc]
    exact Iff.rfl
  | none =>
    have hrow : ∀ b : Account, b = { a with
        requirePasswordChange := data.requirePasswordChange.getD a.requirePasswordChange
        isAdmin := a.isAdmin } → (st.roleKnown b = st.roleKnown a) ∧
          st.administers b = st.administers a ∧ b.id = a.id := by
      rintro b rfl
      exact ⟨rfl, rfl, rfl⟩
    have hchecked : (do
        refuseIf ((none : Option Bool).isSome && !caller.isAdmin) 403
          "Only admin can change admin status"
        refuseIf (decide (a.id = caller.id ∧ (none : Option Bool) = some false)) 400
          "Cannot remove your own admin status"
        .ok { a with
          requirePasswordChange := data.requirePasswordChange.getD a.requirePasswordChange
          isAdmin := (none : Option Bool).getD a.isAdmin } : Except Exc Account) =
        .ok { a with
          requirePasswordChange := data.requirePasswordChange.getD a.requirePasswordChange
          isAdmin := a.isAdmin } := by
      simp [refuseIf]
      rfl
    dsimp only
    rw [hchecked]
    obtain ⟨hknown, hadm, hid⟩ := hrow _ rfl
    generalize hb : ({ a with
        requirePasswordChange := data.requirePasswordChange.getD a.requirePasswordChange
        isAdmin := a.isAdmin } : Account) = b at hknown hadm hid
    dsimp only
    cases hw : st.writeUser b commit with
    | error e =>
      rw [if_neg]
      rintro ⟨-, -, hcommit, hk⟩
      rw [Accounts.writeUser_of (hknown.trans hk) hcommit] at hw
      cases hw
    | ok st' =>
      obtain ⟨hcommit, hk, rfl⟩ := Accounts.writeUser_ok hw
      dsimp only
      rw [Accounts.administrator_saveUser, hid, hadm]
      by_cases he : id' = a.id
      · rw [if_pos he, if_pos ⟨he, rfl, hcommit, hknown.symm.trans hk⟩]
      · rw [if_neg he, if_neg fun h => he h.1]

/-- A row that is not known to the foreign key cannot come out of an accepted update. -/
private theorem roleKnown_updated {data : UserUpdate} {a b : Account} (hb : b ∈ st.users.rows)
    (hrole : a.roleId = data.roleId.or b.roleId)
    (hknown : ∀ r, data.roleId = some r → (st.roles.find? r).isSome = true) :
    st.roleKnown a = true := by
  unfold Accounts.roleKnown
  rw [hrole]
  cases hd : data.roleId with
  | some r => exact hknown r hd
  | none =>
    cases hr : b.roleId with
    | none => rfl
    | some r => exact st.role_exists b hb r hr

/-- After an accepted update the target is an administrator by the role in its row. -/
private theorem administers_updated {data : UserUpdate} {a b : Account}
    (hflag : b.isAdmin = false) (hadm : a.isAdmin = b.isAdmin)
    (hrole : a.roleId = data.roleId.or b.roleId) :
    st.administers a = true ↔ data.roleId.any st.isAdminRole = true ∨
      data.roleId = none ∧ st.administers b = true := by
  unfold Accounts.administers
  rw [hadm, hflag, hrole]
  cases data.roleId with
  | none => simp
  | some r => simp

/-- An update makes at most its target an administrator, and only by the role. -/
theorem administrator_updateUser (hc : caller.isAdmin = false) {data : UserUpdate}
    (h : (updateUser sur st caller id data).1.Administrator id') :
    st.Administrator id' ∨ id' = id ∧ GrantedByUpdate sur st caller id data := by
  unfold updateUser at h
  cases hu : updatedAccount sur st caller id data with
  | error e =>
    rw [hu] at h
    exact Or.inl h
  | ok a =>
    obtain ⟨hperm, ⟨b, hfind, hflag, hadm, hrole⟩, hemail, hpw, hknown, hself, hid⟩ :=
      updatedAccount_ok hu
    rw [hc, Bool.not_false, Bool.and_true] at hflag
    rw [hu] at h
    dsimp only at h
    have hgrant : ∀ hcommit : sur.commits 0 = true, st.administers a = true →
        (data.isActive ≠ some false → data.isAdmin = none) → id' = id →
        st.Administrator id' ∨ id' = id ∧ GrantedByUpdate sur st caller id data := by
      intro hcommit ha hno he
      rcases (administers_updated hflag hadm hrole).mp ha with hr | ⟨-, hb⟩
      · exact Or.inr ⟨he, hperm, ⟨b, hfind, hflag⟩, hemail, hpw, hr, hself, hno, hcommit⟩
      · exact Or.inl ⟨b, he ▸ hfind, hb⟩
    by_cases hd : data.isActive = some false
    · rw [if_pos hd] at h
      cases hw : st.writeUser a (sur.commits 0) with
      | error e =>
        rw [hw] at h
        exact Or.inl h
      | ok st' =>
        rw [hw] at h
        obtain ⟨hcommit, hk, rfl⟩ := Accounts.writeUser_ok hw
        dsimp only at h
        have hfirst : (st.saveUser a hk).Administrator id' →
            st.Administrator id' ∨ id' = id ∧ GrantedByUpdate sur st caller id data := by
          intro hs
          rw [Accounts.administrator_saveUser] at hs
          by_cases he : id' = a.id
          · rw [if_pos he] at hs
            exact hgrant hcommit hs (fun hn => absurd hd hn) (he.trans hid)
          · rw [if_neg he] at hs
            exact Or.inl hs
        rw [administrator_finishUpdate hc] at h
        split at h
        · rename_i hcond
          exact hgrant hcommit h (fun hn => absurd hd hn) (hcond.1.trans hid)
        · exact hfirst h
    · rw [if_neg hd, administrator_finishUpdate hc] at h
      split at h
      · rename_i hcond
        exact hgrant hcond.2.2.1 h (fun _ => hcond.2.1) (hcond.1.trans hid)
      · exact Or.inl h

/-- A granted update does so. -/
theorem administrator_of_granted (hc : caller.isAdmin = false) {data : UserUpdate}
    (hg : GrantedByUpdate sur st caller id data) :
    (updateUser sur st caller id data).1.Administrator id := by
  have hrole : ∀ r, data.roleId = some r → (st.roles.find? r).isSome = true := by
    intro r hr
    have hany := hg.grants
    rw [hr, Option.any_some] at hany
    unfold Accounts.isAdminRole at hany
    cases hf : st.roles.find? r with
    | none => simp [hf] at hany
    | some row => rfl
  obtain ⟨a, hu⟩ := updatedAccount_of_granted hg hrole
  obtain ⟨-, ⟨b, hfind, hflag, hadm, hr⟩, -, -, -, -, hid⟩ := updatedAccount_ok hu
  rw [hc, Bool.not_false, Bool.and_true] at hflag
  have hknown := roleKnown_updated (st.users.mem_of_find? hfind) hr hrole
  have ha : st.administers a = true :=
    (administers_updated hflag hadm hr).mpr (Or.inl hg.grants)
  unfold updateUser
  rw [hu]
  dsimp only
  by_cases hd : data.isActive = some false
  · rw [if_pos hd, Accounts.writeUser_of hknown hg.commit]
    dsimp only
    rw [administrator_finishUpdate hc]
    split
    · exact ha
    · rw [Accounts.administrator_saveUser, if_pos hid.symm]
      exact ha
  · rw [if_neg hd, administrator_finishUpdate hc,
      if_pos ⟨hid.symm, hg.flag hd, hg.commit, hknown⟩]
    exact ha

theorem administrator_deleteUser (h : (deleteUser sur st caller id).1.Administrator id') :
    st.Administrator id' := by
  unfold deleteUser at h
  dsimp only at h
  split at h
  · exact h
  · split at h
    · exact Accounts.administrator_eraseUser h
    · exact h

/-- An endpoint that leaves flag and role alone leaves the administrators as they are. -/
theorem administrator_touchUser {check : Except Exc Unit} {set : Account → Account} {text : String}
    (hset : ∀ a, (set a).id = a.id ∧ (set a).isAdmin = a.isAdmin ∧ (set a).roleId = a.roleId) :
    (touchUser sur st caller id check set text).1.Administrator id' ↔ st.Administrator id' := by
  unfold touchUser
  dsimp only
  split
  · exact Iff.rfl
  · rename_i a hchecked
    obtain ⟨_, -, hchecked⟩ := bind_ok hchecked
    obtain ⟨b, hfind, hchecked⟩ := bind_ok hchecked
    obtain ⟨_, -, hchecked⟩ := bind_ok hchecked
    cases hchecked
    obtain ⟨hid, hadm, hrole⟩ := hset a
    have hfind' := findUser_ok hfind
    have haid : a.id = id := st.users.key_of_find? hfind'
    cases hw : st.writeUser (set a) (sur.commits 0) with
    | error e => exact Iff.rfl
    | ok st' =>
      obtain ⟨-, hk, rfl⟩ := Accounts.writeUser_ok hw
      dsimp only
      have hsame : st.administers (set a) = st.administers a := by
        unfold Accounts.administers
        rw [hadm, hrole]
      rw [Accounts.administrator_saveUser, hid, haid]
      by_cases he : id' = id
      · rw [if_pos he, he, hsame]
        exact ⟨fun h => ⟨a, hfind', h⟩, fun ⟨c, hcf, h⟩ => by
          rw [hfind'] at hcf
          cases hcf
          exact h⟩
      · rw [if_neg he]

theorem administrator_resetUserPassword {newPassword : String} :
    (resetUserPassword sur st caller id newPassword).1.Administrator id' ↔
      st.Administrator id' := by
  unfold resetUserPassword
  exact administrator_touchUser fun _ => ⟨rfl, rfl, rfl⟩

theorem administrator_unlockUser :
    (unlockUser sur st caller id).1.Administrator id' ↔ st.Administrator id' := by
  unfold unlockUser
  exact administrator_touchUser fun _ => ⟨rfl, rfl, rfl⟩

theorem administrator_adminDisableTwoFactor :
    (adminDisableTwoFactor sur st caller id).1.Administrator id' ↔ st.Administrator id' := by
  unfold adminDisableTwoFactor
  dsimp only
  split
  · exact Iff.rfl
  · exact administrator_touchUser fun _ => ⟨rfl, rfl, rfl⟩

theorem administrator_createRole {data : RoleCreate} :
    (createRole sur st caller data).1.Administrator id' ↔ st.Administrator id' := by
  unfold createRole
  dsimp only
  split
  · exact Iff.rfl
  · rename_i r hchecked
    obtain ⟨_, -, hchecked⟩ := bind_ok hchecked
    obtain ⟨_, -, hchecked⟩ := bind_ok hchecked
    cases hchecked
    split
    · refine Accounts.administrator_congr rfl fun b hb r hr => ?_
      have hne : st.nextRoleId ≠ r := by
        intro he
        have hsome := st.role_exists b hb r hr
        obtain ⟨row, hrow⟩ := Option.isSome_iff_exists.mp hsome
        obtain ⟨hmem, hrid⟩ := st.roles.find?_eq_some_iff.mp hrow
        have hlt := st.role_fresh row hmem
        omega
      unfold Accounts.isAdminRole
      change ((st.roles.save _).find? r).any _ = _
      rw [KeyedTable.find?_save, if_neg hne]
    · exact Iff.rfl

theorem administrator_updateRole {roleId : Nat} {data : RoleUpdate} :
    (updateRole sur st caller roleId data).1.Administrator id' ↔ st.Administrator id' := by
  unfold updateRole
  dsimp only
  split
  · exact Iff.rfl
  · rename_i r hchecked
    obtain ⟨_, -, hchecked⟩ := bind_ok hchecked
    cases hf : st.roles.find? roleId with
    | none => simp [hf] at hchecked
    | some row =>
      rw [hf] at hchecked
      cases hchecked
      split
      · refine Accounts.administrator_congr rfl fun b hb r hr => ?_
        have hid : row.id = roleId := st.roles.key_of_find? hf
        unfold Accounts.isAdminRole
        change ((st.roles.save _).find? r).any _ = _
        rw [KeyedTable.find?_save]
        split
        · rename_i he
          rw [← he, hid, hf]
          rfl
        · rfl
      · exact Iff.rfl

theorem administrator_deleteRole {roleId : Nat} :
    (deleteRole sur st caller roleId).1.Administrator id' ↔ st.Administrator id' := by
  unfold deleteRole
  dsimp only
  split
  · exact Iff.rfl
  · split
    · rename_i hcount
      split
      · refine Accounts.administrator_congr rfl fun b hb r hr => ?_
        have hne : r ≠ roleId := by
          intro he
          have hpos : 0 < st.users.rows.countP fun a => decide (a.roleId = some roleId) :=
            List.countP_pos_iff.mpr ⟨b, hb, decide_eq_true (he ▸ hr)⟩
          omega
        unfold Accounts.isAdminRole
        change ((st.roles.erase roleId).find? r).any _ = _
        rw [KeyedTable.find?_erase, if_neg hne]
      · exact Iff.rfl
    · exact Iff.rfl

end Requests

/-! ### Campaigns -/

/-- Requests whose senders are no administrators at the start. -/
structure Campaign where
  start : Accounts
  events : List AccountEvent
  outsiders : ∀ e ∈ events, ¬start.Administrator e.caller

namespace Campaign

variable (c : Campaign)

/-- No account that was no administrator at the start is one. -/
def Bounded (st : Accounts) : Prop := ∀ id, st.Administrator id → c.start.Administrator id

/-- The request promotes nobody but administrators of the start. -/
def Modest (st : Accounts) (e : AccountEvent) : Prop :=
  ∀ id, Promotes st e id → c.start.Administrator id

/-- A step stays inside the boundary exactly when it is modest. -/
theorem bounded_accountStep_iff {st : Accounts} {e : AccountEvent} (he : e ∈ c.events)
    (h : c.Bounded st) : c.Bounded (accountStep st e) ↔ c.Modest st e := by
  unfold accountStep
  cases hcur : currentUser st e with
  | none =>
    refine iff_of_true h ?_
    rintro id ⟨caller, hcaller, -⟩
    rw [hcur] at hcaller
    cases hcaller
  | some caller =>
    dsimp only
    have hfind : st.users.find? e.caller = some caller := by
      unfold currentUser at hcur
      exact (Option.filter_eq_some_iff.mp hcur).1
    have hflag : caller.isAdmin = false := by
      cases hadm : caller.isAdmin with
      | false => rfl
      | true =>
        refine absurd (h e.caller ⟨caller, hfind, ?_⟩) (c.outsiders e he)
        simp [Accounts.administers, hadm]
    have hcaller : ∀ {P : Account → Prop},
        (∃ caller', currentUser st e = some caller' ∧ P caller') ↔ P caller := by
      intro P
      constructor
      · rintro ⟨caller', hc', hp⟩
        rw [hcur] at hc'
        cases hc'
        exact hp
      · exact fun hp => ⟨caller, hcur, hp⟩
    have hquiet : ∀ {st' : Accounts}, (∀ id, st'.Administrator id → st.Administrator id) →
        (∀ id, ¬Promotes st e id) → (c.Bounded st' ↔ c.Modest st e) :=
      fun hle hno => iff_of_true (fun id hid => h id (hle id hid)) fun id hp => absurd hp (hno id)
    have hnone : (∀ caller' id, ¬(match e.request with
        | .createUser data => id = st.nextUserId ∧ GrantedByCreate e.sur st caller' data
        | .updateUser id' data => id = id' ∧ GrantedByUpdate e.sur st caller' id data
        | _ => False)) → ∀ id, ¬Promotes st e id :=
      fun hno id ⟨caller', _, hp⟩ => hno caller' id hp
    cases hr : e.request with
    | createUser data =>
      have hpromotes : ∀ id, Promotes st e id ↔
          id = st.nextUserId ∧ GrantedByCreate e.sur st caller data := by
        intro id
        unfold Promotes
        rw [hr]
        exact hcaller
      constructor
      · intro hb id hp
        exact hb id ((administrator_createUser data).mpr (Or.inr ((hpromotes id).mp hp)))
      · intro hm id hid
        rcases (administrator_createUser data).mp hid with hold | hnew
        · exact h id hold
        · exact hm id ((hpromotes id).mpr hnew)
    | updateUser target data =>
      have hpromotes : ∀ id, Promotes st e id ↔
          id = target ∧ GrantedByUpdate e.sur st caller id data := by
        intro id
        unfold Promotes
        rw [hr]
        exact hcaller
      constructor
      · intro hb id hp
        obtain ⟨rfl, hg⟩ := (hpromotes id).mp hp
        exact hb id (administrator_of_granted hflag hg)
      · intro hm id hid
        rcases administrator_updateUser hflag hid with hold | ⟨rfl, hg⟩
        · exact h id hold
        · exact hm id ((hpromotes id).mpr ⟨rfl, hg⟩)
    | deleteUser target =>
      exact hquiet (fun id hid => administrator_deleteUser hid) (hnone fun _ _ => by simp [hr])
    | resetUserPassword target newPassword =>
      exact hquiet (fun id hid => administrator_resetUserPassword.mp hid)
        (hnone fun _ _ => by simp [hr])
    | unlockUser target =>
      exact hquiet (fun id hid => administrator_unlockUser.mp hid)
        (hnone fun _ _ => by simp [hr])
    | adminDisableTwoFactor target =>
      exact hquiet (fun id hid => administrator_adminDisableTwoFactor.mp hid)
        (hnone fun _ _ => by simp [hr])
    | createRole data =>
      exact hquiet (fun id hid => administrator_createRole.mp hid) (hnone fun _ _ => by simp [hr])
    | updateRole roleId data =>
      exact hquiet (fun id hid => administrator_updateRole.mp hid) (hnone fun _ _ => by simp [hr])
    | deleteRole roleId =>
      exact hquiet (fun id hid => administrator_deleteRole.mp hid) (hnone fun _ _ => by simp [hr])

/-- A campaign stays inside the boundary exactly when all its requests are modest. -/
theorem bounded_iff :
    (∀ st ∈ visited accountStep c.start c.events, c.Bounded st) ↔
      Guarded accountStep c.Modest c.start c.events :=
  forall_visited_iff_guarded (fun _ _ he h => c.bounded_accountStep_iff he h) fun _ h => h

/-! ### A helper account -/

/-- A clerk whose role only allows to create accounts. -/
def clerk : Account := ⟨2, "clerk", "clerk@example.com", "", none, true, false, some 2, 0, none,
  false, false, none⟩

/-- The office of the clerk. -/
def office : Accounts where
  users := ⟨[clerk], by decide⟩
  roles := ⟨[⟨1, "admin", "Admin", none, .empty, true, true⟩,
    ⟨2, "clerk", "Clerk", none, ⟨[("user:create", true)], by decide⟩, false, true⟩], by decide⟩
  nextUserId := 3
  nextRoleId := 3
  user_fresh := by decide
  role_fresh := by decide
  role_exists := by decide

/-- The clerk asks for an account with the flag. -/
def helper : AccountEvent where
  caller := 2
  request := .createUser ⟨"helper", "helper@example.com", "Secret123!", none, none, true, true⟩
  sur := ⟨0, fun _ => [], fun _ => "", fun _ => true⟩

/-- The campaign of one request. -/
def promotion : Campaign where
  start := office
  events := [helper]
  outsiders := by
    intro e he
    rw [List.mem_singleton.mp he]
    rintro ⟨a, ha, hadm⟩
    cases ha
    revert hadm
    decide

/-- The account that the clerk creates is an administrator. -/
theorem promotion_not_bounded :
    ¬∀ st ∈ visited accountStep promotion.start promotion.events, promotion.Bounded st := by
  intro h
  have hany : ((promotion.events.foldl accountStep promotion.start).users.find? 3).any
      (promotion.events.foldl accountStep promotion.start).administers = true := by decide
  have hnew : (promotion.events.foldl accountStep promotion.start).Administrator 3 := by
    cases hf : (promotion.events.foldl accountStep promotion.start).users.find? 3 with
    | none => simp [hf] at hany
    | some a => exact ⟨a, hf, by simpa [hf] using hany⟩
  obtain ⟨a, ha, -⟩ := h _ (foldl_mem_visited _ _ _) 3 hnew
  cases ha

end Campaign

end PveManager.Users
