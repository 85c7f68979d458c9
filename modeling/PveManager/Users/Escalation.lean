import Mathlib.Data.List.TakeWhile
import PveManager.Users.AdminBoundary

/-!
# Granting what one does not have

The role endpoints store the permissions of a request as they are. The permission
engine has a validator for what a caller may hand on, which no endpoint calls. So
a caller keeps the roles he writes within his own permissions exactly when none of
his requests stores more.
-/

namespace PveManager.Users

open PveManager.Core PveManager.Rbac PveManager.Api

/-! ### Effective permissions -/

/-- The code is effective under a permission map. -/
def grants (perms : PermissionMap) (code : String) : Bool :=
  perms.enabled code || perms.enabled (resourceOf code ++ ":*") ||
    (perms.enabled (resourceOf code ++ ":manage") &&
      (actionOf code).any fun action => decide (action ∈ impliedActions))

/-- A user without the flag has what the role grants. -/
theorem hasPermission_eq_grants {user : User} (h : user.isAdmin = false) (code : String) :
    hasPermission user code = grants user.permissions code := by
  unfold hasPermission grants
  rw [h, Bool.false_or]

/-- Everything effective under the one map is effective under the other. -/
def Within (perms bound : PermissionMap) : Prop :=
  ∀ code, grants perms code = true → grants bound code = true

/-- `can_assign_permission`. -/
def canAssignPermission (assigner : User) (permission : String) : Bool :=
  if ¬hasPermission assigner "role:manage" then false
  else if ¬assigner.isAdmin ∧ ¬hasPermission assigner permission then false
  else true

/-- `validate_role_permissions`: what is valid, and the codes that are denied. -/
def validateRolePermissions (assigner : User) (permissions : PermissionMap) :
    List (String × Bool) × List String :=
  permissions.rows.foldl (fun acc p =>
    if p.2 then
      if canAssignPermission assigner p.1 then (acc.1 ++ [(p.1, true)], acc.2)
      else (acc.1, acc.2 ++ [p.1])
    else (acc.1 ++ [(p.1, false)], acc.2)) ([], [])

section Validator

variable {assigner : User}

private theorem noColon_of_mem {chars : List Char} :
    ∀ c ∈ chars.takeWhile (fun c => decide (c ≠ ':')), decide (c ≠ ':') = true :=
  fun _ hc => List.mem_takeWhile_imp (p := fun c => decide (c ≠ ':')) hc

/-- A code of the resource of a code has the same resource. -/
theorem resourceOf_append {code suffix : String} {rest : List Char}
    (hs : suffix.toList = ':' :: rest) : resourceOf (resourceOf code ++ suffix) = resourceOf code := by
  unfold resourceOf
  rw [String.toList_append, String.toList_ofList, hs, List.takeWhile_append_of_pos noColon_of_mem]
  simp

/-- The action of a code written with its resource. -/
theorem actionOf_append {code suffix : String} {rest : List Char}
    (hs : suffix.toList = ':' :: rest) :
    actionOf (resourceOf code ++ suffix) = some (String.ofList (rest.takeWhile (· ≠ ':'))) := by
  unfold actionOf resourceOf
  rw [String.toList_append, String.toList_ofList, hs,
    List.dropWhile_append_of_pos noColon_of_mem]
  simp

private theorem denied_foldl (l : List (String × Bool)) (acc : List (String × Bool) × List String) :
    (l.foldl (fun acc p =>
      if p.2 then
        if canAssignPermission assigner p.1 then (acc.1 ++ [(p.1, true)], acc.2)
        else (acc.1, acc.2 ++ [p.1])
      else (acc.1 ++ [(p.1, false)], acc.2)) acc).2 =
      acc.2 ++ (l.filter fun p => p.2 && !canAssignPermission assigner p.1).map Prod.fst := by
  induction l generalizing acc with
  | nil => simp
  | cons p rest ih =>
    rw [List.foldl_cons, ih]
    cases hp : p.2 with
    | false => simp [hp]
    | true => cases ha : canAssignPermission assigner p.1 <;> simp [hp, ha]

/-- An assignable code is effective for the assigner. -/
theorem grants_of_canAssign (hadmin : assigner.isAdmin = false) {code : String}
    (h : canAssignPermission assigner code = true) : grants assigner.permissions code = true := by
  rw [← hasPermission_eq_grants hadmin]
  unfold canAssignPermission at h
  split at h
  · cases h
  · split at h
    · cases h
    · rename_i hgrant
      simpa [hadmin] using hgrant

/-- What the validator denies nothing of stays within the permissions of the assigner. -/
theorem within_of_validated {permissions : PermissionMap} (hadmin : assigner.isAdmin = false)
    (h : (validateRolePermissions assigner permissions).2 = []) :
    Within permissions assigner.permissions := by
  have hassign : ∀ code, permissions.enabled code = true →
      grants assigner.permissions code = true := by
    intro code hcode
    unfold PermissionMap.enabled at hcode
    cases hf : permissions.find? code with
    | none => simp [hf] at hcode
    | some p =>
      have htrue : p.2 = true := by simpa [hf] using hcode
      obtain ⟨hmem, hkey⟩ := permissions.find?_eq_some_iff.mp hf
      unfold validateRolePermissions at h
      rw [denied_foldl, List.nil_append, List.map_eq_nil_iff, List.filter_eq_nil_iff] at h
      have hassign := h p hmem
      rw [htrue, Bool.true_and, Bool.not_eq_true, Bool.not_eq_false', hkey] at hassign
      exact grants_of_canAssign hadmin hassign
  intro code hcode
  have hall : ∀ suffix rest, suffix.toList = ':' :: rest →
      permissions.enabled (resourceOf code ++ suffix) = true →
      assigner.permissions.enabled (resourceOf code ++ suffix) = true ∨
        assigner.permissions.enabled (resourceOf code ++ ":*") = true ∨
        (assigner.permissions.enabled (resourceOf code ++ ":manage") = true ∧
          (decide (String.ofList (rest.takeWhile (· ≠ ':')) ∈ impliedActions)) = true) := by
    intro suffix rest hs henabled
    have hg := hassign _ henabled
    unfold grants at hg
    rw [resourceOf_append hs, actionOf_append hs, Option.any_some, Bool.or_eq_true,
      Bool.or_eq_true, Bool.and_eq_true, or_assoc] at hg
    exact hg
  unfold grants at hcode
  rw [Bool.or_eq_true, Bool.or_eq_true, Bool.and_eq_true] at hcode
  rcases hcode with (hcode | hstar) | ⟨hmanage, haction⟩
  · exact hassign code hcode
  · have hstar' : assigner.permissions.enabled (resourceOf code ++ ":*") = true := by
      rcases hall ":*" ['*'] rfl hstar with h | h | ⟨-, h⟩
      · exact h
      · exact h
      · exact absurd h (by decide)
    simp [grants, hstar']
  · rcases hall ":manage" "manage".toList rfl hmanage with h | h | ⟨h, -⟩
    · simp [grants, h, haction]
    · simp [grants, h]
    · simp [grants, h, haction]

/-- What the validator accepts gives a user who holds it no permission that the assigner does not
have. -/
theorem hasPermission_of_validated (assigner : User) (permissions : PermissionMap)
    (h : (validateRolePermissions assigner permissions).2 = []) (holder : User)
    (hplain : holder.isAdmin = false) (hrole : holder.permissions = permissions) (code : String)
    (hcode : hasPermission holder code = true) : hasPermission assigner code = true := by
  cases hadmin : assigner.isAdmin with
  | true => exact hasPermission_of_isAdmin hadmin code
  | false =>
    rw [hasPermission_eq_grants hadmin]
    apply within_of_validated hadmin h
    rwa [← hrole, ← hasPermission_eq_grants hplain]

/-- The permissions of a keeper who manages roles and all machines. -/
def machineKeeper : PermissionMap :=
  (KeyedTable.empty.save ("role:manage", true)).save ("vm:*", true)

/-- Managing machines is within a wildcard for machines. -/
theorem hasPermission_of_validated_manage :
    hasPermission ⟨2, "keeper", false, some ⟨"keeper", machineKeeper⟩, []⟩ "vm:start" = true :=
  hasPermission_of_validated _ (KeyedTable.empty.save ("vm:manage", true)) (by decide)
    ⟨3, "operator", false, some ⟨"operator", KeyedTable.empty.save ("vm:manage", true)⟩, []⟩ rfl rfl
    "vm:start" (by decide)

end Validator

/-! ### Requests that write a role -/

/-- The request is carried out and leaves a role with these permissions. -/
def StoresRole (sur : Surroundings) (st : Accounts) (caller : Account) :
    AccountRequest → PermissionMap → Prop
  | .createRole data, perms =>
    hasPermission (st.userOf caller) "role:manage" = true ∧
      (∀ r ∈ st.roles.rows, r.name ≠ data.name.toLower) ∧ sur.commits 0 = true ∧
      perms = data.permissions
  | .updateRole id data, perms =>
    hasPermission (st.userOf caller) "role:manage" = true ∧ sur.commits 0 = true ∧
      ∃ r, st.roles.find? id = some r ∧ perms = data.permissions.getD r.permissions
  | _, _ => False

/-- What a request does to the roles: it stores one and answers with it, or it stores none. -/
inductive RoleEffect (sur : Surroundings) (st : Accounts) (caller : Account)
    (request : AccountRequest) (out : Accounts × Except Exc AccountReply) : Prop
  | stored (r : RoleRow) (stores : ∀ perms, StoresRole sur st caller request perms ↔
      perms = r.permissions) (saved : out.1.roles = st.roles.save r) (reply : out.2 = .ok (.role r))
  | quiet (stores : ∀ perms, ¬StoresRole sur st caller request perms)
      (kept : ∀ id r, out.1.roles.find? id = some r → st.roles.find? id = some r)
      (reply : ∀ r, out.2 ≠ .ok (.role r))

section Requests

variable {sur : Surroundings} {st : Accounts} {caller : Account}

theorem requires_of {permission : String} (h : hasPermission (st.userOf caller) permission = true) :
    requires st caller permission = .ok () := by
  simp [requires, h]

theorem requires_of_not {permission : String}
    (h : hasPermission (st.userOf caller) permission = false) :
    requires st caller permission = .error (.http 403 s!"Permission denied: {permission}") := by
  simp [requires, h]

theorem roleEffect_createRole (data : RoleCreate) :
    RoleEffect sur st caller (.createRole data) (createRole sur st caller data) := by
  unfold createRole
  cases hp : hasPermission (st.userOf caller) "role:manage" with
  | false =>
    rw [requires_of_not hp]
    exact .quiet (fun perms h => absurd (hp.symm.trans h.1) Bool.false_ne_true) (fun _ _ h => h)
      fun r h => by cases h
  | true =>
    rw [bind_of_ok (requires_of hp)]
    cases hname : st.roles.rows.any fun r => decide (r.name = data.name.toLower) with
    | true =>
      refine .quiet (fun perms h => ?_) (fun _ _ h => h) fun r h => by cases h
      obtain ⟨r, hr, hrname⟩ := List.any_eq_true.mp hname
      exact h.2.1 r hr (of_decide_eq_true hrname)
    | false =>
      have hfree : ∀ r ∈ st.roles.rows, r.name ≠ data.name.toLower := by
        intro r hr he
        exact List.any_eq_false.mp hname r hr (decide_eq_true he)
      rw [bind_of_ok (refuseIf_of rfl _ _)]
      dsimp only
      cases hc : sur.commits 0 with
      | false =>
        exact .quiet (fun perms h => absurd (hc.symm.trans h.2.2.1) Bool.false_ne_true)
          (fun _ _ h => h) fun r h => by cases h
      | true =>
        refine .stored _ (fun perms => ?_) rfl rfl
        exact ⟨fun h => h.2.2.2, fun h => ⟨hp, hfree, hc, h⟩⟩

theorem roleEffect_updateRole (id : Nat) (data : RoleUpdate) :
    RoleEffect sur st caller (.updateRole id data) (updateRole sur st caller id data) := by
  unfold updateRole
  cases hp : hasPermission (st.userOf caller) "role:manage" with
  | false =>
    rw [requires_of_not hp]
    exact .quiet (fun perms h => absurd (hp.symm.trans h.1) Bool.false_ne_true) (fun _ _ h => h)
      fun r h => by cases h
  | true =>
    rw [bind_of_ok (requires_of hp)]
    cases hf : st.roles.find? id with
    | none =>
      refine .quiet (fun perms h => ?_) (fun _ _ h => h) fun r h => by cases h
      obtain ⟨-, -, r, hr, -⟩ := h
      rw [hf] at hr
      cases hr
    | some r =>
      dsimp only
      cases hc : sur.commits 0 with
      | false =>
        exact .quiet (fun perms h => absurd (hc.symm.trans h.2.1) Bool.false_ne_true)
          (fun _ _ h => h) fun r h => by cases h
      | true =>
        refine .stored _ (fun perms => ?_) rfl rfl
        constructor
        · rintro ⟨-, -, r', hr', rfl⟩
          rw [hf] at hr'
          cases hr'
          rfl
        · exact fun h => ⟨hp, hc, r, hf, h⟩

/-- A request that writes accounts only stores no role. -/
private theorem quiet_of_accounts {request : AccountRequest}
    {out : Accounts × Except Exc AccountReply} (hstores : ∀ perms, ¬StoresRole sur st caller request perms)
    (hroles : out.1.roles = st.roles) (hreply : ∀ r, out.2 ≠ .ok (.role r)) :
    RoleEffect sur st caller request out :=
  .quiet hstores (fun _ _ h => by rwa [hroles] at h) hreply

theorem roles_writeUser {a : Account} {commit : Bool} {st' : Accounts}
    (h : st.writeUser a commit = .ok st') : st'.roles = st.roles := by
  obtain ⟨-, _, rfl⟩ := Accounts.writeUser_ok h
  rfl

theorem createUser_quiet {data : UserCreate} :
    (createUser sur st caller data).1.roles = st.roles ∧
      ∀ r, (createUser sur st caller data).2 ≠ .ok (.role r) := by
  unfold createUser
  split
  · exact ⟨rfl, fun r h => by cases h⟩
  · split
    · exact ⟨rfl, fun r h => by cases h⟩
    · rename_i hw
      exact ⟨roles_writeUser hw, fun r h => by cases h⟩

theorem roleEffect_createUser (data : UserCreate) :
    RoleEffect sur st caller (.createUser data) (createUser sur st caller data) :=
  quiet_of_accounts (fun _ h => h) createUser_quiet.1 createUser_quiet.2

theorem finishUpdate_quiet {a : Account} {data : UserUpdate} {commit : Bool} :
    (finishUpdate st caller a data commit).1.roles = st.roles ∧
      ∀ r, (finishUpdate st caller a data commit).2 ≠ .ok (.role r) := by
  unfold finishUpdate
  dsimp only
  split
  · exact ⟨rfl, fun r h => by cases h⟩
  · split
    · exact ⟨rfl, fun r h => by cases h⟩
    · rename_i hw
      exact ⟨roles_writeUser hw, fun r h => by cases h⟩

theorem updateUser_quiet {id : UserId} {data : UserUpdate} :
    (updateUser sur st caller id data).1.roles = st.roles ∧
      ∀ r, (updateUser sur st caller id data).2 ≠ .ok (.role r) := by
  unfold updateUser
  split
  · exact ⟨rfl, fun r h => by cases h⟩
  · split
    · split
      · exact ⟨rfl, fun r h => by cases h⟩
      · rename_i hw
        exact ⟨finishUpdate_quiet.1.trans (roles_writeUser hw), finishUpdate_quiet.2⟩
    · exact finishUpdate_quiet

theorem roleEffect_updateUser (id : UserId) (data : UserUpdate) :
    RoleEffect sur st caller (.updateUser id data) (updateUser sur st caller id data) :=
  quiet_of_accounts (fun _ h => h) updateUser_quiet.1 updateUser_quiet.2

theorem deleteUser_quiet {id : UserId} :
    (deleteUser sur st caller id).1.roles = st.roles ∧
      ∀ r, (deleteUser sur st caller id).2 ≠ .ok (.role r) := by
  unfold deleteUser
  dsimp only
  split
  · exact ⟨rfl, fun r h => by cases h⟩
  · split
    · exact ⟨rfl, fun r h => by cases h⟩
    · exact ⟨rfl, fun r h => by cases h⟩

theorem roleEffect_deleteUser (id : UserId) :
    RoleEffect sur st caller (.deleteUser id) (deleteUser sur st caller id) :=
  quiet_of_accounts (fun _ h => h) deleteUser_quiet.1 deleteUser_quiet.2

theorem touchUser_quiet {id : UserId} {check : Except Exc Unit} {set : Account → Account}
    {text : String} : (touchUser sur st caller id check set text).1.roles = st.roles ∧
      ∀ r, (touchUser sur st caller id check set text).2 ≠ .ok (.role r) := by
  unfold touchUser
  dsimp only
  split
  · exact ⟨rfl, fun r h => by cases h⟩
  · split
    · exact ⟨rfl, fun r h => by cases h⟩
    · rename_i hw
      exact ⟨roles_writeUser hw, fun r h => by cases h⟩

theorem roleEffect_adminDisableTwoFactor (id : UserId) :
    RoleEffect sur st caller (.adminDisableTwoFactor id)
      (adminDisableTwoFactor sur st caller id) := by
  have hquiet : (adminDisableTwoFactor sur st caller id).1.roles = st.roles ∧
      ∀ r, (adminDisableTwoFactor sur st caller id).2 ≠ .ok (.role r) := by
    unfold adminDisableTwoFactor
    dsimp only
    split
    · exact ⟨rfl, fun r h => by cases h⟩
    · exact touchUser_quiet
  exact quiet_of_accounts (fun _ h => h) hquiet.1 hquiet.2

theorem roleEffect_deleteRole (id : Nat) :
    RoleEffect sur st caller (.deleteRole id) (deleteRole sur st caller id) := by
  refine .quiet (fun _ h => h) (fun roleId r h => ?_) fun r h => ?_
  · unfold deleteRole at h
    dsimp only at h
    split at h
    · exact h
    · split at h
      · split at h
        · have hfind : (st.roles.erase id).find? roleId = some r := h
          rw [KeyedTable.find?_erase] at hfind
          split at hfind
          · cases hfind
          · exact hfind
        · exact h
      · exact h
  · unfold deleteRole at h
    dsimp only at h
    split at h
    · cases h
    · split at h
      · split at h <;> cases h
      · cases h

/-- Every request stores one role or none. -/
theorem roleEffect_handle (sur : Surroundings) (st : Accounts) (caller : Account)
    (request : AccountRequest) :
    RoleEffect sur st caller request (handle sur st caller request) := by
  cases request with
  | createUser data => exact roleEffect_createUser data
  | updateUser id data => exact roleEffect_updateUser id data
  | deleteUser id => exact roleEffect_deleteUser id
  | resetUserPassword id newPassword =>
    exact quiet_of_accounts (fun _ h => h) touchUser_quiet.1 touchUser_quiet.2
  | unlockUser id => exact quiet_of_accounts (fun _ h => h) touchUser_quiet.1 touchUser_quiet.2
  | adminDisableTwoFactor id => exact roleEffect_adminDisableTwoFactor id
  | createRole data => exact roleEffect_createRole data
  | updateRole id data => exact roleEffect_updateRole id data
  | deleteRole id => exact roleEffect_deleteRole id

end Requests

/-! ### Delegations -/

/-- The requests of one caller who has no flag. -/
structure Delegation where
  start : Accounts
  caller : Account
  stored : start.users.find? caller.id = some caller
  unflagged : caller.isAdmin = false
  events : List AccountEvent
  own : ∀ e ∈ events, e.caller = caller.id

/-- The tables, and the roles the caller has created or edited. -/
structure DelegationState where
  accounts : Accounts
  written : List Nat

/-- The role a response returns is one the caller has written. -/
def writtenAfter (written : List Nat) : Except Exc AccountReply → List Nat
  | .ok (.role r) => r.id :: written
  | _ => written

def delegationStep (d : DelegationState) (e : AccountEvent) : DelegationState :=
  match currentUser d.accounts e with
  | some caller =>
    let out := handle e.sur d.accounts caller e.request
    ⟨out.1, writtenAfter d.written out.2⟩
  | none => d

namespace Delegation

variable (g : Delegation)

/-- The permissions the caller has at the start. -/
def permissions : PermissionMap := (g.start.userOf g.caller).permissions

/-- The roles written so far stay within the caller's permissions. -/
def Contained (d : DelegationState) : Prop :=
  ∀ id ∈ d.written, ∀ r, d.accounts.roles.find? id = some r → Within r.permissions g.permissions

/-- What the request stores in a role stays within the caller's permissions. -/
def Modest (d : DelegationState) (e : AccountEvent) : Prop :=
  ∀ caller, currentUser d.accounts e = some caller →
    ∀ perms, StoresRole e.sur d.accounts caller e.request perms → Within perms g.permissions

/-- A step keeps the roles contained exactly when it is modest. -/
theorem contained_delegationStep_iff {d : DelegationState} {e : AccountEvent}
    (h : g.Contained d) : g.Contained (delegationStep d e) ↔ g.Modest d e := by
  unfold delegationStep Modest
  cases hcur : currentUser d.accounts e with
  | none =>
    refine iff_of_true h fun caller hcaller => ?_
    cases hcaller
  | some caller =>
    have hmodest : (∀ caller', some caller = some caller' → ∀ perms,
        StoresRole e.sur d.accounts caller' e.request perms → Within perms g.permissions) ↔
          ∀ perms, StoresRole e.sur d.accounts caller e.request perms →
            Within perms g.permissions := by
      constructor
      · exact fun hall => hall caller rfl
      · rintro hall _ ⟨⟩
        exact hall
    rw [hmodest]
    cases roleEffect_handle e.sur d.accounts caller e.request with
    | stored r hstores hsaved hreply =>
      have hone : (∀ perms, StoresRole e.sur d.accounts caller e.request perms →
          Within perms g.permissions) ↔ Within r.permissions g.permissions := by
        constructor
        · exact fun hall => hall _ ((hstores _).mpr rfl)
        · rintro hr perms hperms
          exact (hstores perms).mp hperms ▸ hr
      rw [hone]
      unfold Contained
      dsimp only
      rw [hsaved, hreply]
      constructor
      · intro hall
        refine hall r.id List.mem_cons_self r ?_
        rw [KeyedTable.find?_save, if_pos rfl]
      · intro hr id hid row hrow
        rw [KeyedTable.find?_save] at hrow
        by_cases heq : r.id = id
        · rw [if_pos heq] at hrow
          cases hrow
          exact hr
        · rw [if_neg heq] at hrow
          have hold : id ∈ d.written := by
            rcases List.mem_cons.mp hid with rfl | hid
            · exact absurd rfl heq
            · exact hid
          exact h id hold row hrow
    | quiet hstores hkept hreply =>
      refine iff_of_true ?_ fun perms hperms => absurd hperms (hstores perms)
      intro id hid r hr
      have hwritten : writtenAfter d.written (handle e.sur d.accounts caller e.request).2 =
          d.written := by
        unfold writtenAfter
        split
        · rename_i r' he
          exact absurd he (hreply r')
        · rfl
      dsimp only at hid hr
      rw [hwritten] at hid
      exact h id hid r (hkept id r hr)

/-- In every state of a delegation the written roles are contained exactly when every request is
modest. -/
theorem contained_iff :
    (∀ d ∈ visited delegationStep ⟨g.start, []⟩ g.events, g.Contained d) ↔
      Guarded delegationStep g.Modest ⟨g.start, []⟩ g.events :=
  forall_visited_iff_guarded (fun _ _ _ h => g.contained_delegationStep_iff h)
    fun _ hid => absurd hid List.not_mem_nil

/-! ### A role with more than its author -/

/-- A keeper whose role only allows to manage roles. -/
def keeper : Account := ⟨2, "keeper", "keeper@example.com", "", none, true, false, some 2, 0, none,
  false, false, none⟩

/-- The archive of the keeper. -/
def archive : Accounts where
  users := KeyedTable.empty.save keeper
  roles := KeyedTable.empty.save
    ⟨2, "keeper", "Keeper", none, KeyedTable.empty.save ("role:manage", true), false, true⟩
  nextUserId := 3
  nextRoleId := 3
  user_fresh := by decide
  role_fresh := by decide
  role_exists := by decide

/-- The keeper writes into his own role that it may create accounts. -/
def edition : AccountEvent where
  caller := 2
  request := .updateRole 2 ⟨none, none,
    some ((KeyedTable.empty.save ("role:manage", true)).save ("user:create", true)), none⟩
  sur := ⟨0, fun _ => [], fun _ => "", fun _ => true⟩

def handover : Delegation where
  start := archive
  caller := keeper
  stored := rfl
  unflagged := rfl
  events := [edition]
  own := fun e he => by rw [List.mem_singleton.mp he]; rfl

/-- The keeper's edited role has a permission that the keeper does not have. -/
theorem handover_not_contained :
    ¬∀ d ∈ visited delegationStep ⟨handover.start, []⟩ handover.events, handover.Contained d := by
  intro h
  have hend := h _ (foldl_mem_visited _ _ _)
  have hwritten : 2 ∈ (handover.events.foldl delegationStep ⟨handover.start, []⟩).written := by
    decide
  have hrole : ((handover.events.foldl delegationStep ⟨handover.start, []⟩).accounts.roles.find?
      2).any (fun r => grants r.permissions "user:create") = true := by decide
  cases hf : (handover.events.foldl delegationStep ⟨handover.start, []⟩).accounts.roles.find? 2 with
  | none => simp [hf] at hrole
  | some r =>
    rw [hf, Option.any_some] at hrole
    exact absurd (hend 2 hwritten r hf "user:create" hrole) (by decide)

end Delegation

end PveManager.Users
