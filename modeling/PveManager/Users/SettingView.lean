import PveManager.Users.Escalation
import PveManager.Users.StartUp

/-!
# A permission taken away

Migration 42 takes `setting:view` from roles that do not administer the panel,
once. The default seeding runs at every start-up and fills in the codes that a
built-in role does not have. The permission stays away from a role exactly when
no start-up meets it without an entry in a role that has it by default.
-/

namespace PveManager.Users

open PveManager.Core PveManager.Rbac PveManager.Api

/-- `setting:view`, in one of its spellings, is switched on. -/
def switchesOn (perms : PermissionMap) (code : String) : Bool :=
  perms.rows.any fun item => item.2 && decide (resolvePermission item.1 = code)

theorem switchesOn_iff {perms : PermissionMap} {code : String} :
    switchesOn perms code = true ↔ Granted perms code := by
  unfold switchesOn Granted
  rw [List.any_eq_true]
  constructor
  · rintro ⟨⟨spelling, x⟩, hmem, hon⟩
    rw [Bool.and_eq_true, decide_eq_true_iff] at hon
    obtain rfl : x = true := hon.1
    exact ⟨spelling, hon.2, KeyedTable.get?_eq_some_iff.mpr hmem⟩
  · rintro ⟨spelling, hresolve, hget⟩
    refine ⟨(spelling, true), KeyedTable.get?_eq_some_iff.mp hget, ?_⟩
    rw [Bool.and_eq_true, decide_eq_true_iff]
    exact ⟨rfl, hresolve⟩

/-- An accepted request of the role API gives the role a map that switches `setting:view` on. -/
def grantsSettingView (st : Accounts) (e : AccountEvent) (id : Nat) : Bool :=
  match currentUser st e, e.request with
  | some caller, .updateRole id' data =>
    decide (id' = id) && (handle e.sur st caller e.request).2.isOk &&
      data.permissions.any fun perms => switchesOn perms "setting:view"
  | _, _ => false

/-- What happens to an installation. -/
inductive InstallationEvent
  | startUp
  | request (e : AccountEvent)

/-- An installation, and whether the role API has granted `setting:view` to a role since. -/
structure Watched where
  installation : Installation
  granted : Bool

def watchStep (id : Nat) (s : Watched) : InstallationEvent → Watched
  | .startUp => ⟨startUp s.installation, s.granted⟩
  | .request e =>
    ⟨{ s.installation with accounts := accountStep s.installation.accounts e },
      s.granted || grantsSettingView s.installation.accounts e id⟩

/-- The role holds `setting:view`. -/
def Watched.Holds (s : Watched) (id : Nat) : Prop :=
  ∃ row, s.installation.accounts.roles.find? id = some row ∧
    Granted row.permissions "setting:view"

/-- The role has the permission by default and no entry for it. -/
def Watched.Tempted (s : Watched) (id : Nat) : Prop :=
  ∃ row, s.installation.accounts.roles.find? id = some row ∧
    defaultPermission row.name "setting:view" = some true ∧
    row.permissions.get? "setting:view" = none

/-- The start-up does not meet the role in this state, unless it may hold the permission. -/
def Untempting (id : Nat) (s : Watched) : InstallationEvent → Prop
  | .startUp => s.granted = false → ¬s.Tempted id
  | .request _ => True

/-! ### What requests do to one role -/

section Requests

variable {sur : Surroundings} {st : Accounts} {caller : Account} {id : Nat} {row : RoleRow}

theorem nextRoleId_writeUser {a : Account} {commit : Bool} {st' : Accounts}
    (h : st.writeUser a commit = .ok st') : st'.nextRoleId = st.nextRoleId := by
  obtain ⟨-, _, rfl⟩ := Accounts.writeUser_ok h
  rfl

theorem nextRoleId_createUser (data : UserCreate) :
    (createUser sur st caller data).1.nextRoleId = st.nextRoleId := by
  unfold createUser
  split
  · rfl
  · split
    · rfl
    · rename_i hw
      exact nextRoleId_writeUser hw

theorem nextRoleId_finishUpdate {a : Account} {data : UserUpdate} {commit : Bool} :
    (finishUpdate st caller a data commit).1.nextRoleId = st.nextRoleId := by
  unfold finishUpdate
  dsimp only
  split
  · rfl
  · split
    · rfl
    · rename_i hw
      exact nextRoleId_writeUser hw

theorem nextRoleId_updateUser (id : UserId) (data : UserUpdate) :
    (updateUser sur st caller id data).1.nextRoleId = st.nextRoleId := by
  unfold updateUser
  split
  · rfl
  · split
    · split
      · rfl
      · rename_i hw
        exact nextRoleId_finishUpdate.trans (nextRoleId_writeUser hw)
    · exact nextRoleId_finishUpdate

theorem nextRoleId_deleteUser (id : UserId) :
    (deleteUser sur st caller id).1.nextRoleId = st.nextRoleId := by
  unfold deleteUser
  dsimp only
  split
  · rfl
  · split <;> rfl

theorem nextRoleId_touchUser {id : UserId} {check : Except Exc Unit} {set : Account → Account}
    {text : String} :
    (touchUser sur st caller id check set text).1.nextRoleId = st.nextRoleId := by
  unfold touchUser
  dsimp only
  split
  · rfl
  · split
    · rfl
    · rename_i hw
      exact nextRoleId_writeUser hw

theorem nextRoleId_adminDisableTwoFactor (id : UserId) :
    (adminDisableTwoFactor sur st caller id).1.nextRoleId = st.nextRoleId := by
  unfold adminDisableTwoFactor
  dsimp only
  split
  · rfl
  · exact nextRoleId_touchUser

theorem roles_adminDisableTwoFactor (id : UserId) :
    (adminDisableTwoFactor sur st caller id).1.roles = st.roles := by
  unfold adminDisableTwoFactor
  dsimp only
  split
  · rfl
  · exact touchUser_quiet.1

/-- The role of an identifier is untouched, or gone, or written by an accepted update of it. -/
structure RoleKept (st : Accounts) (id : Nat) (request : AccountRequest)
    (out : Accounts × Except Exc AccountReply) : Prop where
  fresh : st.nextRoleId ≤ out.1.nextRoleId
  row : ∀ row', out.1.roles.find? id = some row' →
    (∃ row, st.roles.find? id = some row ∧ row'.permissions = row.permissions) ∨
      ∃ data, request = .updateRole id data ∧ out.2.isOk = true ∧
        data.permissions = some row'.permissions

private theorem RoleKept.of_roles {request : AccountRequest}
    {out : Accounts × Except Exc AccountReply} (hroles : out.1.roles = st.roles)
    (hfresh : out.1.nextRoleId = st.nextRoleId) : RoleKept st id request out :=
  ⟨Nat.le_of_eq hfresh.symm, fun row' h => Or.inl ⟨row', hroles ▸ h, rfl⟩⟩

private theorem RoleKept.refl {request : AccountRequest} {reply : Except Exc AccountReply} :
    RoleKept st id request (st, reply) := .of_roles rfl rfl

theorem roleKept_createRole (hid : id < st.nextRoleId) (data : RoleCreate) :
    RoleKept st id (.createRole data) (createRole sur st caller data) := by
  unfold createRole
  dsimp only
  split
  · exact .refl
  · rename_i r hchecked
    obtain ⟨_, -, hchecked⟩ := bind_ok hchecked
    obtain ⟨_, -, hchecked⟩ := bind_ok hchecked
    cases hchecked
    split
    · refine ⟨Nat.le_max_left _ _, fun row' h => Or.inl ⟨row', ?_, rfl⟩⟩
      change (st.roles.save _).find? id = some row' at h
      rw [KeyedTable.find?_save, if_neg] at h
      · exact h
      · exact Nat.ne_of_gt hid
    · exact .refl

theorem roleKept_updateRole (roleId : Nat) (data : RoleUpdate) :
    RoleKept st id (.updateRole roleId data) (updateRole sur st caller roleId data) := by
  unfold updateRole
  dsimp only
  split
  · exact .refl
  · rename_i r hchecked
    obtain ⟨_, -, hchecked⟩ := bind_ok hchecked
    cases hf : st.roles.find? roleId with
    | none =>
      rw [hf] at hchecked
      cases hchecked
    | some old =>
      rw [hf] at hchecked
      cases hchecked
      have hold : old.id = roleId := st.roles.key_of_find? hf
      split
      · refine ⟨Nat.le_max_left _ _, fun row' h => ?_⟩
        change (st.roles.save _).find? id = some row' at h
        rw [KeyedTable.find?_save] at h
        split at h
        · rename_i hid
          cases h
          have hroleId : roleId = id := hold.symm.trans hid
          cases hp : data.permissions with
          | none => exact Or.inl ⟨old, hroleId ▸ hf, rfl⟩
          | some perms => exact Or.inr ⟨data, hroleId ▸ rfl, rfl, hp⟩
        · exact Or.inl ⟨row', h, rfl⟩
      · exact .refl

theorem roleKept_deleteRole (roleId : Nat) :
    RoleKept st id (.deleteRole roleId) (deleteRole sur st caller roleId) := by
  unfold deleteRole
  dsimp only
  split
  · exact .refl
  · split
    · split
      · refine ⟨Nat.le_refl _, fun row' h => Or.inl ⟨row', ?_, rfl⟩⟩
        change (st.roles.erase roleId).find? id = some row' at h
        rw [KeyedTable.find?_erase] at h
        split at h
        · cases h
        · exact h
      · exact .refl
    · exact .refl

theorem roleKept_handle (hid : id < st.nextRoleId) (request : AccountRequest) :
    RoleKept st id request (handle sur st caller request) := by
  cases request with
  | createUser data => exact .of_roles createUser_quiet.1 (nextRoleId_createUser data)
  | updateUser id data => exact .of_roles updateUser_quiet.1 (nextRoleId_updateUser id data)
  | deleteUser id => exact .of_roles deleteUser_quiet.1 (nextRoleId_deleteUser id)
  | resetUserPassword id password => exact .of_roles touchUser_quiet.1 nextRoleId_touchUser
  | unlockUser id => exact .of_roles touchUser_quiet.1 nextRoleId_touchUser
  | adminDisableTwoFactor id =>
    exact .of_roles (roles_adminDisableTwoFactor id) (nextRoleId_adminDisableTwoFactor id)
  | createRole data => exact roleKept_createRole hid data
  | updateRole roleId data => exact roleKept_updateRole roleId data
  | deleteRole roleId => exact roleKept_deleteRole roleId

end Requests

/-! ### What start-ups do to an identifier -/

/-- No role has this identifier, and none will get it. -/
structure Accounts.Lacks (st : Accounts) (id : Nat) : Prop where
  absent : st.roles.find? id = none
  old : id < st.nextRoleId

section StartUps

variable {st : Accounts} {id : Nat}

theorem Accounts.Lacks.mapRoles (h : st.Lacks id) (f : RoleRow → RoleRow)
    (hf : ∀ r, (f r).id = r.id) : (st.mapRoles f hf).Lacks id where
  absent := (st.roles.find?_mapRows f hf id).trans (congrArg (Option.map f) h.absent)
  old := h.old

theorem Accounts.Lacks.mapPermissions (h : st.Lacks id)
    (f : String → PermissionMap → PermissionMap) : (st.mapPermissions f).Lacks id :=
  h.mapRoles (fun r => { r with permissions := f r.name r.permissions }) fun _ => rfl

theorem Accounts.Lacks.insertRole (h : st.Lacks id) (data : RoleDefault) :
    (st.insertRole data).Lacks id where
  absent := by
    change (st.roles.save _).find? id = none
    rw [KeyedTable.find?_save, if_neg, h.absent]
    exact Nat.ne_of_gt h.old
  old := Nat.lt_of_lt_of_le h.old (Nat.le_max_left _ _)

theorem Accounts.Lacks.ensureDefaultRolesNewFormat (h : st.Lacks id) :
    (ensureDefaultRolesNewFormat st).Lacks id := by
  unfold Users.ensureDefaultRolesNewFormat
  induction newDefaultRoles generalizing st with
  | nil => exact h
  | cons data datas ih =>
    rw [List.foldl_cons]
    apply ih
    unfold ensureRole
    split
    · exact h.mapRoles (ensureRow data) fun _ => rfl
    · exact h.insertRole data

theorem Accounts.Lacks.migrateRbacSecurity (h : st.Lacks id) :
    (migrateRbacSecurity st).Lacks id := by
  unfold Users.migrateRbacSecurity
  induction defaultRoles generalizing st with
  | nil => exact h
  | cons data datas ih =>
    rw [List.foldl_cons]
    apply ih
    split
    · exact h
    · exact h.insertRole data

theorem Accounts.Lacks.startUp {i : Installation} (h : i.accounts.Lacks id) :
    (startUp i).accounts.Lacks id := by
  have h1 := (h.migrateRbacSecurity.mapPermissions fun _ => migrateRole).ensureDefaultRolesNewFormat
  have h2 := ((h1.mapPermissions addVpsPermissions).mapPermissions grantClusterManage).mapPermissions
    removeDashboard
  have h3 := (h2.mapPermissions fun _ => backfillPermissions).ensureDefaultRolesNewFormat
  exact (h3.mapPermissions fun _ perms => splitSettingView perms i.splitDone).mapPermissions
    fun name perms => addCoolifyPermissions name perms i.coolifyDone

/-- A stored role has an identifier that is not given again. -/
theorem Accounts.lt_nextRoleId {row : RoleRow} (h : st.roles.find? id = some row) :
    id < st.nextRoleId := by
  have hid : row.id = id := st.roles.key_of_find? h
  exact hid ▸ st.role_fresh row (st.roles.mem_of_find? h)

/-- Start-ups give no identifier again. -/
theorem lt_nextRoleId_startUp {i : Installation} (h : id < i.accounts.nextRoleId) :
    id < (startUp i).accounts.nextRoleId := by
  cases hfind : i.accounts.roles.find? id with
  | none => exact (Accounts.Lacks.startUp ⟨hfind, h⟩).old
  | some row =>
    have hhas : i.accounts.Has id row.name row.permissions := ⟨row, hfind, rfl, rfl⟩
    obtain ⟨row', hfind', -⟩ := hhas.startUp
    exact Accounts.lt_nextRoleId hfind'

end StartUps

/-! ### Steps -/

section Steps

variable {id : Nat} {s : Watched}

/-- The role holds the permission only where it was granted. -/
def OnlyGranted (id : Nat) (s : Watched) : Prop := s.Holds id → s.granted = true

/-- The split is done, and the identifier of the role is not given again. -/
structure AfterSplit (id : Nat) (s : Watched) : Prop where
  done : s.installation.splitDone = true
  old : id < s.installation.accounts.nextRoleId

/-- Where the split is done, a start-up gives the permission to a role that does not hold it
exactly when the role is tempted. -/
theorem holds_startUp_iff (h : AfterSplit id s) (hno : ¬s.Holds id) :
    (watchStep id s .startUp).Holds id ↔ s.Tempted id := by
  unfold Watched.Holds Watched.Tempted
  change (∃ row, (startUp s.installation).accounts.roles.find? id = some row ∧ _) ↔ _
  cases hfind : s.installation.accounts.roles.find? id with
  | none =>
    have hlacks := Accounts.Lacks.startUp ⟨hfind, h.old⟩
    simp [hlacks.absent]
  | some row =>
    have hhas : s.installation.accounts.Has id row.name row.permissions := ⟨row, hfind, rfl, rfl⟩
    obtain ⟨row', hfind', -, hperms⟩ := hhas.startUp
    rw [h.done] at hperms
    have hoff : ¬Granted row.permissions "setting:view" := fun hon => hno ⟨row, hfind, hon⟩
    have hverdict : verdict row.permissions.rows "setting:view" =
        row.permissions.get? "setting:view" := by
      apply verdict_eq_get?
      exact fun old hget hlegacy =>
        hoff ⟨old, resolvePermission_eq_iff.mpr (Or.inl hlegacy), hget⟩
    have hnot : row.permissions.get? "setting:view" ≠ some true := fun hon =>
      hoff ⟨_, resolvePermission_of_isNewCode (plain_settingView row.name).new, hon⟩
    have hrow' : Granted row'.permissions "setting:view" ↔
        defaultPermission row.name "setting:view" = some true ∧
          row.permissions.get? "setting:view" = none := by
      have hconv : Converted (splitSettingView (seedRole row.name row.permissions) true) :=
        (settled_seedRole row.name row.permissions).converted
      rw [hperms, Granted.congr (same_startRole _ _ _ _), hconv.granted_iff]
      change _ ∧ (seedRole row.name row.permissions).get? "setting:view" = some true ↔ _
      rw [(plain_settingView row.name).get?_seedRole,
        and_iff_right (legacyCode_of_isNewCode (plain_settingView row.name).new)]
      unfold seeded
      rw [hverdict]
      cases hget : row.permissions.get? "setting:view" with
      | none => simp
      | some x =>
        cases x with
        | true => exact absurd hget hnot
        | false => simp
    rw [hfind']
    simpa using hrow'

/-- A request of the role API that makes the role hold the permission is a grant. -/
theorem onlyGranted_request (h : AfterSplit id s) (honly : OnlyGranted id s) (e : AccountEvent) :
    OnlyGranted id (watchStep id s (.request e)) := by
  rintro ⟨row', hfind', hon⟩
  change (s.granted || grantsSettingView s.installation.accounts e id) = true
  rw [Bool.or_eq_true]
  change (accountStep s.installation.accounts e).roles.find? id = some row' at hfind'
  unfold accountStep at hfind'
  cases hcaller : currentUser s.installation.accounts e with
  | none =>
    rw [hcaller] at hfind'
    exact Or.inl (honly ⟨row', hfind', hon⟩)
  | some caller =>
    rw [hcaller] at hfind'
    have hkept : RoleKept s.installation.accounts id e.request
      (handle e.sur s.installation.accounts caller e.request) := roleKept_handle h.old e.request
    rcases hkept.row row' hfind' with ⟨row, hfind, hperms⟩ | ⟨data, hrequest, hok, hperms⟩
    · exact Or.inl (honly ⟨row, hfind, hperms ▸ hon⟩)
    · refine Or.inr ?_
      unfold grantsSettingView
      rw [hcaller, hrequest]
      rw [hrequest] at hok
      simp [hok, hperms, switchesOn_iff.mpr hon]

theorem AfterSplit.watchStep (h : AfterSplit id s) (e : InstallationEvent) :
    AfterSplit id (watchStep id s e) := by
  cases e with
  | startUp => exact ⟨rfl, lt_nextRoleId_startUp h.old⟩
  | request e =>
    refine ⟨h.done, ?_⟩
    change id < (accountStep s.installation.accounts e).nextRoleId
    unfold accountStep
    split
    · rename_i caller _
      have hkept : RoleKept s.installation.accounts id e.request
        (handle e.sur s.installation.accounts caller e.request) := roleKept_handle h.old e.request
      exact Nat.lt_of_lt_of_le h.old hkept.fresh
    · exact h.old

theorem onlyGranted_watchStep_iff (h : AfterSplit id s) (honly : OnlyGranted id s)
    (e : InstallationEvent) : OnlyGranted id (watchStep id s e) ↔ Untempting id s e := by
  cases e with
  | request e => exact iff_of_true (onlyGranted_request h honly e) trivial
  | startUp =>
    have hsame : (watchStep id s .startUp).granted = s.granted := by simp only [watchStep]
    have hguard : Untempting id s .startUp ↔ (s.granted = false → ¬s.Tempted id) := Iff.rfl
    rw [hguard]
    unfold OnlyGranted
    rw [hsame]
    cases hgranted : s.granted with
    | true => exact iff_of_true (fun _ => rfl) fun hfalse => by cases hfalse
    | false =>
      have hno : ¬s.Holds id := fun hholds => by
        rw [honly hholds] at hgranted
        cases hgranted
      rw [holds_startUp_iff h hno]
      simp

end Steps

/-! ### After the split -/

/-- A role that loses `setting:view` in the start-up that runs the split, and what follows. -/
structure SettingSplit where
  before : Installation
  row : RoleRow
  stored : before.accounts.roles.find? row.id = some row
  pending : before.splitDone = false
  loses : losesSettingView (seedRole row.name row.permissions) = true
  events : List InstallationEvent

namespace SettingSplit

variable (c : SettingSplit)

def start : Watched := ⟨startUp c.before, false⟩

theorem afterSplit_start : AfterSplit c.row.id c.start :=
  ⟨rfl, lt_nextRoleId_startUp (Accounts.lt_nextRoleId c.stored)⟩

/-- The split has taken the permission from the role. -/
theorem not_holds_start : ¬c.start.Holds c.row.id := by
  rintro ⟨row', hfind', hon⟩
  have hhas : c.before.accounts.Has c.row.id c.row.name c.row.permissions :=
    ⟨c.row, c.stored, rfl, rfl⟩
  obtain ⟨row, hfind, -, hperms⟩ := hhas.startUp
  obtain rfl := Option.some.inj (hfind.symm.trans hfind')
  have hlost : (!c.before.splitDone &&
      losesSettingView (seedRole c.row.name c.row.permissions)) = true := by
    rw [c.pending, c.loses]
    rfl
  have hconv : Converted (splitSettingView (seedRole c.row.name c.row.permissions)
      c.before.splitDone) := by
    apply (settled_seedRole c.row.name c.row.permissions).converted.of_new
    intro code x hx
    rw [get?_splitSettingView] at hx
    split at hx
    · cases hx
    · exact Or.inr hx
  rw [hperms, Granted.congr (same_startRole _ _ _ _), hconv.granted_iff, get?_splitSettingView,
    if_pos ⟨hlost, rfl⟩] at hon
  cases hon.2

/-- The permission stays away, unless it is granted, exactly when no start-up meets the role
without an entry for a permission that it has by default. -/
theorem away_iff :
    (∀ s ∈ visited (watchStep c.row.id) c.start c.events, OnlyGranted c.row.id s) ↔
      Guarded (watchStep c.row.id) (Untempting c.row.id) c.start c.events := by
  have hinv : ∀ s ∈ visited (watchStep c.row.id) c.start c.events, AfterSplit c.row.id s :=
    invariant_of_step (fun _ e h => h.watchStep e) c.afterSplit_start c.events
  have hrun : (∀ s ∈ visited (watchStep c.row.id) c.start c.events,
        AfterSplit c.row.id s ∧ OnlyGranted c.row.id s) ↔
      Guarded (watchStep c.row.id) (Untempting c.row.id) c.start c.events := by
    apply forall_visited_iff_guarded
    · intro s e _ h
      rw [and_iff_right (h.1.watchStep e)]
      exact onlyGranted_watchStep_iff h.1 h.2 e
    · exact ⟨c.afterSplit_start, fun hholds => absurd hholds c.not_holds_start⟩
  rw [← hrun]
  exact ⟨fun h s hs => ⟨hinv s hs, h s hs⟩, fun h s hs => (h s hs).2⟩

/-- A role that has the permission by default is tempted as soon as it has lost it. -/
theorem tempted_start (hdefault : defaultPermission c.row.name "setting:view" = some true) :
    c.start.Tempted c.row.id := by
  have hhas : c.before.accounts.Has c.row.id c.row.name c.row.permissions :=
    ⟨c.row, c.stored, rfl, rfl⟩
  obtain ⟨row, hfind, hname, hperms⟩ := hhas.startUp
  refine ⟨row, hfind, hname ▸ hdefault, ?_⟩
  have htakes : TakesDefault c.row.name c.row.permissions c.before.splitDone :=
    ⟨c.pending, hdefault, losesSettingView_seedRole_iff.mp c.loses⟩
  rw [hperms]
  exact (htakes.comes_back c.before.coolifyDone).1

/-! ### Moderators -/

/-- The role `moderator` with no permission but `setting:view`. -/
def moderator : RoleRow :=
  ⟨1, "moderator", "Moderator", none, .ofList [("setting:view", true)], true, true⟩

theorem moderator_loses : losesSettingView (seedRole moderator.name moderator.permissions) = true := by
  rw [losesSettingView_seedRole_iff]
  decide +kernel

/-- The start-up that runs the split, and the next one. -/
def restart : SettingSplit where
  before := ⟨.onlyRole moderator, false, true⟩
  row := moderator
  stored := rfl
  pending := rfl
  loses := moderator_loses
  events := [.startUp]

/-- The next start-up gives the permission back. -/
theorem restart_not_away :
    ¬∀ s ∈ visited (watchStep restart.row.id) restart.start restart.events,
      OnlyGranted restart.row.id s := by
  intro h
  have hdefault : defaultPermission restart.row.name "setting:view" = some true := by
    decide +kernel
  have hholds : (watchStep restart.row.id restart.start .startUp).Holds restart.row.id :=
    (holds_startUp_iff restart.afterSplit_start restart.not_holds_start).mpr
      (restart.tempted_start hdefault)
  have hgranted : (watchStep restart.row.id restart.start .startUp).granted = false := by
    simp only [watchStep, start]
  have honly := h _ (foldl_mem_visited _ _ _) hholds
  change (watchStep restart.row.id restart.start .startUp).granted = true at honly
  rw [hgranted] at honly
  cases honly

end SettingSplit

end PveManager.Users
