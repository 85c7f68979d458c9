import Mathlib.Logic.Function.Iterate
import PveManager.Rbac.Denials
import PveManager.Users.Accounts

/-!
# Start-ups and the role table

The panel runs its migrations at every start-up. Those that write roles rewrite
the permission maps one by one and create the built-in roles that are missing.
-/

namespace PveManager.Users

open PveManager.Core PveManager.Rbac

namespace Accounts

variable (st : Accounts)

/-- `UPDATE roles`, row by row. -/
def mapRoles (f : RoleRow → RoleRow) (hf : ∀ r, (f r).id = r.id) : Accounts where
  users := st.users
  roles := st.roles.mapRows f hf
  nextUserId := st.nextUserId
  nextRoleId := st.nextRoleId
  user_fresh := st.user_fresh
  role_fresh := by
    intro row hrow
    obtain ⟨r, hr, rfl⟩ := List.mem_map.mp hrow
    exact hf r ▸ st.role_fresh r hr
  role_exists := by
    intro a ha r hr
    rw [KeyedTable.find?_mapRows, Option.isSome_map]
    exact st.role_exists a ha r hr

/-- The update of each permission map by the name of its role. -/
def mapPermissions (f : String → PermissionMap → PermissionMap) : Accounts :=
  st.mapRoles (fun r => { r with permissions := f r.name r.permissions }) fun _ => rfl

def hasRole (name : String) : Bool := st.roles.rows.any fun r => decide (r.name = name)

/-- `INSERT INTO roles`. -/
def insertRole (data : RoleDefault) : Accounts :=
  st.saveRole ⟨st.nextRoleId, data.name, data.displayName, some data.description,
    .ofList data.permissions, data.isSystem, true⟩

/-- A panel with one role and without accounts. -/
def onlyRole (r : RoleRow) : Accounts where
  users := .empty
  roles := KeyedTable.empty.save r
  nextUserId := 0
  nextRoleId := r.id + 1
  user_fresh := fun _ h => absurd h List.not_mem_nil
  role_fresh := by
    intro row hrow
    rcases (KeyedTable.mem_rows_save .empty r row).mp hrow with rfl | ⟨hold, -⟩
    · exact Nat.lt_succ_self _
    · exact absurd hold List.not_mem_nil
  role_exists := fun _ h => absurd h List.not_mem_nil

end Accounts

/-! ### The migrations -/

section Migrations

variable (st : Accounts)

/-- The built-in roles of `migrate_rbac_security`, with `ON CONFLICT (name) DO NOTHING`. -/
def migrateRbacSecurity : Accounts :=
  defaultRoles.foldl (fun st data => if st.hasRole data.name then st else st.insertRole data) st

/-- A role that has no permissions gets the texts of the default with its permissions. -/
def ensureRow (data : RoleDefault) (r : RoleRow) : RoleRow :=
  let seeds := decide (data.name = r.name) && (normalized r.permissions).rows.isEmpty
  { r with
    permissions := ensureDefault r.name r.permissions data
    displayName := if seeds then data.displayName else r.displayName
    description := if seeds then some data.description else r.description }

def ensureRole (data : RoleDefault) : Accounts :=
  if st.hasRole data.name then st.mapRoles (ensureRow data) fun _ => rfl else st.insertRole data

def ensureDefaultRolesNewFormat : Accounts := newDefaultRoles.foldl ensureRole st

def migrateRbacV2 : Accounts :=
  ensureDefaultRolesNewFormat (st.mapPermissions fun _ => migrateRole)

def migrateGranularPermissions : Accounts :=
  ensureDefaultRolesNewFormat (st.mapPermissions fun _ => backfillPermissions)

end Migrations

/-- The database as the role migrations see it: the roles and two markers of `panel_settings`. -/
structure Installation where
  accounts : Accounts
  /-- `migration_setting_view_panel_only`. -/
  splitDone : Bool
  /-- `migration_coolify_permissions_v1`. -/
  coolifyDone : Bool

/-- The migrations of `run_all_migrations` that write permission maps, in their order. -/
def startUp (i : Installation) : Installation :=
  let st := migrateRbacV2 (migrateRbacSecurity i.accounts)
  let st := st.mapPermissions addVpsPermissions
  let st := st.mapPermissions grantClusterManage
  let st := st.mapPermissions removeDashboard
  let st := migrateGranularPermissions st
  let st := st.mapPermissions fun _ perms => splitSettingView perms i.splitDone
  ⟨st.mapPermissions fun name perms => addCoolifyPermissions name perms i.coolifyDone, true, true⟩

/-! ### One role -/

/-- The role with this identifier has this name and these permissions. -/
def Accounts.Has (st : Accounts) (id : Nat) (name : String) (perms : PermissionMap) : Prop :=
  ∃ r, st.roles.find? id = some r ∧ r.name = name ∧ r.permissions = perms

section OneRole

variable {st : Accounts} {id : Nat} {name : String} {perms : PermissionMap}

theorem Accounts.Has.mapRoles (h : st.Has id name perms) (f : RoleRow → RoleRow)
    (g : PermissionMap → PermissionMap) (hf : ∀ r, (f r).id = r.id)
    (hname : ∀ r, (f r).name = r.name)
    (hperms : ∀ r, r.name = name → (f r).permissions = g r.permissions) :
    (st.mapRoles f hf).Has id name (g perms) := by
  obtain ⟨r, hfind, rfl, rfl⟩ := h
  refine ⟨f r, ?_, hname r, hperms r rfl⟩
  exact (st.roles.find?_mapRows f hf id).trans (congrArg (Option.map f) hfind)

theorem Accounts.Has.mapPermissions (h : st.Has id name perms)
    (f : String → PermissionMap → PermissionMap) :
    (st.mapPermissions f).Has id name (f name perms) := by
  refine h.mapRoles (fun r => { r with permissions := f r.name r.permissions }) (f name)
    (fun _ => rfl) (fun _ => rfl) fun r hr => ?_
  rw [← hr]

/-- A new role has an identifier of its own. -/
theorem Accounts.Has.insertRole (h : st.Has id name perms) (data : RoleDefault) :
    (st.insertRole data).Has id name perms := by
  obtain ⟨r, hfind, hr⟩ := h
  refine ⟨r, ?_, hr⟩
  have hlt : r.id < st.nextRoleId := st.role_fresh r (st.roles.mem_of_find? hfind)
  have hid : r.id = id := st.roles.key_of_find? hfind
  change (st.roles.save _).find? id = some r
  rw [KeyedTable.find?_save, if_neg, hfind]
  change st.nextRoleId ≠ id
  omega

theorem Accounts.Has.migrateRbacSecurity (h : st.Has id name perms) :
    (migrateRbacSecurity st).Has id name perms := by
  unfold Users.migrateRbacSecurity
  induction defaultRoles generalizing st with
  | nil => exact h
  | cons data datas ih =>
    rw [List.foldl_cons]
    apply ih
    split
    · exact h
    · exact h.insertRole data

theorem Accounts.Has.ensureRole (h : st.Has id name perms) (data : RoleDefault) :
    (ensureRole st data).Has id name (ensureDefault name perms data) := by
  unfold Users.ensureRole
  split
  · refine h.mapRoles (ensureRow data) (ensureDefault name · data) (fun _ => rfl) (fun _ => rfl)
      fun r hr => ?_
    rw [← hr]
    rfl
  · rename_i hno
    have hne : data.name ≠ name := by
      rintro rfl
      obtain ⟨r, hfind, hr, -⟩ := h
      exact hno (List.any_eq_true.mpr ⟨r, st.roles.mem_of_find? hfind, decide_eq_true hr⟩)
    unfold ensureDefault
    rw [if_neg hne]
    exact h.insertRole data

theorem Accounts.Has.ensureDefaultRolesNewFormat (h : st.Has id name perms) :
    (ensureDefaultRolesNewFormat st).Has id name (ensureDefaults name perms) := by
  unfold Users.ensureDefaultRolesNewFormat ensureDefaults
  induction newDefaultRoles generalizing st perms with
  | nil => exact h
  | cons data datas ih =>
    rw [List.foldl_cons, List.foldl_cons]
    exact ih (h.ensureRole data)

/-- A start-up runs the passes on each role. -/
theorem Accounts.Has.startUp {i : Installation} (h : i.accounts.Has id name perms) :
    (startUp i).accounts.Has id name (startRole name perms i.splitDone i.coolifyDone) := by
  have h1 := (h.migrateRbacSecurity.mapPermissions fun _ => migrateRole).ensureDefaultRolesNewFormat
  have h2 := ((h1.mapPermissions addVpsPermissions).mapPermissions grantClusterManage).mapPermissions
    removeDashboard
  have h3 := (h2.mapPermissions fun _ => backfillPermissions).ensureDefaultRolesNewFormat
  exact (h3.mapPermissions fun _ perms => splitSettingView perms i.splitDone).mapPermissions
    fun name perms => addCoolifyPermissions name perms i.coolifyDone

end OneRole

/-! ### Roles over many start-ups -/

/-- A role of an installation. -/
structure StoredRole where
  installation : Installation
  row : RoleRow
  stored : installation.accounts.roles.find? row.id = some row

namespace StoredRole

variable (r : StoredRole)

/-- The role after a number of start-ups. -/
def after (n : Nat) : Option RoleRow :=
  (startUp^[n] r.installation).accounts.roles.find? r.row.id

/-- What the map of the role reads at a code. -/
def entryAfter (n : Nat) (code : String) : Option Bool :=
  (r.after n).bind fun row => row.permissions.get? code

/-- The role grants the permission, in either spelling. -/
def GrantedAfter (n : Nat) (code : String) : Prop :=
  ∃ row, r.after n = some row ∧ Granted row.permissions code

/-- Start-ups after the first one change nothing, and none grants what was denied. -/
structure Preserved : Prop where
  idempotent : ∀ n code, r.entryAfter (n + 1) code = r.entryAfter 1 code
  denials : ∀ code, Denied r.row.permissions code → ∀ n, ¬r.GrantedAfter (n + 1) code

variable {r}

theorem after_eq (n : Nat) : ∃ row, r.after (n + 1) = some row ∧
    row.permissions = runRole r.row.name r.row.permissions r.installation.splitDone
      r.installation.coolifyDone n := by
  have hrun : (startUp^[n + 1] r.installation).splitDone = true ∧
      (startUp^[n + 1] r.installation).coolifyDone = true ∧
      (startUp^[n + 1] r.installation).accounts.Has r.row.id r.row.name
        (runRole r.row.name r.row.permissions r.installation.splitDone
          r.installation.coolifyDone n) := by
    induction n with
    | zero =>
      have h : r.installation.accounts.Has r.row.id r.row.name r.row.permissions :=
        ⟨r.row, r.stored, rfl, rfl⟩
      exact ⟨rfl, rfl, h.startUp⟩
    | succ n ih =>
      rw [Function.iterate_succ_apply']
      obtain ⟨hsplit, hcoolify, hhas⟩ := ih
      have hnext := hhas.startUp
      rw [hsplit, hcoolify] at hnext
      exact ⟨rfl, rfl, hnext⟩
  obtain ⟨-, -, row, hfind, -, hperms⟩ := hrun
  exact ⟨row, hfind, hperms⟩

theorem entryAfter_eq (n : Nat) (code : String) :
    r.entryAfter (n + 1) code = (runRole r.row.name r.row.permissions r.installation.splitDone
      r.installation.coolifyDone n).get? code := by
  obtain ⟨row, hafter, hperms⟩ := r.after_eq n
  unfold entryAfter
  rw [hafter, ← hperms]
  rfl

theorem grantedAfter_iff (n : Nat) (code : String) :
    r.GrantedAfter (n + 1) code ↔ Granted (runRole r.row.name r.row.permissions
      r.installation.splitDone r.installation.coolifyDone n) code := by
  obtain ⟨row, hafter, hperms⟩ := r.after_eq n
  unfold GrantedAfter
  rw [hafter, ← hperms]
  simp

/-- Start-ups preserve a role exactly when the split takes no default from it and no default
overrides a denial of it. -/
theorem role_preserved_iff (r : StoredRole) :
    r.Preserved ↔ ¬TakesDefault r.row.name r.row.permissions r.installation.splitDone ∧
      ∀ code, Denied r.row.permissions code → ¬Overridden r.row.name r.row.permissions code := by
  rw [← kept_iff_not_overridden r.installation.splitDone r.installation.coolifyDone]
  constructor
  · rintro ⟨hidempotent, hdenials⟩
    refine ⟨fun n code => ?_, fun code hdenied n hgranted => ?_⟩
    · rw [← r.entryAfter_eq n code, ← r.entryAfter_eq 0 code]
      exact hidempotent n code
    · exact hdenials code hdenied n ((r.grantedAfter_iff n code).mpr hgranted)
  · rintro ⟨hidempotent, hdenials⟩
    refine ⟨fun n code => ?_, fun code hdenied n hgranted => ?_⟩
    · rw [r.entryAfter_eq n code, r.entryAfter_eq 0 code]
      exact hidempotent n code
    · exact hdenials code hdenied n ((r.grantedAfter_iff n code).mp hgranted)

/-! ### A denial in the old spelling -/

/-- The permissions of a role that may see servers and no machines. -/
def spectatorPermissions : PermissionMap := .ofList [("proxmox.view", true), ("vms.view", false)]

/-- The role `user` with these permissions. -/
def spectators : StoredRole where
  installation :=
    ⟨.onlyRole ⟨1, "user", "User", none, spectatorPermissions, true, true⟩, true, true⟩
  row := ⟨1, "user", "User", none, spectatorPermissions, true, true⟩
  stored := rfl

theorem denied_spectators : Denied spectatorPermissions "vm:view" where
  entry := ⟨"vms.view", by decide +kernel, by decide +kernel⟩
  notGranted := by
    rintro ⟨spelling, hresolve, hget⟩
    have hmem : (spelling, true) ∈ [("proxmox.view", true), ("vms.view", false)] :=
      KeyedTable.get?_ofList_eq_some hget
    have hspelling : spelling = "proxmox.view" := by simpa using hmem
    subst hspelling
    exact absurd hresolve (by decide +kernel)

/-- The next start-up lets them see machines. -/
theorem spectators_not_preserved : ¬spectators.Preserved := by
  intro h
  apply h.denials "vm:view" denied_spectators 0
  rw [grantedAfter_iff]
  have htakes : ¬TakesDefault "user" spectatorPermissions true := fun ht => by cases ht.1
  refine (denied_spectators.granted_startRole_iff htakes).mpr ⟨by decide +kernel, Or.inl ?_⟩
  decide +kernel

end StoredRole

end PveManager.Users
