import PveManager.Rbac.Defaults

/-!
# What a start-up does to one permission map

Every start-up runs the role migrations again: the conversion of old codes, the
default permissions, the permissions split off from older ones, and two passes
that a marker lets run only once. Each pass is described by what it reads at
every code; a map that no pass would write to is settled.
-/

namespace PveManager.Rbac

open PveManager.Core

/-! ### Spellings -/

/-- A code of the form `resource:action`. -/
def isNewCode (code : String) : Bool := decide (':' ∈ code.toList)

/-- A code of the form `resource.action`. -/
def isOldCode (code : String) : Bool := decide ('.' ∈ code.toList) && !isNewCode code

/-- `LEGACY_PERMISSION_MAP.get(code)`. -/
def legacyCode (code : String) : Option String := (KeyedTable.ofList legacyPermissionMap).get? code

/-- `resolve_permission`. -/
def resolvePermission (code : String) : String := (legacyCode code).getD code

/-- `any("." in k and ":" not in k for k in permissions.keys())`. -/
def hasOldFormat (perms : PermissionMap) : Bool := perms.rows.any fun item => isOldCode item.1

/-- One item of `convert_permissions_to_new_format`. -/
def convertItem (perms : PermissionMap) (item : String × Bool) : PermissionMap :=
  if isNewCode item.1 then perms.set item.1 item.2
  else
    match legacyCode item.1 with
    | some code => if item.2 then perms.set code item.2 else perms
    | none => if item.2 then perms.set item.1 item.2 else perms

def convertPermissionsToNewFormat (old : PermissionMap) : PermissionMap :=
  old.rows.foldl convertItem .empty

/-- Maps with old codes are converted, whether or not there are new ones among them. -/
def normalized (perms : PermissionMap) : PermissionMap :=
  if hasOldFormat perms then convertPermissionsToNewFormat perms else perms

/-! ### The passes, for a role of a name -/

section Passes

variable (name : String) (perms : PermissionMap)

/-- `migrate_all_roles_to_new_format`; an empty map has no old code. -/
def migrateRole : PermissionMap := normalized perms

/-- `ensure_default_roles_new_format` for a role that exists. -/
def ensurePermissions (data : RoleDefault) : PermissionMap :=
  let current := normalized perms
  if current.rows.isEmpty then .ofList data.permissions
  else current.addMissing (.ofList data.permissions)

def ensureDefault (data : RoleDefault) : PermissionMap :=
  if data.name = name then ensurePermissions perms data else perms

/-- The loop over `NEW_DEFAULT_ROLES`. -/
def ensureDefaults : PermissionMap := newDefaultRoles.foldl (ensureDefault name) perms

/-- What `migrate_vm_instance_owner` gives to the role `user`. -/
def vpsPermissions : List (String × Bool) := [
  ("vms:view:own", true), ("vms:start:own", true), ("vms:stop:own", true),
  ("vms:restart:own", true), ("vms:console:own", true), ("vms:snapshots:own", true)]

def addVpsPermissions : PermissionMap :=
  if name = "user" then perms.addMissing (.ofList vpsPermissions) else perms

/-- The part of `migrate_cluster_support` that is about the role `admin`. -/
def grantClusterManage : PermissionMap :=
  if name = "admin" then
    let kept := perms.erase "proxmox.cluster.manage"
    if PermissionMap.enabled kept "cluster:manage" then kept else kept.set "cluster:manage" true
  else perms

/-- `migrate_user_role_remove_dashboard`. -/
def removeDashboard : PermissionMap :=
  if name = "user" then
    let kept := perms.erase "dashboard.view"
    if kept.get? "dashboard:view" = some false then kept else kept.set "dashboard:view" false
  else perms

/-- The `additions` of `backfill_granular_permissions`. -/
def backfillAdditions : List (String × Bool) :=
  (granularBackfill.filter fun entry => decide (perms.get? entry.1 = some true)).flatMap
    fun entry => (entry.2.filter fun code => (perms.get? code).isNone).map fun code => (code, true)

def backfillPermissions : PermissionMap := perms.merge (.ofList (backfillAdditions perms))

/-- `migrate_setting_view_panel_only`: the roles it takes `setting:view` from. -/
def losesSettingView : Bool :=
  perms.enabled "setting:view" &&
    !(perms.enabled "setting:update" || perms.enabled "setting:manage")

def splitSettingView (done : Bool) : PermissionMap :=
  if !done && losesSettingView perms then perms.erase "setting:view" else perms

/-- What `migrate_coolify_permissions` gives to the built-in roles. -/
def coolifyGrants (name : String) : List (String × Bool) :=
  if name = "admin" then
    [("coolify:view", true), ("coolify:control", true), ("coolify:deploy", true),
      ("coolify:manage", true)]
  else if name = "moderator" ∨ name = "user" then
    [("coolify:view", true), ("coolify:control", true), ("coolify:deploy", true)]
  else []

def addCoolifyPermissions (done : Bool) : PermissionMap :=
  if done then perms else perms.addMissing (.ofList (coolifyGrants name))

/-- The passes of one start-up up to the split, in their order. -/
def seedRole : PermissionMap :=
  ensureDefaults name
    (backfillPermissions
      (removeDashboard name
        (grantClusterManage name (addVpsPermissions name (ensureDefaults name (migrateRole perms))))))

/-- All passes of one start-up; the last two look at their markers. -/
def startRole (splitDone coolifyDone : Bool) : PermissionMap :=
  addCoolifyPermissions name (splitSettingView (seedRole name perms) splitDone) coolifyDone

end Passes

/-! ### Grants and denials -/

/-- Some spelling of the permission is switched on. -/
def Granted (perms : PermissionMap) (code : String) : Prop :=
  ∃ spelling, resolvePermission spelling = code ∧ perms.get? spelling = some true

/-- The permission has an entry, and every entry of it is switched off. -/
structure Denied (perms : PermissionMap) (code : String) : Prop where
  entry : ∃ spelling, resolvePermission spelling = code ∧ perms.get? spelling = some false
  notGranted : ¬Granted perms code

/-- What a role of this name gets by default. -/
def defaultPermission (name code : String) : Option Bool :=
  newDefaultRoles.findSome? fun data =>
    if data.name = name then (KeyedTable.ofList data.permissions).get? code else none

/-- The last item that says something about a new code: the code itself, or an old spelling
that is switched on. -/
def verdict (items : List (String × Bool)) (code : String) : Option Bool :=
  items.foldl (fun sofar item =>
    if item.1 = code then some item.2
    else if legacyCode item.1 = some code && item.2 then some true
    else sofar) none

/-! ### The code tables -/

theorem mem_of_any {chars : List Char} {c : Char}
    (h : (chars.any fun c' => c'.toNat == c.toNat) = true) : c ∈ chars := by
  obtain ⟨c', hmem, heq⟩ := List.any_eq_true.mp h
  exact Char.toNat_inj.mp (beq_iff_eq.mp heq) ▸ hmem

/-- A literal code is new by its characters. -/
theorem isNewCode_ofList {chars : List Char}
    (h : (chars.any fun c => c.toNat == ':'.toNat) = true) :
    isNewCode (String.ofList chars) = true := by
  unfold isNewCode
  rw [String.toList_ofList]
  exact decide_eq_true (mem_of_any h)

/-- A literal code is old by its characters. -/
theorem isOldCode_ofList {chars : List Char}
    (hdot : (chars.any fun c => c.toNat == '.'.toNat) = true)
    (hcolon : (chars.all fun c => c.toNat != ':'.toNat) = true) :
    isOldCode (String.ofList chars) = true := by
  unfold isOldCode isNewCode
  rw [String.toList_ofList, decide_eq_true (mem_of_any hdot), Bool.true_and, Bool.not_eq_true']
  refine decide_eq_false fun hmem => ?_
  have hne := List.all_eq_true.mp hcolon ':' hmem
  rw [bne_self_eq_false] at hne
  cases hne

theorem legacyPermissionMap_codes :
    ∀ entry ∈ legacyPermissionMap, isOldCode entry.1 = true ∧ isNewCode entry.2 = true := by
  unfold legacyPermissionMap
  repeat' first
    | exact List.forall_mem_nil _
    | refine List.forall_mem_cons.mpr ⟨⟨isOldCode_ofList rfl rfl, isNewCode_ofList rfl⟩, ?_⟩

theorem newDefaultRoles_codes :
    ∀ data ∈ newDefaultRoles, ∀ item ∈ data.permissions, isNewCode item.1 = true := by
  unfold newDefaultRoles
  repeat' first
    | exact List.forall_mem_nil _
    | refine List.forall_mem_cons.mpr ⟨isNewCode_ofList rfl, ?_⟩
    | refine List.forall_mem_cons.mpr ⟨?_, ?_⟩

theorem vpsPermissions_codes : ∀ item ∈ vpsPermissions, isNewCode item.1 = true := by
  unfold vpsPermissions
  repeat' first
    | exact List.forall_mem_nil _
    | refine List.forall_mem_cons.mpr ⟨isNewCode_ofList rfl, ?_⟩

theorem granularBackfill_codes :
    ∀ entry ∈ granularBackfill, ∀ code ∈ entry.2, isNewCode code = true := by
  unfold granularBackfill
  repeat' first
    | exact List.forall_mem_nil _
    | refine List.forall_mem_cons.mpr ⟨isNewCode_ofList rfl, ?_⟩
    | refine List.forall_mem_cons.mpr ⟨?_, ?_⟩

theorem legacyPermissionMap_nodup : (legacyPermissionMap.map Prod.fst).Nodup := by
  decide +kernel

/-- Every old code of the table is read as its new one. -/
theorem legacyCode_of_mem {code new : String} (h : (code, new) ∈ legacyPermissionMap) :
    legacyCode code = some new :=
  KeyedTable.get?_ofList_of_mem legacyPermissionMap_nodup h

theorem legacyCode_codes {code new : String} (h : legacyCode code = some new) :
    isOldCode code = true ∧ isNewCode new = true :=
  legacyPermissionMap_codes _ (KeyedTable.get?_ofList_eq_some h)

theorem not_isNewCode_of_isOldCode {code : String} (h : isOldCode code = true) :
    isNewCode code = false := by
  unfold isOldCode at h
  rw [Bool.and_eq_true, Bool.not_eq_true'] at h
  exact h.2

theorem legacyCode_of_isNewCode {code : String} (h : isNewCode code = true) :
    legacyCode code = none := by
  rw [Option.eq_none_iff_forall_ne_some]
  intro new hnew
  rw [not_isNewCode_of_isOldCode (legacyCode_codes hnew).1] at h
  cases h

theorem resolvePermission_of_isNewCode {code : String} (h : isNewCode code = true) :
    resolvePermission code = code := by
  unfold resolvePermission
  rw [legacyCode_of_isNewCode h]
  rfl

/-! ### The conversion -/

section Conversion

variable {perms perms' : PermissionMap} {code : String}

/-- One item as the conversion of a new code reads it. -/
theorem get?_convertItem (hnew : isNewCode code = true) (item : String × Bool) :
    (convertItem perms item).get? code =
      if item.1 = code then some item.2
      else if legacyCode item.1 = some code && item.2 then some true
      else perms.get? code := by
  unfold convertItem
  by_cases hitem : isNewCode item.1 = true
  · rw [if_pos hitem, KeyedTable.get?_set, legacyCode_of_isNewCode hitem]
    simp
  · have hne : item.1 ≠ code := fun he => hitem (he ▸ hnew)
    rw [if_neg hitem, if_neg hne]
    cases hlegacy : legacyCode item.1 with
    | some new =>
      cases item.2 with
      | true => simp [KeyedTable.get?_set]
      | false => simp
    | none =>
      cases item.2 with
      | true => simp [KeyedTable.get?_set, hne]
      | false => simp

theorem get?_convert (hnew : isNewCode code = true) :
    (convertPermissionsToNewFormat perms).get? code = verdict perms.rows code := by
  unfold convertPermissionsToNewFormat verdict
  have hfold : ∀ (items : List (String × Bool)) (sofar : PermissionMap),
      (items.foldl convertItem sofar).get? code =
        items.foldl (fun sofar item =>
          if item.1 = code then some item.2
          else if legacyCode item.1 = some code && item.2 then some true
          else sofar) (sofar.get? code) := by
    intro items
    induction items with
    | nil => exact fun _ => rfl
    | cons item items ih =>
      intro sofar
      rw [List.foldl_cons, List.foldl_cons, ih, get?_convertItem hnew]
  exact hfold perms.rows .empty

/-- Of the codes without a colon, the conversion keeps the unknown ones that are switched on. -/
theorem get?_convert_of_not_new (hnew : isNewCode code = false) :
    (convertPermissionsToNewFormat perms).get? code =
      if legacyCode code = none ∧ perms.get? code = some true then some true else none := by
  have hitem : ∀ (sofar : PermissionMap) (item : String × Bool),
      (convertItem sofar item).get? code =
        if legacyCode code = none ∧ item = (code, true) then some true else sofar.get? code := by
    rintro sofar ⟨k, x⟩
    unfold convertItem
    dsimp only
    by_cases hk : isNewCode k = true
    · have hne : k ≠ code := by
        rintro rfl
        rw [hnew] at hk
        cases hk
      rw [if_pos hk, KeyedTable.get?_set, if_neg hne]
      simp [hne]
    · rw [if_neg hk]
      cases hlegacy : legacyCode k with
      | some new =>
        have hne : new ≠ code := by
          rintro rfl
          rw [(legacyCode_codes hlegacy).2] at hnew
          cases hnew
        have hno : ¬(legacyCode code = none ∧ (k, x) = (code, true)) := by
          rintro ⟨hnone, heq⟩
          cases heq
          rw [hlegacy] at hnone
          cases hnone
        rw [if_neg hno]
        cases x with
        | true => simp [KeyedTable.get?_set, hne]
        | false => simp
      | none =>
        by_cases hkc : k = code
        · subst hkc
          cases x with
          | true => simp [KeyedTable.get?_set, hlegacy]
          | false => simp
        · cases x with
          | true => simp [KeyedTable.get?_set, hkc]
          | false => simp
  have hfold : ∀ (items : List (String × Bool)) (sofar : PermissionMap),
      (items.foldl convertItem sofar).get? code =
        if legacyCode code = none ∧ (code, true) ∈ items then some true else sofar.get? code := by
    intro items
    induction items with
    | nil => simp
    | cons item items ih =>
      intro sofar
      rw [List.foldl_cons, ih, hitem]
      by_cases hnone : legacyCode code = none
      · by_cases hmem : (code, true) ∈ items
        · simp [hnone, hmem]
        · by_cases heq : item = (code, true)
          · simp [hnone, heq]
          · simp [hnone, hmem, heq, Ne.symm heq]
      · simp [hnone]
  unfold convertPermissionsToNewFormat
  simp only [hfold perms.rows .empty, KeyedTable.get?_eq_some_iff, KeyedTable.get?_empty]

theorem hasOldFormat_iff :
    hasOldFormat perms = true ↔ ∃ code x, perms.get? code = some x ∧ isOldCode code = true := by
  unfold hasOldFormat
  rw [List.any_eq_true]
  constructor
  · rintro ⟨⟨code, x⟩, hmem, hold⟩
    exact ⟨code, x, KeyedTable.get?_eq_some_iff.mpr hmem, hold⟩
  · rintro ⟨code, x, hget, hold⟩
    exact ⟨(code, x), KeyedTable.get?_eq_some_iff.mp hget, hold⟩

/-- The conversion has nothing to do. -/
def Converted (perms : PermissionMap) : Prop :=
  hasOldFormat perms = true → ∀ code x, perms.get? code = some x →
    isNewCode code = true ∨ (legacyCode code = none ∧ x = true)

/-- New codes do not call for another conversion. -/
theorem Converted.of_new (h : Converted perms)
    (hsub : ∀ code x, perms'.get? code = some x → isNewCode code = true ∨
      perms.get? code = some x) : Converted perms' := by
  intro hold code x hget
  rcases hsub code x hget with hnew | hget'
  · exact Or.inl hnew
  · obtain ⟨old, y, hgetold, hisold⟩ := hasOldFormat_iff.mp hold
    have hgetold' : perms.get? old = some y := by
      refine (hsub old y hgetold).resolve_left fun hnew => ?_
      rw [not_isNewCode_of_isOldCode hisold] at hnew
      cases hnew
    exact h (hasOldFormat_iff.mpr ⟨old, y, hgetold', hisold⟩) code x hget'

theorem converted_normalized (perms : PermissionMap) : Converted (normalized perms) := by
  unfold normalized
  split
  · intro _ code x hget
    cases hnew : isNewCode code with
    | true => exact Or.inl rfl
    | false =>
      rw [get?_convert_of_not_new hnew] at hget
      split at hget
      · rename_i hkept
        exact Or.inr ⟨hkept.1, (Option.some.inj hget).symm⟩
      · cases hget
  · rename_i hold
    exact fun h => absurd h hold

/-- A converted map has no old code that stands for a new one. -/
theorem Converted.get?_of_legacyCode (h : Converted perms) {new : String}
    (hlegacy : legacyCode code = some new) : perms.get? code = none := by
  rw [Option.eq_none_iff_forall_ne_some]
  intro x hget
  have hold := (legacyCode_codes hlegacy).1
  rcases h (hasOldFormat_iff.mpr ⟨code, x, hget, hold⟩) code x hget with hnew | ⟨hnone, -⟩
  · rw [not_isNewCode_of_isOldCode hold] at hnew
    cases hnew
  · rw [hlegacy] at hnone
    cases hnone

/-- Without an old spelling that is switched on, the last word on a code is its entry. -/
theorem verdict_eq_get? (hnone : ∀ old, perms.get? old = some true → legacyCode old ≠ some code) :
    verdict perms.rows code = perms.get? code := by
  have hfold : ∀ (items : List (String × Bool)) (sofar : Option Bool),
      (∀ item ∈ items, (decide (legacyCode item.1 = some code) && item.2) = false) →
      (∃ x, (code, x) ∈ items ∧ items.foldl (fun sofar item =>
          if item.1 = code then some item.2
          else if legacyCode item.1 = some code && item.2 then some true
          else sofar) sofar = some x) ∨
        (∀ x, (code, x) ∉ items) ∧ items.foldl (fun sofar item =>
          if item.1 = code then some item.2
          else if legacyCode item.1 = some code && item.2 then some true
          else sofar) sofar = sofar := by
    intro items
    induction items with
    | nil => exact fun _ _ => Or.inr ⟨fun _ => List.not_mem_nil, rfl⟩
    | cons item items ih =>
      intro sofar hno
      rw [List.foldl_cons]
      have hrest : ∀ item ∈ items, (decide (legacyCode item.1 = some code) && item.2) = false :=
        fun item hitem => hno item (List.mem_cons_of_mem _ hitem)
      rcases ih _ hrest with ⟨x, hmem, hx⟩ | ⟨habsent, hx⟩
      · exact Or.inl ⟨x, List.mem_cons_of_mem _ hmem, hx⟩
      · rw [hx]
        by_cases hcode : item.1 = code
        · refine Or.inl ⟨item.2, ?_, if_pos hcode⟩
          rw [← hcode]
          exact List.mem_cons_self
        · refine Or.inr ⟨fun x hmem => ?_, ?_⟩
          · rcases List.mem_cons.mp hmem with rfl | hmem
            · exact hcode rfl
            · exact habsent x hmem
          · rw [if_neg hcode, hno item List.mem_cons_self]
            rfl
  have hitems : ∀ item ∈ perms.rows, (decide (legacyCode item.1 = some code) && item.2) = false := by
    rintro ⟨old, x⟩ hitem
    cases x with
    | false => exact Bool.and_false _
    | true =>
      rw [Bool.and_true, decide_eq_false_iff_not]
      exact hnone old (KeyedTable.get?_eq_some_iff.mpr hitem)
  rcases hfold perms.rows none hitems with ⟨x, hmem, hx⟩ | ⟨habsent, hx⟩
  · exact hx.trans (KeyedTable.get?_eq_some_iff.mpr hmem).symm
  · exact hx.trans (KeyedTable.get?_eq_none_iff.mpr habsent).symm

theorem get?_normalized (hnew : isNewCode code = true) :
    (normalized perms).get? code = verdict perms.rows code := by
  unfold normalized
  split
  · exact get?_convert hnew
  · rename_i hold
    refine (verdict_eq_get? fun old hget hlegacy => hold ?_).symm
    exact hasOldFormat_iff.mpr ⟨old, true, hget, (legacyCode_codes hlegacy).1⟩

/-- Another conversion changes nothing. -/
theorem Converted.get?_normalized (h : Converted perms) (code : String) :
    (normalized perms).get? code = perms.get? code := by
  cases hnew : isNewCode code with
  | true =>
    rw [Rbac.get?_normalized hnew]
    refine verdict_eq_get? fun old hget hlegacy => ?_
    rw [h.get?_of_legacyCode hlegacy] at hget
    cases hget
  | false =>
    unfold normalized
    split
    · rename_i hold
      rw [get?_convert_of_not_new hnew]
      cases hget : perms.get? code with
      | none => simp
      | some x =>
        rcases h hold code x hget with hnew' | ⟨hnone, rfl⟩
        · rw [hnew] at hnew'
          cases hnew'
        · simp [hnone]
    · rfl

end Conversion

end PveManager.Rbac
