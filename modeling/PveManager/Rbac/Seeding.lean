import PveManager.Rbac.Migration

/-!
# The passes on one map, read at a code

Each pass of a start-up adds entries for codes that have none, and two of them
set the entry of one code of one built-in role. A map that no pass writes to is
settled; the passes up to the split of `setting:view` settle every map.
-/

namespace PveManager.Rbac

open PveManager.Core

section Passes

variable {name code : String} {perms perms' : PermissionMap}

/-! ### What the passes read -/

theorem get?_ensureDefault (h : Converted perms) (data : RoleDefault) :
    (ensureDefault name perms data).get? code =
      (perms.get? code).or
        (if data.name = name then (KeyedTable.ofList data.permissions).get? code else none) := by
  unfold ensureDefault ensurePermissions
  by_cases hname : data.name = name
  · rw [if_pos hname, if_pos hname, ← h.get?_normalized code]
    dsimp only
    split
    · rename_i hempty
      have hnone : (normalized perms).get? code = none :=
        KeyedTable.get?_eq_none_iff.mpr fun x hmem => by
          rw [List.isEmpty_iff.mp hempty] at hmem
          cases hmem
      rw [hnone, Option.none_or]
    · exact KeyedTable.get?_addMissing
  · rw [if_neg hname, if_neg hname, Option.or_none]

/-- A pass that adds entries for new codes keeps the map converted. -/
theorem Converted.of_or (h : Converted perms) {added : String → Option Bool}
    (hget : ∀ code, perms'.get? code = (perms.get? code).or (added code))
    (hnew : ∀ code x, added code = some x → isNewCode code = true) : Converted perms' := by
  apply h.of_new
  intro code x hx
  rw [hget, Option.or_eq_some_iff] at hx
  rcases hx with hx | ⟨-, hx⟩
  · exact Or.inr hx
  · exact Or.inl (hnew code x hx)

theorem Converted.ensureDefault (h : Converted perms) {data : RoleDefault}
    (hdata : data ∈ newDefaultRoles) : Converted (ensureDefault name perms data) := by
  refine h.of_or (fun _ => get?_ensureDefault h data) fun code x hx => ?_
  split at hx
  · exact newDefaultRoles_codes data hdata _ (KeyedTable.get?_ofList_eq_some hx)
  · cases hx

private theorem ensureDefaults_spec (datas : List RoleDefault)
    (hdatas : ∀ data ∈ datas, data ∈ newDefaultRoles) (perms : PermissionMap)
    (h : Converted perms) :
    Converted (datas.foldl (ensureDefault name) perms) ∧
      ∀ code, (datas.foldl (ensureDefault name) perms).get? code =
        (perms.get? code).or (datas.findSome? fun data =>
          if data.name = name then (KeyedTable.ofList data.permissions).get? code else none) := by
  induction datas generalizing perms with
  | nil => exact ⟨h, fun code => (Option.or_none).symm⟩
  | cons data datas ih =>
    have hrest : ∀ data ∈ datas, data ∈ newDefaultRoles :=
      fun data hdata => hdatas data (List.mem_cons_of_mem _ hdata)
    obtain ⟨hconv, hget⟩ := ih hrest (Rbac.ensureDefault name perms data)
      (h.ensureDefault (hdatas data List.mem_cons_self))
    refine ⟨hconv, fun code => ?_⟩
    rw [List.foldl_cons, hget, get?_ensureDefault h, Option.or_assoc, List.findSome?_cons]
    cases (if data.name = name then (KeyedTable.ofList data.permissions).get? code else none) <;>
      rfl

theorem Converted.ensureDefaults (h : Converted perms) : Converted (ensureDefaults name perms) :=
  (ensureDefaults_spec newDefaultRoles (fun _ hdata => hdata) perms h).1

theorem get?_ensureDefaults (h : Converted perms) :
    (ensureDefaults name perms).get? code = (perms.get? code).or (defaultPermission name code) :=
  (ensureDefaults_spec newDefaultRoles (fun _ hdata => hdata) perms h).2 code

/-- The entries that a role of this name gets for its own machines. -/
def vpsPermission (name code : String) : Option Bool :=
  if name = "user" then (KeyedTable.ofList vpsPermissions).get? code else none

theorem get?_addVpsPermissions :
    (addVpsPermissions name perms).get? code = (perms.get? code).or (vpsPermission name code) := by
  unfold addVpsPermissions vpsPermission
  split
  · exact KeyedTable.get?_addMissing
  · rw [Option.or_none]

theorem get?_grantClusterManage (h : Converted perms) :
    (grantClusterManage name perms).get? code =
      if name = "admin" ∧ code = "cluster:manage" then some true else perms.get? code := by
  have hlegacy : legacyCode "proxmox.cluster.manage" = some "cluster:manage" :=
    legacyCode_of_mem (by simp [legacyPermissionMap])
  have hold := h.get?_of_legacyCode hlegacy
  have herase : (perms.erase "proxmox.cluster.manage").get? code = perms.get? code := by
    rw [KeyedTable.get?_erase]
    split
    · rename_i hcode
      rw [hcode, hold]
    · rfl
  unfold grantClusterManage
  by_cases hname : name = "admin"
  · rw [if_pos hname]
    dsimp only
    split
    · rename_i hon
      rw [herase]
      by_cases hcode : code = "cluster:manage"
      · rw [if_pos ⟨hname, hcode⟩, ← herase, hcode]
        unfold PermissionMap.enabled at hon
        change ((KeyedTable.get? _ _).getD false) = true at hon
        revert hon
        cases KeyedTable.get? (perms.erase "proxmox.cluster.manage") "cluster:manage" with
        | none => exact fun hon => by cases hon
        | some x => exact fun hon => congrArg some hon
      · rw [if_neg fun hboth => hcode hboth.2]
    · rw [KeyedTable.get?_set, herase]
      by_cases hcode : "cluster:manage" = code
      · rw [if_pos hcode, if_pos ⟨hname, hcode.symm⟩]
      · rw [if_neg hcode, if_neg fun hboth => hcode hboth.2.symm]
  · rw [if_neg hname, if_neg fun hboth => hname hboth.1]

theorem get?_removeDashboard (h : Converted perms) :
    (removeDashboard name perms).get? code =
      if name = "user" ∧ code = "dashboard:view" then some false else perms.get? code := by
  have hlegacy : legacyCode "dashboard.view" = some "dashboard:view" :=
    legacyCode_of_mem (by simp [legacyPermissionMap])
  have hold := h.get?_of_legacyCode hlegacy
  have herase : (perms.erase "dashboard.view").get? code = perms.get? code := by
    rw [KeyedTable.get?_erase]
    split
    · rename_i hcode
      rw [hcode, hold]
    · rfl
  unfold removeDashboard
  by_cases hname : name = "user"
  · rw [if_pos hname]
    dsimp only
    split
    · rename_i hoff
      rw [herase]
      by_cases hcode : code = "dashboard:view"
      · rw [if_pos ⟨hname, hcode⟩, ← herase, hcode, hoff]
      · rw [if_neg fun hboth => hcode hboth.2]
    · rw [KeyedTable.get?_set, herase]
      by_cases hcode : "dashboard:view" = code
      · rw [if_pos hcode, if_pos ⟨hname, hcode.symm⟩]
      · rw [if_neg hcode, if_neg fun hboth => hcode hboth.2.symm]
  · rw [if_neg hname, if_neg fun hboth => hname hboth.1]

/-- The code was split off from one that the map switches on. -/
def Implied (perms : PermissionMap) (code : String) : Prop :=
  ∃ entry ∈ granularBackfill, perms.get? entry.1 = some true ∧ code ∈ entry.2

theorem mem_backfillAdditions {x : Bool} :
    (code, x) ∈ backfillAdditions perms ↔
      x = true ∧ perms.get? code = none ∧ Implied perms code := by
  unfold backfillAdditions Implied
  rw [List.mem_flatMap]
  constructor
  · rintro ⟨entry, hentry, hmem⟩
    obtain ⟨hentry, hon⟩ := List.mem_filter.mp hentry
    obtain ⟨code', hcode', heq⟩ := List.mem_map.mp hmem
    cases heq
    obtain ⟨hmem', hnone⟩ := List.mem_filter.mp hcode'
    exact ⟨rfl, Option.isNone_iff_eq_none.mp hnone, entry, hentry, of_decide_eq_true hon, hmem'⟩
  · rintro ⟨rfl, hnone, entry, hentry, hon, hmem⟩
    refine ⟨entry, List.mem_filter.mpr ⟨hentry, decide_eq_true hon⟩, List.mem_map.mpr ⟨code, ?_, rfl⟩⟩
    exact List.mem_filter.mpr ⟨hmem, Option.isNone_iff_eq_none.mpr hnone⟩

/-- Entries stay. -/
theorem get?_backfillPermissions_of_some {x : Bool} (h : perms.get? code = some x) :
    (backfillPermissions perms).get? code = some x := by
  unfold backfillPermissions
  rw [KeyedTable.get?_merge]
  cases hadd : (KeyedTable.ofList (backfillAdditions perms)).get? code with
  | none => exact h
  | some y =>
    have hnone := (mem_backfillAdditions.mp (KeyedTable.get?_ofList_eq_some hadd)).2.1
    rw [h] at hnone
    cases hnone

theorem get?_backfillPermissions_of_implied (hnone : perms.get? code = none)
    (h : Implied perms code) : (backfillPermissions perms).get? code = some true := by
  unfold backfillPermissions
  rw [KeyedTable.get?_merge]
  obtain ⟨y, hy⟩ := KeyedTable.get?_ofList_isSome (mem_backfillAdditions.mpr ⟨rfl, hnone, h⟩)
  have htrue := (mem_backfillAdditions.mp (KeyedTable.get?_ofList_eq_some hy)).1
  rw [hy, htrue]
  rfl

theorem get?_backfillPermissions_of_not_implied (h : ¬Implied perms code) :
    (backfillPermissions perms).get? code = perms.get? code := by
  unfold backfillPermissions
  rw [KeyedTable.get?_merge]
  cases hadd : (KeyedTable.ofList (backfillAdditions perms)).get? code with
  | none => rfl
  | some y =>
    exact absurd (mem_backfillAdditions.mp (KeyedTable.get?_ofList_eq_some hadd)).2.2 h

/-- The entries that a role of this name gets for Coolify. -/
def coolifyPermission (name code : String) (done : Bool) : Option Bool :=
  if done then none else (KeyedTable.ofList (coolifyGrants name)).get? code

theorem get?_addCoolifyPermissions (done : Bool) :
    (addCoolifyPermissions name perms done).get? code =
      (perms.get? code).or (coolifyPermission name code done) := by
  unfold addCoolifyPermissions coolifyPermission
  split
  · rw [Option.or_none]
  · exact KeyedTable.get?_addMissing

theorem get?_splitSettingView (done : Bool) :
    (splitSettingView perms done).get? code =
      if (!done && losesSettingView perms) = true ∧ code = "setting:view" then none
      else perms.get? code := by
  unfold splitSettingView
  by_cases hlost : (!done && losesSettingView perms) = true
  · rw [if_pos hlost, KeyedTable.get?_erase]
    simp only [hlost, true_and]
  · rw [if_neg hlost, if_neg fun hboth => hlost hboth.1]

/-- A role has what its table lists. -/
theorem isSome_defaultPermission (data : RoleDefault) (hdata : data ∈ newDefaultRoles)
    {item : String × Bool} (h : item ∈ data.permissions) :
    (defaultPermission data.name item.1).isSome = true := by
  obtain ⟨x, hx⟩ := KeyedTable.get?_ofList_isSome h
  refine List.findSome?_isSome_iff.mpr ⟨data, hdata, ?_⟩
  rw [if_pos rfl, hx]
  rfl

theorem coolifyGrants_default (name : String) :
    ∀ item ∈ coolifyGrants name, (defaultPermission name item.1).isSome = true := by
  unfold coolifyGrants
  split
  · rename_i hname
    subst hname
    have hmem : ∀ item ∈ [("coolify:view", true), ("coolify:control", true),
        ("coolify:deploy", true), ("coolify:manage", true)], item ∈ newAdmin.permissions := by
      simp [newAdmin]
    exact fun item hitem =>
      isSome_defaultPermission newAdmin (by simp [newDefaultRoles]) (hmem item hitem)
  · split
    · rename_i hname
      have hmem : ∀ data ∈ [newModerator, newUser], ∀ item ∈ [("coolify:view", true),
          ("coolify:control", true), ("coolify:deploy", true)], item ∈ data.permissions := by
        simp [newModerator, newUser]
      rcases hname with rfl | rfl
      · exact fun item hitem => isSome_defaultPermission newModerator
          (by simp [newDefaultRoles]) (hmem newModerator (by simp) item hitem)
      · exact fun item hitem => isSome_defaultPermission newUser
          (by simp [newDefaultRoles]) (hmem newUser (by simp) item hitem)
    · exact fun item hitem => absurd hitem List.not_mem_nil

/-! ### Converted maps -/

theorem Converted.addVpsPermissions (h : Converted perms) :
    Converted (addVpsPermissions name perms) := by
  refine h.of_or (fun _ => get?_addVpsPermissions) fun code x hx => ?_
  unfold vpsPermission at hx
  split at hx
  · exact vpsPermissions_codes _ (KeyedTable.get?_ofList_eq_some hx)
  · cases hx

theorem Converted.grantClusterManage (h : Converted perms) :
    Converted (grantClusterManage name perms) := by
  apply h.of_new
  intro code x hx
  rw [get?_grantClusterManage h] at hx
  split at hx
  · rename_i hboth
    rw [hboth.2]
    exact Or.inl (isNewCode_ofList rfl)
  · exact Or.inr hx

theorem Converted.removeDashboard (h : Converted perms) :
    Converted (removeDashboard name perms) := by
  apply h.of_new
  intro code x hx
  rw [get?_removeDashboard h] at hx
  split at hx
  · rename_i hboth
    rw [hboth.2]
    exact Or.inl (isNewCode_ofList rfl)
  · exact Or.inr hx

theorem Converted.backfillPermissions (h : Converted perms) :
    Converted (backfillPermissions perms) := by
  apply h.of_new
  intro code x hx
  by_cases himplied : Implied perms code
  · obtain ⟨entry, hentry, -, hmem⟩ := himplied
    exact Or.inl (granularBackfill_codes entry hentry code hmem)
  · rw [get?_backfillPermissions_of_not_implied himplied] at hx
    exact Or.inr hx

/-! ### Settled maps -/

/-- Two maps that read the same at every code. -/
def Same (perms perms' : PermissionMap) : Prop := ∀ code, perms.get? code = perms'.get? code

/-- No pass that runs at every start-up has anything to write. -/
structure Settled (name : String) (perms : PermissionMap) : Prop where
  converted : Converted perms
  defaults : ∀ code, (defaultPermission name code).isSome = true → (perms.get? code).isSome = true
  vps : ∀ code, (vpsPermission name code).isSome = true → (perms.get? code).isSome = true
  cluster : name = "admin" → perms.get? "cluster:manage" = some true
  dashboard : name = "user" → perms.get? "dashboard:view" = some false
  implied : ∀ code, Implied perms code → (perms.get? code).isSome = true

private theorem or_eq_left {a b : Option Bool} (h : b.isSome = true → a.isSome = true) :
    a.or b = a := by
  cases a with
  | some x => rfl
  | none =>
    cases b with
    | none => rfl
    | some y => cases h rfl

theorem Implied.congr (hsame : Same perms perms') (h : Implied perms code) :
    Implied perms' code := by
  obtain ⟨entry, hentry, hon, hmem⟩ := h
  exact ⟨entry, hentry, hsame entry.1 ▸ hon, hmem⟩

theorem Settled.congr (h : Settled name perms) (hsame : Same perms' perms) :
    Settled name perms' where
  converted := h.converted.of_new fun code _ hx => Or.inr (hsame code ▸ hx)
  defaults := fun code hcode => hsame code ▸ h.defaults code hcode
  vps := fun code hcode => hsame code ▸ h.vps code hcode
  cluster := fun hname => (hsame _).trans (h.cluster hname)
  dashboard := fun hname => (hsame _).trans (h.dashboard hname)
  implied := fun code himplied => hsame code ▸ h.implied code (himplied.congr hsame)

theorem Settled.same_ensureDefaults (h : Settled name perms) :
    Same (ensureDefaults name perms) perms :=
  fun code => (get?_ensureDefaults h.converted).trans (or_eq_left (h.defaults code))

theorem Settled.same_addVpsPermissions (h : Settled name perms) :
    Same (addVpsPermissions name perms) perms :=
  fun code => get?_addVpsPermissions.trans (or_eq_left (h.vps code))

theorem Settled.same_grantClusterManage (h : Settled name perms) :
    Same (grantClusterManage name perms) perms := by
  intro code
  rw [get?_grantClusterManage h.converted]
  split
  · rename_i hboth
    rw [hboth.2, h.cluster hboth.1]
  · rfl

theorem Settled.same_removeDashboard (h : Settled name perms) :
    Same (removeDashboard name perms) perms := by
  intro code
  rw [get?_removeDashboard h.converted]
  split
  · rename_i hboth
    rw [hboth.2, h.dashboard hboth.1]
  · rfl

theorem Settled.same_backfillPermissions (h : Settled name perms) :
    Same (backfillPermissions perms) perms := by
  intro code
  by_cases himplied : Implied perms code
  · obtain ⟨x, hx⟩ := Option.isSome_iff_exists.mp (h.implied code himplied)
    rw [get?_backfillPermissions_of_some hx, hx]
  · exact get?_backfillPermissions_of_not_implied himplied

/-- A settled map goes through the passes up to the split. -/
theorem Settled.same_seedRole (h : Settled name perms) : Same (seedRole name perms) perms := by
  have hmigrate : Same (migrateRole perms) perms := h.converted.get?_normalized
  have h1 := h.congr hmigrate
  have h2 := h1.congr h1.same_ensureDefaults
  have h3 := h2.congr h2.same_addVpsPermissions
  have h4 := h3.congr h3.same_grantClusterManage
  have h5 := h4.congr h4.same_removeDashboard
  have h6 := h5.congr h5.same_backfillPermissions
  intro code
  unfold seedRole
  rw [h6.same_ensureDefaults, h5.same_backfillPermissions, h4.same_removeDashboard,
    h3.same_grantClusterManage, h2.same_addVpsPermissions, h1.same_ensureDefaults, hmigrate]

/-- A settled map goes through a whole start-up, once the markers are set. -/
theorem Settled.same_startRole (h : Settled name perms) :
    Same (startRole name perms true true) perms := h.same_seedRole

/-! ### The passes up to the split -/

/-- The entry of a new code after the conversion and the first seeding. -/
def seeded (name : String) (perms : PermissionMap) (code : String) : Option Bool :=
  (verdict perms.rows code).or (defaultPermission name code)

/-- The map as the split of umbrella permissions finds it. -/
def beforeBackfill (name : String) (perms : PermissionMap) : PermissionMap :=
  removeDashboard name
    (grantClusterManage name (addVpsPermissions name (ensureDefaults name (migrateRole perms))))

theorem converted_beforeBackfill (name : String) (perms : PermissionMap) :
    Converted (beforeBackfill name perms) :=
  (converted_normalized perms).ensureDefaults.addVpsPermissions.grantClusterManage.removeDashboard

/-- What the passes before the backfill leave at a new code. -/
theorem get?_beforeBackfill (hnew : isNewCode code = true) :
    (beforeBackfill name perms).get? code =
      if name = "user" ∧ code = "dashboard:view" then some false
      else if name = "admin" ∧ code = "cluster:manage" then some true
      else (seeded name perms code).or (vpsPermission name code) := by
  have h1 : Converted (migrateRole perms) := converted_normalized perms
  have h3 : Converted (addVpsPermissions name (ensureDefaults name (migrateRole perms))) :=
    h1.ensureDefaults.addVpsPermissions
  unfold beforeBackfill
  rw [get?_removeDashboard h3.grantClusterManage, get?_grantClusterManage h3,
    get?_addVpsPermissions, get?_ensureDefaults h1]
  unfold migrateRole seeded
  rw [get?_normalized hnew]

theorem mem_of_defaultPermission {x : Bool} (h : defaultPermission name code = some x) :
    ∃ data ∈ newDefaultRoles, data.name = name ∧ (code, x) ∈ data.permissions := by
  obtain ⟨data, hdata, hget⟩ := List.exists_of_findSome?_eq_some h
  split at hget
  · rename_i hname
    exact ⟨data, hdata, hname, KeyedTable.get?_ofList_eq_some hget⟩
  · cases hget

theorem isNewCode_of_default {x : Bool} (h : defaultPermission name code = some x) :
    isNewCode code = true := by
  obtain ⟨data, hdata, -, hmem⟩ := mem_of_defaultPermission h
  exact newDefaultRoles_codes data hdata _ hmem

/-- Seeded codes are there before the backfill. -/
theorem isSome_beforeBackfill (h : (defaultPermission name code).isSome = true ∨
    (vpsPermission name code).isSome = true) :
    ((beforeBackfill name perms).get? code).isSome = true := by
  have hnew : isNewCode code = true := by
    rcases h with h | h
    · obtain ⟨x, hx⟩ := Option.isSome_iff_exists.mp h
      exact isNewCode_of_default hx
    · obtain ⟨x, hx⟩ := Option.isSome_iff_exists.mp h
      unfold vpsPermission at hx
      split at hx
      · exact vpsPermissions_codes _ (KeyedTable.get?_ofList_eq_some hx)
      · cases hx
  rw [get?_beforeBackfill hnew]
  split
  · rfl
  · split
    · rfl
    · unfold seeded
      rw [Option.isSome_or, Option.isSome_or, Bool.or_eq_true, Bool.or_eq_true]
      rcases h with h | h
      · exact Or.inl (Or.inr h)
      · exact Or.inr h

theorem isSome_backfillPermissions (h : (perms.get? code).isSome = true) :
    ((backfillPermissions perms).get? code).isSome = true := by
  obtain ⟨x, hx⟩ := Option.isSome_iff_exists.mp h
  rw [get?_backfillPermissions_of_some hx]
  rfl

/-- The second seeding finds every default in place. -/
theorem same_seedRole (name : String) (perms : PermissionMap) :
    Same (seedRole name perms) (backfillPermissions (beforeBackfill name perms)) := by
  intro code
  refine (get?_ensureDefaults (converted_beforeBackfill name perms).backfillPermissions).trans ?_
  exact or_eq_left fun hcode => isSome_backfillPermissions (isSome_beforeBackfill (Or.inl hcode))

private theorem umbrella_not_implied :
    ∀ entry ∈ granularBackfill, ∀ entry' ∈ granularBackfill, entry.1 ∉ entry'.2 := by
  decide +kernel

/-- The backfill leaves the permissions that others were split off from. -/
theorem get?_umbrella {entry : String × List String} (hentry : entry ∈ granularBackfill) :
    (backfillPermissions perms).get? entry.1 = perms.get? entry.1 := by
  apply get?_backfillPermissions_of_not_implied
  rintro ⟨entry', hentry', -, hmem⟩
  exact umbrella_not_implied entry hentry entry' hentry' hmem

theorem get?_seedRole_of_before {x : Bool} (h : (beforeBackfill name perms).get? code = some x) :
    (seedRole name perms).get? code = some x :=
  (same_seedRole name perms code).trans (get?_backfillPermissions_of_some h)

/-- One round of passes settles every map. -/
theorem settled_seedRole (name : String) (perms : PermissionMap) :
    Settled name (seedRole name perms) := by
  have hsettled : Settled name (backfillPermissions (beforeBackfill name perms)) := by
    constructor
    · exact (converted_beforeBackfill name perms).backfillPermissions
    · exact fun code h => isSome_backfillPermissions (isSome_beforeBackfill (Or.inl h))
    · exact fun code h => isSome_backfillPermissions (isSome_beforeBackfill (Or.inr h))
    · intro hname
      apply get?_backfillPermissions_of_some
      rw [get?_beforeBackfill (isNewCode_ofList rfl), if_neg, if_pos ⟨hname, rfl⟩]
      rintro ⟨huser, -⟩
      rw [hname] at huser
      exact absurd huser (by decide)
    · intro hname
      apply get?_backfillPermissions_of_some
      rw [get?_beforeBackfill (isNewCode_ofList rfl), if_pos ⟨hname, rfl⟩]
    · rintro code ⟨entry, hentry, hon, hmem⟩
      rw [get?_umbrella hentry] at hon
      cases hcode : (beforeBackfill name perms).get? code with
      | some x => exact isSome_backfillPermissions (hcode ▸ rfl)
      | none =>
        rw [get?_backfillPermissions_of_implied hcode ⟨entry, hentry, hon, hmem⟩]
        rfl
  exact hsettled.congr (same_seedRole name perms)

/-! ### The split and a whole start-up -/

/-- The first start-up takes `setting:view` from a role that has it by default. -/
def TakesDefault (name : String) (perms : PermissionMap) (splitDone : Bool) : Prop :=
  splitDone = false ∧ defaultPermission name "setting:view" = some true ∧
    seeded name perms "setting:view" = some true ∧
    seeded name perms "setting:update" ≠ some true ∧
    seeded name perms "setting:manage" ≠ some true

/-- A code that only the conversion and the defaults speak about. -/
structure Plain (name code : String) : Prop where
  new : isNewCode code = true
  notDashboard : ¬(name = "user" ∧ code = "dashboard:view")
  notCluster : ¬(name = "admin" ∧ code = "cluster:manage")
  notVps : ∀ item ∈ vpsPermissions, item.1 ≠ code
  notImplied : ∀ entry ∈ granularBackfill, code ∉ entry.2

private theorem legacyPermissionMap_plain :
    ∀ entry ∈ legacyPermissionMap, (∀ item ∈ vpsPermissions, item.1 ≠ entry.2) ∧
      ∀ entry' ∈ granularBackfill, entry.2 ∉ entry'.2 := by
  decide +kernel

theorem plain_of_legacyCode {old : String} (h : legacyCode old = some code)
    (hdashboard : ¬(name = "user" ∧ code = "dashboard:view"))
    (hcluster : ¬(name = "admin" ∧ code = "cluster:manage")) : Plain name code :=
  have hplain := legacyPermissionMap_plain _ (KeyedTable.get?_ofList_eq_some h)
  ⟨(legacyCode_codes h).2, hdashboard, hcluster, hplain.1, hplain.2⟩

theorem Plain.get?_seedRole (h : Plain name code) :
    (seedRole name perms).get? code = seeded name perms code := by
  have hvps : vpsPermission name code = none := by
    unfold vpsPermission
    split
    · rw [Option.eq_none_iff_forall_ne_some]
      exact fun x hx => h.notVps _ (KeyedTable.get?_ofList_eq_some hx) rfl
    · rfl
  rw [same_seedRole name perms code, get?_backfillPermissions_of_not_implied,
    get?_beforeBackfill h.new, if_neg h.notDashboard, if_neg h.notCluster, hvps, Option.or_none]
  rintro ⟨entry, hentry, -, hmem⟩
  exact h.notImplied entry hentry hmem

theorem plain_settingView (name : String) : Plain name "setting:view" := by
  have h : legacyCode "settings.view" = some "setting:view" :=
    legacyCode_of_mem (by simp [legacyPermissionMap])
  exact plain_of_legacyCode h (by simp) (by simp)

theorem plain_settingUpdate (name : String) : Plain name "setting:update" := by
  have h : legacyCode "settings.panel" = some "setting:update" :=
    legacyCode_of_mem (by simp [legacyPermissionMap])
  exact plain_of_legacyCode h (by simp) (by simp)

theorem plain_settingManage (name : String) : Plain name "setting:manage" := by
  have h : legacyCode "settings.manage" = some "setting:manage" :=
    legacyCode_of_mem (by simp [legacyPermissionMap])
  exact plain_of_legacyCode h (by simp) (by simp)

private theorem newDefaultRoles_settingView :
    ∀ data ∈ newDefaultRoles, ∀ item ∈ data.permissions, item.1 = "setting:view" →
      item.2 = true := by
  decide +kernel

/-- No role has `setting:view` switched off by default. -/
theorem defaultPermission_settingView (name : String) :
    defaultPermission name "setting:view" = none ∨
      defaultPermission name "setting:view" = some true := by
  cases hdefault : defaultPermission name "setting:view" with
  | none => exact Or.inl rfl
  | some x =>
    obtain ⟨data, hdata, hget⟩ := List.exists_of_findSome?_eq_some hdefault
    split at hget
    · have htrue := newDefaultRoles_settingView data hdata _ (KeyedTable.get?_ofList_eq_some hget) rfl
      exact Or.inr (congrArg some htrue)
    · cases hget

private theorem enabled_iff : perms.enabled code = true ↔ perms.get? code = some true := by
  unfold PermissionMap.enabled
  change (perms.get? code).getD false = true ↔ _
  cases perms.get? code <;> simp

theorem losesSettingView_seedRole_iff :
    losesSettingView (seedRole name perms) = true ↔
      seeded name perms "setting:view" = some true ∧
        seeded name perms "setting:update" ≠ some true ∧
        seeded name perms "setting:manage" ≠ some true := by
  unfold losesSettingView
  rw [Bool.and_eq_true, Bool.not_eq_true', Bool.or_eq_false_iff, ← Bool.not_eq_true,
    ← Bool.not_eq_true, enabled_iff, enabled_iff, enabled_iff, (plain_settingView name).get?_seedRole,
    (plain_settingUpdate name).get?_seedRole, (plain_settingManage name).get?_seedRole]

theorem same_addCoolifyPermissions {done : Bool}
    (h : ∀ item ∈ coolifyGrants name, (perms.get? item.1).isSome = true) :
    Same (addCoolifyPermissions name perms done) perms := by
  intro code
  refine (get?_addCoolifyPermissions done).trans (or_eq_left fun hsome => ?_)
  obtain ⟨x, hx⟩ := Option.isSome_iff_exists.mp hsome
  unfold coolifyPermission at hx
  split at hx
  · cases hx
  · exact h _ (KeyedTable.get?_ofList_eq_some hx)

private theorem coolifyGrants_ne_settingView (name : String) :
    ∀ item ∈ coolifyGrants name, item.1 ≠ "setting:view" := by
  unfold coolifyGrants
  split
  · decide
  · split
    · decide
    · exact fun item hitem => absurd hitem List.not_mem_nil

/-- The last pass adds nothing to what the split leaves. -/
theorem same_startRole (name : String) (perms : PermissionMap) (splitDone coolifyDone : Bool) :
    Same (startRole name perms splitDone coolifyDone)
      (splitSettingView (seedRole name perms) splitDone) := by
  apply same_addCoolifyPermissions
  intro item hitem
  rw [get?_splitSettingView, if_neg fun hboth => coolifyGrants_ne_settingView name item hitem hboth.2]
  exact (settled_seedRole name perms).defaults _ (coolifyGrants_default name item hitem)

private theorem granularBackfill_ne_settingView :
    ∀ entry ∈ granularBackfill, entry.1 ≠ "setting:view" ∧ "setting:view" ∉ entry.2 := by
  decide +kernel

/-- Unless the split takes a default away, the first start-up settles the map. -/
theorem settled_startRole {splitDone coolifyDone : Bool} (h : ¬TakesDefault name perms splitDone) :
    Settled name (startRole name perms splitDone coolifyDone) := by
  have hseed := settled_seedRole name perms
  refine Settled.congr ?_ (same_startRole name perms splitDone coolifyDone)
  by_cases hlost : (!splitDone && losesSettingView (seedRole name perms)) = true
  · have hget : ∀ code, (splitSettingView (seedRole name perms) splitDone).get? code =
        if code = "setting:view" then none else (seedRole name perms).get? code := by
      intro code
      rw [get?_splitSettingView]
      simp only [hlost, true_and]
    have hlost' := hlost
    rw [Bool.and_eq_true, Bool.not_eq_true', losesSettingView_seedRole_iff] at hlost'
    have hdefault : defaultPermission name "setting:view" = none :=
      (defaultPermission_settingView name).resolve_right fun hd => h ⟨hlost'.1, hd, hlost'.2⟩
    have hkept : ∀ {code : String}, code ≠ "setting:view" →
        (splitSettingView (seedRole name perms) splitDone).get? code =
          (seedRole name perms).get? code := fun hne => (hget _).trans (if_neg hne)
    constructor
    · apply hseed.converted.of_new
      intro code x hx
      rw [hget] at hx
      split at hx
      · cases hx
      · exact Or.inr hx
    · intro code hcode
      rw [hkept]
      · exact hseed.defaults code hcode
      · rintro rfl
        rw [hdefault] at hcode
        cases hcode
    · intro code hcode
      rw [hkept]
      · exact hseed.vps code hcode
      · rintro rfl
        obtain ⟨x, hx⟩ := Option.isSome_iff_exists.mp hcode
        unfold vpsPermission at hx
        split at hx
        · exact (plain_settingView name).notVps _ (KeyedTable.get?_ofList_eq_some hx) rfl
        · cases hx
    · exact fun hname => (hkept (by decide)).trans (hseed.cluster hname)
    · exact fun hname => (hkept (by decide)).trans (hseed.dashboard hname)
    · rintro code ⟨entry, hentry, hon, hmem⟩
      have hfree := granularBackfill_ne_settingView entry hentry
      rw [hkept hfree.1] at hon
      rw [hkept fun he => hfree.2 (he ▸ hmem)]
      exact hseed.implied code ⟨entry, hentry, hon, hmem⟩
  · refine hseed.congr fun code => ?_
    rw [get?_splitSettingView, if_neg fun hboth => hlost hboth.1]

/-- A default that the split takes away is back after the next start-up. -/
theorem TakesDefault.comes_back {splitDone : Bool} (h : TakesDefault name perms splitDone)
    (coolifyDone : Bool) :
    (startRole name perms splitDone coolifyDone).get? "setting:view" = none ∧
      (startRole name (startRole name perms splitDone coolifyDone) true true).get?
        "setting:view" = some true := by
  obtain ⟨hdone, hdefault, hseeded⟩ := h
  have hlost : (!splitDone && losesSettingView (seedRole name perms)) = true := by
    rw [hdone, losesSettingView_seedRole_iff.mpr hseeded]
    rfl
  have hnone : (startRole name perms splitDone coolifyDone).get? "setting:view" = none := by
    rw [same_startRole, get?_splitSettingView, if_pos ⟨hlost, rfl⟩]
  refine ⟨hnone, ?_⟩
  have hconv : Converted (startRole name perms splitDone coolifyDone) := by
    apply (settled_seedRole name perms).converted.of_new
    intro code x hx
    rw [same_startRole, get?_splitSettingView] at hx
    split at hx
    · cases hx
    · exact Or.inr hx
  have hverdict : verdict (startRole name perms splitDone coolifyDone).rows "setting:view" = none := by
    rw [← get?_normalized (plain_settingView name).new, hconv.get?_normalized, hnone]
  rw [same_startRole, get?_splitSettingView]
  have hkept : ¬((!true && losesSettingView (seedRole name
      (startRole name perms splitDone coolifyDone))) = true ∧ "setting:view" = "setting:view") := by
    rintro ⟨hfalse, -⟩
    cases hfalse
  rw [if_neg hkept, (plain_settingView name).get?_seedRole]
  unfold seeded
  rw [hverdict, hdefault]
  rfl

end Passes

end PveManager.Rbac
