import PveManager.Rbac.Seeding

/-!
# Denials over start-ups

A permission whose entries are all switched off stays off, unless a default
switches it on: the conversion drops denials in the old spelling, so the default
finds no entry, and the role `admin` gets `cluster:manage` in any case.
-/

namespace PveManager.Rbac

open PveManager.Core

section Denials

variable {name code : String} {perms : PermissionMap}

theorem resolvePermission_eq_iff {spelling : String} :
    resolvePermission spelling = code ↔
      legacyCode spelling = some code ∨ (legacyCode spelling = none ∧ spelling = code) := by
  unfold resolvePermission
  cases legacyCode spelling with
  | none => simp
  | some new => simp

/-- In a converted map, only the code itself can be switched on. -/
theorem Converted.granted_iff (h : Converted perms) :
    Granted perms code ↔ legacyCode code = none ∧ perms.get? code = some true := by
  constructor
  · rintro ⟨spelling, hresolve, hget⟩
    rcases resolvePermission_eq_iff.mp hresolve with hlegacy | ⟨hnone, rfl⟩
    · rw [h.get?_of_legacyCode hlegacy] at hget
      cases hget
    · exact ⟨hnone, hget⟩
  · rintro ⟨hnone, hget⟩
    exact ⟨code, resolvePermission_eq_iff.mpr (Or.inr ⟨hnone, rfl⟩), hget⟩

/-- A start-up overrides the denial of this code. -/
def Overridden (name : String) (perms : PermissionMap) (code : String) : Prop :=
  defaultPermission name code = some true ∧
    (perms.get? code ≠ some false ∨ (name = "admin" ∧ code = "cluster:manage"))

/-- The last word on a denied new code is its own entry. -/
theorem Denied.verdict_eq (h : Denied perms code) : verdict perms.rows code = perms.get? code :=
  verdict_eq_get? fun old hget hlegacy =>
    h.notGranted ⟨old, resolvePermission_eq_iff.mpr (Or.inl hlegacy), hget⟩

/-- A denied new code is switched off or has an old spelling. -/
theorem Denied.cases (h : Denied perms code) (hnew : isNewCode code = true) :
    perms.get? code = some false ∨
      (perms.get? code = none ∧ ∃ old, legacyCode old = some code) := by
  cases hget : perms.get? code with
  | some x =>
    cases x with
    | false => exact Or.inl rfl
    | true =>
      exact absurd ⟨code, resolvePermission_of_isNewCode hnew, hget⟩ h.notGranted
  | none =>
    obtain ⟨old, hresolve, hold⟩ := h.entry
    rcases resolvePermission_eq_iff.mp hresolve with hlegacy | ⟨-, rfl⟩
    · exact Or.inr ⟨rfl, old, hlegacy⟩
    · rw [hget] at hold
      cases hold

/-- The passes add nothing but new codes. -/
theorem get?_seedRole_of_not_new (hnew : isNewCode code = false) :
    (seedRole name perms).get? code = (normalized perms).get? code := by
  have hne : ∀ {new : String}, isNewCode new = true → code ≠ new := by
    rintro new h rfl
    rw [hnew] at h
    cases h
  have hdefault : defaultPermission name code = none := by
    rw [Option.eq_none_iff_forall_ne_some]
    exact fun x hx => hne (isNewCode_of_default hx) rfl
  have hvps : vpsPermission name code = none := by
    rw [Option.eq_none_iff_forall_ne_some]
    intro x hx
    unfold vpsPermission at hx
    split at hx
    · exact hne (vpsPermissions_codes _ (KeyedTable.get?_ofList_eq_some hx)) rfl
    · cases hx
  have h1 : Converted (migrateRole perms) := converted_normalized perms
  have h3 : Converted (addVpsPermissions name (ensureDefaults name (migrateRole perms))) :=
    h1.ensureDefaults.addVpsPermissions
  rw [same_seedRole name perms code, get?_backfillPermissions_of_not_implied]
  · unfold beforeBackfill
    rw [get?_removeDashboard h3.grantClusterManage, get?_grantClusterManage h3,
      get?_addVpsPermissions, get?_ensureDefaults h1, hdefault, hvps, Option.or_none,
      Option.or_none, if_neg fun hboth => hne (isNewCode_ofList rfl) hboth.2,
      if_neg fun hboth => hne (isNewCode_ofList rfl) hboth.2]
    rfl
  · rintro ⟨entry, hentry, -, hmem⟩
    exact hne (granularBackfill_codes entry hentry code hmem) rfl

/-- What the only role of a name lists is its default. -/
private theorem defaultPermission_eq {data : RoleDefault} (hdata : data ∈ newDefaultRoles)
    {x : Bool} (hmem : (code, x) ∈ data.permissions)
    (halone : ∀ data' ∈ newDefaultRoles, data'.name = data.name → data' = data)
    (honce : (code, !x) ∉ data.permissions) : defaultPermission data.name code = some x := by
  obtain ⟨y, hy⟩ := Option.isSome_iff_exists.mp (isSome_defaultPermission data hdata hmem)
  obtain ⟨data', hdata', hname, hmem'⟩ := mem_of_defaultPermission hy
  rw [halone data' hdata' hname] at hmem'
  refine hy.trans (congrArg some ?_)
  by_contra hne
  rw [Bool.eq_not.mpr hne] at hmem'
  exact honce hmem'

private theorem admin_clusterManage : defaultPermission "admin" "cluster:manage" = some true :=
  defaultPermission_eq (by simp [newDefaultRoles] : newAdmin ∈ newDefaultRoles)
    (by simp [newAdmin])
    (by simp [newDefaultRoles, newAdmin, newModerator, newUser, newDemo]) (by simp [newAdmin])

private theorem user_dashboardView : defaultPermission "user" "dashboard:view" = some false :=
  defaultPermission_eq (by simp [newDefaultRoles] : newUser ∈ newDefaultRoles)
    (by simp [newUser])
    (by simp [newDefaultRoles, newAdmin, newModerator, newUser, newDemo]) (by simp [newUser])

/-- A code without a colon that is switched off never comes on. -/
theorem Denied.not_granted_of_not_new (h : Denied perms code) (hnew : isNewCode code = false)
    (name : String) : ¬Granted (seedRole name perms) code ∧ ¬Overridden name perms code := by
  constructor
  · rw [(settled_seedRole name perms).converted.granted_iff, get?_seedRole_of_not_new hnew]
    rintro ⟨hnone, hget⟩
    have hoff : perms.get? code ≠ some true := fun hon =>
      h.notGranted ⟨code, resolvePermission_eq_iff.mpr (Or.inr ⟨hnone, rfl⟩), hon⟩
    unfold normalized at hget
    split at hget
    · rw [get?_convert_of_not_new hnew, if_neg fun hboth => hoff hboth.2] at hget
      cases hget
    · exact hoff hget
  · rintro ⟨hdefault, -⟩
    rw [isNewCode_of_default hdefault] at hnew
    cases hnew

/-- Denials outlive the passes exactly when no default overrides them. -/
theorem Denied.granted_seedRole_iff (h : Denied perms code) :
    Granted (seedRole name perms) code ↔ Overridden name perms code := by
  cases hnew : isNewCode code with
  | false =>
    obtain ⟨hgranted, hover⟩ := h.not_granted_of_not_new hnew name
    exact iff_of_false hgranted hover
  | true =>
    rw [(settled_seedRole name perms).converted.granted_iff,
      and_iff_right (legacyCode_of_isNewCode hnew)]
    unfold Overridden
    have hseeded : seeded name perms code = (perms.get? code).or (defaultPermission name code) := by
      unfold seeded
      rw [h.verdict_eq]
    by_cases hcluster : name = "admin" ∧ code = "cluster:manage"
    · obtain ⟨rfl, rfl⟩ := hcluster
      exact iff_of_true ((settled_seedRole "admin" perms).cluster rfl)
        ⟨admin_clusterManage, Or.inr ⟨rfl, rfl⟩⟩
    · by_cases hdashboard : name = "user" ∧ code = "dashboard:view"
      · obtain ⟨rfl, rfl⟩ := hdashboard
        rw [(settled_seedRole "user" perms).dashboard rfl, user_dashboardView]
        refine iff_of_false ?_ ?_
        · intro hon
          cases hon
        · rintro ⟨hon, -⟩
          cases hon
      · have hbefore : (beforeBackfill name perms).get? code =
            (seeded name perms code).or (vpsPermission name code) := by
          rw [get?_beforeBackfill hnew, if_neg hdashboard, if_neg hcluster]
        rw [or_iff_left hcluster]
        rcases h.cases hnew with hoff | ⟨hnone, old, hlegacy⟩
        · rw [hoff, Option.some_or] at hseeded
          rw [hseeded, Option.some_or] at hbefore
          rw [get?_seedRole_of_before hbefore, hoff]
          refine iff_of_false ?_ ?_
          · intro hon
            cases hon
          · exact fun hboth => hboth.2 rfl
        · rw [hnone, Option.none_or] at hseeded
          rw [hnone, and_iff_left (by simp)]
          cases hdefault : defaultPermission name code with
          | some x =>
            rw [hseeded, hdefault, Option.some_or] at hbefore
            rw [get?_seedRole_of_before hbefore]
          | none =>
            rw [(plain_of_legacyCode hlegacy hdashboard hcluster).get?_seedRole, hseeded, hdefault]

/-- Where the split takes no default away, the first start-up grants what its passes up to the
split grant. -/
theorem Denied.granted_startRole_iff (h : Denied perms code) {splitDone coolifyDone : Bool}
    (htakes : ¬TakesDefault name perms splitDone) :
    Granted (startRole name perms splitDone coolifyDone) code ↔ Overridden name perms code := by
  rw [← h.granted_seedRole_iff, (settled_startRole htakes).converted.granted_iff,
    (settled_seedRole name perms).converted.granted_iff, same_startRole, get?_splitSettingView]
  split
  · rename_i hlost
    obtain ⟨hlost, rfl⟩ := hlost
    rw [Bool.and_eq_true, Bool.not_eq_true', losesSettingView_seedRole_iff] at hlost
    have hseeded : seeded name perms "setting:view" = some true := hlost.2.1
    have hdefault : defaultPermission name "setting:view" = none :=
      (defaultPermission_settingView name).resolve_right fun hd => htakes ⟨hlost.1, hd, hlost.2⟩
    unfold seeded at hseeded
    rw [h.verdict_eq, hdefault, Option.or_none] at hseeded
    refine absurd ⟨_, ?_, hseeded⟩ h.notGranted
    exact resolvePermission_of_isNewCode (plain_settingView name).new
  · exact Iff.rfl

/-- The map after the first start-up and any number of further ones. -/
def runRole (name : String) (perms : PermissionMap) (splitDone coolifyDone : Bool) :
    Nat → PermissionMap
  | 0 => startRole name perms splitDone coolifyDone
  | n + 1 => startRole name (runRole name perms splitDone coolifyDone n) true true

/-- Further start-ups change nothing, and nothing that was denied is granted. -/
structure Kept (name : String) (perms : PermissionMap) (splitDone coolifyDone : Bool) : Prop where
  idempotent : ∀ n, Same (runRole name perms splitDone coolifyDone n)
    (runRole name perms splitDone coolifyDone 0)
  denials : ∀ code, Denied perms code →
    ∀ n, ¬Granted (runRole name perms splitDone coolifyDone n) code

theorem same_runRole {splitDone coolifyDone : Bool} (h : ¬TakesDefault name perms splitDone)
    (n : Nat) :
    Same (runRole name perms splitDone coolifyDone n)
      (startRole name perms splitDone coolifyDone) := by
  have hsettled : Settled name (startRole name perms splitDone coolifyDone) := settled_startRole h
  induction n with
  | zero => exact fun _ => rfl
  | succ n ih =>
    intro code
    exact ((hsettled.congr ih).same_startRole code).trans (ih code)

theorem Granted.congr {perms' : PermissionMap} (hsame : Same perms perms') :
    Granted perms code ↔ Granted perms' code := by
  unfold Granted
  simp only [hsame _]

/-- The start-ups of a role keep its map and its denials exactly when the split takes no default
away and no default overrides a denial. -/
theorem kept_iff_not_overridden (splitDone coolifyDone : Bool) :
    Kept name perms splitDone coolifyDone ↔
      ¬TakesDefault name perms splitDone ∧
        ∀ code, Denied perms code → ¬Overridden name perms code := by
  by_cases htakes : TakesDefault name perms splitDone
  · refine iff_of_false (fun h => ?_) fun h => h.1 htakes
    obtain ⟨hnone, hback⟩ := htakes.comes_back coolifyDone
    have hsame := h.idempotent 1 "setting:view"
    change (startRole name (startRole name perms splitDone coolifyDone) true true).get? _ =
      (startRole name perms splitDone coolifyDone).get? _ at hsame
    rw [hnone, hback] at hsame
    cases hsame
  · rw [and_iff_right htakes]
    constructor
    · exact fun h code hdenied hover =>
        h.denials code hdenied 0 ((hdenied.granted_startRole_iff htakes).mpr hover)
    · refine fun h => ⟨same_runRole htakes, fun code hdenied n hgranted => h code hdenied ?_⟩
      rw [Granted.congr (same_runRole htakes n)] at hgranted
      exact (hdenied.granted_startRole_iff htakes).mp hgranted

end Denials

end PveManager.Rbac
