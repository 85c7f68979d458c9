import PveManager.Compose.Rewrite
import PveManager.Core.Apart
import PveManager.Models.Records

/-!
# Synchronising the catalogue

A source is fetched as a dictionary of applications. What can be built of an application is
stored under its id, and every other row of the source is then marked as removed. The ids are
unique over all sources, so a row may belong to another source than the one that is fetched.
-/

namespace PveManager.AppCatalog

open PveManager.Core PveManager.Compose

/-! ### The fields of an application -/

/-- Where applications are fetched from. -/
inductive CatalogSource
  | runtipi
  | umbrel
  deriving DecidableEq, Repr

/-- The raw files of one application. -/
structure AppRaw where
  appId : String
  /-- `config.json` or the mapped manifest; null where it is missing or could not be read. -/
  config : Yaml
  compose : Option String
  descriptionMd : Option String
  /-- Whether there are bytes of a logo. -/
  hasLogo : Bool
  logoExt : Option String
  dataFiles : Yaml

/-- The columns that a synchronisation writes. -/
structure CatalogFields where
  source : CatalogSource
  name : Yaml
  version : Option String
  tipiVersion : Option Int
  categories : Yaml
  shortDesc : Yaml
  descriptionMd : Yaml
  port : Option Int
  formFields : Yaml
  composeYaml : String
  dataFiles : Yaml
  defaultCredentials : Yaml
  architectures : Yaml
  available : Bool
  unavailableReason : Option String
  deprecated : Bool
  dynamicConfig : Bool
  sourceUrl : Yaml
  author : Yaml

/-- A row of the catalogue. -/
structure CatalogApp where
  appId : String
  fields : CatalogFields
  logoPath : Option String
  syncedAt : Time

/-- What the synchronisation meets outside of the fetched files. -/
structure SyncEnv where
  py : PyText
  /-- Whether `yaml.safe_load` reads a compose file. -/
  validYaml : String → Bool
  /-- `_host_arch()`. -/
  hostArch : String
  now : String → Time
  /-- Whether the logo of an application can be written. -/
  writesLogo : String → Bool
  /-- Whether the commit of an application goes through. -/
  commits : String → Bool

/-- `x or y`. -/
def orElse (x y : Yaml) : Yaml := if x.truthy then x else y

/-- `cfg.get(key)`. -/
def cfgGet (cfg : Yaml.Items) (key : String) : Yaml := (cfg.lookup key).getD .null

/-- `x if isinstance(x, int) else None`; a truth value is an integer to Python. -/
def asInt : Yaml → Option Int
  | .int n => some n
  | .bool b => some (if b then 1 else 0)
  | _ => none

/-- The elements of a Python iteration, `none` where it raises. -/
def elements : Yaml → Option (List Yaml)
  | .list items => some items
  | .str s => some (s.toList.map fun c => .str (String.singleton c))
  | .dict items => some (items.map fun item => .str item.1)
  | _ => none

namespace SyncEnv

variable (env : SyncEnv)

/-- Availability with its reason: the source's own mark, or the architecture of the host.
`none` where the list of architectures cannot be read. -/
def availability (cfg : Yaml.Items) (archs : Yaml) : Option (Bool × Option String) :=
  if !((cfg.lookup "available").getD (.bool true)).truthy then
    some (false, some "помечено недоступным в источнике")
  else if !archs.truthy then some (true, none)
  else
    (elements archs).map fun as =>
      if env.hostArch ∈ as.map fun a => (env.py.str a).toLower then (true, none)
      else (false, some ("нет поддержки арх. " ++ env.hostArch))

/-- `_build_fields`: `none` where it raises, and an inner `none` where it skips the
application. -/
def buildFields (source : CatalogSource) (raw : AppRaw) : Option (Option CatalogFields) :=
  if !raw.config.truthy then some none
  else
    match raw.config with
    | .dict cfg =>
      match cfgGet cfg "deprecated", raw.compose with
      | .bool true, _ => some none
      | _, none => some none
      | _, some compose =>
        if compose = "" ∨ env.validYaml compose = false then some none
        else
          let archs := orElse (cfgGet cfg "supported_architectures") (.list [])
          (env.availability cfg archs).map fun available => some
            { source := source
              name := orElse (cfgGet cfg "name") (.str raw.appId)
              version :=
                match cfgGet cfg "version" with
                | .null => none
                | v => some (env.py.str v)
              tipiVersion := asInt (cfgGet cfg "tipi_version")
              categories := orElse (cfgGet cfg "categories") (.list [])
              shortDesc := cfgGet cfg "short_desc"
              descriptionMd :=
                if truthy raw.descriptionMd then .str (raw.descriptionMd.getD "")
                else cfgGet cfg "description"
              port := asInt (cfgGet cfg "port")
              formFields := orElse (cfgGet cfg "form_fields") (.list [])
              composeYaml := compose
              dataFiles := orElse raw.dataFiles .null
              defaultCredentials := cfgGet cfg "default_credentials"
              architectures := archs
              available := available.1
              unavailableReason := available.2
              deprecated := (cfgGet cfg "deprecated").truthy
              dynamicConfig := (cfgGet cfg "dynamic_config").truthy
              sourceUrl := cfgGet cfg "source"
              author := cfgGet cfg "author" }
    | _ => none

/-- `_save_logo`: `none` where it raises. -/
def saveLogo (raw : AppRaw) : Option (Option String) :=
  if !raw.hasLogo then some none
  else if env.writesLogo raw.appId then
    some (some ("logos/" ++ raw.appId ++
      (if truthy raw.logoExt then raw.logoExt.getD "" else ".jpg")))
  else none

/-- What can be stored of an application: its fields and the path of its logo. `none` where
something raises, and an inner `none` where the application is skipped. -/
def build (source : CatalogSource) (raw : AppRaw) :
    Option (Option (CatalogFields × Option String)) :=
  match env.buildFields source raw with
  | none => none
  | some none => some none
  | some (some fields) => (env.saveLogo raw).map fun logo => some (fields, logo)

end SyncEnv

/-- The catalogue. -/
abbrev Catalog := KeyedTable CatalogApp.appId

/-- The applications of a source by their ids. -/
structure Fetched where
  source : CatalogSource
  apps : KeyedTable AppRaw.appId

/-- The counters and the ids of a synchronisation on its way. -/
structure SyncState where
  catalog : Catalog
  seen : List String
  created : Nat
  updated : Nat
  skipped : Nat
  errors : Nat

/-- The row of an application over the row it had: a missing logo keeps the old one. -/
def storedRow (appId : String) (fields : CatalogFields) (logo : Option String) (now : Time)
    (existing : Option CatalogApp) : CatalogApp where
  appId := appId
  fields := fields
  logoPath := logo.or (existing.bind CatalogApp.logoPath)
  syncedAt := now

/-- One application: it counts as seen before its commit. -/
def syncApp (env : SyncEnv) (source : CatalogSource) (s : SyncState) (raw : AppRaw) : SyncState :=
  match env.build source raw with
  | none => { s with errors := s.errors + 1 }
  | some none => { s with skipped := s.skipped + 1 }
  | some (some (fields, logo)) =>
    let existing := s.catalog.find? raw.appId
    let counted : SyncState :=
      { s with
        seen := s.seen ++ [raw.appId]
        created := if existing.isSome then s.created else s.created + 1
        updated := if existing.isSome then s.updated + 1 else s.updated }
    if env.commits raw.appId then
      { counted with
        catalog :=
          s.catalog.save (storedRow raw.appId fields logo (env.now raw.appId) existing) }
    else { counted with errors := s.errors + 1 }

/-- The reason of a removed application. -/
def removedReason : String := "удалено из источника"

/-- The removal pass hits the available rows of its source that were not seen. -/
def Disappeared (source : CatalogSource) (seen : List String) (r : CatalogApp) : Prop :=
  r.fields.source = source ∧ r.appId ∉ seen ∧ r.fields.available = true

instance (source : CatalogSource) (seen : List String) (r : CatalogApp) :
    Decidable (Disappeared source seen r) := inferInstanceAs (Decidable (_ ∧ _ ∧ _))

/-- Mark a row as removed. -/
def CatalogApp.flagged (r : CatalogApp) : CatalogApp :=
  { r with
    fields := { r.fields with
                available := false
                unavailableReason := some removedReason } }

/-- What the removal pass makes of a row. -/
def markRow (source : CatalogSource) (seen : List String) (r : CatalogApp) : CatalogApp :=
  if Disappeared source seen r then r.flagged else r

theorem appId_markRow (source : CatalogSource) (seen : List String) (r : CatalogApp) :
    (markRow source seen r).appId = r.appId := by
  unfold markRow
  split
  · rfl
  · rfl

/-- The removal pass, which is left out when nothing was seen. -/
def markDisappeared (source : CatalogSource) (seen : List String) (t : Catalog) : Catalog :=
  if seen = [] then t else t.mapRows (markRow source seen) (appId_markRow source seen)

/-- The counts of a synchronisation. -/
structure SyncStats where
  created : Nat
  updated : Nat
  skipped : Nat
  errors : Nat
  disappeared : Nat

/-- The loop over the applications of one source. -/
def syncApps (env : SyncEnv) (t : Catalog) (f : Fetched) : SyncState :=
  f.apps.rows.foldl (syncApp env f.source) ⟨t, [], 0, 0, 0, 0⟩

/-- One source of `sync_catalog`. -/
def syncSource (env : SyncEnv) (t : Catalog) (f : Fetched) : Catalog × SyncStats :=
  let s := syncApps env t f
  (markDisappeared f.source s.seen s.catalog,
    { created := s.created
      updated := s.updated
      skipped := s.skipped
      errors := s.errors
      disappeared :=
        if s.seen = [] then 0
        else s.catalog.rows.countP fun r => Disappeared f.source s.seen r })

/-- The catalogue after one source. -/
def synced (env : SyncEnv) (t : Catalog) (f : Fetched) : Catalog := (syncSource env t f).1

/-! ### What a synchronisation does to a row -/

section Rows

variable {env : SyncEnv} {t : Catalog} {f : Fetched} {source : CatalogSource} {raw : AppRaw}

/-- The fields and the logo, where there are some to store. -/
def SyncEnv.built (env : SyncEnv) (source : CatalogSource) (raw : AppRaw) :
    Option (CatalogFields × Option String) :=
  (env.build source raw).join

/-- The row of an application after its turn. -/
def SyncEnv.appRow (env : SyncEnv) (source : CatalogSource) (raw : AppRaw)
    (existing : Option CatalogApp) : Option CatalogApp :=
  match env.built source raw with
  | none => existing
  | some (fields, logo) =>
    if env.commits raw.appId then
      some (storedRow raw.appId fields logo (env.now raw.appId) existing)
    else existing

theorem find?_syncApp_self (s : SyncState) :
    (syncApp env source s raw).catalog.find? raw.appId =
      env.appRow source raw (s.catalog.find? raw.appId) := by
  unfold syncApp SyncEnv.appRow SyncEnv.built
  cases env.build source raw with
  | none => rfl
  | some skipped =>
    cases skipped with
    | none => rfl
    | some stored =>
      dsimp only [Option.join_some]
      split
      · exact (s.catalog.find?_save _ _).trans (if_pos rfl)
      · rfl

theorem find?_syncApp_ne (s : SyncState) (raw : AppRaw) (id : String) (h : raw.appId ≠ id) :
    (syncApp env source s raw).catalog.find? id = s.catalog.find? id := by
  unfold syncApp
  cases env.build source raw with
  | none => rfl
  | some skipped =>
    cases skipped with
    | none => rfl
    | some stored =>
      dsimp only
      split
      · exact (s.catalog.find?_save _ _).trans (if_neg h)
      · rfl

theorem seen_syncApp (s : SyncState) :
    (syncApp env source s raw).seen =
      s.seen ++ if (env.built source raw).isSome then [raw.appId] else [] := by
  unfold syncApp SyncEnv.built
  cases env.build source raw with
  | none => simp
  | some skipped =>
    cases skipped with
    | none => simp
    | some stored =>
      dsimp only
      split
      · simp
      · simp

/-- The applications that were seen are those with something to store. -/
theorem seen_syncApps :
    (syncApps env t f).seen =
      (f.apps.rows.filter fun raw => (env.built f.source raw).isSome).map AppRaw.appId := by
  have hfold : ∀ (raws : List AppRaw) (s : SyncState),
      (raws.foldl (syncApp env f.source) s).seen =
        s.seen ++
          (raws.filter fun raw => (env.built f.source raw).isSome).map AppRaw.appId := by
    intro raws
    induction raws with
    | nil => simp
    | cons raw raws ih =>
      intro s
      rw [List.foldl_cons, ih, seen_syncApp, List.append_assoc]
      cases hsome : (env.built f.source raw).isSome with
      | false => simp [hsome]
      | true => simp [hsome]
  exact (hfold _ _).trans (List.nil_append _)

theorem mem_seen_syncApps {id : String} :
    id ∈ (syncApps env t f).seen ↔
      ∃ raw ∈ f.apps.rows, (env.built f.source raw).isSome ∧ raw.appId = id := by
  simp [seen_syncApps, and_assoc]

/-- The row of an id inside a synchronisation. -/
def rowIn (id : String) (s : SyncState) : Option CatalogApp := s.catalog.find? id

/-- The catalogue after the loop, by id. -/
theorem find?_syncApps (id : String) :
    (syncApps env t f).catalog.find? id =
      ((f.apps.find? id).map fun raw => env.appRow f.source raw (t.find? id)).getD
        (t.find? id) := by
  have hframe : ∀ (s : SyncState) (raw : AppRaw) (id : String), raw.appId ≠ id →
      rowIn id (syncApp env f.source s raw) = rowIn id s := find?_syncApp_ne
  cases hraw : f.apps.find? id with
  | none =>
    refine part_foldl_of_forall_ne hframe ⟨t, [], 0, 0, 0, 0⟩ id ?_
    exact f.apps.find?_eq_none_iff.mp hraw
  | some raw =>
    obtain ⟨hmem, rfl⟩ := f.apps.find?_eq_some_iff.mp hraw
    obtain ⟨s', hs', h⟩ := part_foldl_of_mem hframe ⟨t, [], 0, 0, 0, 0⟩ f.apps.keys_nodup hmem
    refine h.trans ((find?_syncApp_self s').trans ?_)
    exact congrArg (env.appRow f.source raw) hs'

/-- The catalogue after a source, by id. -/
theorem find?_synced (id : String) :
    (synced env t f).find? id =
      if (syncApps env t f).seen = [] then (syncApps env t f).catalog.find? id
      else ((syncApps env t f).catalog.find? id).map
        (markRow f.source (syncApps env t f).seen) := by
  change (markDisappeared _ _ _).find? id = _
  unfold markDisappeared
  split
  · rfl
  · exact KeyedTable.find?_mapRows _ _ _ _

/-- No built reason is the one of a removed application. -/
theorem availability_ne_removed {cfg : Yaml.Items} {archs : Yaml} {a : Bool × Option String}
    (h : env.availability cfg archs = some a) : a.2 ≠ some removedReason := by
  have hremoved : removedReason.toList.head? = some 'у' := by decide +kernel
  unfold SyncEnv.availability at h
  split at h
  · obtain rfl := Option.some.inj h
    decide +kernel
  · split at h
    · obtain rfl := Option.some.inj h
      exact (Option.some_ne_none _).symm
    · obtain ⟨as, _, rfl⟩ := Option.map_eq_some_iff.mp h
      split
      · exact (Option.some_ne_none _).symm
      · intro heq
        have hhead : "нет поддержки арх. ".toList.head? = some 'н' := by decide +kernel
        have hlist := congrArg (fun s : String => s.toList.head?) (Option.some.inj heq)
        simp only [String.toList_append, List.head?_append, hhead, hremoved,
          Option.some_or] at hlist
        exact absurd hlist (by decide)

theorem source_of_buildFields {fields : CatalogFields}
    (h : env.buildFields source raw = some (some fields)) :
    fields.source = source ∧ fields.unavailableReason ≠ some removedReason := by
  unfold SyncEnv.buildFields at h
  split at h
  · simp at h
  · split at h
    · split at h
      · simp at h
      · simp at h
      · split at h
        · simp at h
        · obtain ⟨available, havailable, hfields⟩ := Option.map_eq_some_iff.mp h
          obtain rfl := Option.some.inj hfields
          exact ⟨rfl, availability_ne_removed havailable⟩
    · simp at h

/-- What is stored of an application belongs to the source and is not marked as removed. -/
theorem source_of_built {fields : CatalogFields} {logo : Option String}
    (h : env.built source raw = some (fields, logo)) :
    fields.source = source ∧ fields.unavailableReason ≠ some removedReason := by
  obtain hbuild := Option.join_eq_some_iff.mp h
  unfold SyncEnv.build at hbuild
  cases hfields : env.buildFields source raw with
  | none => simp [hfields] at hbuild
  | some skipped =>
    cases skipped with
    | none => simp [hfields] at hbuild
    | some built =>
      rw [hfields] at hbuild
      obtain ⟨saved, _, heq⟩ := Option.map_eq_some_iff.mp hbuild
      cases heq
      exact source_of_buildFields hfields

end Rows

/-! ### The claims about one source -/

/-- A row that is marked as removed. -/
def CatalogApp.IsRemoved (r : CatalogApp) : Prop :=
  r.fields.available = false ∧ r.fields.unavailableReason = some removedReason

/-- A row without the time of its synchronisation. -/
def CatalogApp.unstamped (r : CatalogApp) : CatalogApp := { r with syncedAt := 0 }

/-- The rows of other sources are the same after as before. -/
def Scoped (env : SyncEnv) (t : Catalog) (f : Fetched) : Prop :=
  ∀ r : CatalogApp, r.fields.source ≠ f.source → (r ∈ (synced env t f).rows ↔ r ∈ t.rows)

/-- A second synchronisation of the same content, at any time, changes no row but its stamp. -/
def Idempotent (env : SyncEnv) (t : Catalog) (f : Fetched) : Prop :=
  ∀ now' id,
    ((synced { env with now := now' } (synced env t f) f).find? id).map CatalogApp.unstamped =
      ((synced env t f).find? id).map CatalogApp.unstamped

/-- A row of a fetched application is marked as removed only if it was before. -/
def KeepsPresent (env : SyncEnv) (t : Catalog) (f : Fetched) : Prop :=
  ∀ raw ∈ f.apps.rows, ∀ r ∈ (synced env t f).rows, r.appId = raw.appId → r.IsRemoved →
    ∃ old ∈ t.rows, old.appId = raw.appId ∧ old.IsRemoved

/-- What is stored takes no row of another source, and if anything could be built, then all of
the source's available rows whose applications are fetched could. -/
structure Accommodates (env : SyncEnv) (t : Catalog) (f : Fetched) : Prop where
  own : ∀ raw ∈ f.apps.rows, (env.built f.source raw).isSome → env.commits raw.appId →
    ∀ r ∈ t.rows, r.appId = raw.appId → r.fields.source = f.source
  complete : (∃ raw ∈ f.apps.rows, (env.built f.source raw).isSome) →
    ∀ raw ∈ f.apps.rows, env.built f.source raw = none →
      ∀ r ∈ t.rows, r.appId = raw.appId → r.fields.source = f.source →
        r.fields.available = false

section Claims

variable {env : SyncEnv} {t : Catalog} {f : Fetched}

/-- The row of a stored application. -/
theorem find?_synced_stored {raw : AppRaw} (hraw : raw ∈ f.apps.rows) {fields : CatalogFields}
    {logo : Option String} (hbuilt : env.built f.source raw = some (fields, logo))
    (hcommit : env.commits raw.appId = true) :
    (synced env t f).find? raw.appId =
      some (storedRow raw.appId fields logo (env.now raw.appId) (t.find? raw.appId)) := by
  have hseen : raw.appId ∈ (syncApps env t f).seen :=
    mem_seen_syncApps.mpr ⟨raw, hraw, by rw [hbuilt]; rfl, rfl⟩
  have hrow : (syncApps env t f).catalog.find? raw.appId =
      some (storedRow raw.appId fields logo (env.now raw.appId) (t.find? raw.appId)) := by
    rw [find?_syncApps, f.apps.find?_key hraw, Option.map_some, Option.getD_some,
      SyncEnv.appRow, hbuilt]
    exact if_pos hcommit
  rw [find?_synced, if_neg (List.ne_nil_of_mem hseen), hrow, Option.map_some]
  exact congrArg some (if_neg fun h => h.2.1 hseen)

/-- The row of any other id. -/
theorem find?_synced_kept {id : String}
    (hid : ∀ raw ∈ f.apps.rows, raw.appId = id → (env.built f.source raw).isSome →
      env.commits id = false) :
    (synced env t f).find? id =
      if (syncApps env t f).seen = [] then t.find? id
      else (t.find? id).map (markRow f.source (syncApps env t f).seen) := by
  have hrow : (syncApps env t f).catalog.find? id = t.find? id := by
    rw [find?_syncApps]
    cases hraw : f.apps.find? id with
    | none => rfl
    | some raw =>
      obtain ⟨hmem, rfl⟩ := f.apps.find?_eq_some_iff.mp hraw
      rw [Option.map_some, Option.getD_some, SyncEnv.appRow]
      cases hbuilt : env.built f.source raw with
      | none => rfl
      | some stored =>
        have hcommit := hid raw hmem rfl (by rw [hbuilt]; rfl)
        exact if_neg (by rw [hcommit]; exact Bool.false_ne_true)
  rw [find?_synced, hrow]

/-- Every id is that of a stored application or keeps its row up to the mark. -/
theorem stored_or_kept (env : SyncEnv) (f : Fetched) (id : String) :
    (∃ raw ∈ f.apps.rows, raw.appId = id ∧ ∃ fields logo,
      env.built f.source raw = some (fields, logo) ∧ env.commits raw.appId = true) ∨
    ∀ raw ∈ f.apps.rows, raw.appId = id → (env.built f.source raw).isSome →
      env.commits id = false := by
  rw [or_iff_not_imp_left]
  intro h raw hraw hid hsome
  obtain ⟨⟨fields, logo⟩, hbuilt⟩ := Option.isSome_iff_exists.mp hsome
  by_contra hcommit
  exact h ⟨raw, hraw, hid, fields, logo, hbuilt, hid ▸ by simpa using hcommit⟩

theorem markRow_markRow (source : CatalogSource) (seen : List String) (r : CatalogApp) :
    markRow source seen (markRow source seen r) = markRow source seen r := by
  by_cases h : Disappeared source seen r
  · have hflagged : ¬Disappeared source seen r.flagged := fun h' => Bool.false_ne_true h'.2.2
    rw [markRow, markRow, if_pos h, if_neg hflagged]
  · rw [markRow, markRow, if_neg h, if_neg h]

/-- The mark leaves the source of a row alone. -/
theorem source_markRow (source : CatalogSource) (seen : List String) (r : CatalogApp) :
    (markRow source seen r).fields.source = r.fields.source := by
  unfold markRow
  split
  · rfl
  · rfl

/-- Every source is synchronised idempotently. -/
theorem idempotent (env : SyncEnv) (t : Catalog) (f : Fetched) : Idempotent env t f := by
  intro now' id
  have hbuilt : SyncEnv.built { env with now := now' } = env.built := rfl
  rcases stored_or_kept env f id with ⟨raw, hraw, rfl, fields, logo, hb, hcommit⟩ | hkept
  · rw [@find?_synced_stored { env with now := now' } _ f raw hraw fields logo hb hcommit,
      find?_synced_stored hraw hb hcommit]
    cases logo with
    | none => rfl
    | some path => rfl
  · have hseen : (syncApps { env with now := now' } (synced env t f) f).seen =
        (syncApps env t f).seen := by
      rw [seen_syncApps, seen_syncApps, hbuilt]
    rw [@find?_synced_kept { env with now := now' } _ f id hkept, hseen, find?_synced_kept hkept]
    split
    · rfl
    · cases t.find? id with
      | none => rfl
      | some r => exact congrArg (some ∘ CatalogApp.unstamped) (markRow_markRow _ _ r)

theorem mem_rows_iff_find? (t : Catalog) (r : CatalogApp) :
    r ∈ t.rows ↔ t.find? r.appId = some r :=
  ⟨t.find?_key, t.mem_of_find?⟩

/-- The row of a stored application belongs to the source and is not marked. -/
theorem storedRow_of_built {raw : AppRaw} {fields : CatalogFields} {logo : Option String}
    (hb : env.built f.source raw = some (fields, logo)) {r : CatalogApp} {now : Time}
    {existing : Option CatalogApp}
    (hr : some (storedRow raw.appId fields logo now existing) = some r) :
    r.fields.source = f.source ∧ ¬r.IsRemoved := by
  obtain rfl := Option.some.inj hr
  exact ⟨(source_of_built hb).1, fun h => (source_of_built hb).2 h.2⟩

theorem scoped_of_accommodates (h : Accommodates env t f) : Scoped env t f := by
  intro r hsource
  rw [mem_rows_iff_find?, mem_rows_iff_find?]
  rcases stored_or_kept env f r.appId with ⟨raw, hraw, hid, fields, logo, hb, hcommit⟩ | hkept
  · refine iff_of_false (fun hr => ?_) (fun hr => ?_)
    · rw [← hid, find?_synced_stored hraw hb hcommit] at hr
      exact hsource (storedRow_of_built hb hr).1
    · refine hsource (h.own raw hraw (by rw [hb]; rfl) hcommit r ?_ hid.symm)
      exact t.mem_of_find? hr
  · rw [find?_synced_kept hkept]
    split
    · rfl
    · rw [Option.map_eq_some_iff]
      constructor
      · rintro ⟨old, hold, rfl⟩
        rw [source_markRow] at hsource
        have hsame : markRow f.source (syncApps env t f).seen old = old :=
          if_neg fun hd => hsource hd.1
        rw [hsame] at hold ⊢
        exact hold
      · exact fun hr => ⟨r, hr, if_neg fun hd => hsource hd.1⟩

theorem keepsPresent_of_accommodates (h : Accommodates env t f) : KeepsPresent env t f := by
  intro raw hraw r hr hid hremoved
  rw [mem_rows_iff_find?, hid] at hr
  rcases stored_or_kept env f raw.appId with ⟨raw', hraw', hid', fields, logo, hb, hcommit⟩ | hkept
  · rw [← hid', find?_synced_stored hraw' hb hcommit] at hr
    exact absurd hremoved (storedRow_of_built hb hr).2
  · rw [find?_synced_kept hkept] at hr
    split at hr
    · exact ⟨r, t.mem_of_find? hr, hid, hremoved⟩
    · rename_i hseen
      obtain ⟨old, hold, rfl⟩ := Option.map_eq_some_iff.mp hr
      obtain ⟨hmem, hkey⟩ := t.find?_eq_some_iff.mp hold
      refine ⟨old, hmem, hkey, ?_⟩
      have hnot : ¬Disappeared f.source (syncApps env t f).seen old := by
        rintro ⟨hsource, hunseen, havailable⟩
        obtain ⟨id, hidseen⟩ := List.exists_mem_of_ne_nil _ hseen
        obtain ⟨other, hother, hsome, _⟩ := mem_seen_syncApps.mp hidseen
        have hnone : env.built f.source raw = none := by
          rw [← Option.not_isSome_iff_eq_none]
          exact fun hsome => hunseen (mem_seen_syncApps.mpr ⟨raw, hraw, hsome, hkey.symm⟩)
        have hfalse := h.complete ⟨other, hother, hsome⟩ raw hraw hnone old hmem hkey hsource
        exact Bool.false_ne_true (hfalse.symm.trans havailable)
      have hsame : markRow f.source (syncApps env t f).seen old = old := if_neg hnot
      rwa [hsame] at hremoved

/-- A source that is scoped and keeps what is present meets the condition. -/
theorem accommodates_of (hs : Scoped env t f) (hk : KeepsPresent env t f) :
    Accommodates env t f where
  own := by
    intro raw hraw hsome hcommit r hr hid
    obtain ⟨⟨fields, logo⟩, hb⟩ := Option.isSome_iff_exists.mp hsome
    by_contra hsource
    have hr' := (mem_rows_iff_find? _ r).mp ((hs r hsource).mpr hr)
    rw [hid, find?_synced_stored hraw hb hcommit] at hr'
    exact hsource (storedRow_of_built hb hr').1
  complete := by
    rintro ⟨other, hother, hsome⟩ raw hraw hnone r hr hid hsource
    rw [← Bool.not_eq_true]
    intro havailable
    have hunseen : r.appId ∉ (syncApps env t f).seen := by
      intro hseen
      obtain ⟨raw', hraw', hsome', hid'⟩ := mem_seen_syncApps.mp hseen
      obtain rfl := f.apps.eq_of_key_eq hraw' hraw (hid'.trans hid)
      rw [hnone] at hsome'
      exact Bool.false_ne_true hsome'
    have hseen : (syncApps env t f).seen ≠ [] :=
      List.ne_nil_of_mem (mem_seen_syncApps.mpr ⟨other, hother, hsome, rfl⟩)
    have hkept : ∀ raw' ∈ f.apps.rows, raw'.appId = r.appId →
        (env.built f.source raw').isSome → env.commits r.appId = false := fun raw' hraw' hid' h' =>
      absurd (mem_seen_syncApps.mpr ⟨raw', hraw', h', hid'⟩) hunseen
    have hrow : (synced env t f).find? r.appId = some r.flagged := by
      rw [find?_synced_kept hkept, if_neg hseen, t.find?_key hr, Option.map_some]
      exact congrArg some (if_pos ⟨hsource, hunseen, havailable⟩)
    obtain ⟨old, hold, hold', hremoved⟩ := hk raw hraw r.flagged
      ((synced env t f).mem_of_find? hrow) hid ⟨rfl, rfl⟩
    obtain rfl := t.eq_of_key_eq hold hr (hold'.trans hid.symm)
    exact Bool.false_ne_true (hremoved.1.symm.trans havailable)

/-- A source is synchronised as it should be exactly when the table accommodates it. -/
theorem syncsWell_iff (env : SyncEnv) (t : Catalog) (f : Fetched) :
    Scoped env t f ∧ Idempotent env t f ∧ KeepsPresent env t f ↔ Accommodates env t f :=
  ⟨fun h => accommodates_of h.1 h.2.2,
    fun h => ⟨scoped_of_accommodates h, idempotent env t f, keepsPresent_of_accommodates h⟩⟩

end Claims

/-- A host where everything can be read and stored. -/
def calmHost : SyncEnv where
  py := .ofAscii
  validYaml := fun _ => true
  hostArch := "amd64"
  now := fun _ => 0
  writesLogo := fun _ => true
  commits := fun _ => true

/-- An application that can be built. -/
def redisRaw : AppRaw :=
  ⟨"redis", .dict [("name", .str "Redis")], some "services: {}", none, false, none, .null⟩

/-- An application whose `config.json` could not be read. -/
def nginxRaw : AppRaw := ⟨"nginx", .null, some "services: {}", none, false, none, .null⟩

/-- The row of an earlier synchronisation. -/
def nginxRow : CatalogApp where
  appId := "nginx"
  fields :=
    { source := .runtipi
      name := .str "nginx"
      version := none
      tipiVersion := none
      categories := .list []
      shortDesc := .null
      descriptionMd := .null
      port := none
      formFields := .list []
      composeYaml := "services: {}"
      dataFiles := .null
      defaultCredentials := .null
      architectures := .list []
      available := true
      unavailableReason := none
      deprecated := false
      dynamicConfig := false
      sourceUrl := .null
      author := .null }
  logoPath := none
  syncedAt := 0

/-- A catalogue with one application. -/
def nginxCatalog : Catalog := ⟨[nginxRow], List.nodup_singleton _⟩

/-- A source that lists the application with its broken file. -/
def brokenFetch : Fetched := ⟨.runtipi, ⟨[nginxRaw, redisRaw], by decide⟩⟩

/-- An application whose file is broken is marked as removed although it is there. -/
theorem brokenFetch_removes :
    ¬∀ env t f, Scoped env t f ∧ Idempotent env t f ∧ KeepsPresent env t f := by
  intro h
  obtain ⟨hs, _, hk⟩ := h calmHost nginxCatalog brokenFetch
  have hbuilt : (calmHost.built .runtipi redisRaw).isSome = true := by decide +kernel
  have hredis : redisRaw ∈ brokenFetch.apps.rows :=
    List.mem_cons_of_mem _ (List.mem_singleton_self _)
  have hfalse := (accommodates_of hs hk).complete ⟨redisRaw, hredis, hbuilt⟩ nginxRaw
    List.mem_cons_self rfl nginxRow (List.mem_singleton_self _) rfl rfl
  exact absurd hfalse (by decide)

end PveManager.AppCatalog
