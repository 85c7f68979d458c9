import PveManager.Api.Plain
import PveManager.Backups.Router

/-!
# Native backup jobs

A job that Proxmox itself schedules is a set of properties. The panel builds them from the
body of a request, for a new job and for an update alike; an update leaves out what the
body leaves out, and names for deletion the other ways to select guests only.
-/

namespace PveManager.Backups

open PveManager.Core PveManager.Rbac PveManager.Api

/-- The parameters of a request. -/
abbrev Props := List (String × Json)

/-- A job as Proxmox stores it. -/
abbrev NativeJob := String → Option Json

/-! ### The parameters -/

/-- A parameter that is set under a condition. -/
def setWhen (b : Bool) (key : String) (value : Json) : Props := if b then [(key, value)] else []

/-- `if data.get(key): props[...] = data[key]`. -/
def setIfGiven (data : List (String × Json)) (key pveKey : String) : Props :=
  setWhen (get data key).truthy pveKey (get data key)

/-- `is not None`. -/
def isGiven : Json → Bool
  | .null => false
  | _ => true

/-- The ways to select guests. -/
inductive Selection
  | all
  | pool
  | vmid
  /-- Anything else, and a pool without its name. -/
  | unknown
  deriving DecidableEq

/-- `data.get("selection_mode", "all")`, as its branches take it. -/
def selectionMode (data : List (String × Json)) : Selection :=
  match getOr data "selection_mode" (.text "all") with
  | .text "all" => .all
  | .text "pool" => if (get data "pool").truthy then .pool else .unknown
  | .text "vmid" => .vmid
  | _ => .unknown

/-- The numbers of the guests; a list is joined to a text. -/
def vmidValue (str : Json → String) (data : List (String × Json)) : Json :=
  match get data "vmid" with
  | .list items => .text (",".intercalate (items.map str))
  | value => value

/-- The parameter that selects guests. -/
def selectionProps (str : Json → String) (data : List (String × Json)) : Props :=
  match selectionMode data with
  | .all => [("all", .number 1)]
  | .pool => [("pool", get data "pool")]
  | .vmid => setWhen (vmidValue str data).truthy "vmid" (vmidValue str data)
  | .unknown => []

/-- `to_delete`. -/
def toDelete (data : List (String × Json)) : List String :=
  match selectionMode data with
  | .all => ["vmid", "pool"]
  | .pool => ["vmid", "all"]
  | .vmid => ["all", "pool"]
  | .unknown => []

/-- The retention fields of a body and their names in Proxmox. -/
def keepKeys : List (String × String) :=
  [("keep_last", "keep-last"), ("keep_daily", "keep-daily"), ("keep_weekly", "keep-weekly"),
    ("keep_monthly", "keep-monthly")]

/-- The parts of `prune-backups`, `none` where `int` raises. -/
def keepParts (data : List (String × Json)) : Option (List String) :=
  (keepKeys.filter fun key => (get data key.1).truthy).mapM fun key =>
    (pythonInt (get data key.1)).map fun n => s!"{key.2}={n}"

/-- The parameters with the parts of `prune-backups`. -/
def nativeProps (str : Json → String) (data : List (String × Json)) (forCreate : Bool)
    (parts : List String) : Props :=
  setIfGiven data "schedule" "schedule" ++ setIfGiven data "storage" "storage" ++
    setIfGiven data "mode" "mode" ++
    setWhen (isGiven (get data "compress")) "compress" (get data "compress") ++
    setWhen true "enabled"
      (.number (if (getOr data "enabled" (.bool true)).truthy then 1 else 0)) ++
    setIfGiven data "comment" "comment" ++ setIfGiven data "mailto" "mailto" ++
    setIfGiven data "notes_template" "notes-template" ++ setIfGiven data "node" "node" ++
    selectionProps str data ++
    setWhen (!forCreate && !(toDelete data).isEmpty) "delete"
      (.text (",".intercalate (toDelete data))) ++
    setWhen (!parts.isEmpty) "prune-backups" (.text (",".intercalate parts))

/-- `_build_native_job_props`. -/
def buildNativeJobProps (str : Json → String) (data : List (String × Json)) (forCreate : Bool) :
    Except Exc Props :=
  match keepParts data with
  | none => .error (.other "ValueError")
  | some parts => .ok (nativeProps str data forCreate parts)

/-! ### Proxmox -/

/-- The properties that a request names for deletion. -/
def deletions (props : Props) : List String :=
  match props.lookup "delete" with
  | some (.text names) => (names.toList.splitOn ',').map String.ofList
  | _ => []

/-- A new job has the properties it is given. -/
def post (props : Props) : NativeJob := fun key => props.lookup key

/-- An update sets what it is given, removes what it names and keeps the rest. -/
def put (props : Props) (old : NativeJob) : NativeJob := fun key =>
  if key = "delete" then none
  else (props.lookup key).or (if key ∈ deletions props then none else old key)

/-! ### The endpoints -/

/-- A body, and what a request with it meets. -/
structure NativeRequest where
  user : User
  db : Db
  serverId : ServerId
  data : List (String × Json)
  client : Except String Unit
  /-- What Proxmox answers. -/
  accepts : Props → Except String Unit

namespace NativeRequest

variable (str : Json → String) (r : NativeRequest)

/-- Both endpoints up to the parameters. -/
def admitted : Except Exc Unit := do
  ensure (hasPermission r.user "backup:manage") (.http 403 "Permission denied: backup:manage")
  ensure (r.db.servers.find? r.serverId).isSome (.http 404 "Server not found")

/-- Send the parameters. -/
def sent (props : Props) : Except Exc Unit := do
  r.client.mapError (.http 500)
  (r.accepts props).mapError (.http 400)

/-- `create_proxmox_native_job`: the job that Proxmox makes. -/
def createProxmoxNativeJob : Except Exc NativeJob := do
  r.admitted
  ensure ((get r.data "schedule").truthy && (get r.data "storage").truthy)
    (.http 400 "schedule and storage are required")
  let props ← buildNativeJobProps str r.data true
  r.sent props
  .ok (post props)

/-- `update_proxmox_native_job`: what Proxmox makes of the job. -/
def updateProxmoxNativeJob (old : NativeJob) : Except Exc NativeJob := do
  r.admitted
  let props ← buildNativeJobProps str r.data false
  r.sent props
  .ok (put props old)

/-- The selection of guests, the retention, the node, the comment, the mail and the schedule. -/
def compared : List String :=
  ["all", "vmid", "pool", "prune-backups", "node", "comment", "mailto", "schedule"]

/-- The updated job is the job that is created from the same body. -/
def SameAsCreated (old : NativeJob) : Prop :=
  ∀ created updated, r.createProxmoxNativeJob str = .ok created →
    r.updateProxmoxNativeJob str old = .ok updated →
      ∀ key ∈ compared, updated key = created key

/-- Both requests go through. -/
structure GoesThrough : Prop where
  permission : hasPermission r.user "backup:manage" = true
  server : (r.db.servers.find? r.serverId).isSome = true
  required : (get r.data "schedule").truthy = true ∧ (get r.data "storage").truthy = true
  numbers : (keepParts r.data).isSome = true
  client : r.client = .ok ()
  accepts : ∀ forCreate props, buildNativeJobProps str r.data forCreate = .ok props →
    r.accepts props = .ok ()

/-- Whatever the body leaves out, the job did not have. -/
structure Clears (old : NativeJob) : Prop where
  node : (get r.data "node").truthy = true ∨ old "node" = none
  comment : (get r.data "comment").truthy = true ∨ old "comment" = none
  mailto : (get r.data "mailto").truthy = true ∨ old "mailto" = none
  retention : (∃ key ∈ keepKeys, (get r.data key.1).truthy = true) ∨ old "prune-backups" = none
  guests : selectionMode r.data = .vmid → (vmidValue str r.data).truthy = true ∨ old "vmid" = none
  selection : selectionMode r.data = .unknown →
    old "all" = none ∧ old "vmid" = none ∧ old "pool" = none

end NativeRequest

/-! ### What the parameters say -/

section Lookup

variable {str : Json → String} {data : List (String × Json)} {parts : List String}

/-- A parameter under a condition is set exactly where the condition holds. -/
@[simp] theorem isSome_lookup_setWhen (b : Bool) (key : String) (value : Json) (k : String) :
    ((setWhen b key value).lookup k).isSome = (decide (k = key) && b) := by
  cases b with
  | false => rw [Bool.and_false]; rfl
  | true =>
    by_cases h : k = key
    · simp [setWhen, h]
    · simp [setWhen, h]

/-- The parameter that selects guests. -/
theorem isSome_lookup_selectionProps (k : String) :
    ((selectionProps str data).lookup k).isSome =
      (decide (k = "all" ∧ selectionMode data = .all) ||
        decide (k = "pool" ∧ selectionMode data = .pool) ||
        decide (k = "vmid" ∧ selectionMode data = .vmid) && (vmidValue str data).truthy) := by
  unfold selectionProps
  cases selectionMode data with
  | all =>
    have hset := isSome_lookup_setWhen true "all" (.number 1) k
    simpa [setWhen] using hset
  | pool =>
    have hset := isSome_lookup_setWhen true "pool" (get data "pool") k
    simpa [setWhen] using hset
  | vmid => simp
  | unknown => simp

/-- Nothing else is set under the name of a deletion. -/
theorem lookup_nativeProps (forCreate : Bool) (k : String) (hk : k ≠ "delete") :
    (nativeProps str data forCreate parts).lookup k =
      (nativeProps str data true parts).lookup k := by
  have hnone : ∀ b, (setWhen b "delete" (.text (",".intercalate (toDelete data)))).lookup k =
      none := by
    intro b
    refine Option.not_isSome_iff_eq_none.mp ?_
    rw [isSome_lookup_setWhen, decide_eq_false hk, Bool.false_and]
    exact Bool.false_ne_true
  simp only [nativeProps, List.lookup_append, hnone]

/-- An update names for deletion what it means to delete. -/
theorem deletions_nativeProps :
    deletions (nativeProps str data false parts) = toDelete data := by
  have hlookup : (nativeProps str data false parts).lookup "delete" =
      (setWhen (!(toDelete data).isEmpty) "delete"
        (.text (",".intercalate (toDelete data)))).lookup "delete" := by
    have hnone : ∀ b key value, "delete" ≠ key → (setWhen b key value).lookup "delete" = none := by
      intro b key value hne
      refine Option.not_isSome_iff_eq_none.mp ?_
      rw [isSome_lookup_setWhen, decide_eq_false hne, Bool.false_and]
      exact Bool.false_ne_true
    have hselection : (selectionProps str data).lookup "delete" = none := by
      refine Option.not_isSome_iff_eq_none.mp ?_
      rw [isSome_lookup_selectionProps]
      simp
    simp [nativeProps, setIfGiven, List.lookup_append, hnone, hselection]
  rw [deletions, hlookup]
  unfold toDelete
  cases selectionMode data with
  | all => decide
  | pool => decide
  | vmid => decide
  | unknown => rfl

/-- The retention is set exactly where one of its fields is given. -/
theorem isEmpty_keepParts (h : keepParts data = some parts) :
    parts.isEmpty = false ↔ ∃ key ∈ keepKeys, (get data key.1).truthy = true := by
  unfold keepParts at h
  cases hgiven : keepKeys.filter fun key => (get data key.1).truthy with
  | nil =>
    rw [hgiven] at h
    cases h
    refine iff_of_false Bool.noConfusion ?_
    rintro ⟨key, hkey, htruthy⟩
    exact absurd htruthy (List.filter_eq_nil_iff.mp hgiven key hkey)
  | cons key keys =>
    rw [hgiven, List.mapM_cons] at h
    obtain ⟨part, -, h⟩ := Option.bind_eq_some_iff.mp h
    obtain ⟨rest, -, h⟩ := Option.bind_eq_some_iff.mp h
    cases h
    have hmem : key ∈ keepKeys.filter fun key => (get data key.1).truthy :=
      hgiven ▸ List.mem_cons_self
    obtain ⟨hkey, htruthy⟩ := List.mem_filter.mp hmem
    exact iff_of_true rfl ⟨key, hkey, htruthy⟩

/-- Which parameters a new job is given. -/
theorem isSome_lookup_nativeProps (k : String) :
    ((nativeProps str data true parts).lookup k).isSome =
      (decide (k = "schedule") && (get data "schedule").truthy ||
        decide (k = "storage") && (get data "storage").truthy ||
        decide (k = "mode") && (get data "mode").truthy ||
        decide (k = "compress") && isGiven (get data "compress") || decide (k = "enabled") ||
        decide (k = "comment") && (get data "comment").truthy ||
        decide (k = "mailto") && (get data "mailto").truthy ||
        decide (k = "notes-template") && (get data "notes_template").truthy ||
        decide (k = "node") && (get data "node").truthy ||
        (decide (k = "all" ∧ selectionMode data = .all) ||
          decide (k = "pool" ∧ selectionMode data = .pool) ||
          decide (k = "vmid" ∧ selectionMode data = .vmid) && (vmidValue str data).truthy) ||
        decide (k = "prune-backups") && !parts.isEmpty) := by
  simp only [nativeProps, setIfGiven, List.lookup_append, Option.isSome_or, isSome_lookup_setWhen,
    isSome_lookup_selectionProps, Bool.and_true, Bool.not_true, Bool.false_and, Bool.and_false,
    Bool.or_false]

/-- An update leaves a property as a new job has it exactly when it is set, named for deletion
or was not there. -/
theorem put_eq_post_iff (old : NativeJob) {k : String} (hk : k ≠ "delete") :
    put (nativeProps str data false parts) old k = post (nativeProps str data true parts) k ↔
      ((nativeProps str data true parts).lookup k).isSome = true ∨ k ∈ toDelete data ∨
        old k = none := by
  rw [put, if_neg hk, lookup_nativeProps false k hk, deletions_nativeProps, post]
  cases (nativeProps str data true parts).lookup k with
  | some value => exact iff_of_true rfl (.inl rfl)
  | none =>
    rw [Option.none_or]
    split
    · rename_i hdeleted
      exact iff_of_true rfl (.inr (.inl hdeleted))
    · rename_i hkept
      constructor
      · exact fun h => .inr (.inr h)
      · rintro (h | h | h)
        · cases h
        · exact absurd h hkept
        · exact h

theorem buildNativeJobProps_eq_ok_iff {forCreate : Bool} {props : Props} :
    buildNativeJobProps str data forCreate = .ok props ↔
      ∃ parts, keepParts data = some parts ∧ nativeProps str data forCreate parts = props := by
  unfold buildNativeJobProps
  cases keepParts data with
  | none => exact iff_of_false (fun h => by cases h) fun ⟨_, h, _⟩ => by cases h
  | some parts =>
    constructor
    · exact fun h => ⟨parts, rfl, Except.ok.inj h⟩
    · rintro ⟨_, ⟨⟩, rfl⟩
      rfl

end Lookup

namespace NativeRequest

variable {str : Json → String} {r : NativeRequest} {old job : NativeJob}

theorem admitted_eq_ok_iff {u : Unit} : r.admitted = .ok u ↔
    hasPermission r.user "backup:manage" = true ∧
      (r.db.servers.find? r.serverId).isSome = true := by
  simp only [admitted, bind_eq_ok_iff, ensure_eq_ok_iff, exists_const]

theorem sent_eq_ok_iff {props : Props} {u : Unit} : r.sent props = .ok u ↔
    r.client = .ok () ∧ r.accepts props = .ok () := by
  simp only [sent, bind_eq_ok_iff, mapError_eq_ok_iff]
  exact ⟨fun ⟨(), h⟩ => h, fun h => ⟨(), h⟩⟩

/-- The endpoint that creates a job, read backwards. -/
theorem createProxmoxNativeJob_eq_ok_iff :
    r.createProxmoxNativeJob str = .ok job ↔
      r.admitted = .ok () ∧
        ((get r.data "schedule").truthy = true ∧ (get r.data "storage").truthy = true) ∧
        ∃ parts, keepParts r.data = some parts ∧
          r.sent (nativeProps str r.data true parts) = .ok () ∧
          post (nativeProps str r.data true parts) = job := by
  simp only [createProxmoxNativeJob, bind_eq_ok_iff, ensure_eq_ok_iff, exists_const,
    buildNativeJobProps_eq_ok_iff, Bool.and_eq_true]
  constructor
  · rintro ⟨⟨⟩, hadmitted, hrequired, props, ⟨parts, hparts, rfl⟩, ⟨⟩, hsent, hjob⟩
    exact ⟨hadmitted, hrequired, parts, hparts, hsent, Except.ok.inj hjob⟩
  · rintro ⟨hadmitted, hrequired, parts, hparts, hsent, rfl⟩
    exact ⟨(), hadmitted, hrequired, _, ⟨parts, hparts, rfl⟩, (), hsent, rfl⟩

/-- The endpoint that updates a job, read backwards. -/
theorem updateProxmoxNativeJob_eq_ok_iff :
    r.updateProxmoxNativeJob str old = .ok job ↔
      r.admitted = .ok () ∧
        ∃ parts, keepParts r.data = some parts ∧
          r.sent (nativeProps str r.data false parts) = .ok () ∧
          put (nativeProps str r.data false parts) old = job := by
  simp only [updateProxmoxNativeJob, bind_eq_ok_iff, buildNativeJobProps_eq_ok_iff]
  constructor
  · rintro ⟨⟨⟩, hadmitted, props, ⟨parts, hparts, rfl⟩, ⟨⟩, hsent, hjob⟩
    exact ⟨hadmitted, parts, hparts, hsent, Except.ok.inj hjob⟩
  · rintro ⟨hadmitted, parts, hparts, hsent, rfl⟩
    exact ⟨(), hadmitted, _, ⟨parts, hparts, rfl⟩, (), hsent, rfl⟩

/-- The compared properties come out alike exactly when what the body leaves out was not there. -/
theorem clears_iff {parts : List String} (hparts : keepParts r.data = some parts)
    (hschedule : (get r.data "schedule").truthy = true) :
    (∀ key ∈ compared,
      ((nativeProps str r.data true parts).lookup key).isSome = true ∨ key ∈ toDelete r.data ∨
        old key = none) ↔ r.Clears str old := by
  have hexpand : (∀ key ∈ compared,
      ((nativeProps str r.data true parts).lookup key).isSome = true ∨ key ∈ toDelete r.data ∨
        old key = none) ↔
      (selectionMode r.data ≠ .unknown ∨ old "all" = none) ∧
        (selectionMode r.data = .vmid ∧ (vmidValue str r.data).truthy = true ∨
          (selectionMode r.data = .all ∨ selectionMode r.data = .pool) ∨ old "vmid" = none) ∧
        (selectionMode r.data ≠ .unknown ∨ old "pool" = none) ∧
        (parts.isEmpty = false ∨ old "prune-backups" = none) ∧
        ((get r.data "node").truthy = true ∨ old "node" = none) ∧
        ((get r.data "comment").truthy = true ∨ old "comment" = none) ∧
        ((get r.data "mailto").truthy = true ∨ old "mailto" = none) := by
    cases hmode : selectionMode r.data with
    | _ => simp [compared, isSome_lookup_nativeProps, toDelete, hmode, hschedule]
  rw [hexpand, isEmpty_keepParts hparts]
  constructor
  · rintro ⟨hall, hvmid, hpool, hretention, hnode, hcomment, hmailto⟩
    refine ⟨hnode, hcomment, hmailto, hretention, fun hmode => ?_, fun hmode => ?_⟩
    · rcases hvmid with ⟨-, hgiven⟩ | (hother | hother) | hnone
      · exact .inl hgiven
      · exact Selection.noConfusion (hmode.symm.trans hother)
      · exact Selection.noConfusion (hmode.symm.trans hother)
      · exact .inr hnone
    · refine ⟨hall.resolve_left fun h => h hmode, ?_, hpool.resolve_left fun h => h hmode⟩
      rcases hvmid with ⟨hother, -⟩ | (hother | hother) | hnone
      · exact Selection.noConfusion (hmode.symm.trans hother)
      · exact Selection.noConfusion (hmode.symm.trans hother)
      · exact Selection.noConfusion (hmode.symm.trans hother)
      · exact hnone
  · intro h
    have hselection : ∀ key, (selectionMode r.data = .unknown → old key = none) →
        selectionMode r.data ≠ .unknown ∨ old key = none := fun key hkey =>
      (em (selectionMode r.data = .unknown)).elim (fun hmode => .inr (hkey hmode)) .inl
    refine ⟨hselection "all" fun hmode => (h.selection hmode).1, ?_,
      hselection "pool" fun hmode => (h.selection hmode).2.2, h.retention, h.node, h.comment,
      h.mailto⟩
    cases hmode : selectionMode r.data with
    | all => exact .inr (.inl (.inl rfl))
    | pool => exact .inr (.inl (.inr rfl))
    | vmid =>
      rcases h.guests hmode with hgiven | hnone
      · exact .inl ⟨rfl, hgiven⟩
      · exact .inr (.inr hnone)
    | unknown => exact .inr (.inr (h.selection hmode).2.1)

/-- An update comes out as a new job exactly when what the body leaves out was not there. -/
theorem sameAsCreated_iff (str : Json → String) (r : NativeRequest) (old : NativeJob) :
    r.SameAsCreated str old ↔ (r.GoesThrough str → r.Clears str old) := by
  have hdelete : ∀ key ∈ compared, key ≠ "delete" := by decide
  constructor
  · intro h hgo
    obtain ⟨parts, hparts⟩ := Option.isSome_iff_exists.mp hgo.numbers
    have hadmitted : r.admitted = .ok () := admitted_eq_ok_iff.mpr ⟨hgo.permission, hgo.server⟩
    have hsent : ∀ forCreate, r.sent (nativeProps str r.data forCreate parts) = .ok () := by
      intro forCreate
      refine sent_eq_ok_iff.mpr ⟨hgo.client, hgo.accepts forCreate _ ?_⟩
      exact buildNativeJobProps_eq_ok_iff.mpr ⟨parts, hparts, rfl⟩
    have hsame := h _ _
      (createProxmoxNativeJob_eq_ok_iff.mpr
        ⟨hadmitted, hgo.required, parts, hparts, hsent true, rfl⟩)
      (updateProxmoxNativeJob_eq_ok_iff.mpr ⟨hadmitted, parts, hparts, hsent false, rfl⟩)
    refine (clears_iff hparts hgo.required.1).mp fun key hkey => ?_
    exact (put_eq_post_iff old (hdelete key hkey)).mp (hsame key hkey)
  · intro h created updated hcreated hupdated key hkey
    obtain ⟨hadmitted, hrequired, parts, hparts, hcreate, rfl⟩ :=
      createProxmoxNativeJob_eq_ok_iff.mp hcreated
    obtain ⟨-, parts', hparts', hupdate, rfl⟩ := updateProxmoxNativeJob_eq_ok_iff.mp hupdated
    cases hparts.symm.trans hparts'
    have haccepts : ∀ forCreate props, buildNativeJobProps str r.data forCreate = .ok props →
        r.accepts props = .ok () := by
      intro forCreate props hprops
      obtain ⟨parts', hparts', rfl⟩ := buildNativeJobProps_eq_ok_iff.mp hprops
      cases hparts.symm.trans hparts'
      cases forCreate with
      | true => exact (sent_eq_ok_iff.mp hcreate).2
      | false => exact (sent_eq_ok_iff.mp hupdate).2
    obtain ⟨hpermission, hserver⟩ := admitted_eq_ok_iff.mp hadmitted
    have hclears := h ⟨hpermission, hserver, hrequired, hparts ▸ rfl,
      (sent_eq_ok_iff.mp hcreate).1, haccepts⟩
    exact (put_eq_post_iff old (hdelete key hkey)).mpr
      ((clears_iff hparts hrequired.1).mpr hclears key hkey)

/-- The form of a job whose comment was cleared. -/
def clearedForm : NativeRequest where
  user := ⟨1, "root", true, none, []⟩
  db :=
    { servers := ⟨[⟨1, "pve1", "pve1.lan", "10.0.0.5", 8006, "root@pam", none, none, true, none,
        false, none, none, some true, none, none, none⟩], by decide⟩
      vms := .empty
      ipam := ⟨.empty, []⟩ }
  serverId := 1
  data := [("schedule", .text "sat 03:00"), ("storage", .text "local"), ("mode", .text "snapshot"),
    ("compress", .text "zstd"), ("enabled", .bool true), ("selection_mode", .text "all"),
    ("keep_last", .number 3)]
  client := .ok ()
  accepts := fun _ => .ok ()

/-- A job with a comment. -/
def commented : NativeJob := fun key =>
  if key = "comment" then some (.text "every week") else none

/-- `str` on texts, which is all that this body asks of it. -/
def textStr : Json → String
  | .text s => s
  | _ => ""

/-- The comment stays after it was cleared in the form. -/
theorem clearedForm_not_sameAsCreated : ¬clearedForm.SameAsCreated textStr commented := by
  intro h
  have hcreated : clearedForm.createProxmoxNativeJob textStr =
      .ok (post (nativeProps textStr clearedForm.data true ["keep-last=3"])) := rfl
  have hupdated : clearedForm.updateProxmoxNativeJob textStr commented =
      .ok (put (nativeProps textStr clearedForm.data false ["keep-last=3"]) commented) := rfl
  have hsame := h _ _ hcreated hupdated "comment" (by decide)
  have hkept : put (nativeProps textStr clearedForm.data false ["keep-last=3"]) commented
      "comment" = some (.text "every week") := rfl
  rw [hkept] at hsame
  cases hsame

end NativeRequest

end PveManager.Backups
