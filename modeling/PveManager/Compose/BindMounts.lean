import PveManager.Compose.PortSyntax
import PveManager.Compose.Removal
import PveManager.Core.Paths

/-!
# Bind mounts

The directories that are made before an app comes up, so that its images can write to them. They are
read from the short form of `volumes`, as Compose reads its bind mounts; but a relative path loses its
leading dots and slashes, and with them the dot of a hidden name and the way back.
-/

namespace PveManager.Compose

open PveManager.Core PveManager.Core.Yaml

/-! ### The directories of the code -/

/-- The entries of `volumes`. -/
def volumesOf (svc : Yaml) : List Yaml :=
  match svc.get? "volumes" with
  | some (.list volumes) => volumes
  | _ => []

/-- All the entries of a file. -/
def allVolumes (doc : Yaml) : List Yaml := (servicesOf doc).flatMap fun item => volumesOf item.2

/-- The text is no named volume: it begins as a path or with a variable. -/
def beginsAsPath (text : List Char) : Bool :=
  match text with
  | c :: _ => decide (c = '/' ∨ c = '.' ∨ c = '~' ∨ c = '$')
  | [] => false

/-- The source of an entry, after the substitution of variables. -/
def bindSource (env : Env) (text : String) : Option (List Char) :=
  if text.toList.contains ':' && beginsAsPath text.toList then
    let source := (substEnv text env).toList.takeWhile (· ≠ ':')
    if source.isEmpty then none else some source
  else none

/-- The directory on the host; `lstrip` takes every dot and slash at the beginning. -/
def bindHost (appDir : String) (source : List Char) : String :=
  if source.head? = some '/' then String.ofList source
  else appDir ++ "/" ++ String.ofList (dropDots source)

/-- The directory of an entry. -/
def hostOf (appDir : String) (env : Env) : Yaml → Option String
  | .str text => (bindSource env text).map (bindHost appDir)
  | _ => none

/-- `_bind_mount_hosts`. -/
def bindMountHosts (doc : Yaml) (appDir : String) (env : Env) : List String :=
  ((allVolumes doc).filterMap (hostOf appDir env)).eraseDups

/-- `_is_file_mount`. -/
def isFileMount (source : String) : Bool :=
  let name := ((source.toList.splitOn '/').getLast?).getD []
  if name.head? = some '.' then ".env".toList.isPrefixOf (String.ofList name).toLower.toList
  else name.contains '.'

/-- The directory that a file is made in. -/
def parentOf (path : String) : String :=
  if path.toList.contains '/' then
    String.ofList (['/'].intercalate (path.toList.splitOn '/').dropLast)
  else "."

/-- A command in the container. -/
inductive Preparation
  /-- `mkdir -p` and `chmod -R 777`. -/
  | directories (paths : List String)
  /-- `mkdir -p` of the parent, then `touch` and `chmod 777`. -/
  | file (parent path : String)

/-- The mount points that a command makes. -/
def Preparation.paths : Preparation → List String
  | .directories paths => paths
  | .file _ path => [path]

/-- `_prepare_bind_mounts`. -/
def prepareBindMounts (doc : Yaml) (appDir : String) (env : Env) : List Preparation :=
  let hosts := bindMountHosts doc appDir env
  let dirs := hosts.filter fun host => !isFileMount host
  let files := hosts.filter isFileMount
  (if dirs.isEmpty then [] else [.directories dirs]) ++
    files.map fun path => .file (parentOf path) path

/-! ### The mounts of Compose -/

/-- A target follows, behind a colon. -/
def hasTarget (behind : List Char) : Bool :=
  match behind with
  | ':' :: c :: _ => decide (c ≠ ':')
  | _ => false

/-- The source of a bind mount in the short form: it begins with a slash, a dot or a tilde. -/
def mountSource (text : String) : Option (List Char) :=
  match text.toList with
  | c :: rest =>
    if decide (c = '/' ∨ c = '.' ∨ c = '~') && hasTarget ((c :: rest).dropWhile (· ≠ ':')) then
      some ((c :: rest).takeWhile (· ≠ ':'))
    else none
  | [] => none

/-- The place of a source, for a home directory and a project directory. -/
def mountPlace (home dir : Place) (source : List Char) : Place :=
  match source with
  | '/' :: rest => walk [] ('/' :: rest)
  | '~' :: rest => walk home rest
  | source => walk dir source

/-- The place that Compose mounts for an entry. -/
def mountOf (reader : ComposeReader) (home dir : Place) : Yaml → Option Place
  | .str text => ((reader.interpolate text).bind mountSource).map (mountPlace home dir)
  | _ => none

/-- The directory is the project's. -/
def placeOf (path : String) : Place := walk [] path.toList

/-- The paths lead to the places that Compose mounts, and to no others. -/
def Mounts (reader : ComposeReader) (home dir : Place) (doc : Yaml) (paths : List String) : Prop :=
  ∀ place, (∃ path ∈ paths, placeOf path = place) ↔
    ∃ volume ∈ allVolumes doc, mountOf reader home dir volume = some place

/-- What is returned, and what is prepared, are exactly the mounts. -/
structure ExactMounts (reader : ComposeReader) (home : Place) (appDir : String) (env : Env)
    (doc : Yaml) : Prop where
  hosts : Mounts reader home (placeOf appDir) doc (bindMountHosts doc appDir env)
  prepared : Mounts reader home (placeOf appDir) doc
    ((prepareBindMounts doc appDir env).flatMap Preparation.paths)

/-! ### Readings -/

/-- The place that a source is read as: an absolute one its own, and any other one without its leading
dots and slashes. -/
def readPlace (dir : Place) (source : List Char) : Place :=
  if source.head? = some '/' then walk [] source else walk dir (dropDots source)

/-- The place that an entry is read as. -/
def readOf (env : Env) (dir : Place) : Yaml → Option Place
  | .str text => (bindSource env text).map (readPlace dir)
  | _ => none

section Readings

variable {appDir : String} {env : Env} {doc : Yaml}

theorem placeOf_bindHost (source : List Char) :
    placeOf (bindHost appDir source) = readPlace (placeOf appDir) source := by
  unfold bindHost readPlace placeOf
  split
  · rw [String.toList_ofList]
  · have hrest : (String.ofList (dropDots source)).toList = dropDots source := String.toList_ofList
    rw [String.toList_append, String.toList_append, hrest, List.append_assoc]
    exact walk_append [] appDir.toList (dropDots source)

theorem map_hostOf (volume : Yaml) :
    (hostOf appDir env volume).map placeOf = readOf env (placeOf appDir) volume := by
  cases volume with
  | str text =>
    change ((bindSource env text).map (bindHost appDir)).map placeOf =
      (bindSource env text).map (readPlace (placeOf appDir))
    rw [Option.map_map]
    congr 1
    funext source
    exact placeOf_bindHost source
  | _ => rfl

/-- The returned paths lead to the places that the entries are read as. -/
theorem exists_host_iff {place : Place} :
    (∃ path ∈ bindMountHosts doc appDir env, placeOf path = place) ↔
      ∃ volume ∈ allVolumes doc, readOf env (placeOf appDir) volume = some place := by
  unfold bindMountHosts
  constructor
  · rintro ⟨path, hpath, rfl⟩
    obtain ⟨volume, hvolume, hhost⟩ := List.mem_filterMap.mp (List.mem_eraseDups.mp hpath)
    refine ⟨volume, hvolume, ?_⟩
    rw [← map_hostOf, hhost]
    rfl
  · rintro ⟨volume, hvolume, hread⟩
    rw [← map_hostOf] at hread
    obtain ⟨path, hhost, hplace⟩ := Option.map_eq_some_iff.mp hread
    exact ⟨path, List.mem_eraseDups.mpr (List.mem_filterMap.mpr ⟨volume, hvolume, hhost⟩), hplace⟩

/-- Every returned path is prepared, as a directory or as a file. -/
theorem mem_prepared {path : String} :
    path ∈ (prepareBindMounts doc appDir env).flatMap Preparation.paths ↔
      path ∈ bindMountHosts doc appDir env := by
  have hfiles : ∀ files : List String,
      (files.map fun path => Preparation.file (parentOf path) path).flatMap Preparation.paths =
        files := by
    intro files
    induction files with
    | nil => rfl
    | cons file rest ih =>
      rw [List.map_cons, List.flatMap_cons, ih]
      rfl
  have hdirs : ∀ dirs : List String,
      (if dirs.isEmpty then [] else [Preparation.directories dirs]).flatMap Preparation.paths =
        dirs := by
    intro dirs
    cases dirs with
    | nil => rfl
    | cons dir rest => exact List.append_nil _
  unfold prepareBindMounts
  rw [List.flatMap_append, hfiles, hdirs, List.mem_append, List.mem_filter, List.mem_filter]
  cases isFileMount path <;> simp

end Readings

/-! ### Exactness -/

section Exact

variable (reader : ComposeReader) (home : Place) (env : Env)

/-- The entry is read as the place that Compose mounts for it, if any. -/
def ReadAlike (dir : Place) (volume : Yaml) : Prop :=
  readOf env dir volume = mountOf reader home dir volume

/-- The place that an entry is read as is mounted for some entry, and the one that is mounted for it is
read for some entry. -/
def MadeUp (dir : Place) (doc volume : Yaml) : Prop :=
  (∀ place, readOf env dir volume = some place →
    ∃ other ∈ allVolumes doc, mountOf reader home dir other = some place) ∧
  ∀ place, mountOf reader home dir volume = some place →
    ∃ other ∈ allVolumes doc, readOf env dir other = some place

theorem exactMounts_of_hosts {reader : ComposeReader} {home : Place} {appDir : String} {env : Env}
    {doc : Yaml} (h : Mounts reader home (placeOf appDir) doc (bindMountHosts doc appDir env)) :
    ExactMounts reader home appDir env doc := by
  refine ⟨h, fun place => ?_⟩
  rw [← h place]
  constructor <;> rintro ⟨path, hpath, hplace⟩
  · exact ⟨path, mem_prepared.mp hpath, hplace⟩
  · exact ⟨path, mem_prepared.mpr hpath, hplace⟩

/-- The source of an entry is the same to the code and to Compose, and keeps its place without its leading
dots and slashes. -/
inductive SafeEntry : Yaml → Prop
  /-- The long form. -/
  | other {volume : Yaml} (h : ∀ text, volume ≠ .str text) : SafeEntry volume
  /-- A named volume to both. -/
  | named {text : String} (hcode : bindSource env text = none)
    (hmount : (reader.interpolate text).bind mountSource = none) : SafeEntry (.str text)
  /-- An absolute path to both. -/
  | absolute {text : String} {rest : List Char} (hcode : bindSource env text = some ('/' :: rest))
    (hmount : (reader.interpolate text).bind mountSource = some ('/' :: rest)) :
    SafeEntry (.str text)
  /-- A relative path to both, of which the first name does not begin with a dot. -/
  | relative {text : String} {rest : List Char} (hcode : bindSource env text = some ('.' :: rest))
    (hmount : (reader.interpolate text).bind mountSource = some ('.' :: rest))
    (hname : ¬DotFirst ('.' :: rest)) : SafeEntry (.str text)

/-- A safe entry is read alike. -/
theorem SafeEntry.readAlike {reader : ComposeReader} {env : Env} {volume : Yaml}
    (h : SafeEntry reader env volume) (home dir : Place) :
    ReadAlike reader home env dir volume := by
  unfold ReadAlike readOf mountOf
  cases h with
  | other h =>
    cases volume with
    | str text => exact absurd rfl (h text)
    | _ => rfl
  | named hcode hmount =>
    dsimp only
    rw [hcode, hmount]
    rfl
  | absolute hcode hmount =>
    dsimp only
    rw [hcode, hmount]
    rfl
  | relative hcode hmount hname =>
    dsimp only
    rw [hcode, hmount]
    exact congrArg some (walk_dropDots hname dir)

end Exact

/-! ### Entries without variables -/

section Plain

variable {reader : ComposeReader} {home dir : Place} {env : Env} {text : String}
  {c d : Char} {rest target : List Char}

/-- A text of a source and a target, without variables. -/
def IsEntry (text : String) (source : List Char) (d : Char) (target : List Char) : Prop :=
  '$' ∉ text.toList ∧ text.toList = source ++ ':' :: d :: target ∧ ':' ∉ source ∧ d ≠ ':'

theorem takeWhile_entry {source : List Char} (behind : List Char) (h : ':' ∉ source) :
    (source ++ ':' :: behind).takeWhile (· ≠ ':') = source ∧
      (source ++ ':' :: behind).dropWhile (· ≠ ':') = ':' :: behind := by
  have hall : ∀ x ∈ source, decide (x ≠ ':') = true :=
    fun x hx => decide_eq_true fun heq => h (heq ▸ hx)
  rw [List.takeWhile_append_of_pos hall, List.dropWhile_append_of_pos hall]
  exact ⟨List.append_nil source, rfl⟩

/-- A path in front of a target is read by both, as a path. -/
theorem readAlike_entry_iff (h : IsEntry text (c :: rest) d target) (hc : c = '/' ∨ c = '.' ∨ c = '~') :
    ReadAlike reader home env dir (.str text) ↔
      readPlace dir (c :: rest) = mountPlace home dir (c :: rest) := by
  obtain ⟨hdollar, htext, hcolon, hd⟩ := h
  obtain ⟨htake, hdrop⟩ := takeWhile_entry (d :: target) hcolon
  have hsource : bindSource env text = some (c :: rest) := by
    have hbegins : beginsAsPath text.toList = true := by
      rw [htext]
      exact decide_eq_true (hc.imp_right (Or.imp_right Or.inl))
    have hcontains : text.toList.contains ':' = true := by
      rw [htext, List.contains_iff_mem]
      exact List.mem_append_right _ List.mem_cons_self
    unfold bindSource
    rw [hcontains, hbegins, substEnv_of_not_mem hdollar, htext, htake]
    rfl
  have hmount : mountSource text = some (c :: rest) := by
    have htarget : hasTarget (':' :: d :: target) = true := decide_eq_true hd
    unfold mountSource
    rw [htext]
    change (if decide _ && hasTarget ((c :: rest ++ ':' :: d :: target).dropWhile _) then
      some ((c :: rest ++ ':' :: d :: target).takeWhile _) else none) = _
    rw [htake, hdrop, htarget, decide_eq_true hc]
    rfl
  unfold ReadAlike readOf mountOf
  dsimp only
  rw [hsource, reader.plain _ hdollar, Option.bind_some, hmount]
  exact Option.some_inj

theorem readAlike_absolute (h : IsEntry text ('/' :: rest) d target) :
    ReadAlike reader home env dir (.str text) :=
  (readAlike_entry_iff h (Or.inl rfl)).mpr rfl

/-- A relative path that never goes back is read alike when its first name does not begin with a dot. -/
theorem readAlike_relative_iff (h : IsEntry text ('.' :: rest) d target)
    (hback : ¬GoesBack ('.' :: rest)) :
    ReadAlike reader home env dir (.str text) ↔ ¬DotFirst ('.' :: rest) := by
  rw [readAlike_entry_iff h (Or.inr (Or.inl rfl)), ← walk_dropDots_iff hback dir]
  rfl

/-- A path behind a tilde is read below the project directory, and mounted below the home directory. -/
theorem readAlike_home_iff (h : IsEntry text ('~' :: rest) d target) :
    ReadAlike reader home env dir (.str text) ↔ walk dir ('~' :: rest) = walk home rest :=
  readAlike_entry_iff h (Or.inr (Or.inr rfl))

/-- A named volume is not read as a directory. -/
theorem readAlike_named (hdollar : '$' ∉ text.toList) (hname : beginsAsPath text.toList = false) :
    ReadAlike reader home env dir (.str text) := by
  have hsource : bindSource env text = none := by
    unfold bindSource
    rw [hname, Bool.and_false]
    rfl
  have hmount : mountSource text = none := by
    unfold mountSource
    unfold beginsAsPath at hname
    cases htext : text.toList with
    | nil => rfl
    | cons c rest =>
      rw [htext] at hname
      have hc : decide (c = '/' ∨ c = '.' ∨ c = '~') = false := by
        refine decide_eq_false fun hpath => of_decide_eq_false hname ?_
        exact hpath.imp_right (Or.imp_right Or.inl)
      dsimp only
      rw [hc, Bool.false_and]
      rfl
  unfold ReadAlike readOf mountOf
  dsimp only
  rw [hsource, reader.plain _ hdollar, Option.bind_some, hmount]
  rfl

/-- The directories of a file with one entry are exact when that one is read alike. -/
theorem exactMounts_one_iff {appDir : String} {doc : Yaml} (h : allVolumes doc = [.str text]) :
    ExactMounts reader home appDir env doc ↔
      ReadAlike reader home env (placeOf appDir) (.str text) := by
  have hone : ∀ {p : Yaml → Prop}, (∃ volume ∈ allVolumes doc, p volume) ↔ p (.str text) := by
    intro p
    rw [h]
    exact ⟨fun ⟨_, hmem, hp⟩ => List.mem_singleton.mp hmem ▸ hp,
      fun hp => ⟨_, List.mem_singleton_self _, hp⟩⟩
  constructor
  · intro hexact
    refine Option.ext fun place => ?_
    have hplace := hexact.hosts place
    rw [exists_host_iff, hone, hone] at hplace
    exact hplace
  · intro hsame
    have hhosts : Mounts reader home (placeOf appDir) doc (bindMountHosts doc appDir env) := by
      intro place
      rw [exists_host_iff, hone, hone, hsame]
    exact exactMounts_of_hosts hhosts

end Plain

/-! ### A hidden directory -/

/-- `APP_DIR`. -/
def appDir : String := "/opt/app"

/-- A service that keeps its settings in a hidden directory. -/
def hiddenDirectory : Yaml :=
  .dict [("services", .dict [("web", .dict [("image", .str "nginx"),
    ("volumes", .list [.str "./.config:/config"])])])]

end PveManager.Compose
