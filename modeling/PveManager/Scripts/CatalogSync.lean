import Mathlib.Logic.Equiv.Basic
import PveManager.Core.KeyedTable
import PveManager.Core.Paths
import PveManager.Models.Records

/-!
# The catalogue of scripts and its repositories

`sync_git_repo` stores the scripts of a clone in the catalogue. A row is found by its slug, which
is the path with every slash made a dash; rows of the repository whose slug was not met are
deleted. Scripts of one's own are in the same catalogue, under slugs their authors choose.
-/

namespace PveManager.Scripts

open PveManager.Core

/-! ### Metadata -/

def capitalizeAscii : List Char → List Char
  | [] => []
  | c :: chars => c.toUpper :: chars.map Char.toLower

/-- Python's character tables, where they say more than ASCII. -/
structure CharTables where
  /-- `\w` of a regular expression. -/
  isWord : Char → Bool
  /-- `str.isdigit` of a character. -/
  isDigit : Char → Bool
  /-- `str.capitalize`. -/
  capitalize : List Char → List Char
  ascii_isWord : ∀ c, c.toNat < 128 → isWord c = (c.isAlphanum || c == '_')
  ascii_isDigit : ∀ c, c.toNat < 128 → isDigit c = c.isDigit
  ascii_capitalize : ∀ chars, (∀ c ∈ chars, c.toNat < 128) →
    capitalize chars = capitalizeAscii chars

/-- An entry of `params_schema`. -/
structure ScriptParam where
  name : String
  label : String
  type : String
  required : Bool
  default : Option String
  deriving DecidableEq

/-- What a script says of itself. -/
structure Metadata where
  name : String
  description : Option String
  targetType : String
  category : Option String
  paramsSchema : List ScriptParam
  deriving DecidableEq

def isLineBreak (c : Char) : Bool :=
  [10, 11, 12, 13, 28, 29, 30, 133, 8232, 8233].contains c.toNat

/-- `str.splitlines`, of a text that continues a line. -/
def splitlines (line : List Char) : List Char → List (List Char)
  | [] => if line = [] then [] else [line]
  | '\r' :: '\n' :: text => line :: splitlines [] text
  | c :: text => if isLineBreak c then line :: splitlines [] text else splitlines (line ++ [c]) text

/-- The value of a comment `# key: value`; the case of the key does not matter. -/
def commentValue (key : String) : List Char → Option (List Char)
  | '#' :: comment =>
    let comment := comment.dropWhile isSpace
    if (comment.take key.length).map Char.toLower = key.toList then
      match (comment.drop key.length).dropWhile isSpace with
      | ':' :: value => some value
      | _ => none
    else none
  | _ => none

/-- The parts of a `param` comment; without a name there is none. -/
def readParam (value : List Char) : Option ScriptParam :=
  let parts := (value.splitOn '|').map stripChars
  let name := parts.headD []
  if name = [] then none
  else some
    { name := String.ofList name
      label := String.ofList ((parts[1]?.filter (· ≠ [])).getD name)
      type := String.ofList ((parts[2]?.filter (· ≠ [])).getD "string".toList)
      required := parts[3]?.any fun part => part.map Char.toLower = "true".toList
      default := parts[4]?.map String.ofList }

/-- Take over what a comment says. -/
def Metadata.readComment (m : Metadata) (comment : List Char) : Metadata :=
  if let some value := commentValue "name" comment then
    { m with name := String.ofList (stripChars value) }
  else if let some value := commentValue "description" comment then
    { m with description := some (String.ofList (stripChars value)) }
  else if let some value := commentValue "target" comment then
    { m with targetType := if stripChars value = "node".toList then "node" else "guest" }
  else if let some value := commentValue "category" comment then
    { m with category := some (String.ofList (stripChars value)) }
  else if let some value := commentValue "param" comment then
    { m with paramsSchema := m.paramsSchema ++ (readParam value).toList }
  else m

/-- Read comments up to the first line of code. -/
def Metadata.readHeader (m : Metadata) : List (List Char) → Metadata
  | [] => m
  | line :: lines =>
    let stripped := stripChars line
    if stripped.head? = some '#' then (m.readComment stripped).readHeader lines
    else if stripped = [] then m.readHeader lines
    else m

/-- `_parse_script_metadata`. -/
def parseScriptMetadata (text fallbackName : String) : Metadata :=
  Metadata.readHeader ⟨fallbackName, none, "guest", none, []⟩ ((splitlines [] text.toList).take 60)

/-- `APP="…"`. -/
def readApp (line : List Char) : Option (List Char) := do
  let rest ← line.dropPrefix? "APP=\"".toList
  let name := rest.takeWhile (· ≠ '"')
  guard (name ≠ [] ∧ (rest.drop name.length).head? = some '"')
  pure name

section Community

variable (tables : CharTables)

/-- `var_X="${var_X:-DEFAULT}"`: what stands behind `var_`, and the default. -/
def readVar (line : List Char) : Option (List Char × List Char) := do
  let rest ← line.dropPrefix? "var_".toList
  let name := rest.takeWhile tables.isWord
  guard (name ≠ [])
  let rest ← (rest.drop name.length).dropPrefix? "=\"$\x7bvar_".toList
  let again := rest.takeWhile tables.isWord
  guard (again ≠ [])
  let rest ← (rest.drop again.length).dropPrefix? ":-".toList
  let default := rest.takeWhile (· ≠ '}')
  guard (rest.drop default.length = "\x7d\"".toList)
  pure (name, default)

/-- The default is a number, up to dashes in front of it. -/
def isNumber (default : List Char) : Bool :=
  let digits := default.dropWhile (· = '-')
  !digits.isEmpty && digits.all tables.isDigit

def varParam (name default : List Char) : ScriptParam where
  name := String.ofList ("var_".toList ++ name)
  label := String.ofList
    (tables.capitalize (name.map fun c => if c = '_' then ' ' else c))
  type := if isNumber tables default then "number" else "string"
  required := false
  default := some (String.ofList default)

/-- The name and the parameters after a line. -/
def readLine (found : String × List ScriptParam) (line : List Char) : String × List ScriptParam :=
  let stripped := stripChars line
  match readApp stripped with
  | some name => (String.ofList name, found.2)
  | none =>
    match readVar tables stripped with
    | some (name, default) => (found.1, found.2 ++ [varParam tables name default])
    | none => found

/-- `_parse_community_scripts_metadata`. -/
def parseCommunityScriptsMetadata (text fallbackName : String) : Metadata :=
  let found := (splitlines [] text.toList).foldl (readLine tables) (fallbackName, [])
  { name := found.1
    description := some ("Community-Scripts LXC installer: " ++ found.1)
    targetType := "node"
    category := some "LXC (community-scripts)"
    paramsSchema := found.2 }

end Community

/-! ### The catalogue -/

inductive ScriptSource
  | manual
  | git
  | communityScripts
  deriving DecidableEq

/-- `metadata_format`. -/
inductive MetadataFormat
  | headerComment
  | communityScriptsCt
  deriving DecidableEq

def MetadataFormat.source : MetadataFormat → ScriptSource
  | .headerComment => .git
  | .communityScriptsCt => .communityScripts

abbrev RepoId := Nat

structure ScriptGitRepo where
  id : RepoId
  metadataFormat : MetadataFormat
  lastSyncedAt : Option Time
  lastSyncError : Option String

/-- A row of `script_catalog`. -/
structure ScriptCatalog where
  slug : String
  metadata : Metadata
  interpreter : String
  content : String
  source : ScriptSource
  gitRepoId : Option RepoId
  gitPath : Option String
  createdBy : Option UserId
  deriving DecidableEq

/-- The catalogue, with its unique index. -/
abbrev Catalog := KeyedTable ScriptCatalog.slug

/-! ### Scripts of one's own -/

def isSlugChar (c : Char) : Bool := c.isLower || c.isDigit

/-- `[a-z0-9]([a-z0-9-]{0,98}[a-z0-9])?`. -/
def slugPattern (slug : List Char) : Bool :=
  decide (1 ≤ slug.length ∧ slug.length ≤ 100) && slug.all (fun c => isSlugChar c || c == '-') &&
    slug.head?.all isSlugChar && slug.getLast?.all isSlugChar

/-- `_SLUG_RE`: the `$` also matches in front of a last newline. -/
def slugRe (slug : String) : Bool :=
  slugPattern slug.toList ||
    (slug.toList.getLast? == some '\n' && slugPattern slug.toList.dropLast)

structure ScriptCreateRequest where
  slug : String
  metadata : Metadata
  interpreter : String
  content : String

inductive CreateRefusal
  /-- 400. -/
  | badSlug
  /-- 409. -/
  | slugTaken
  deriving DecidableEq

/-- `create_script`. -/
def createScript (catalog : Catalog) (req : ScriptCreateRequest) (user : UserId) :
    Except CreateRefusal Catalog :=
  if slugRe req.slug then
    if (catalog.find? req.slug).isSome then .error .slugTaken
    else .ok (catalog.save
      { slug := req.slug
        metadata := req.metadata
        interpreter := if req.interpreter = "" then "/bin/bash" else req.interpreter
        content := req.content
        source := .manual
        gitRepoId := none
        gitPath := none
        createdBy := some user })
  else .error .badSlug

/-! ### Synchronisation -/

/-- What a path leads to; the content of a file that cannot be read is missing. -/
inductive Entry
  | directory
  | file (content : Option String)

def Entry.read : Entry → Option String
  | .directory => none
  | .file content => content

/-- A clone, with the paths that the glob has matched, relative to its root. -/
structure Checkout where
  matched : List String
  entry : String → Entry

/-- How `_clone_repo` ends. -/
inductive Clone
  | failed (stderr : Option String) (message : String)
  | timeout
  | done (tree : Checkout)

/-- A path with dashes for its slashes. -/
def dashes (relPath : String) : List Char :=
  relPath.toList.map fun c => if c = '/' ∨ c = '\\' then '-' else c

/-- The slug of a file. -/
def slugOf (repoId : RepoId) (relPath : String) : String :=
  String.ofList (("git-".toList ++ (toString repoId).toList) ++ '-' :: dashes relPath)

section Sync

variable (tables : CharTables) (repo : ScriptGitRepo)

/-- The metadata of a file. -/
def ScriptGitRepo.metadataOf (relPath content : String) : Metadata :=
  let fallbackName := String.ofList (lastPart relPath.toList)
  match repo.metadataFormat with
  | .communityScriptsCt => parseCommunityScriptsMetadata tables content fallbackName
  | .headerComment => parseScriptMetadata content fallbackName

/-- The row of a file, from the row of its slug. -/
def ScriptGitRepo.record (relPath content : String) : Option ScriptCatalog → ScriptCatalog
  | some existing =>
    { existing with
      metadata := repo.metadataOf tables relPath content
      content := content
      gitPath := some relPath
      source := repo.metadataFormat.source }
  | none =>
    { slug := slugOf repo.id relPath
      metadata := repo.metadataOf tables relPath content
      interpreter := "/bin/bash"
      content := content
      source := repo.metadataFormat.source
      gitRepoId := some repo.id
      gitPath := some relPath
      createdBy := none }

structure SyncState where
  catalog : Catalog
  seenSlugs : List String
  created : Nat
  updated : Nat
  errors : Nat

/-- One pass of the loop. -/
def syncFile (tree : Checkout) (st : SyncState) (relPath : String) : SyncState :=
  match (tree.entry relPath).read with
  | none => { st with errors := st.errors + 1 }
  | some content =>
    let existing := st.catalog.find? (slugOf repo.id relPath)
    { st with
      catalog := st.catalog.save (repo.record tables relPath content existing)
      seenSlugs := st.seenSlugs ++ [slugOf repo.id relPath]
      created := if existing.isSome then st.created else st.created + 1
      updated := if existing.isSome then st.updated + 1 else st.updated }

/-- All files of a clone. -/
def syncFiles (tree : Checkout) (catalog : Catalog) : SyncState :=
  tree.matched.foldl (syncFile tables repo tree) ⟨catalog, [], 0, 0, 0⟩

/-- A row that the clone no longer has. -/
def isStale (seenSlugs : List String) (row : ScriptCatalog) : Bool :=
  decide (row.gitRepoId = some repo.id) &&
    (if seenSlugs.isEmpty then true else !seenSlugs.contains row.slug)

inductive SyncResult
  | error (text : String)
  | done (created updated skipped errors disappeared : Nat)

/-- `sync_git_repo`. -/
def syncGitRepo (now : Time) (catalog : Catalog) :
    Clone → SyncResult × ScriptGitRepo × Catalog
  | .failed stderr message =>
    let text := if truthy stderr then stderr.getD "" else message
    let err := String.ofList (text.toList.take 1000)
    (.error err, { repo with lastSyncError := some err }, catalog)
  | .timeout =>
    let err := "git clone timeout (>120s)"
    (.error err, { repo with lastSyncError := some err }, catalog)
  | .done tree =>
    let st := syncFiles tables repo tree catalog
    let stale := st.catalog.rows.filter (isStale repo st.seenSlugs)
    (.done st.created st.updated 0 st.errors stale.length,
      { repo with
        lastSyncedAt := some now
        lastSyncError := none },
      st.catalog.filter fun row => !isStale repo st.seenSlugs row)

end Sync

/-! ### The law -/

section Law

variable (tables : CharTables) (repo : ScriptGitRepo) (tree : Checkout)

/-- The row holds the content and the metadata of the file at a path. -/
structure ScriptCatalog.Holds (row : ScriptCatalog) (relPath : String) : Prop where
  gitPath : row.gitPath = some relPath
  content : tree.entry relPath = .file (some row.content)
  metadata : row.metadata = repo.metadataOf tables relPath row.content
  source : row.source = repo.metadataFormat.source

/-- The matched files of a clone. -/
def Checkout.File : Type := { relPath // relPath ∈ tree.matched ∧ tree.entry relPath ≠ .directory }

/-- The rows of a repository. -/
def Catalog.RowOf (catalog : Catalog) (id : RepoId) : Type :=
  { row // row ∈ catalog.rows ∧ row.gitRepoId = some id }

/-- After a synchronisation the rows of the repository are those of its files, and the others are
as before. -/
structure Mirrors (catalog : Catalog) (after : ScriptGitRepo × Catalog) : Prop where
  mirrored : ∃ e : tree.File ≃ after.2.RowOf repo.id,
    ∀ file, (e file).1.Holds tables repo tree file.1
  others : ∀ row : ScriptCatalog, row.gitRepoId ≠ some repo.id →
    (row ∈ after.2.rows ↔ row ∈ catalog.rows)
  /-- The glob may list the files in another order. -/
  again : ∀ (now : Time) (matched : List String),
    (∀ relPath, relPath ∈ matched ↔ relPath ∈ tree.matched) →
      (syncGitRepo tables after.1 now after.2 (.done ⟨matched, tree.entry⟩)).2.2 = after.2

/-- Every matched file can be read, no two of them have one slug, and no row of others has it. -/
structure Mirrorable (catalog : Catalog) : Prop where
  readable : ∀ relPath ∈ tree.matched, tree.entry relPath ≠ .file none
  apart : ∀ file file' : tree.File, dashes file.1 = dashes file'.1 → file.1 = file'.1
  free : ∀ file : tree.File, ∀ row ∈ catalog.rows, row.gitRepoId ≠ some repo.id →
    row.slug ≠ slugOf repo.id file.1

end Law

/-! ### Targets -/

/-- The targets that `create_script` accepts. -/
def Metadata.HasTarget (m : Metadata) : Prop := m.targetType = "node" ∨ m.targetType = "guest"

theorem Metadata.HasTarget.readComment {m : Metadata} (h : m.HasTarget) (comment : List Char) :
    (m.readComment comment).HasTarget := by
  unfold Metadata.readComment
  split
  · exact h
  · split
    · exact h
    · split
      · unfold Metadata.HasTarget
        dsimp only
        split
        · exact Or.inl rfl
        · exact Or.inr rfl
      · split
        · exact h
        · split
          · exact h
          · exact h

theorem Metadata.HasTarget.readHeader {m : Metadata} (h : m.HasTarget)
    (lines : List (List Char)) : (m.readHeader lines).HasTarget := by
  induction lines generalizing m with
  | nil => exact h
  | cons line lines ih =>
    unfold Metadata.readHeader
    dsimp only
    split
    · exact ih (h.readComment _)
    · split
      · exact ih h
      · exact h

/-- Whatever a file says, its row has a target that one's own scripts can have. -/
theorem hasTarget_metadataOf (tables : CharTables) (repo : ScriptGitRepo)
    (relPath content : String) : (repo.metadataOf tables relPath content).HasTarget := by
  unfold ScriptGitRepo.metadataOf
  cases repo.metadataFormat with
  | communityScriptsCt => exact Or.inl rfl
  | headerComment =>
    exact Metadata.HasTarget.readHeader (m := ⟨_, none, "guest", none, []⟩) (Or.inr rfl) _

/-! ### What is stored -/

section Store

variable {tables : CharTables} {repo : ScriptGitRepo} {tree : Checkout} {catalog : Catalog}

theorem slugOf_inj {id : RepoId} {relPath relPath' : String} :
    slugOf id relPath = slugOf id relPath' ↔ dashes relPath = dashes relPath' := by
  unfold slugOf
  rw [String.ofList_inj, List.append_cancel_left_eq, List.cons.injEq]
  exact and_iff_right rfl

/-- The files that can be read, with their content. -/
def Checkout.readable (tree : Checkout) : List (String × String) :=
  tree.matched.filterMap fun relPath => (tree.entry relPath).read.map fun content =>
    (relPath, content)

theorem Checkout.mem_readable {file : String × String} :
    file ∈ tree.readable ↔ file.1 ∈ tree.matched ∧ tree.entry file.1 = .file (some file.2) := by
  obtain ⟨relPath, content⟩ := file
  unfold Checkout.readable
  rw [List.mem_filterMap]
  constructor
  · rintro ⟨path, hpath, hread⟩
    obtain ⟨text, htext, heq⟩ := Option.map_eq_some_iff.mp hread
    cases heq
    refine ⟨hpath, ?_⟩
    cases hentry : tree.entry relPath with
    | directory =>
      rw [hentry] at htext
      cases htext
    | file stored =>
      rw [hentry] at htext
      exact congrArg Entry.file htext
  · rintro ⟨hpath, hentry⟩
    refine ⟨relPath, hpath, ?_⟩
    rw [hentry]
    rfl

/-- Store one file. -/
def store (tables : CharTables) (repo : ScriptGitRepo) (catalog : Catalog)
    (file : String × String) : Catalog :=
  catalog.save (repo.record tables file.1 file.2 (catalog.find? (slugOf repo.id file.1)))

/-- The loop stores the files that can be read. -/
theorem catalog_syncFiles : (syncFiles tables repo tree catalog).catalog =
    tree.readable.foldl (store tables repo) catalog := by
  have hfold : ∀ (matched : List String) (st : SyncState),
      (matched.foldl (syncFile tables repo tree) st).catalog =
        (Checkout.readable ⟨matched, tree.entry⟩).foldl (store tables repo) st.catalog := by
    intro matched
    induction matched with
    | nil => exact fun _ => rfl
    | cons relPath matched ih =>
      intro st
      rw [List.foldl_cons, ih]
      unfold syncFile Checkout.readable
      cases hread : (tree.entry relPath).read with
      | none => rw [List.filterMap_cons_none (by rw [hread]; rfl)]
      | some content =>
        rw [List.filterMap_cons_some (by rw [hread]; rfl)]
        rfl
  exact hfold tree.matched ⟨catalog, [], 0, 0, 0⟩

theorem seenSlugs_syncFiles : (syncFiles tables repo tree catalog).seenSlugs =
    tree.readable.map fun file => slugOf repo.id file.1 := by
  have hfold : ∀ (matched : List String) (st : SyncState),
      (matched.foldl (syncFile tables repo tree) st).seenSlugs = st.seenSlugs ++
        (Checkout.readable ⟨matched, tree.entry⟩).map fun file => slugOf repo.id file.1 := by
    intro matched
    induction matched with
    | nil => exact fun st => (List.append_nil _).symm
    | cons relPath matched ih =>
      intro st
      rw [List.foldl_cons, ih]
      unfold syncFile Checkout.readable
      cases hread : (tree.entry relPath).read with
      | none => rw [List.filterMap_cons_none (by rw [hread]; rfl)]
      | some content =>
        rw [List.filterMap_cons_some (by rw [hread]; rfl), List.map_cons, ← List.append_cons]
  exact hfold tree.matched ⟨catalog, [], 0, 0, 0⟩

/-- The slug of a row that is recorded from the row of its slug. -/
theorem slug_record (file : String × String) {found : Option ScriptCatalog}
    (hfound : ∀ row, found = some row → row.slug = slugOf repo.id file.1) :
    (repo.record tables file.1 file.2 found).slug = slugOf repo.id file.1 := by
  cases found with
  | none => rfl
  | some row => exact hfound row rfl

/-- What is recorded last is what stays. -/
theorem record_record {file file' : String × String} (h : slugOf repo.id file.1 =
    slugOf repo.id file'.1) (found : Option ScriptCatalog) :
    repo.record tables file'.1 file'.2 (some (repo.record tables file.1 file.2 found)) =
      repo.record tables file'.1 file'.2 found := by
  cases found with
  | none =>
    unfold ScriptGitRepo.record
    dsimp only
    rw [h]
  | some row => rfl

theorem find?_store (file : String × String) (slug : String) :
    (store tables repo catalog file).find? slug =
      if slugOf repo.id file.1 = slug then
        some (repo.record tables file.1 file.2 (catalog.find? slug))
      else catalog.find? slug := by
  unfold store
  rw [KeyedTable.find?_save, slug_record file fun row hrow => catalog.key_of_find? hrow]
  by_cases h : slugOf repo.id file.1 = slug
  · rw [if_pos h, if_pos h, h]
  · rw [if_neg h, if_neg h]

/-- After files are stored one by one, a slug has the last file of it, or its old row. -/
theorem find?_foldl_store (tables : CharTables) (repo : ScriptGitRepo)
    (files : List (String × String)) (catalog : Catalog) (slug : String) :
    (∃ file ∈ files, slugOf repo.id file.1 = slug ∧
      (files.foldl (store tables repo) catalog).find? slug =
        some (repo.record tables file.1 file.2 (catalog.find? slug))) ∨
    (∀ file ∈ files, slugOf repo.id file.1 ≠ slug) ∧
      (files.foldl (store tables repo) catalog).find? slug = catalog.find? slug := by
  induction files generalizing catalog with
  | nil => exact Or.inr ⟨fun _ h => absurd h List.not_mem_nil, rfl⟩
  | cons file files ih =>
    rw [List.foldl_cons]
    rcases ih (store tables repo catalog file) with ⟨last, hlast, hslug, hfind⟩ | ⟨hnone, hfind⟩
    · refine Or.inl ⟨last, List.mem_cons_of_mem _ hlast, hslug, ?_⟩
      rw [hfind, find?_store]
      by_cases h : slugOf repo.id file.1 = slug
      · rw [if_pos h, record_record (h.trans hslug.symm)]
      · rw [if_neg h]
    · rw [find?_store] at hfind
      by_cases h : slugOf repo.id file.1 = slug
      · rw [if_pos h] at hfind
        exact Or.inl ⟨file, List.mem_cons_self, h, hfind⟩
      · rw [if_neg h] at hfind
        refine Or.inr ⟨fun other hother => ?_, hfind⟩
        rcases List.mem_cons.mp hother with rfl | hother
        · exact h
        · exact hnone other hother

/-- A row is stale when it is the repository's and its slug was not met. -/
theorem isStale_iff {seenSlugs : List String} {row : ScriptCatalog} :
    isStale repo seenSlugs row = true ↔ row.gitRepoId = some repo.id ∧ row.slug ∉ seenSlugs := by
  unfold isStale
  rw [Bool.and_eq_true, decide_eq_true_iff]
  refine and_congr_right fun _ => ?_
  cases seenSlugs with
  | nil => exact iff_of_true rfl List.not_mem_nil
  | cons slug slugs => simp

/-- The catalogue that a synchronisation leaves. -/
theorem catalog_syncGitRepo (now : Time) :
    (syncGitRepo tables repo now catalog (.done tree)).2.2 =
      (tree.readable.foldl (store tables repo) catalog).filter fun row =>
        !isStale repo (tree.readable.map fun file => slugOf repo.id file.1) row := by
  rw [← catalog_syncFiles, ← seenSlugs_syncFiles]
  rfl

/-- The slug of a file has the row of the last file of that slug. -/
theorem find?_synced (tables : CharTables) (repo : ScriptGitRepo) (catalog : Catalog) (now : Time)
    {file : String × String} (h : file ∈ tree.readable) :
    ∃ last ∈ tree.readable, slugOf repo.id last.1 = slugOf repo.id file.1 ∧
      (syncGitRepo tables repo now catalog (.done tree)).2.2.find? (slugOf repo.id file.1) =
        some (repo.record tables last.1 last.2 (catalog.find? (slugOf repo.id file.1))) := by
  rcases find?_foldl_store tables repo tree.readable catalog
    (slugOf repo.id file.1) with ⟨last, hlast, hslug, hfind⟩ | ⟨hnone, -⟩
  · refine ⟨last, hlast, hslug, ?_⟩
    rw [catalog_syncGitRepo, KeyedTable.find?_filter, hfind, Option.filter_some, if_pos]
    rw [Bool.not_eq_true', ← Bool.not_eq_true, isStale_iff, not_and, not_not]
    intro
    rw [KeyedTable.key_of_find? _ hfind]
    exact List.mem_map.mpr ⟨file, h, rfl⟩
  · exact absurd rfl (hnone file h)

/-- A slug of no file keeps its row, unless it is a row of the repository. -/
theorem find?_synced_of_ne (now : Time) {slug : String}
    (h : ∀ file ∈ tree.readable, slugOf repo.id file.1 ≠ slug) :
    (syncGitRepo tables repo now catalog (.done tree)).2.2.find? slug =
      (catalog.find? slug).filter fun row => decide (row.gitRepoId ≠ some repo.id) := by
  rcases find?_foldl_store tables repo tree.readable catalog slug with
    ⟨last, hlast, hslug, -⟩ | ⟨-, hfind⟩
  · exact absurd hslug (h last hlast)
  · rw [catalog_syncGitRepo, KeyedTable.find?_filter, hfind]
    cases hrow : catalog.find? slug with
    | none => rfl
    | some row =>
      have hseen : row.slug ∉ tree.readable.map fun file => slugOf repo.id file.1 := by
        rw [catalog.key_of_find? hrow]
        intro hmem
        obtain ⟨file, hfile, heq⟩ := List.mem_map.mp hmem
        exact h file hfile heq
      rw [Option.filter_some, Option.filter_some]
      congr 1
      rw [Bool.not_eq_true', ← Bool.not_eq_true, isStale_iff, and_iff_left hseen,
        decide_eq_true_iff]

/-- A row of the repository is one that a file of its slug has recorded. -/
theorem recorded_of_mem (now : Time) {row : ScriptCatalog}
    (hrow : row ∈ (syncGitRepo tables repo now catalog (.done tree)).2.2.rows)
    (hrepo : row.gitRepoId = some repo.id) :
    ∃ file ∈ tree.readable, row.slug = slugOf repo.id file.1 ∧
      row = repo.record tables file.1 file.2 (catalog.find? row.slug) := by
  have hfind := KeyedTable.find?_key _ hrow
  by_cases h : ∃ file ∈ tree.readable, slugOf repo.id file.1 = row.slug
  · obtain ⟨file, hfile, hslug⟩ := h
    obtain ⟨last, hlast, hsame, hlast'⟩ := find?_synced tables repo catalog now hfile
    rw [hslug] at hsame hlast'
    exact ⟨last, hlast, hsame.symm, Option.some_inj.mp (hfind.symm.trans hlast')⟩
  · rw [find?_synced_of_ne now fun file hfile heq => h ⟨file, hfile, heq⟩,
      Option.filter_eq_some_iff] at hfind
    exact absurd hrepo (of_decide_eq_true hfind.2)

/-- A row of others has kept its slug and its owner. -/
theorem exists_old_of_mem (now : Time) {row : ScriptCatalog}
    (hrow : row ∈ (syncGitRepo tables repo now catalog (.done tree)).2.2.rows)
    (hothers : row.gitRepoId ≠ some repo.id) :
    ∃ old ∈ catalog.rows, old.slug = row.slug ∧ old.gitRepoId = row.gitRepoId := by
  have hfind := KeyedTable.find?_key _ hrow
  by_cases h : ∃ file ∈ tree.readable, slugOf repo.id file.1 = row.slug
  · obtain ⟨file, hfile, hslug⟩ := h
    obtain ⟨last, -, -, hlast⟩ := find?_synced tables repo catalog now hfile
    rw [hslug] at hlast
    have hrecord := Option.some_inj.mp (hfind.symm.trans hlast)
    cases hold : catalog.find? row.slug with
    | none =>
      rw [hold] at hrecord
      exact absurd (congrArg ScriptCatalog.gitRepoId hrecord) hothers
    | some old =>
      rw [hold] at hrecord
      exact ⟨old, catalog.mem_of_find? hold, catalog.key_of_find? hold,
        (congrArg ScriptCatalog.gitRepoId hrecord).symm⟩
  · rw [find?_synced_of_ne now fun file hfile heq => h ⟨file, hfile, heq⟩,
      Option.filter_eq_some_iff] at hfind
    exact ⟨row, catalog.mem_of_find? hfind.1, rfl, rfl⟩

theorem gitPath_record (file : String × String) (found : Option ScriptCatalog) :
    (repo.record tables file.1 file.2 found).gitPath = some file.1 := by
  cases found <;> rfl

/-- A recorded row belongs to the repository unless one of others had its slug. -/
theorem gitRepoId_record {file : String × String} {found : Option ScriptCatalog}
    (h : ∀ row, found = some row → row.gitRepoId = some repo.id) :
    (repo.record tables file.1 file.2 found).gitRepoId = some repo.id := by
  cases found with
  | none => rfl
  | some row => exact h row rfl

theorem holds_record {file : String × String} (h : file ∈ tree.readable)
    (found : Option ScriptCatalog) :
    (repo.record tables file.1 file.2 found).Holds tables repo tree file.1 := by
  have hentry := (Checkout.mem_readable.mp h).2
  cases found with
  | none => exact ⟨rfl, hentry, rfl, rfl⟩
  | some row => exact ⟨rfl, hentry, rfl, rfl⟩

/-- A file that was read is one of the matched files. -/
def Checkout.fileOf (tree : Checkout) (file : String × String) (h : file ∈ tree.readable) :
    tree.File :=
  ⟨file.1, (Checkout.mem_readable.mp h).1, fun hdir => by
    rw [(Checkout.mem_readable.mp h).2] at hdir
    cases hdir⟩

/-! ### Where the catalogue mirrors the clone -/

/-- A row that holds a file has the slug of the file. -/
theorem slug_of_holds {now : Time} {row : ScriptCatalog} {relPath : String}
    (hrow : row ∈ (syncGitRepo tables repo now catalog (.done tree)).2.2.rows)
    (hrepo : row.gitRepoId = some repo.id) (hholds : row.gitPath = some relPath) :
    row.slug = slugOf repo.id relPath := by
  obtain ⟨file, -, hslug, hrecord⟩ := recorded_of_mem now hrow hrepo
  have hpath : some file.1 = some relPath := by
    rw [← hholds, hrecord, gitPath_record]
  rw [hslug, Option.some_inj.mp hpath]

/-- A catalogue that mirrors the clone met nothing in the way. -/
theorem Mirrors.mirrorable {now : Time}
    (h : Mirrors tables repo tree catalog
      (syncGitRepo tables repo now catalog (.done tree)).2) :
    Mirrorable repo tree catalog := by
  obtain ⟨e, he⟩ := h.mirrored
  have hslug : ∀ file, (e file).1.slug = slugOf repo.id file.1 := fun file =>
    slug_of_holds (e file).2.1 (e file).2.2 (he file).gitPath
  refine ⟨fun relPath hpath hentry => ?_, fun file file' hdashes => ?_,
    fun file row hrow hothers hrowSlug => ?_⟩
  · have hcontent := (he ⟨relPath, hpath, by rw [hentry]; exact Entry.noConfusion⟩).content
    have hnone := hentry.symm.trans hcontent
    cases hnone
  · have hsame : (e file).1 = (e file').1 := by
      refine KeyedTable.eq_of_key_eq _ (e file).2.1 (e file').2.1 ?_
      rw [hslug, hslug, slugOf_inj]
      exact hdashes
    have hpath := (he file').gitPath
    rw [← hsame, (he file).gitPath] at hpath
    exact Option.some_inj.mp hpath
  · obtain ⟨last, -, -, hrecord⟩ := recorded_of_mem now (e file).2.1 (e file).2.2
    rw [hslug file, ← hrowSlug, catalog.find?_key hrow] at hrecord
    have hrepo := (e file).2.2
    rw [hrecord] at hrepo
    exact hothers hrepo

/-- Files that were read have different slugs. -/
theorem Mirrorable.eq_of_slug (h : Mirrorable repo tree catalog) {file file' : String × String}
    (hfile : file ∈ tree.readable) (hfile' : file' ∈ tree.readable)
    (hslug : slugOf repo.id file.1 = slugOf repo.id file'.1) :
    file = file' := by
  have hpath : file.1 = file'.1 :=
    h.apart (tree.fileOf file hfile) (tree.fileOf file' hfile') (slugOf_inj.mp hslug)
  have hentry := (Checkout.mem_readable.mp hfile).2
  rw [hpath, (Checkout.mem_readable.mp hfile').2] at hentry
  have hcontent : file'.2 = file.2 := Option.some_inj.mp (Entry.file.inj hentry)
  exact Prod.ext hpath hcontent.symm

/-- Only the repository has rows under the slugs of its files. -/
theorem Mirrorable.gitRepoId (h : Mirrorable repo tree catalog) {file : String × String}
    (hfile : file ∈ tree.readable) {row : ScriptCatalog}
    (hrow : catalog.find? (slugOf repo.id file.1) = some row) :
    row.gitRepoId = some repo.id := by
  by_contra hothers
  exact h.free (tree.fileOf file hfile) row (catalog.mem_of_find? hrow) hothers
    (catalog.key_of_find? hrow)

/-- Every file has its row. -/
theorem Mirrorable.find?_synced (h : Mirrorable repo tree catalog) (tables : CharTables)
    (now : Time) {file : String × String} (hfile : file ∈ tree.readable) :
    (syncGitRepo tables repo now catalog (.done tree)).2.2.find? (slugOf repo.id file.1) =
      some (repo.record tables file.1 file.2 (catalog.find? (slugOf repo.id file.1))) := by
  obtain ⟨last, hlast, hslug, hfind⟩ := Scripts.find?_synced tables repo catalog now hfile
  rw [h.eq_of_slug hlast hfile hslug] at hfind
  exact hfind

/-- Every matched file was read. -/
theorem Mirrorable.exists_content (h : Mirrorable repo tree catalog) (file : tree.File) :
    ∃ content, (file.1, content) ∈ tree.readable := by
  cases hentry : tree.entry file.1 with
  | directory => exact absurd hentry file.2.2
  | file content =>
    cases content with
    | none => exact absurd hentry (h.readable file.1 file.2.1)
    | some content => exact ⟨content, Checkout.mem_readable.mpr ⟨file.2.1, hentry⟩⟩

/-- The rows of the repository are those of its files. -/
theorem Mirrorable.mirrored (h : Mirrorable repo tree catalog) (now : Time) :
    ∃ e : tree.File ≃ (syncGitRepo tables repo now catalog (.done tree)).2.2.RowOf repo.id,
      ∀ file, (e file).1.Holds tables repo tree file.1 := by
  have hrow : ∀ file : tree.File,
      ∃ row : (syncGitRepo tables repo now catalog (.done tree)).2.2.RowOf repo.id,
        row.1.Holds tables repo tree file.1 := by
    intro file
    obtain ⟨content, hfile⟩ := h.exists_content file
    have hfind := h.find?_synced tables now hfile
    exact ⟨⟨_, KeyedTable.mem_of_find? _ hfind,
      gitRepoId_record fun row hrow => h.gitRepoId hfile hrow⟩, holds_record hfile _⟩
  choose e he using hrow
  refine ⟨Equiv.ofBijective e ⟨fun file file' heq => ?_, fun row => ?_⟩, he⟩
  · have hpath := (he file').gitPath
    rw [← heq, (he file).gitPath] at hpath
    exact Subtype.ext (Option.some_inj.mp hpath)
  · obtain ⟨file, hfile, hslug, -⟩ := recorded_of_mem now row.2.1 row.2.2
    refine ⟨tree.fileOf file hfile, Subtype.ext ?_⟩
    refine KeyedTable.eq_of_key_eq _ (e _).2.1 row.2.1 ?_
    rw [slug_of_holds (e _).2.1 (e _).2.2 (he _).gitPath, hslug]
    rfl

/-- The rows of others are as before. -/
theorem Mirrorable.others (h : Mirrorable repo tree catalog) (now : Time) {row : ScriptCatalog}
    (hothers : row.gitRepoId ≠ some repo.id) :
    row ∈ (syncGitRepo tables repo now catalog (.done tree)).2.2.rows ↔ row ∈ catalog.rows := by
  have hmem : ∀ t : Catalog, row ∈ t.rows ↔ t.find? row.slug = some row := fun t =>
    ⟨t.find?_key, t.mem_of_find?⟩
  by_cases hslug : ∃ file ∈ tree.readable, slugOf repo.id file.1 = row.slug
  · obtain ⟨file, hfile, heq⟩ := hslug
    refine iff_of_false (fun hrow => hothers ?_) fun hrow => ?_
    · rw [hmem, ← heq, h.find?_synced tables now hfile] at hrow
      rw [← Option.some_inj.mp hrow]
      exact gitRepoId_record fun row hrow => h.gitRepoId hfile hrow
    · exact h.free (tree.fileOf file hfile) row hrow hothers heq.symm
  · rw [hmem, hmem, find?_synced_of_ne now fun file hfile heq => hslug ⟨file, hfile, heq⟩,
      Option.filter_eq_some_iff, and_iff_left (decide_eq_true hothers)]

/-- A second synchronisation stores what is there. -/
theorem Mirrorable.again (h : Mirrorable repo tree catalog) (now now' : Time)
    {matched : List String}
    (hmatched : ∀ relPath, relPath ∈ matched ↔ relPath ∈ tree.matched) :
    (syncGitRepo tables (syncGitRepo tables repo now catalog (.done tree)).2.1 now'
      (syncGitRepo tables repo now catalog (.done tree)).2.2
        (.done ⟨matched, tree.entry⟩)).2.2 =
      (syncGitRepo tables repo now catalog (.done tree)).2.2 := by
  have hreadable : ∀ file, file ∈ (Checkout.readable ⟨matched, tree.entry⟩) ↔
      file ∈ tree.readable := by
    intro file
    rw [Checkout.mem_readable, Checkout.mem_readable]
    exact and_congr_left fun _ => hmatched file.1
  set after := (syncGitRepo tables repo now catalog (.done tree)).2.2 with hafter
  show (syncGitRepo tables repo now' after (.done ⟨matched, tree.entry⟩)).2.2 = after
  have hstore : ∀ file ∈ tree.readable, store tables repo after file = after := by
    intro file hfile
    have hfind := h.find?_synced tables now hfile
    rw [← hafter] at hfind
    unfold store
    rw [hfind, record_record rfl]
    exact after.save_of_mem (after.mem_of_find? hfind)
  have hfold : ∀ files : List (String × String), (∀ file ∈ files, file ∈ tree.readable) →
      files.foldl (store tables repo) after = after := by
    intro files
    induction files with
    | nil => exact fun _ => rfl
    | cons file files ih =>
      intro hfiles
      rw [List.foldl_cons, hstore file (hfiles file List.mem_cons_self)]
      exact ih fun file hfile => hfiles file (List.mem_cons_of_mem _ hfile)
  rw [catalog_syncGitRepo, hfold _ fun file hfile => (hreadable file).mp hfile]
  refine after.filter_eq_self fun row hrow => ?_
  rw [Bool.not_eq_true', ← Bool.not_eq_true, isStale_iff, not_and, not_not]
  intro hrepo
  obtain ⟨file, hfile, hslug, -⟩ := recorded_of_mem now hrow hrepo
  exact List.mem_map.mpr ⟨file, (hreadable file).mpr hfile, hslug.symm⟩

end Store

/-- A synchronisation mirrors the clone exactly when every matched file can be read, no two of
them differ in their slashes and dashes only, and no row of others has the slug of one. -/
theorem mirrors_iff_mirrorable (tables : CharTables) (repo : ScriptGitRepo) (tree : Checkout)
    (catalog : Catalog) (now : Time) :
    Mirrors tables repo tree catalog (syncGitRepo tables repo now catalog (.done tree)).2 ↔
      Mirrorable repo tree catalog :=
  ⟨fun h => h.mirrorable, fun h => ⟨h.mirrored now, fun _ hothers => h.others now hothers,
    fun now' _ hmatched => h.again now now' hmatched⟩⟩

/-! ### A script in a directory, and one with a dash -/

def asciiTables : CharTables where
  isWord := fun c => c.isAlphanum || c == '_'
  isDigit := Char.isDigit
  capitalize := capitalizeAscii
  ascii_isWord := fun _ _ => rfl
  ascii_isDigit := fun _ _ => rfl
  ascii_capitalize := fun _ _ => rfl

def scriptRepo : ScriptGitRepo := ⟨1, .headerComment, none, none⟩

def dashedTree : Checkout where
  matched := ["logs/clean.sh", "logs-clean.sh"]
  entry := fun relPath => .file (some ("# name: " ++ relPath))

/-- Both scripts have the slug `git-1-logs-clean.sh`. -/
theorem dashedTree_not_mirrors :
    ¬Mirrors asciiTables scriptRepo dashedTree KeyedTable.empty
      (syncGitRepo asciiTables scriptRepo 0 KeyedTable.empty (.done dashedTree)).2 := by
  intro h
  have hfile : ∀ relPath ∈ dashedTree.matched,
      relPath ∈ dashedTree.matched ∧ dashedTree.entry relPath ≠ .directory :=
    fun _ hmem => ⟨hmem, Entry.noConfusion⟩
  have hdashes : dashes "logs/clean.sh" = dashes "logs-clean.sh" := by decide
  have hsame := h.mirrorable.apart
    ⟨"logs/clean.sh", hfile _ List.mem_cons_self⟩
    ⟨"logs-clean.sh", hfile _ (List.mem_cons_of_mem _ List.mem_cons_self)⟩ hdashes
  have hne : "logs/clean.sh" ≠ "logs-clean.sh" := by decide
  exact hne hsame

/-! ### Slugs that are apart -/

/-- Two repositories have no slug in common. -/
theorem slugOf_ne_of_ne {id id' : RepoId} (h : id ≠ id') (relPath relPath' : String) :
    slugOf id relPath ≠ slugOf id' relPath' := by
  have hdigits : ∀ (id : RepoId) (tail : List Char),
      (Nat.toDigits 10 id ++ '-' :: tail).takeWhile (· ≠ '-') = Nat.toDigits 10 id := by
    intro id tail
    have hdash : ∀ c ∈ Nat.toDigits 10 id, decide (c ≠ '-') = true := by
      intro c hc
      refine decide_eq_true fun heq => ?_
      rw [heq] at hc
      exact absurd (Nat.isDigit_of_mem_toDigits (by decide) (by decide) hc) (by decide)
    rw [List.takeWhile_append_of_pos hdash, List.takeWhile_cons_of_neg (by decide),
      List.append_nil]
  intro heq
  unfold slugOf at heq
  rw [String.ofList_inj, List.append_assoc, List.append_assoc, List.append_cancel_left_eq] at heq
  have htoString : ∀ id : RepoId, (toString id).toList = Nat.toDigits 10 id :=
    fun _ => Nat.toList_repr
  rw [htoString, htoString] at heq
  have hsame := congrArg (List.takeWhile (· ≠ '-')) heq
  rw [hdigits, hdigits] at hsame
  apply h
  calc id = Nat.ofDigitChars 10 (Nat.toDigits 10 id) 0 :=
        (Nat.ofDigitChars_toDigits (by decide) (by decide)).symm
    _ = Nat.ofDigitChars 10 (Nat.toDigits 10 id') 0 := by rw [hsame]
    _ = id' := Nat.ofDigitChars_toDigits (by decide) (by decide)

/-- The slug of one's own script has no dot. -/
theorem dot_notMem_of_slugRe {slug : String} (h : slugRe slug = true) : '.' ∉ slug.toList := by
  have hpattern : ∀ chars, slugPattern chars = true → '.' ∉ chars := by
    intro chars hchars hdot
    unfold slugPattern at hchars
    simp only [Bool.and_eq_true] at hchars
    exact absurd (List.all_eq_true.mp hchars.1.1.2 '.' hdot) (by decide)
  unfold slugRe at h
  rcases Bool.or_eq_true_iff.mp h with h | h
  · exact hpattern _ h
  · obtain ⟨hlast, hinit⟩ := Bool.and_eq_true_iff.mp h
    intro hdot
    have hsplit := List.dropLast_append_getLast? '\n' (beq_iff_eq.mp hlast)
    rw [← hsplit, List.mem_append, List.mem_singleton] at hdot
    rcases hdot with hdot | hdot
    · exact hpattern _ hinit hdot
    · exact absurd hdot (by decide)

theorem dot_mem_slugOf {id : RepoId} {relPath : String} (h : '.' ∈ relPath.toList) :
    '.' ∈ (slugOf id relPath).toList := by
  unfold slugOf dashes
  rw [String.toList_ofList]
  refine List.mem_append_right _ (List.mem_cons_of_mem _ (List.mem_map.mpr ⟨'.', h, ?_⟩))
  decide

/-- A row of a repository has the slug of a path of it, and any other one a slug that
`create_script` accepts. -/
def Catalog.Regular (catalog : Catalog) : Prop :=
  ∀ row ∈ catalog.rows, (row.gitRepoId = none → slugRe row.slug = true) ∧
    ∀ id, row.gitRepoId = some id → ∃ relPath, row.slug = slugOf id relPath

theorem Catalog.Regular.createScript {catalog catalog' : Catalog} (h : catalog.Regular)
    {req : ScriptCreateRequest} {user : UserId}
    (hcreate : createScript catalog req user = .ok catalog') : catalog'.Regular := by
  unfold Scripts.createScript at hcreate
  by_cases hslug : slugRe req.slug = true
  · rw [if_pos hslug] at hcreate
    split at hcreate
    · cases hcreate
    · cases hcreate
      intro row hrow
      rcases (KeyedTable.mem_rows_save _ _ _).mp hrow with rfl | ⟨hrow, -⟩
      · exact ⟨fun _ => hslug, fun id hid => absurd hid.symm (Option.some_ne_none id)⟩
      · exact h row hrow
  · rw [if_neg hslug] at hcreate
    cases hcreate

theorem Catalog.Regular.syncGitRepo {catalog : Catalog} (h : catalog.Regular)
    (tables : CharTables) (repo : ScriptGitRepo) (now : Time) (clone : Clone) :
    (syncGitRepo tables repo now catalog clone).2.2.Regular := by
  cases clone with
  | failed stderr message => exact h
  | timeout => exact h
  | done tree =>
    intro row hrow
    by_cases hrepo : row.gitRepoId = some repo.id
    · obtain ⟨file, -, hslug, -⟩ := recorded_of_mem now hrow hrepo
      refine ⟨fun hnone => absurd (hrepo.symm.trans hnone) (Option.some_ne_none _), fun id hid => ?_⟩
      refine ⟨file.1, ?_⟩
      rw [hslug, Option.some_inj.mp (hid.symm.trans hrepo)]
    · obtain ⟨old, hold, hslug, howner⟩ := exists_old_of_mem now hrow hrepo
      rw [← hslug, ← howner]
      exact h old hold

/-- Where all files have a dot in their path, no other row is in their way. -/
theorem Catalog.Regular.mirrorable_iff {catalog : Catalog} (h : catalog.Regular)
    {repo : ScriptGitRepo} {tree : Checkout}
    (hdot : ∀ relPath ∈ tree.matched, '.' ∈ relPath.toList) :
    Mirrorable repo tree catalog ↔ (∀ relPath ∈ tree.matched, tree.entry relPath ≠ .file none) ∧
      ∀ file file' : tree.File, dashes file.1 = dashes file'.1 → file.1 = file'.1 := by
  constructor
  · exact fun hm => ⟨hm.readable, hm.apart⟩
  · rintro ⟨hreadable, hapart⟩
    refine ⟨hreadable, hapart, fun file row hrow hothers hslug => ?_⟩
    cases hrepo : row.gitRepoId with
    | none =>
      refine dot_notMem_of_slugRe ((h row hrow).1 hrepo) ?_
      rw [hslug]
      exact dot_mem_slugOf (hdot file.1 file.2.1)
    | some id =>
      obtain ⟨relPath, hpath⟩ := (h row hrow).2 id hrepo
      refine slugOf_ne_of_ne (fun heq => hothers ?_) relPath file.1 (hpath.symm.trans hslug)
      rw [hrepo, heq]

end PveManager.Scripts
