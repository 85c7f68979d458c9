import PveManager.Core.Run
import PveManager.Scripts.CatalogSync

/-!
# The catalogue over time

Scripts are created, edited and deleted while repositories are synchronised and removed. A
synchronisation leaves the scripts of the other repositories alone, and one's own as well where
the files of the repository have a dot in their paths.
-/

namespace PveManager.Scripts

open PveManager.Core

/-! ### The router -/

/-- `ScriptUpdateRequest`. -/
structure ScriptUpdateRequest where
  name : Option String
  description : Option String
  category : Option String
  targetType : Option String
  interpreter : Option String
  content : Option String
  paramsSchema : Option (List ScriptParam)

inductive ChangeRefusal
  /-- 404. -/
  | notFound
  /-- 400. -/
  | notManual
  deriving DecidableEq

section Router

variable (catalog : Catalog) (slug : String)

/-- The row of a script that may be changed by hand. The routes name it by its number. -/
def manualScript : Except ChangeRefusal ScriptCatalog :=
  match catalog.find? slug with
  | none => .error .notFound
  | some script => if script.source = .manual then .ok script else .error .notManual

/-- The row after `update_script`. -/
def ScriptCatalog.edited (script : ScriptCatalog) (req : ScriptUpdateRequest) : ScriptCatalog :=
  { script with
    metadata :=
      { name := req.name.getD script.metadata.name
        description := req.description.or script.metadata.description
        targetType := req.targetType.getD script.metadata.targetType
        category := req.category.or script.metadata.category
        paramsSchema := req.paramsSchema.getD script.metadata.paramsSchema }
    interpreter := req.interpreter.getD script.interpreter
    content := req.content.getD script.content }

/-- `update_script`. -/
def updateScript (req : ScriptUpdateRequest) : Except ChangeRefusal Catalog :=
  (manualScript catalog slug).map fun script => catalog.save (script.edited req)

/-- `delete_script`. -/
def deleteScript : Except ChangeRefusal Catalog :=
  (manualScript catalog slug).map fun _ => catalog.erase slug

/-- `delete_repo` at the catalogue: the rows of the repository go with it. -/
def deleteRepo (id : RepoId) : Catalog := catalog.filter fun row => decide (row.gitRepoId ≠ some id)

end Router

/-- A call that changes the catalogue. -/
inductive LibraryCall
  | createScript (req : ScriptCreateRequest) (user : UserId)
  | updateScript (slug : String) (req : ScriptUpdateRequest)
  | deleteScript (slug : String)
  | syncRepo (repo : ScriptGitRepo) (now : Time) (clone : Clone)
  | deleteRepo (id : RepoId)

/-- The catalogue after a call; a refused one changes nothing. -/
def libraryStep (tables : CharTables) (catalog : Catalog) : LibraryCall → Catalog
  | .createScript req user => (createScript catalog req user).toOption.getD catalog
  | .updateScript slug req => (updateScript catalog slug req).toOption.getD catalog
  | .deleteScript slug => (deleteScript catalog slug).toOption.getD catalog
  | .syncRepo repo now clone => (syncGitRepo tables repo now catalog clone).2.2
  | .deleteRepo id => deleteRepo catalog id

/-! ### Every run -/

section Runs

variable {tables : CharTables} {catalog : Catalog}

theorem Catalog.Regular.mono (h : catalog.Regular) {catalog' : Catalog}
    (hrows : ∀ row ∈ catalog'.rows, ∃ old ∈ catalog.rows,
      old.slug = row.slug ∧ old.gitRepoId = row.gitRepoId) : catalog'.Regular := by
  intro row hrow
  obtain ⟨old, hold, hslug, howner⟩ := hrows row hrow
  rw [← hslug, ← howner]
  exact h old hold

theorem manualScript_mem {slug : String} {script : ScriptCatalog}
    (h : manualScript catalog slug = .ok script) : script ∈ catalog.rows := by
  unfold manualScript at h
  split at h
  · cases h
  · rename_i found hfound
    split at h
    · cases h
      exact catalog.mem_of_find? hfound
    · cases h

theorem Catalog.Regular.libraryStep (h : catalog.Regular) (call : LibraryCall) :
    (Scripts.libraryStep tables catalog call).Regular := by
  cases call with
  | createScript req user =>
    simp only [Scripts.libraryStep]
    cases hcreate : Scripts.createScript catalog req user with
    | error e => exact h
    | ok catalog' => exact h.createScript hcreate
  | updateScript slug req =>
    simp only [Scripts.libraryStep, Scripts.updateScript]
    cases hmanual : manualScript catalog slug with
    | error e => exact h
    | ok script =>
      refine h.mono fun row hrow => ?_
      rcases (KeyedTable.mem_rows_save _ _ _).mp hrow with rfl | ⟨hrow, -⟩
      · exact ⟨script, manualScript_mem hmanual, rfl, rfl⟩
      · exact ⟨row, hrow, rfl, rfl⟩
  | deleteScript slug =>
    simp only [Scripts.libraryStep, Scripts.deleteScript]
    cases manualScript catalog slug with
    | error e => exact h
    | ok script =>
      exact h.mono fun row hrow => ⟨row, ((KeyedTable.mem_rows_erase _ _ _).mp hrow).1, rfl, rfl⟩
  | syncRepo repo now clone => exact h.syncGitRepo tables repo now clone
  | deleteRepo id => exact h.mono fun row hrow => ⟨row, List.mem_of_mem_filter hrow, rfl, rfl⟩

theorem regular_of_run (calls : List LibraryCall) :
    ∀ catalog ∈ visited (libraryStep tables) .empty calls, Catalog.Regular catalog :=
  invariant_of_step (fun _ call h => h.libraryStep call) (fun _ h => absurd h List.not_mem_nil) calls

/-- A row of others that has the slug of no file is left as it is. -/
theorem mem_synced_iff {repo : ScriptGitRepo} {tree : Checkout} (now : Time) {row : ScriptCatalog}
    (hothers : row.gitRepoId ≠ some repo.id)
    (hslug : ∀ file ∈ tree.readable, slugOf repo.id file.1 ≠ row.slug) :
    row ∈ (syncGitRepo tables repo now catalog (.done tree)).2.2.rows ↔ row ∈ catalog.rows := by
  have hfind : (syncGitRepo tables repo now catalog (.done tree)).2.2.find? row.slug =
      (catalog.find? row.slug).filter fun row => decide (row.gitRepoId ≠ some repo.id) :=
    find?_synced_of_ne now hslug
  constructor
  · intro hrow
    rw [KeyedTable.find?_key _ hrow, eq_comm, Option.filter_eq_some_iff] at hfind
    exact catalog.mem_of_find? hfind.1
  · intro hrow
    rw [catalog.find?_key hrow, Option.filter_some, if_pos (decide_eq_true hothers)] at hfind
    exact KeyedTable.mem_of_find? _ hfind

/-- A script has none of the slugs of a repository: it is another repository's, or one's own and
the files have a dot in their paths. -/
theorem Catalog.Regular.apart (h : catalog.Regular) {row : ScriptCatalog} (hrow : row ∈ catalog.rows)
    {repo : ScriptGitRepo} (hothers : row.gitRepoId ≠ some repo.id) {relPath : String}
    (hdot : row.gitRepoId = none → '.' ∈ relPath.toList) : slugOf repo.id relPath ≠ row.slug := by
  intro hslug
  cases howner : row.gitRepoId with
  | none =>
    refine dot_notMem_of_slugRe ((h row hrow).1 howner) ?_
    rw [← hslug]
    exact dot_mem_slugOf (hdot howner)
  | some id =>
    obtain ⟨path, hpath⟩ := (h row hrow).2 id howner
    refine slugOf_ne_of_ne (fun heq => hothers ?_) relPath path (hslug.trans hpath)
    rw [howner, heq]

/-- In every state a synchronisation leaves the other repositories' scripts as they are, and
one's own where the files of the repository have a dot in their paths. -/
theorem sources_isolated (calls : List LibraryCall) :
    ∀ catalog ∈ visited (libraryStep tables) .empty calls, ∀ repo now tree (row : ScriptCatalog),
      row.gitRepoId ≠ some repo.id →
      (row.gitRepoId = none → ∀ relPath ∈ tree.matched, '.' ∈ relPath.toList) →
        (row ∈ (syncGitRepo tables repo now catalog (.done tree)).2.2.rows ↔
          row ∈ catalog.rows) := by
  intro catalog hcatalog repo now tree row hothers hdot
  have hregular := regular_of_run calls catalog hcatalog
  have hmatched : ∀ file ∈ tree.readable, row.gitRepoId = none → '.' ∈ file.1.toList :=
    fun file hfile hown => hdot hown file.1 (Checkout.mem_readable.mp hfile).1
  constructor
  · intro hrow
    refine (mem_synced_iff now hothers fun file hfile => ?_).mp hrow
    exact (hregular.syncGitRepo tables repo now (.done tree)).apart hrow hothers
      (hmatched file hfile)
  · intro hrow
    refine (mem_synced_iff now hothers fun file hfile => ?_).mpr hrow
    exact hregular.apart hrow hothers (hmatched file hfile)

end Runs

/-- A script of one's own, and the clone of a repository. -/
def mixedCalls : List LibraryCall :=
  [.createScript ⟨"clean", ⟨"Clean", none, "guest", none, []⟩, "", "true"⟩ 7,
    .syncRepo scriptRepo 0 (.done dashedTree)]

/-- The row that the repository has of the script with a dash. -/
def dashedRow : ScriptCatalog :=
  scriptRepo.record asciiTables "logs-clean.sh" "# name: logs-clean.sh" none

/-- A second repository has the same files. -/
theorem sources_isolated_mixedCalls :
    dashedRow ∈ (syncGitRepo asciiTables { scriptRepo with id := 2 } 1
        (mixedCalls.foldl (libraryStep asciiTables) .empty) (.done dashedTree)).2.2.rows ↔
      dashedRow ∈ (mixedCalls.foldl (libraryStep asciiTables) .empty).rows :=
  sources_isolated mixedCalls _ (foldl_mem_visited _ _ _) { scriptRepo with id := 2 } 1 dashedTree
    dashedRow (by decide) nofun

end PveManager.Scripts
