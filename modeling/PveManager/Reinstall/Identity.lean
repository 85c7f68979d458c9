import PveManager.Api.GuestDeletion
import PveManager.Core.Run
import PveManager.Reinstall.Worker
import PveManager.Sync.Identity

/-!
# A reinstallation between ticks

The worker's calls and the ticks of the cache interleave in any order. Between
the destruction and the new creation the guest is really absent, and a tick that
falls there deletes its row and frees its addresses; nothing brings the addresses
back. So a guest keeps its owner and its addresses exactly when no tick does.
-/

namespace PveManager.Reinstall

open PveManager.Core PveManager.Api
open PveManager.Api.Guests (TaskEnd)
open PveManager.Sync (TickEnv LastIpDetect syncVmCache Shown Online SoftDeleted)

/-- A guest with an owner and an address, about to be reinstalled. -/
structure Tenant where
  db : Db
  last : LastIpDetect
  serverId : ServerId
  vmid : Vmid
  row : VMInstance
  live : getVmInstance db serverId vmid = some row
  owned : row.ownerId.isSome = true
  address : IPAMAllocation
  allocated : address ∈ db.ipam.allocations.rows
  keyed : address.keyedTo serverId vmid = true
  active : address.active = true

/-- One reinstallation: what the worker reads besides the tables, and how the task of the new
creation ends. -/
structure Job where
  node : String
  templates : Nat → Option TemplateRow
  env : Environment ReinstallIO
  creation : TaskEnd

/-- The tables, the worker's throttle marks, and the worker in the middle of its work. -/
structure Desk where
  db : Db
  last : LastIpDetect
  calls : List ReinstallCall
  rest : Work Unit

/-- The worker makes its next call, or the cache ticks. -/
inductive Move
  | work
  | tick (env : TickEnv)

namespace Tenant

variable (g : Tenant) (j : Job)

/-- The tables answer for the rows, and Proxmox for the rest. -/
def answer (desk : Desk) : (c : ReinstallCall) → c.Answer
  | .server => desk.db.servers.find? g.serverId
  | .instanceRow => getVmInstance desk.db g.serverId g.vmid
  | .template id => j.templates id
  | c => j.env desk.calls c

/-- One step of the interleaving. -/
def next (desk : Desk) : Move → Desk
  | .work =>
    match desk.rest with
    | .call c next => { desk with calls := desk.calls ++ [c], rest := next (g.answer j desk c) }
    | _ => desk
  | .tick env =>
    let out := syncVmCache env desk.last desk.db
    { desk with db := out.db, last := out.lastIpDetect }

/-- The worker before its first call. -/
def desk : Desk := ⟨g.db, g.last, [], doReinstall j.node⟩

/-- The guest has a live row with its owner, and the addresses it had. -/
structure Kept (db : Db) : Prop where
  row : ∃ row, getVmInstance db g.serverId g.vmid = some row ∧ row.ownerId = g.row.ownerId
  addresses : ∀ a, a.keyedTo g.serverId g.vmid = true → a.active = true →
    (a ∈ db.ipam.allocations.rows ↔ a ∈ g.db.ipam.allocations.rows)

/-- The step is no tick that finds the guest's server online and does not list the guest. -/
def Spares (desk : Desk) : Move → Prop
  | .work => True
  | .tick env => env.commitOk = true → Online desk.db g.serverId →
      Shown env desk.db (g.serverId, g.vmid)

end Tenant

/-- The worker has reported that the reinstallation is completed. -/
def Desk.Reported (desk : Desk) : Prop :=
  ∃ step progress error, ReinstallCall.updateTask "completed" step progress error ∈ desk.calls

namespace Tenant

variable {g : Tenant} {j : Job}

@[simp] theorem db_next_work (desk : Desk) : (g.next j desk .work).db = desk.db := by
  unfold next
  dsimp only
  split <;> rfl

/-- A tick that spares the guest keeps its row, its owner and its addresses. -/
theorem Kept.next {desk : Desk} (h : g.Kept desk.db) (m : Move) (hs : g.Spares desk m) :
    g.Kept (g.next j desk m).db := by
  cases m with
  | work =>
    rw [db_next_work]
    exact h
  | tick env =>
    change g.Kept (syncVmCache env desk.last desk.db).db
    by_cases hc : env.commitOk = true
    · have hnot : ¬SoftDeleted env desk.last desk.db (g.serverId, g.vmid) := by
        rw [Sync.softDeleted_iff hc]
        exact fun hd => hd.2.2 (hs hc hd.2.1)
      obtain ⟨⟨row, hrow, howner⟩, haddr⟩ := h
      obtain ⟨hfind, hlive⟩ := Owners.getVmInstance_eq_some_iff.mp hrow
      constructor
      · by_cases hshown : Shown env desk.db (g.serverId, g.vmid)
        · obtain ⟨f, -, -, hafter⟩ := Sync.syncVmCache_find?_of_shown desk.last hc hshown
          refine ⟨_, Owners.getVmInstance_eq_some_iff.mpr ⟨hafter, Sync.live_upsertRow _ _ _ _⟩, ?_⟩
          rw [Sync.ownerId_upsertRow, hfind]
          exact howner
        · have hafter : (syncVmCache env desk.last desk.db).db.vms.find? (g.serverId, g.vmid) = _ :=
            Sync.syncVmCache_find?_of_not_shown hc hshown
          have hkey := desk.db.vms.key_of_find? hfind
          have hfresh : ¬Sync.isStale env desk.db row = true := by
            rw [Sync.isStale_iff, hkey]
            have hserver : row.serverId = g.serverId := congrArg Prod.fst hkey
            exact fun hstale => hshown (hs hc (hserver ▸ hstale.2.1))
          rw [hfind, Option.map_some, if_neg hfresh] at hafter
          exact ⟨row, Owners.getVmInstance_eq_some_iff.mpr ⟨hafter, hlive⟩, howner⟩
      · intro a hkeyed hactive
        rw [← haddr a hkeyed hactive]
        exact ⟨Sync.mem_of_mem_syncVmCache_allocations,
          fun ha => Sync.mem_of_not_softDeleted ha hkeyed hnot⟩
    · rw [Sync.syncVmCache_db_of_not_commit (by simpa using hc)]
      exact h

/-- A tick that does not spare the guest frees its address. -/
theorem address_lost {desk : Desk} (h : g.Kept desk.db) (m : Move) (hs : ¬g.Spares desk m) :
    g.address ∉ (g.next j desk m).db.ipam.allocations.rows := by
  cases m with
  | work => exact absurd trivial hs
  | tick env =>
    simp only [Spares, Classical.not_imp] at hs
    obtain ⟨hc, honline, hshown⟩ := hs
    obtain ⟨row, hrow, -⟩ := h.row
    obtain ⟨hfind, hlive⟩ := Owners.getVmInstance_eq_some_iff.mp hrow
    have hdeleted : SoftDeleted env desk.last desk.db (g.serverId, g.vmid) :=
      (Sync.softDeleted_iff hc).mpr ⟨⟨row, hfind, hlive⟩, honline, hshown⟩
    exact Sync.not_mem_of_softDeleted hdeleted g.keyed g.active

/-- A lost address stays lost. -/
theorem address_stays_lost {desk : Desk} (h : g.address ∉ desk.db.ipam.allocations.rows) (m : Move) :
    g.address ∉ (g.next j desk m).db.ipam.allocations.rows := by
  cases m with
  | work =>
    rw [db_next_work]
    exact h
  | tick env => exact fun ha => h (Sync.mem_of_mem_syncVmCache_allocations ha)

theorem kept_start : g.Kept g.db where
  row := ⟨g.row, g.live, rfl⟩
  addresses _ _ _ := Iff.rfl

/-- Once the worker reports the reinstallation as completed, the guest is kept and its creation
has succeeded. -/
def Preserved (g : Tenant) (j : Job) (moves : List Move) : Prop :=
  (moves.foldl (g.next j) (g.desk j)).Reported →
    g.Kept (moves.foldl (g.next j) (g.desk j)).db ∧ j.creation = .succeeded

/-- A step goes on alike for two jobs with the same answers, waits apart. -/
theorem next_congr {j' : Job} (htemplates : j.templates = j'.templates)
    (henv : ∀ calls c, NoWait c → j.env calls c = j'.env calls c) {desk : Desk}
    (hrest : IgnoresWait desk.rest) (m : Move) : g.next j desk m = g.next j' desk m := by
  cases m with
  | tick env => rfl
  | work =>
    obtain ⟨db, last, calls, rest⟩ := desk
    cases rest with
    | pure => rfl
    | throw => rfl
    | call c next =>
      have hnext : next (g.answer j ⟨db, last, calls, .call c next⟩ c) =
          next (g.answer j' ⟨db, last, calls, .call c next⟩ c) := by
        cases c with
        | waitForTask => exact hrest.2 _ _
        | server => rfl
        | instanceRow => rfl
        | template id => exact congrArg (fun t => next (t id)) htemplates
        | _ => exact congrArg next (henv calls _ trivial)
      exact congrArg (Desk.mk db last (calls ++ [c])) hnext

/-- What is left after a call goes on alike too. -/
theorem ignoresWait_next {desk : Desk} (hrest : IgnoresWait desk.rest) :
    IgnoresWait (g.next j desk .work).rest := by
  obtain ⟨db, last, calls, rest⟩ := desk
  cases rest with
  | pure => exact hrest
  | throw => exact hrest
  | call c next =>
    cases c with
    | waitForTask => exact hrest.1 _
    | _ => exact hrest _

/-- Every tick of a run that reports completion spares the guest, and the creation succeeds. -/
def Undisturbed (g : Tenant) (j : Job) (moves : List Move) : Prop :=
  (moves.foldl (g.next j) (g.desk j)).Reported →
    Guarded (g.next j) g.Spares (g.desk j) moves ∧ j.creation = .succeeded

/-- At the end of a run the guest is kept exactly when every tick spared it. -/
theorem kept_iff (g : Tenant) (j : Job) (moves : List Move) :
    g.Kept (moves.foldl (g.next j) (g.desk j)).db ↔
      Guarded (g.next j) g.Spares (g.desk j) moves :=
  foldl_iff_guarded (P := fun desk : Desk => g.Kept desk.db)
    (Q := fun desk : Desk => g.address ∉ desk.db.ipam.allocations.rows) (fun _ m h hs => h.next m hs)
    (fun _ m h hs => address_lost h m hs) (fun _ m h => address_stays_lost h m)
    (fun _ hlost h => hlost ((h.addresses g.address g.keyed g.active).mpr g.allocated)) kept_start

/-- A reinstallation preserves the guest exactly when no tick deletes its row in between and the
creation succeeds. -/
theorem preserved_iff (g : Tenant) (j : Job) (moves : List Move) :
    g.Preserved j moves ↔ g.Undisturbed j moves :=
  imp_congr_right fun _ => and_congr_left fun _ => g.kept_iff j moves

/-- What is left of the worker's work goes on alike however a wait ends. -/
theorem ignoresWait_rest (moves : List Move) :
    IgnoresWait (moves.foldl (g.next j) (g.desk j)).rest := by
  induction moves using List.reverseRecOn with
  | nil => exact ignoresWait_doReinstall j.node
  | append_singleton moves m ih =>
    rw [List.foldl_append, List.foldl_cons, List.foldl_nil]
    cases m with
    | work => exact ignoresWait_next ih
    | tick env => exact ih

/-- Two jobs that differ in their waits and in the end of the creation run alike. -/
theorem desk_congr {j' : Job} (hnode : j.node = j'.node) (htemplates : j.templates = j'.templates)
    (henv : ∀ calls c, NoWait c → j.env calls c = j'.env calls c) (moves : List Move) :
    moves.foldl (g.next j) (g.desk j) = moves.foldl (g.next j') (g.desk j') := by
  induction moves using List.reverseRecOn with
  | nil =>
    change (⟨g.db, g.last, [], doReinstall j.node⟩ : Desk) = ⟨g.db, g.last, [], doReinstall j'.node⟩
    rw [hnode]
  | append_singleton moves m ih =>
    have hrest := ignoresWait_rest (g := g) (j := j) moves
    simp only [List.foldl_append, List.foldl_cons, List.foldl_nil]
    rw [← ih]
    exact next_congr htemplates henv hrest m

end Tenant

/-- The addressed container of user 7, made from a template archive. -/
def archivedRow : VMInstance :=
  { Sync.sampleRow 1 100 "web" (some 7) with templateName := some "local:vztmpl/debian.tar.zst" }

def archivedTenant : Tenant where
  db := { Sync.skippedDb with vms := KeyedTable.empty.save archivedRow }
  last := .empty
  serverId := 1
  vmid := 100
  row := archivedRow
  live := rfl
  owned := rfl
  address := Sync.sampleAllocation 1 100 "10.0.0.5"
  allocated := List.mem_singleton_self _
  keyed := by decide
  active := by decide

/-- A Proxmox that carries out everything, and confirms no task. -/
def obliging : Environment ReinstallIO
  | _, .updateTask .. | _, .logAction .. => ()
  | _, .server => none
  | _, .instanceRow => none
  | _, .template _ => none
  | _, .connect _ => .ok true
  | _, .config _ | _, .status _ => .ok .null
  | _, .create .. => .ok (some "UPID")
  | _, .waitForTask .. => .ok false
  | _, .stop _ | _, .delete _ | _, .updateConfig .. | _, .resizeDisk .. | _, .start _ => .ok ()

/-- The reinstallation on the node `a`. -/
def obligingJob (creation : TaskEnd) : Job := ⟨"a", fun _ => none, obliging, creation⟩

/-- The same, and every wait is confirmed. -/
def confirmingJob (creation : TaskEnd) : Job where
  node := "a"
  templates _ := none
  env calls
    | .waitForTask .. => .ok true
    | c => obliging calls c
  creation := creation

/-- A tick that reads an empty listing: the guest is away. -/
def emptyTick : TickEnv := { Sync.sampleTick with fetch := fun _ => .answered (some []) }

/-- The calls up to the destruction, the tick if there is one, and the calls after it. -/
def reinstallMoves (ticks : List TickEnv) : List Move :=
  List.replicate 12 .work ++ ticks.map Move.tick ++ List.replicate 13 .work

/-- A tick between destruction and creation costs the guest its address, and a failed creation
is reported as completed. -/
theorem reinstall_not_preserved :
    ¬archivedTenant.Preserved (obligingJob .succeeded) (reinstallMoves [emptyTick]) ∧
      ¬archivedTenant.Preserved (obligingJob .failed) (reinstallMoves []) := by
  constructor
  · intro h
    obtain ⟨hkept, -⟩ := h ⟨_, _, _, List.mem_of_getLast? rfl⟩
    have hstays := (hkept.addresses archivedTenant.address archivedTenant.keyed
      archivedTenant.active).mpr archivedTenant.allocated
    exact absurd hstays (by decide)
  · intro h
    obtain ⟨-, hcreated⟩ := h ⟨_, _, _, List.mem_of_getLast? rfl⟩
    cases hcreated

/-- Whether the waits are confirmed and how the creation ends makes no difference. -/
theorem Tenant.desk_congr_obligingJob :
    (reinstallMoves [emptyTick]).foldl (archivedTenant.next (obligingJob .succeeded))
        (archivedTenant.desk (obligingJob .succeeded)) =
      (reinstallMoves [emptyTick]).foldl (archivedTenant.next (confirmingJob .failed))
        (archivedTenant.desk (confirmingJob .failed)) := by
  refine Tenant.desk_congr rfl rfl (fun calls c hc => ?_) _
  cases c with
  | waitForTask => exact hc.elim
  | _ => rfl

end PveManager.Reinstall
