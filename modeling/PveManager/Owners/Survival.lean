import PveManager.Api.Guests
import PveManager.Core.Run
import PveManager.Owners.Instances
import PveManager.Servers.Delete
import PveManager.Sync.Identity

/-!
# Owners after their guest

A deleted guest leaves a row with its owner and its stored credentials, and
another guest may take the key of the row. Runs of ticks and of the handlers that
write rows are followed beside what really happens: which guest a row stands
for, and who owned the guests that are gone. Nothing but the two ways a row comes
back can hand the new guest to a former owner.
-/

namespace PveManager.Owners

open PveManager.Core PveManager.Api PveManager.Rbac
open PveManager.Api.Guests (GuestDb SavedConfig getSavedVmConfig savedConfigOf)
open PveManager.Sync (TickEnv LastIpDetect syncVmCache Shown allSeen mem_allSeen)

/-- The tables and the worker's throttle marks, with what really happened beside them. -/
structure Panel where
  db : Db
  last : LastIpDetect
  /-- The guest that the row of a key was last written for. -/
  present : ServerId × Vmid → GuestId
  /-- The guest that the credentials in the row of a key were stored for. -/
  credentialsOf : ServerId × Vmid → GuestId
  /-- The user owned a guest of the key when its row was soft-deleted, and was given no guest
  of the key since. -/
  formerOwner : ServerId × Vmid → GuestId → UserId → Prop

/-- A panel before anything was deleted. -/
def Panel.start (db : Db) (last : LastIpDetect) (present credentialsOf : ServerId × Vmid → GuestId) :
    Panel :=
  ⟨db, last, present, credentialsOf, fun _ _ _ => False⟩

/-- The columns that ownership and the stored credentials hang on. -/
def essence (row : VMInstance) : Option UserId × Bool × Option String × Option String :=
  (row.ownerId, row.live, row.cloudInitUser, row.cloudInitPassword)

/-- A handler that writes other columns, or other tables. -/
structure Rewrite where
  change : Db → Db
  keeps : ∀ db k, ((change db).vms.find? k).map essence = (db.vms.find? k).map essence

/-- One step of a run. -/
inductive Act
  /-- `sync_vm_cache`, with the guests that have the listed numbers. -/
  | tick (env : TickEnv) (guestAt : ServerId × Vmid → GuestId)
  /-- `save_vm_instance` for a guest. -/
  | save (guest : GuestId) (args : SaveArgs)
  /-- `soft_delete_vm_instance`. -/
  | softDelete (sid : ServerId) (vmid : Vmid) (now : Time)
  /-- `set_vm_owner`, once it has passed its checks. -/
  | assign (sid : ServerId) (vmid : Vmid) (userId : Option UserId) (newKeys : String)
  /-- The removal of a server from the panel. -/
  | remove (sid : ServerId) (username : String)
  | other (rewrite : Rewrite)

namespace Panel

variable (p : Panel)

/-- The tables after a step. -/
def write : Act → Db × LastIpDetect
  | .tick env _ => ((syncVmCache env p.last p.db).db, (syncVmCache env p.last p.db).lastIpDetect)
  | .save _ args => (saveVmInstance p.db args, p.last)
  | .softDelete sid vmid now => (softDeleteVmInstance now p.db sid vmid, p.last)
  | .assign sid vmid userId newKeys => (assignOwner p.db sid vmid userId newKeys, p.last)
  | .remove sid username => (Servers.deleteServerRecords p.db sid username, p.last)
  | .other rewrite => (rewrite.change p.db, p.last)

/-- The guests the rows stand for after a step. -/
def presentAfter : Act → ServerId × Vmid → GuestId
  | .tick env guestAt, k =>
    if env.commitOk && (allSeen env p.db).any fun seen => decide (seen = k) then guestAt k
    else p.present k
  | .save guest args, k => if args.key = k then guest else p.present k
  | _, k => p.present k

/-- The guests the credentials belong to after a step. -/
def credentialsAfter : Act → ServerId × Vmid → GuestId
  | .save guest args, k => if args.key = k then guest else p.credentialsOf k
  | _, k => p.credentialsOf k

/-- The step gives the guest of the key to the user. -/
def Gives : Act → ServerId × Vmid → UserId → Prop
  | .save _ args, k, user => args.key = k ∧ args.ownerId = some user
  | .assign sid vmid userId _, k, user =>
    (sid, vmid) = k ∧ (getVmInstance p.db sid vmid).isSome = true ∧ userId = some user
  | _, _, _ => False

/-- The row of a guest of this user was soft-deleted. -/
def Buried (before after : Db) (k : ServerId × Vmid) (user : UserId) : Prop :=
  (∃ row, before.vms.find? k = some row ∧ row.live = true ∧ row.ownerId = some user) ∧
    ∃ row, after.vms.find? k = some row ∧ row.live = false

/-- One step. -/
def next (a : Act) : Panel where
  db := (p.write a).1
  last := (p.write a).2
  present := p.presentAfter a
  credentialsOf := p.credentialsAfter a
  formerOwner k guest user :=
    (p.formerOwner k guest user ∨ guest = p.present k ∧ Buried p.db (p.write a).1 k user) ∧
      ¬p.Gives a k user

end Panel

/-! ### What a former owner must not reach -/

/-- The row has a stored user or password. -/
def hasCredentials (row : VMInstance) : Bool :=
  row.cloudInitUser.isSome || row.cloudInitPassword.isSome

/-- `get_saved_vm_config` answers the user with stored credentials. -/
def SeesCredentials (db : Db) (user : User) (k : ServerId × Vmid) : Prop :=
  ∃ (gdb : GuestDb) (c : SavedConfig), gdb.toDb = db ∧
    getSavedVmConfig gdb user k.1 k.2 = pure (.savedConfig (some c)) ∧
    (c.cloudInitUser.isSome || c.cloudInitPassword.isSome) = true

/-- A former owner of another guest of the key, without the global view and not given the
present guest, neither has access to it nor sees the credentials of the old one on it. -/
def Panel.Forgets (p : Panel) : Prop :=
  ∀ k guest (user : User), p.formerOwner k guest user.id → p.present k ≠ guest →
    canViewAllInstances user = false →
      checkVmAccess p.db user k.1 k.2 = false ∧
        ¬(SeesCredentials p.db user k ∧ p.credentialsOf k = guest)

/-- A row that is to stand for this guest carries nothing of the guests of former owners. -/
def Panel.Clean (p : Panel) (k : ServerId × Vmid) (present : GuestId) (row : VMInstance) : Prop :=
  ∀ guest user, p.formerOwner k guest user → present ≠ guest →
    row.ownerId ≠ some user ∧ ¬(hasCredentials row = true ∧ p.credentialsOf k = guest)

/-- The saved configuration is answered to whoever may view guests. -/
theorem seesCredentials_iff {db : Db} {user : User} {k : ServerId × Vmid} :
    SeesCredentials db user k ↔ hasPermission user "vm:view" = true ∧
      ∃ row, db.vms.find? k = some row ∧ row.live = true ∧ hasCredentials row = true := by
  have hhandler : ∀ gdb : GuestDb, getSavedVmConfig gdb user k.1 k.2 =
      if hasPermission user "vm:view" = true then
        pure (.savedConfig ((getVmInstance gdb.toDb k.1 k.2).map savedConfigOf))
      else throw (.http 403 "Permission denied: vm:view") := by
    intro gdb
    unfold getSavedVmConfig permissionChecker
    cases hasPermission user "vm:view" with
    | true => rfl
    | false => rfl
  constructor
  · rintro ⟨gdb, c, rfl, hrun, hc⟩
    rw [hhandler] at hrun
    split at hrun
    · rename_i hperm
      injection hrun with hreply
      injection hreply with hfound
      obtain ⟨row, hrow, rfl⟩ := Option.map_eq_some_iff.mp hfound
      obtain ⟨hfind, hlive⟩ := getVmInstance_eq_some_iff.mp hrow
      exact ⟨hperm, row, hfind, hlive, hc⟩
    · cases hrun
  · rintro ⟨hperm, row, hrow, hlive, hcred⟩
    refine ⟨⟨db, [], [], [], []⟩, savedConfigOf row, rfl, ?_, hcred⟩
    have hget : getVmInstance db k.1 k.2 = some row :=
      getVmInstance_eq_some_iff.mpr ⟨hrow, hlive⟩
    rw [hhandler, if_pos hperm, hget]
    rfl

/-- A user who may view guests and has no global view. -/
def viewer (id : UserId) : User where
  id := id
  username := "viewer"
  isAdmin := false
  role := some ⟨"viewer", KeyedTable.empty.save ("vm:view", true)⟩
  assignedServers := []

namespace Panel

variable {p : Panel}

/-- Former owners reach nothing exactly when the live rows carry nothing of theirs. -/
theorem forgets_iff : p.Forgets ↔
    ∀ k row, p.db.vms.find? k = some row → row.live = true → p.Clean k (p.present k) row := by
  constructor
  · intro h k row hrow hlive guest user hformer hne
    obtain ⟨hdenied, hhidden⟩ := h k guest (viewer user) hformer hne rfl
    have hget := getVmInstance_eq_some_iff.mpr ⟨hrow, hlive⟩
    refine ⟨(denied_iff.mp hdenied).2 row hget, fun ⟨hcred, hof⟩ => hhidden ⟨?_, hof⟩⟩
    exact seesCredentials_iff.mpr ⟨hasPermission_of_enabled rfl, row, hrow, hlive, hcred⟩
  · intro h k guest user hformer hne hview
    constructor
    · refine denied_iff.mpr ⟨hview, fun row hget => ?_⟩
      obtain ⟨hrow, hlive⟩ := getVmInstance_eq_some_iff.mp hget
      exact (h k row hrow hlive guest user.id hformer hne).1
    · rintro ⟨hsees, hof⟩
      obtain ⟨-, row, hrow, hlive, hcred⟩ := seesCredentials_iff.mp hsees
      exact (h k row hrow hlive guest user.id hformer hne).2 ⟨hcred, hof⟩

/-- Where a live row is left, nobody has become a former owner. -/
theorem formerOwner_next_iff {a : Act} {k : ServerId × Vmid} {row : VMInstance}
    (hrow : (p.write a).1.vms.find? k = some row) (hlive : row.live = true) {guest : GuestId}
    {user : UserId} :
    (p.next a).formerOwner k guest user ↔ p.formerOwner k guest user ∧ ¬p.Gives a k user := by
  refine and_congr_left fun _ => or_iff_left ?_
  rintro ⟨-, -, row', hrow', hdead⟩
  rw [hrow, Option.some.injEq] at hrow'
  rw [hrow', hdead] at hlive
  cases hlive

/-- What a step leaves to former owners, read off the rows it leaves. -/
theorem forgets_next_iff {a : Act} : (p.next a).Forgets ↔
    ∀ k row, (p.write a).1.vms.find? k = some row → row.live = true →
      ∀ guest user, p.formerOwner k guest user → ¬p.Gives a k user →
        p.presentAfter a k ≠ guest → row.ownerId ≠ some user ∧
          ¬(hasCredentials row = true ∧ p.credentialsAfter a k = guest) := by
  rw [forgets_iff]
  constructor
  · intro h k row hrow hlive guest user hformer hgives
    exact h k row hrow hlive guest user ((formerOwner_next_iff hrow hlive).mpr ⟨hformer, hgives⟩)
  · intro h k row hrow hlive guest user hformer
    obtain ⟨hold, hgives⟩ := (formerOwner_next_iff hrow hlive).mp hformer
    exact h k row hrow hlive guest user hold hgives

/-! ### The steps -/

/-- A step that brings back no row and gives no row an owner of its own accord. -/
theorem Forgets.quiet (h : p.Forgets) {a : Act}
    (hrows : ∀ k row, (p.write a).1.vms.find? k = some row → row.live = true →
      ∃ row₀, p.db.vms.find? k = some row₀ ∧ row₀.live = true ∧
        hasCredentials row = hasCredentials row₀ ∧
          ∀ user, row.ownerId = some user → ¬p.Gives a k user → row₀.ownerId = some user)
    (hpresent : p.presentAfter a = p.present) (hof : p.credentialsAfter a = p.credentialsOf) :
    (p.next a).Forgets := by
  rw [forgets_next_iff, hpresent, hof]
  intro k row hrow hlive guest user hformer hgives hne
  obtain ⟨row₀, hrow₀, hlive₀, hcred, howner⟩ := hrows k row hrow hlive
  obtain ⟨hother, hhidden⟩ := forgets_iff.mp h k row₀ hrow₀ hlive₀ guest user hformer hne
  exact ⟨fun ho => hother (howner user ho hgives), hcred ▸ hhidden⟩

theorem Forgets.softDelete (h : p.Forgets) (sid : ServerId) (vmid : Vmid) (now : Time) :
    (p.next (.softDelete sid vmid now)).Forgets := by
  refine h.quiet (fun k row hrow hlive => ?_) rfl rfl
  change (softDeleteVmInstance now p.db sid vmid).vms.find? k = some row at hrow
  rw [find?_softDeleteVmInstance, Option.map_eq_some_iff] at hrow
  obtain ⟨row₀, hrow₀, rfl⟩ := hrow
  split at hlive
  · cases hlive
  · rename_i hnot
    rw [if_neg hnot]
    exact ⟨row₀, hrow₀, hlive, rfl, fun user ho _ => ho⟩

theorem Forgets.assign (h : p.Forgets) (sid : ServerId) (vmid : Vmid) (userId : Option UserId)
    (newKeys : String) : (p.next (.assign sid vmid userId newKeys)).Forgets := by
  refine h.quiet (fun k row hrow hlive => ?_) rfl rfl
  change (assignOwner p.db sid vmid userId newKeys).vms.find? k = some row at hrow
  rw [find?_assignOwner, Option.map_eq_some_iff] at hrow
  obtain ⟨row₀, hrow₀, rfl⟩ := hrow
  by_cases hk : (sid, vmid) = k ∧ row₀.live = true
  · rw [if_pos hk]
    refine ⟨row₀, hrow₀, hk.2, rfl, fun user ho hgives => absurd ?_ hgives⟩
    have hget : getVmInstance p.db sid vmid = some row₀ :=
      getVmInstance_eq_some_iff.mpr ⟨hk.1 ▸ hrow₀, hk.2⟩
    exact ⟨hk.1, by rw [hget]; rfl, ho⟩
  · rw [if_neg hk] at hlive ⊢
    exact ⟨row₀, hrow₀, hlive, rfl, fun user ho _ => ho⟩

theorem Forgets.remove (h : p.Forgets) (sid : ServerId) (username : String) :
    (p.next (.remove sid username)).Forgets := by
  refine h.quiet (fun k row hrow hlive => ?_) rfl rfl
  change (Servers.deleteServerRecords p.db sid username).vms.find? k = some row at hrow
  by_cases hk : k.1 = sid
  · subst hk
    rw [Servers.find?_deleteServerRecords_self] at hrow
    cases hrow
  · rw [Servers.find?_deleteServerRecords_of_ne p.db username hk] at hrow
    exact ⟨row, hrow, hlive, rfl, fun user ho _ => ho⟩

theorem Forgets.other (h : p.Forgets) (rewrite : Rewrite) : (p.next (.other rewrite)).Forgets := by
  refine h.quiet (fun k row hrow hlive => ?_) rfl rfl
  have hkeeps := rewrite.keeps p.db k
  rw [show (rewrite.change p.db).vms.find? k = some row from hrow, Option.map_some] at hkeeps
  obtain ⟨row₀, hrow₀, he⟩ := Option.map_eq_some_iff.mp hkeeps.symm
  simp only [essence, Prod.mk.injEq] at he
  obtain ⟨ho, hl, hu, hp⟩ := he
  refine ⟨row₀, hrow₀, hl.trans hlive, ?_, fun user h' _ => ho.trans h'⟩
  rw [hasCredentials, hasCredentials, hu, hp]

/-- The two steps that bring a row back: the listed guests, or the guest that is saved without
an owner, are not given a row that carries something of a former owner. -/
def Spares (p : Panel) : Act → Prop
  | .tick env guestAt => env.commitOk = true → ∀ k row, Shown env p.db k →
      p.db.vms.find? k = some row → p.Clean k (guestAt k) row
  | .save guest args => args.ownerId = none → ∀ row, p.db.vms.find? args.key = some row →
      ∀ guest' user, p.formerOwner args.key guest' user → guest ≠ guest' →
        row.ownerId ≠ some user
  | _ => True

/-- A tick rewrites the guests it shows, when it commits. -/
theorem presentAfter_tick_of_shown {env : TickEnv} {guestAt : ServerId × Vmid → GuestId}
    {k : ServerId × Vmid} (hc : env.commitOk = true) (hshown : Shown env p.db k) :
    p.presentAfter (.tick env guestAt) k = guestAt k := by
  refine if_pos ?_
  rw [hc, Bool.true_and, List.any_eq_true]
  exact ⟨k, mem_allSeen.mpr hshown, by simp⟩

theorem presentAfter_tick_of_not {env : TickEnv} {guestAt : ServerId × Vmid → GuestId}
    {k : ServerId × Vmid} (h : ¬(env.commitOk = true ∧ Shown env p.db k)) :
    p.presentAfter (.tick env guestAt) k = p.present k := by
  refine if_neg fun hif => h ?_
  rw [Bool.and_eq_true, List.any_eq_true] at hif
  obtain ⟨hc, seen, hseen, hk⟩ := hif
  rw [decide_eq_true_eq] at hk
  exact ⟨hc, mem_allSeen.mp (hk ▸ hseen)⟩

/-- A tick keeps former owners away exactly when the rows it brings back are clean. -/
theorem forgets_tick_iff (h : p.Forgets) {env : TickEnv} {guestAt : ServerId × Vmid → GuestId} :
    (p.next (.tick env guestAt)).Forgets ↔ p.Spares (.tick env guestAt) := by
  by_cases hc : env.commitOk = true
  · rw [forgets_next_iff]
    constructor
    · intro hnext _ k row hshown hrow guest user hformer hne
      obtain ⟨f, -, -, hafter⟩ := Sync.syncVmCache_find?_of_shown p.last hc hshown
      rw [hrow] at hafter
      have hpresent : p.presentAfter (.tick env guestAt) k = guestAt k :=
        presentAfter_tick_of_shown hc hshown
      exact hnext k _ hafter (Sync.live_upsertRow _ _ _ _) guest user hformer id
        (hpresent ▸ hne)
    · intro hspares k row hrow hlive guest user hformer _ hne
      change (syncVmCache env p.last p.db).db.vms.find? k = some row at hrow
      by_cases hshown : Shown env p.db k
      · rw [presentAfter_tick_of_shown hc hshown] at hne
        obtain ⟨f, -, -, hafter⟩ := Sync.syncVmCache_find?_of_shown p.last hc hshown
        rw [hafter, Option.some.injEq] at hrow
        cases hold : p.db.vms.find? k with
        | none =>
          rw [hold] at hrow
          subst hrow
          constructor
          · intro ho
            cases ho
          · rintro ⟨hcred, -⟩
            cases hcred
        | some row₀ =>
          rw [hold] at hrow
          subst hrow
          exact hspares hc k row₀ hshown hold guest user hformer hne
      · rw [presentAfter_tick_of_not fun hk => hshown hk.2] at hne
        rw [Sync.syncVmCache_find?_of_not_shown hc hshown, Option.map_eq_some_iff] at hrow
        obtain ⟨row₀, hrow₀, rfl⟩ := hrow
        split at hlive
        · cases hlive
        · rename_i hstale
          rw [if_neg hstale]
          exact forgets_iff.mp h k row₀ hrow₀ hlive guest user hformer hne
  · refine iff_of_true (h.quiet (fun k row hrow hlive => ?_) ?_ rfl) fun hc' => absurd hc' hc
    · change (syncVmCache env p.last p.db).db.vms.find? k = some row at hrow
      rw [Sync.syncVmCache_db_of_not_commit (by simpa using hc)] at hrow
      exact ⟨row, hrow, hlive, rfl, fun user ho _ => ho⟩
    · funext k
      exact presentAfter_tick_of_not fun hk => hc hk.1

/-- A save keeps former owners away exactly when it gives the guest an owner or the row it
finds has none of them. -/
theorem forgets_save_iff (h : p.Forgets) {guest : GuestId} {args : SaveArgs} :
    (p.next (.save guest args)).Forgets ↔ p.Spares (.save guest args) := by
  have hself : (saveVmInstance p.db args).vms.find? args.key =
      some (args.row (p.db.vms.find? args.key)) := by
    rw [find?_saveVmInstance, if_pos rfl]
  rw [forgets_next_iff]
  constructor
  · intro hnext hnone row hrow guest' user hformer hne ho
    refine (hnext args.key _ hself (live_row _) guest' user hformer ?_ ?_).1 ?_
    · rintro ⟨-, hgiven⟩
      rw [hnone] at hgiven
      cases hgiven
    · rw [show p.presentAfter (.save guest args) args.key = guest from if_pos rfl]
      exact hne
    · rw [ownerId_row, hnone, hrow]
      exact ho
  · intro hspares k row hrow hlive guest' user hformer hgives hne
    by_cases hk : args.key = k
    · subst hk
      rw [show p.presentAfter (.save guest args) args.key = guest from if_pos rfl] at hne
      rw [show p.credentialsAfter (.save guest args) args.key = guest from if_pos rfl]
      refine ⟨fun ho => ?_, fun hcred => hne hcred.2⟩
      have hrow' : args.row (p.db.vms.find? args.key) = row := Option.some.inj (hself.symm.trans hrow)
      rw [← hrow', ownerId_row] at ho
      cases hgiven : args.ownerId with
      | some user' =>
        rw [hgiven] at ho
        exact hgives ⟨rfl, hgiven.trans ho⟩
      | none =>
        rw [hgiven, Option.none_or] at ho
        obtain ⟨row₀, hrow₀, ho⟩ := Option.bind_eq_some_iff.mp ho
        exact hspares hgiven row₀ hrow₀ guest' user hformer hne ho
    · rw [show p.presentAfter (.save guest args) k = p.present k from if_neg hk] at hne
      rw [show p.credentialsAfter (.save guest args) k = p.credentialsOf k from if_neg hk]
      change (saveVmInstance p.db args).vms.find? k = some row at hrow
      rw [find?_saveVmInstance, if_neg hk] at hrow
      exact forgets_iff.mp h k row hrow hlive guest' user hformer hne

/-- A step keeps former owners away exactly when it meets the condition. -/
theorem forgets_step_iff (h : p.Forgets) (a : Act) : (p.next a).Forgets ↔ p.Spares a := by
  cases a with
  | tick env guestAt => exact forgets_tick_iff h
  | save guest args => exact forgets_save_iff h
  | softDelete sid vmid now => exact iff_of_true (h.softDelete sid vmid now) trivial
  | assign sid vmid userId newKeys => exact iff_of_true (h.assign sid vmid userId newKeys) trivial
  | remove sid username => exact iff_of_true (h.remove sid username) trivial
  | other rewrite => exact iff_of_true (h.other rewrite) trivial

theorem forgets_start (db : Db) (last : LastIpDetect)
    (present credentialsOf : ServerId × Vmid → GuestId) :
    (Panel.start db last present credentialsOf).Forgets :=
  fun _ _ _ hformer => hformer.elim

/-- In a run of ticks and handlers every state keeps former owners away exactly when every step
that brings a row back meets the condition. -/
theorem forgets_run_iff (db : Db) (last : LastIpDetect)
    (present credentialsOf : ServerId × Vmid → GuestId) (acts : List Act) :
    (∀ p ∈ visited Panel.next (Panel.start db last present credentialsOf) acts, p.Forgets) ↔
      Guarded Panel.next Panel.Spares (Panel.start db last present credentialsOf) acts :=
  forall_visited_iff_guarded (fun _ a _ h => forgets_step_iff h a)
    (forgets_start db last present credentialsOf)

/-- The sample cluster, where user 2 owns the guest 100 with a stored login. -/
def ownedDb : Db :=
  assignOwner (saveVmInstance Sync.sampleState.db
    { serverId := 1, vmid := 100, node := "a", vmType := .qemu, name := "web",
      cloudInitUser := some "debian", cloudInitPassword := some "secret" }) 1 100 (some 2) ""

/-- The guest 7 is deleted, and the next tick finds the guest 8 under its number. -/
def reusedNumber : List Act :=
  [.softDelete 1 100 3, .tick Sync.sampleTick fun _ => 8]

/-- The guest 7 is deleted, and the guest 8 is created under its number without an owner. -/
def savedWithoutOwner : List Act :=
  [.softDelete 1 100 3,
    .save 8 { serverId := 1, vmid := 100, node := "a", vmType := .qemu, name := "mail" }]

/-- The owner of the deleted guest has access to the new one either way. -/
theorem reused_number_not_forgotten :
    (¬∀ p ∈ visited Panel.next (Panel.start ownedDb .empty (fun _ => 7) fun _ => 7) reusedNumber,
      p.Forgets) ∧
      ¬∀ p ∈ visited Panel.next (Panel.start ownedDb .empty (fun _ => 7) fun _ => 7)
        savedWithoutOwner, p.Forgets := by
  have hburied : ((Panel.start ownedDb .empty (fun _ => 7) fun _ => 7).next
      (.softDelete 1 100 3)).formerOwner (1, 100) 7 2 :=
    ⟨Or.inr ⟨rfl, ⟨_, rfl, rfl, rfl⟩, _, rfl, rfl⟩, id⟩
  constructor
  · intro h
    have hlast := h _ (foldl_mem_visited _ _ _) (1, 100) 7 (viewer 2) ⟨Or.inl hburied, id⟩
      (by decide) rfl
    exact absurd hlast.1 (by decide)
  · intro h
    have hlast := h _ (foldl_mem_visited _ _ _) (1, 100) 7 (viewer 2)
      ⟨Or.inl hburied, fun hgives => by cases hgives.2⟩ (by decide) rfl
    exact absurd hlast.1 (by decide)

end Panel

end PveManager.Owners
