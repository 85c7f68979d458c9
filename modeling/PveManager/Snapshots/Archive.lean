import Mathlib.Data.List.Sigma
import PveManager.Api.Handler
import PveManager.Core.Session

/-!
# Snapshots of a guest that is deleted

Before a guest is deleted, its snapshots are written to an archive and deleted one by one.
Every deletion that goes through is logged, and the log commits what was written so far;
the last commit comes after the loop. A snapshot whose row could not be written is deleted
like the others.
-/

namespace PveManager.Snapshots

open PveManager.Core PveManager.Api

/-- The fields of a snapshot as Proxmox lists it. -/
abbrev Snap := List (String × Json)

/-- `snap.get(key)`. -/
def Snap.get (snap : Snap) (key : String) : Json := (snap.lookup key).getD .null

/-- The fields of an entry, where it is an object. -/
def asSnap : Json → Option Snap
  | .dict fields => some fields
  | _ => none

/-- Not the entry of the running state. -/
def Snap.isReal (snap : Snap) : Bool :=
  match snap.get "name" with
  | .text name => decide (name ≠ "current")
  | _ => true

/-- A row of the archive. -/
structure VMSnapshotArchive where
  serverId : ServerId
  serverName : String
  vmid : Vmid
  vmName : Option String
  vmType : VmType
  node : String
  snapname : Json
  description : Json
  snaptime : Json
  parent : Json
  vmstate : Bool
  snapshotConfig : Snap
  deletedBy : String
  deletionReason : Option String

/-- What is reported as gone wrong. -/
inductive CleanupError
  | archive (snapname : Json) (text : String)
  | delete (snapname : Json) (text : String)
  | general (text : String)

/-- A guest whose snapshots go, and what becomes of the requests. The steps of the loop are
told apart by the place of the snapshot in the list. -/
structure Cleanup where
  serverId : ServerId
  serverName : String
  vmid : Vmid
  vmName : Option String
  vmType : VmType
  node : String
  deletedBy : String
  deletionReason : Option String
  /-- What the client lists. -/
  listed : List Json
  /-- Whether the session takes statements when the function is called. -/
  works : Bool
  /-- The error of the statement that writes the row. -/
  flush : Nat → Option String
  /-- The client's answer, or what it raises. -/
  delete : Nat → Except String Unit
  /-- Whether the log entry is committed. -/
  logs : Nat → Bool
  /-- What the rollback of the log raises, where the entry is not committed. -/
  rollback : Nat → Option String
  /-- The error of the last commit. -/
  commit : Option String

/-- The rows written so far, the deletions asked for, and the result. -/
structure Cleaning where
  db : Session (Nat × VMSnapshotArchive)
  asked : List (Snap × Nat)
  archived : Nat
  deleted : Nat
  errors : List CleanupError
  snapshots : List Json

namespace Cleanup

variable (c : Cleanup)

/-- The row of a snapshot. -/
def row (snap : Snap) : VMSnapshotArchive where
  serverId := c.serverId
  serverName := c.serverName
  vmid := c.vmid
  vmName := c.vmName
  vmType := c.vmType
  node := c.node
  snapname := snap.get "name"
  description := snap.get "description"
  snaptime := snap.get "snaptime"
  parent := snap.get "parent"
  vmstate := (snap.get "vmstate").truthy
  snapshotConfig := snap
  deletedBy := c.deletedBy
  deletionReason := c.deletionReason

/-- Write the row of a snapshot. -/
def archiveSnap (x : Cleaning) (t : Snap × Nat) : Cleaning :=
  let x' := { x with db := x.db.flush (t.2, c.row t.1) (c.flush t.2).isNone }
  if x.db.works = false then
    { x' with errors := x.errors ++ [.archive (t.1.get "name") "PendingRollbackError"] }
  else
    match c.flush t.2 with
    | none =>
      { x' with
        archived := x.archived + 1
        snapshots := x.snapshots ++ [t.1.get "name"] }
    | some e => { x' with errors := x.errors ++ [.archive (t.1.get "name") e] }

/-- Log a deletion. -/
def logDeletion (x : Cleaning) (t : Snap × Nat) : Cleaning :=
  let x' := { x with db := x.db.commitOrRollback (c.logs t.2) }
  if x.db.works = true ∧ c.logs t.2 = true then x'
  else
    match c.rollback t.2 with
    | none => x'
    | some e => { x' with errors := x.errors ++ [.delete (t.1.get "name") e] }

/-- Ask Proxmox to delete a snapshot. -/
def deleteSnap (x : Cleaning) (t : Snap × Nat) : Cleaning :=
  match c.delete t.2 with
  | .ok _ =>
    c.logDeletion
      { x with
        asked := x.asked ++ [t]
        deleted := x.deleted + 1 } t
  | .error e =>
    { x with
      asked := x.asked ++ [t]
      errors := x.errors ++ [.delete (t.1.get "name") e] }

/-- Archive a snapshot, and delete it. -/
def takeSnap (x : Cleaning) (t : Snap × Nat) : Cleaning := c.deleteSnap (c.archiveSnap x t) t

/-- One round of the loop; a snapshot without a name is passed over. -/
def round (x : Cleaning) (t : Snap × Nat) : Cleaning :=
  if (t.1.get "name").truthy = true then c.takeSnap x t else x

/-- The snapshots, without the entry of the running state; `none` where an entry is no object. -/
def realSnaps : Option (List Snap) :=
  (c.listed.mapM asSnap).map fun snaps => snaps.filter Snap.isReal

/-- Nothing is written yet. -/
def start : Cleaning := ⟨⟨[], [], c.works⟩, [], 0, 0, [], []⟩

/-- The last commit. -/
def finish (x : Cleaning) : Cleaning :=
  let x' := { x with db := x.db.commit c.commit.isNone }
  if x.db.works = false then
    { x' with errors := x.errors ++ [.general "PendingRollbackError"] }
  else
    match c.commit with
    | none => x'
    | some e => { x' with errors := x.errors ++ [.general e] }

/-- `archive_and_delete_snapshots`. -/
def archiveAndDeleteSnapshots : Cleaning :=
  match c.realSnaps with
  | none => { c.start with errors := [.general "AttributeError"] }
  | some [] => c.start
  | some snaps => c.finish (snaps.zipIdx.foldl c.round c.start)

/-- A snapshot is asked to be deleted only if its row is in the database at the end. -/
def ArchivesFirst : Prop :=
  ∀ t ∈ c.archiveAndDeleteSnapshots.asked,
    (t.2, c.row t.1) ∈ c.archiveAndDeleteSnapshots.db.stored

/-- The snapshots with a name, and their places. -/
def named : List (Snap × Nat) :=
  (c.realSnaps.getD []).zipIdx.filter fun t => (t.1.get "name").truthy

/-- The row of a snapshot is written, and the log entry of a deletion that goes through is
committed. -/
def Written (t : Snap × Nat) : Prop :=
  c.flush t.2 = none ∧ (c.delete t.2 = .ok () → c.logs t.2 = true)

/-- Every row is written, and the last commit goes through or comes after the log of the last
deletion. -/
def WritesAll : Prop :=
  c.named = [] ∨ c.works = true ∧ (∀ t ∈ c.named, c.Written t) ∧
    (c.commit = none ∨ ∃ t, c.named.getLast? = some t ∧ c.delete t.2 = .ok ())

end Cleanup

namespace Cleanup

variable {c : Cleanup} {x : Cleaning} {t : Snap × Nat}

/-! ### One round -/

/-- What a round does to the session. -/
theorem db_takeSnap (c : Cleanup) (x : Cleaning) (t : Snap × Nat) :
    (c.takeSnap x t).db =
      if c.delete t.2 = .ok () then
        (x.db.flush (t.2, c.row t.1) (c.flush t.2).isNone).commitOrRollback (c.logs t.2)
      else x.db.flush (t.2, c.row t.1) (c.flush t.2).isNone := by
  have harchive : (c.archiveSnap x t).db =
      x.db.flush (t.2, c.row t.1) (c.flush t.2).isNone := by
    unfold archiveSnap
    split
    · rfl
    · split
      · rfl
      · rfl
  have hlog : ∀ y : Cleaning, (c.logDeletion y t).db = y.db.commitOrRollback (c.logs t.2) := by
    intro y
    unfold logDeletion
    split
    · rfl
    · split
      · rfl
      · rfl
  rw [takeSnap, deleteSnap]
  cases c.delete t.2 with
  | ok u =>
    rw [if_pos rfl]
    dsimp only
    rw [hlog, harchive]
  | error e =>
    rw [if_neg fun h => by cases h]
    exact harchive

/-- Every snapshot that is taken is asked to be deleted. -/
theorem asked_takeSnap (c : Cleanup) (x : Cleaning) (t : Snap × Nat) :
    (c.takeSnap x t).asked = x.asked ++ [t] := by
  have harchive : (c.archiveSnap x t).asked = x.asked := by
    unfold archiveSnap
    split
    · rfl
    · split
      · rfl
      · rfl
  have hlog : ∀ y : Cleaning, (c.logDeletion y t).asked = y.asked := by
    intro y
    unfold logDeletion
    split
    · rfl
    · split
      · rfl
      · rfl
  rw [takeSnap, deleteSnap]
  cases c.delete t.2 with
  | ok u =>
    dsimp only
    rw [hlog, harchive]
  | error e =>
    dsimp only
    rw [harchive]

/-- A round that writes keeps the session working, and its row is the last one. -/
theorem db_takeSnap_of_written (hworks : x.db.works = true) (h : c.Written t) :
    (c.takeSnap x t).db.works = true ∧
      (c.takeSnap x t).db.rows = x.db.rows ++ [(t.2, c.row t.1)] ∧
      (c.takeSnap x t).db.flushed =
        if c.delete t.2 = .ok () then [] else x.db.flushed ++ [(t.2, c.row t.1)] := by
  have hflush : x.db.flush (t.2, c.row t.1) (c.flush t.2).isNone =
      ⟨x.db.stored, x.db.flushed ++ [(t.2, c.row t.1)], x.db.works⟩ := by
    rw [h.1]
    exact Session.flush_of_works hworks _
  rw [db_takeSnap, hflush]
  by_cases hdelete : c.delete t.2 = .ok ()
  · rw [if_pos hdelete, if_pos hdelete, h.2 hdelete, hworks, Session.commitOrRollback_of_works rfl]
    refine ⟨rfl, ?_, rfl⟩
    rw [Session.rows, List.append_nil, Session.rows, Session.rows, List.append_assoc]
  · rw [if_neg hdelete, if_neg hdelete]
    exact ⟨hworks, (List.append_assoc _ _ _).symm, rfl⟩

/-- A round that does not write adds no row. -/
theorem mem_rows_takeSnap_of_not (h : ¬(x.db.works = true ∧ c.Written t))
    {b : Nat × VMSnapshotArchive} (hb : b ∈ (c.takeSnap x t).db.rows) : b ∈ x.db.rows := by
  rw [db_takeSnap] at hb
  by_cases hflush : x.db.works = true ∧ c.flush t.2 = none
  · have hunlogged : c.delete t.2 = .ok () ∧ c.logs t.2 ≠ true := by
      by_contra hnot
      refine h ⟨hflush.1, hflush.2, fun hdelete => ?_⟩
      by_contra hlogs
      exact hnot ⟨hdelete, hlogs⟩
    rw [if_pos hunlogged.1, Session.rows_commitOrRollback_of_not fun hboth => hunlogged.2 hboth.2,
      Session.stored_flush] at hb
    exact List.mem_append_left _ hb
  · have hsent : b ∈ (x.db.flush (t.2, c.row t.1) (c.flush t.2).isNone).rows := by
      split at hb
      · exact Session.mem_rows_commitOrRollback hb
      · exact hb
    rcases Session.mem_rows_flush hsent with hold | ⟨-, hworks, hnone⟩
    · exact hold
    · exact absurd ⟨hworks, Option.isNone_iff_eq_none.mp hnone⟩ hflush

/-- A round adds no row but its own. -/
theorem mem_rows_takeSnap {b : Nat × VMSnapshotArchive} (hb : b ∈ (c.takeSnap x t).db.rows) :
    b ∈ x.db.rows ∨ b = (t.2, c.row t.1) := by
  rw [db_takeSnap] at hb
  have hflush : b ∈ (x.db.flush (t.2, c.row t.1) (c.flush t.2).isNone).rows := by
    split at hb
    · exact Session.mem_rows_commitOrRollback hb
    · exact hb
  rcases Session.mem_rows_flush hflush with hold | ⟨hnew, -, -⟩
  · exact .inl hold
  · exact .inr hnew

/-! ### The loop -/

/-- The loop takes the snapshots with a name. -/
theorem foldl_round (c : Cleanup) (x : Cleaning) (snaps : List (Snap × Nat)) :
    snaps.foldl c.round x =
      (snaps.filter fun t => (t.1.get "name").truthy).foldl c.takeSnap x := by
  rw [List.foldl_filter]
  rfl

theorem asked_foldl (c : Cleanup) (x : Cleaning) (ts : List (Snap × Nat)) :
    (ts.foldl c.takeSnap x).asked = x.asked ++ ts := by
  induction ts generalizing x with
  | nil => exact (List.append_nil _).symm
  | cons t ts ih =>
    rw [List.foldl_cons, ih, asked_takeSnap, List.append_assoc]
    rfl

/-- Where every round writes, every row is there, and the ones after the last log entry wait for
the last commit. -/
theorem db_foldl_of_written {ts : List (Snap × Nat)} (hworks : x.db.works = true)
    (h : ∀ t ∈ ts, c.Written t) :
    (ts.foldl c.takeSnap x).db.works = true ∧
      (ts.foldl c.takeSnap x).db.rows = x.db.rows ++ ts.map fun t => (t.2, c.row t.1) := by
  induction ts generalizing x with
  | nil => exact ⟨hworks, (List.append_nil _).symm⟩
  | cons t ts ih =>
    obtain ⟨hworks', hrows, -⟩ := db_takeSnap_of_written hworks (h t List.mem_cons_self)
    obtain ⟨hend, hall⟩ := ih hworks' fun u hu => h u (List.mem_cons_of_mem _ hu)
    refine ⟨hend, ?_⟩
    rw [List.foldl_cons, hall, hrows, List.append_assoc]
    rfl

/-- Rounds of other snapshots add no row for this one. -/
theorem not_mem_rows_foldl {ts : List (Snap × Nat)} {i : Nat} (hts : ∀ t ∈ ts, t.2 ≠ i)
    (h : ∀ b ∈ x.db.rows, b.1 ≠ i) : ∀ b ∈ (ts.foldl c.takeSnap x).db.rows, b.1 ≠ i := by
  induction ts generalizing x with
  | nil => exact h
  | cons t ts ih =>
    refine ih (fun u hu => hts u (List.mem_cons_of_mem _ hu)) fun b hb => ?_
    rcases mem_rows_takeSnap hb with hold | rfl
    · exact h b hold
    · exact hts t List.mem_cons_self

/-! ### The run -/

/-- Exactly the snapshots with a name are asked to be deleted. -/
theorem asked_archiveAndDeleteSnapshots (c : Cleanup) :
    c.archiveAndDeleteSnapshots.asked = c.named := by
  have hfinish : ∀ y : Cleaning, (c.finish y).asked = y.asked := by
    intro y
    unfold finish
    split
    · rfl
    · split
      · rfl
      · rfl
  unfold archiveAndDeleteSnapshots named
  cases c.realSnaps with
  | none => rfl
  | some snaps =>
    cases snaps with
    | nil => rfl
    | cons snap snaps =>
      dsimp only
      rw [hfinish, foldl_round, asked_foldl]
      rfl

/-- The loop is followed by the last commit. -/
theorem db_archiveAndDeleteSnapshots (h : c.named ≠ []) :
    c.archiveAndDeleteSnapshots.db =
      (c.named.foldl c.takeSnap c.start).db.commit c.commit.isNone := by
  have hfinish : ∀ y : Cleaning, (c.finish y).db = y.db.commit c.commit.isNone := by
    intro y
    unfold finish
    split
    · rfl
    · split
      · rfl
      · rfl
  unfold archiveAndDeleteSnapshots
  unfold named at h ⊢
  cases hsnaps : c.realSnaps with
  | none =>
    rw [hsnaps] at h
    exact absurd rfl h
  | some snaps =>
    cases snaps with
    | nil =>
      rw [hsnaps] at h
      exact absurd rfl h
    | cons snap snaps =>
      dsimp only
      rw [hfinish, foldl_round]
      rfl

/-- The places of the snapshots differ. -/
theorem ne_of_named {pre post : List (Snap × Nat)} (h : c.named = pre ++ t :: post) :
    (∀ u ∈ pre, u.2 ≠ t.2) ∧ ∀ u ∈ post, u.2 ≠ t.2 := by
  have hnd : (c.named.map Prod.snd).Nodup :=
    (List.nodup_zipIdx_map_snd _).sublist (List.filter_sublist.map _)
  rw [h, List.map_append, List.map_cons] at hnd
  obtain ⟨-, htail, happart⟩ := List.nodup_append.mp hnd
  refine ⟨fun u hu => ?_, fun u hu heq => ?_⟩
  · exact happart u.2 (List.mem_map.mpr ⟨u, hu, rfl⟩) t.2 List.mem_cons_self
  · exact (List.nodup_cons.mp htail).1 (List.mem_map.mpr ⟨u, hu, heq⟩)

/-- Before its own round a snapshot has no row. -/
theorem not_mem_rows_before {pre post : List (Snap × Nat)} (h : c.named = pre ++ t :: post) :
    ∀ b ∈ (pre.foldl c.takeSnap c.start).db.rows, b.1 ≠ t.2 :=
  not_mem_rows_foldl (ne_of_named h).1 fun _ hb => absurd hb List.not_mem_nil

/-- Where every row arrives, every round found a working session and wrote. -/
theorem written_of_archivesFirst (h : c.ArchivesFirst) {pre post : List (Snap × Nat)}
    (hnamed : c.named = pre ++ t :: post) :
    (pre.foldl c.takeSnap c.start).db.works = true ∧ c.Written t := by
  by_contra hnot
  have hmem : t ∈ c.named := hnamed ▸ List.mem_append_right _ List.mem_cons_self
  have hstored := h t (asked_archiveAndDeleteSnapshots c ▸ hmem)
  rw [db_archiveAndDeleteSnapshots (List.ne_nil_of_mem hmem)] at hstored
  have hrows := Session.mem_rows_commit (List.mem_append_left _ hstored)
  rw [hnamed, List.foldl_append, List.foldl_cons] at hrows
  refine not_mem_rows_foldl (ne_of_named hnamed).2 (fun b hb => ?_) _ hrows rfl
  exact not_mem_rows_before hnamed b (mem_rows_takeSnap_of_not hnot hb)

/-- Every snapshot that is deleted is in the archive exactly when everything is written. -/
theorem archivesFirst_iff_writesAll (c : Cleanup) : c.ArchivesFirst ↔ c.WritesAll := by
  by_cases hnone : c.named = []
  · refine iff_of_true (fun t ht => ?_) (.inl hnone)
    rw [asked_archiveAndDeleteSnapshots, hnone] at ht
    exact absurd ht List.not_mem_nil
  · obtain ⟨pre, last, hlast⟩ : ∃ pre last, c.named = pre ++ [last] :=
      ⟨_, _, (List.dropLast_append_getLast hnone).symm⟩
    have hgetLast : c.named.getLast? = some last := hlast ▸ List.getLast?_concat
    constructor
    · intro h
      have hwritten : ∀ t ∈ c.named, c.Written t := by
        intro t ht
        obtain ⟨pre, post, hsplit⟩ := List.append_of_mem ht
        exact (written_of_archivesFirst h hsplit).2
      have hworks : c.works = true := by
        obtain ⟨first, rest, hfirst⟩ := List.exists_cons_of_ne_nil hnone
        have hsplit : c.named = [] ++ first :: rest := hfirst
        exact (written_of_archivesFirst h hsplit).1
      refine .inr ⟨hworks, hwritten, ?_⟩
      by_contra hnot
      obtain ⟨hcommit, hdelete⟩ := not_or.mp hnot
      have hfails : c.commit.isNone ≠ true := fun hok => hcommit (Option.isNone_iff_eq_none.mp hok)
      have hkept : c.delete last.2 ≠ .ok () := fun hok => hdelete ⟨last, hgetLast, hok⟩
      have hmem : last ∈ c.named := List.mem_of_getLast? hgetLast
      have hstored := h last (asked_archiveAndDeleteSnapshots c ▸ hmem)
      rw [db_archiveAndDeleteSnapshots hnone, Session.stored_commit_of_not hfails, hlast,
        List.foldl_append, List.foldl_cons, List.foldl_nil, db_takeSnap, if_neg hkept,
        Session.stored_flush] at hstored
      exact not_mem_rows_before hlast _ (List.mem_append_left _ hstored) rfl
    · rintro (h | ⟨hworks, hwritten, hcommit⟩)
      · exact absurd h hnone
      · have hstart : c.start.db.works = true := hworks
        obtain ⟨hloop, hrows⟩ := db_foldl_of_written hstart hwritten
        have hstored : c.archiveAndDeleteSnapshots.db.stored =
            (c.named.foldl c.takeSnap c.start).db.rows := by
          rw [db_archiveAndDeleteSnapshots hnone]
          by_cases hok : c.commit.isNone = true
          · rw [hok, Session.commit_of_works hloop]
          · obtain ⟨t, ht, hdelete⟩ :=
              hcommit.resolve_left fun hno => hok (Option.isNone_iff_eq_none.mpr hno)
            cases hgetLast.symm.trans ht
            have hpre : ∀ t ∈ pre, c.Written t := fun t ht =>
              hwritten t (hlast ▸ List.mem_append_left _ ht)
            have hflushed := (db_takeSnap_of_written (db_foldl_of_written hstart hpre).1
              (hwritten last (List.mem_of_getLast? hgetLast))).2.2
            rw [if_pos hdelete] at hflushed
            rw [Session.stored_commit_of_not hok, hlast, List.foldl_append, List.foldl_cons,
              List.foldl_nil, Session.rows, hflushed, List.append_nil]
        intro t ht
        rw [asked_archiveAndDeleteSnapshots] at ht
        rw [hstored, hrows]
        exact List.mem_append_right _ (List.mem_map.mpr ⟨t, ht, rfl⟩)

/-- One snapshot, whose row the database refuses. -/
def lockedDatabase : Cleanup where
  serverId := 1
  serverName := "pve1"
  vmid := 100
  vmName := some "web"
  vmType := .qemu
  node := "pve1"
  deletedBy := "root"
  deletionReason := none
  listed := [.dict [("name", .text "before-update")]]
  works := true
  flush := fun _ => some "database is locked"
  delete := fun _ => .ok ()
  logs := fun _ => true
  rollback := fun _ => none
  commit := none

/-- The snapshot is deleted all the same. -/
theorem lockedDatabase_not_archivesFirst : ¬lockedDatabase.ArchivesFirst := by
  intro h
  have hasked : lockedDatabase.archiveAndDeleteSnapshots.asked =
      [([("name", .text "before-update")], 0)] := rfl
  have hstored : lockedDatabase.archiveAndDeleteSnapshots.db.stored = [] := rfl
  have hmem := h ([("name", .text "before-update")], 0) (hasked ▸ List.mem_singleton_self _)
  rw [hstored] at hmem
  exact absurd hmem List.not_mem_nil

end Cleanup

end PveManager.Snapshots
