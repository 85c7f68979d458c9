import PveManager.Apps.Calls

/-!
# Operations one after the other

A request on an app runs to its end, and then the job it hands over does. Beside
the row stands the container: whether what is in it has passed its last health
check, and the snapshots the node keeps of it.
-/

namespace PveManager.Apps

open PveManager.Core PveManager.Api

/-- A snapshot on the node. -/
structure Snapshot where
  /-- The status of the app when it was taken. -/
  status : AppStatus
  /-- What it holds had passed its last health check. -/
  works : Bool
  deriving DecidableEq, Repr

/-- An app with its container. -/
structure Plant where
  row : Option InstalledApp
  submitted : Option Job
  works : Bool
  snapshots : String → Option Snapshot

namespace Plant

/-- The container and its snapshots after a call that is answered. -/
def afterRemote (world : World) (s : Plant) : Remote → Plant
  | .createContainer _ _ _ => { s with works := false }
  | .deliver _ _ _ _ _ _ _ _ => { s with works := false }
  | .healthCheck ip port => { s with works := world.remote (.healthCheck ip port) }
  | .createSnapshot node vmid name =>
    match world.remote (.createSnapshot node vmid name), s.row with
    | .ok (), some ia =>
      { s with snapshots := Function.update s.snapshots name (some ⟨ia.status, s.works⟩) }
    | _, _ => s
  | .deleteSnapshot node vmid name =>
    match world.remote (.deleteSnapshot node vmid name) with
    | .ok _ => { s with snapshots := Function.update s.snapshots name none }
    | .error _ => s
  | .rollbackSnapshot node vmid name =>
    match world.remote (.rollbackSnapshot node vmid name) with
    | .ok _ => { s with works := (s.snapshots name).any Snapshot.works }
    | .error _ => s
  | _ => s

/-- The host of one app where the world answers. -/
def host (world : World) : Host engine Plant where
  answer := fun s c => world.answer s.row c
  next := fun s c =>
    match c with
    | .remote r => s.afterRemote world r
    | .submit job => { s with submitted := some job }
    | c => { s with row := c.effect s.row }

/-- How a job ended. -/
def ended : Except String OpStatus → OpStatus
  | .ok status => status
  | .error e => .failed e

/-- A job from its start to its end. -/
def work (world : World) (s : Plant) (job : Job) : Plant × OpStatus :=
  let (s, r) := (host world).exec s job.run
  (s, ended r)

/-- A request and its job; a request that is rejected has no outcome. -/
def operate (world : World) (s : Plant) (req : AppRequest) : Plant × Option OpStatus :=
  match (host world).exec { s with submitted := none } req.run with
  | (s, .error _) => (s, none)
  | (s, .ok ()) =>
    match s.submitted with
    | some job => ((work world s job).1, some (work world s job).2)
    | none => (s, some .completed)

/-- Calls to the node and the container leave the table and the pool alone. -/
theorem afterRemote_same (world : World) (s : Plant) (r : Remote) :
    (s.afterRemote world r).row = s.row ∧ (s.afterRemote world r).submitted = s.submitted := by
  unfold afterRemote
  split
  · exact ⟨rfl, rfl⟩
  · exact ⟨rfl, rfl⟩
  · exact ⟨rfl, rfl⟩
  · split <;> exact ⟨rfl, rfl⟩
  · split <;> exact ⟨rfl, rfl⟩
  · split <;> exact ⟨rfl, rfl⟩
  · exact ⟨rfl, rfl⟩

theorem row_afterRemote (world : World) (s : Plant) (r : Remote) :
    (s.afterRemote world r).row = s.row :=
  (afterRemote_same world s r).1

/-! ### One call after the other -/

section Calls

variable {world : World} {s : Plant} {α : Type} {post : Plant → Except String α → Prop}

/-- What holds at the end of a procedure that the world answers. -/
abbrev Ends (world : World) (post : Plant → Except String α → Prop) (s : Plant) (p : Op α) : Prop :=
  (host world).Meets (fun _ _ => True) post s p

theorem ends_load {k : Option InstalledApp → Op α} :
    Ends world post s (load >>= k) ↔ Ends world post s (k s.row) := by
  rw [Ends, load, Host.meets_ask_bind, and_iff_right trivial]
  rfl

theorem ends_reload {ia : InstalledApp} (hrow : s.row = some ia) {k : InstalledApp → Op α} :
    Ends world post s (reload >>= k) ↔ Ends world post s (k ia) := by
  change (host world).Meets _ post s ((load >>= _) >>= k) ↔ _
  rw [bind_assoc]
  refine ends_load.trans ?_
  rw [hrow]
  exact Iff.rfl

theorem ends_remote {r : Remote} {k : r.Answer → Op α} :
    Ends world post s (remote r >>= k) ↔
      Ends world post (s.afterRemote world r) (k (world.remote r)) := by
  rw [Ends, remote, Host.meets_ask_bind, and_iff_right trivial]
  rfl

theorem ends_orRaise {β : Type} {a : Except String β} {k : β → Op α} :
    Ends world post s (orRaise a >>= k) ↔ match a with
      | .ok a => Ends world post s (k a)
      | .error e => post s (.error e) := by
  cases a with
  | ok a => exact Iff.rfl
  | error e => exact Iff.rfl

theorem column_self {β : Type} [DecidableEq β] (old new : β) : column old new old = new := by
  unfold column
  split
  · rename_i heq
    exact heq.symm
  · rfl

/-- Over the row it was loaded from, an object is stored as it is. -/
theorem merge_self (old new : InstalledApp) : old.merge new old = new := by
  simp only [InstalledApp.merge, column_self]

theorem ends_save {old : InstalledApp} (hrow : s.row = some old) (new : InstalledApp)
    {k : Unit → Op α} :
    Ends world post s (save old new >>= k) ↔ Ends world post { s with row := some new } (k ()) := by
  unfold save
  split
  · rename_i heq
    rw [heq, ← hrow]
    exact Iff.rfl
  · have hnext : (host world).next s (.write (old.merge new)) = { s with row := some new } := by
      change ({ s with row := s.row.map (old.merge new) } : Plant) = _
      rw [hrow, Option.map_some, merge_self]
    have hanswer : (host world).answer s (.write (old.merge new)) = true := by
      change s.row.isSome = true
      rw [hrow]
      rfl
    rw [write, bind_assoc, Ends, Host.meets_ask_bind, and_iff_right trivial, hnext, hanswer]
    exact Iff.rfl

end Calls

end Plant

end PveManager.Apps
