import PveManager.Api.Visibility

/-!
# Server assignments

The screen marks the servers that share a workspace with the user. The endpoint refuses a list for a
server that shares none, but only where both the user and the server are in a workspace at all. So the
two agree when all the servers of a list and the user are, and when one of them is refused.
-/

namespace PveManager.Users

open PveManager.Core PveManager.Api

/-! ### Endpoints -/

/-- The tables that the endpoints work on. -/
structure AssignmentDb where
  users : KeyedTable User.id
  servers : KeyedTable ProxmoxServer.id
  workspaces : WorkspaceTables

/-- A workspace in an answer. -/
structure WorkspaceInfo where
  id : Nat
  name : String
  deriving DecidableEq

/-- `_get_server_workspace_info`. -/
def serverWorkspaceInfo (ws : WorkspaceTables) (serverId : ServerId) : List WorkspaceInfo :=
  (ws.servers.filter fun row => decide (row.2 = serverId)).filterMap fun row =>
    (ws.workspaces.find? row.1).map fun w => ⟨w.id, w.name⟩

/-- The workspaces of a server. -/
def serverWorkspaceIds (ws : WorkspaceTables) (serverId : ServerId) : List Nat :=
  (serverWorkspaceInfo ws serverId).map WorkspaceInfo.id

/-- The workspaces of the user in an answer. -/
def userWorkspaces (ws : WorkspaceTables) (ids : List Nat) : List WorkspaceInfo :=
  (ws.workspaces.rows.filter fun w => decide (w.id ∈ ids)).map fun w => ⟨w.id, w.name⟩

/-- One server of the screen. -/
structure ServerAssignment where
  id : ServerId
  name : String
  ipAddress : String
  isOnline : Option Bool
  lastErrorKind : Option String
  workspaces : List WorkspaceInfo
  compatible : Bool
  assigned : Bool

/-- A server that shares no workspace with the user. -/
structure Conflict where
  serverId : ServerId
  serverName : String
  serverWorkspaces : List WorkspaceInfo
  userWorkspaces : List WorkspaceInfo

/-- A refusal: 404, or 409 with the code `workspace_conflict`. -/
inductive AssignmentError
  | userNotFound
  | workspaceConflict (conflicts : List Conflict)

/-- The two sets have an element in common. -/
def overlap (xs ys : List Nat) : Bool := xs.any fun x => decide (x ∈ ys)

namespace AssignmentDb

variable (db : AssignmentDb)

/-- One server of the screen, for a user. -/
def assignment (user : User) (server : ProxmoxServer) : ServerAssignment :=
  let userIds := db.workspaces.ofUser user.id
  let serverIds := serverWorkspaceIds db.workspaces server.id
  { id := server.id
    name := server.name
    ipAddress := server.ipAddress
    isOnline := server.isOnline
    lastErrorKind := server.lastErrorKind
    workspaces := serverWorkspaceInfo db.workspaces server.id
    compatible :=
      if !userIds.isEmpty && !serverIds.isEmpty then overlap userIds serverIds else false
    assigned := decide (server.id ∈ user.assignedServers) }

/-- `get_user_server_assignments`: the servers, and the workspaces of the user. -/
def getUserServerAssignments (userId : UserId) :
    Except AssignmentError (List ServerAssignment × List WorkspaceInfo) :=
  match db.users.find? userId with
  | none => .error .userNotFound
  | some user =>
    .ok (db.servers.rows.map (db.assignment user),
      userWorkspaces db.workspaces (db.workspaces.ofUser user.id))

/-- The server conflicts with the user. -/
def conflicts (user : User) (server : ProxmoxServer) : Bool :=
  let userIds := db.workspaces.ofUser user.id
  let serverIds := serverWorkspaceIds db.workspaces server.id
  !userIds.isEmpty && !serverIds.isEmpty && !overlap userIds serverIds

/-- The servers of a list that there are. -/
def requested (serverIds : List ServerId) : List ProxmoxServer :=
  db.servers.rows.filter fun server => decide (server.id ∈ serverIds)

/-- `user.assigned_servers = servers`. -/
def assign (user : User) (serverIds : List ServerId) : AssignmentDb :=
  { db with users := db.users.save { user with assignedServers := serverIds } }

/-- `set_user_servers`: the new tables, and the ids in the answer. -/
def setUserServers (userId : UserId) (serverIds : List ServerId) :
    Except AssignmentError (AssignmentDb × List ServerId) :=
  match db.users.find? userId with
  | none => .error .userNotFound
  | some user =>
    if serverIds.isEmpty then .ok (db.assign user [], [])
    else
      let servers := db.requested serverIds
      let bad := servers.filter (db.conflicts user)
      if bad.isEmpty then
        .ok (db.assign user (servers.map ProxmoxServer.id), servers.map ProxmoxServer.id)
      else
        .error (.workspaceConflict (bad.map fun server =>
          { serverId := server.id
            serverName := server.name
            serverWorkspaces := serverWorkspaceInfo db.workspaces server.id
            userWorkspaces := userWorkspaces db.workspaces (db.workspaces.ofUser user.id) }))

/-- The endpoint takes the list. -/
def Accepts (userId : UserId) (serverIds : List ServerId) : Prop :=
  ∃ answer, db.setUserServers userId serverIds = .ok answer

/-- The screen marks the server as compatible. -/
def Marks (userId : UserId) (serverId : ServerId) : Prop :=
  ∃ screen, db.getUserServerAssignments userId = .ok screen ∧
    ∃ a ∈ screen.1, a.id = serverId ∧ a.compatible = true

/-- The server is there and in a workspace, and so is the user. -/
def Placed (userId : UserId) (serverId : ServerId) : Prop :=
  (∃ server ∈ db.servers.rows, server.id = serverId) ∧ db.workspaces.ofUser userId ≠ [] ∧
    serverWorkspaceIds db.workspaces serverId ≠ []

/-- The server is placed, and shares no workspace with the user. -/
def Apart (userId : UserId) (serverId : ServerId) : Prop :=
  db.Placed userId serverId ∧
    ∀ w ∈ db.workspaces.ofUser userId, w ∉ serverWorkspaceIds db.workspaces serverId

end AssignmentDb

/-! ### Agreement -/

section Agreement

variable {db : AssignmentDb} {userId : UserId} {user : User}

theorem overlap_iff {xs ys : List Nat} : overlap xs ys = true ↔ ∃ x ∈ xs, x ∈ ys := by
  unfold overlap
  rw [List.any_eq_true]
  simp

theorem compatible_iff {server : ProxmoxServer} : (db.assignment user server).compatible = true ↔
    ∃ w ∈ db.workspaces.ofUser user.id, w ∈ serverWorkspaceIds db.workspaces server.id := by
  rw [← overlap_iff]
  change (if _ then _ else _) = true ↔ _
  split
  · rfl
  · rename_i hempty
    refine iff_of_false Bool.false_ne_true fun hshared => hempty ?_
    obtain ⟨w, hu, hs⟩ := overlap_iff.mp hshared
    rw [Bool.and_eq_true, Bool.not_eq_true', Bool.not_eq_true', List.isEmpty_eq_false_iff,
      List.isEmpty_eq_false_iff]
    exact ⟨List.ne_nil_of_mem hu, List.ne_nil_of_mem hs⟩

theorem conflicts_iff {server : ProxmoxServer} (h : server ∈ db.servers.rows) :
    db.conflicts user server = true ↔ db.Apart user.id server.id := by
  unfold AssignmentDb.conflicts AssignmentDb.Apart AssignmentDb.Placed
  rw [Bool.and_eq_true, Bool.and_eq_true, Bool.not_eq_true', Bool.not_eq_true', Bool.not_eq_true',
    List.isEmpty_eq_false_iff, List.isEmpty_eq_false_iff, ← Bool.not_eq_true, overlap_iff, not_exists]
  constructor
  · rintro ⟨⟨hu, hs⟩, hnone⟩
    exact ⟨⟨⟨server, h, rfl⟩, hu, hs⟩, fun w hw hshared => hnone w ⟨hw, hshared⟩⟩
  · rintro ⟨⟨_, hu, hs⟩, hnone⟩
    exact ⟨⟨hu, hs⟩, fun w ⟨hw, hshared⟩ => hnone w hw hshared⟩

variable (hfound : db.users.find? userId = some user)

include hfound

/-- A list is taken when none of its servers is apart from the user. -/
theorem accepts_iff {serverIds : List ServerId} :
    db.Accepts userId serverIds ↔ ∀ id ∈ serverIds, ¬db.Apart userId id := by
  have hid := db.users.key_of_find? hfound
  have hbad : (db.requested serverIds).filter (db.conflicts user) = [] ↔
      ∀ id ∈ serverIds, ¬db.Apart userId id := by
    rw [List.filter_eq_nil_iff]
    constructor
    · intro h id hmem hapart
      obtain ⟨server, hserver, rfl⟩ := hapart.1.1
      refine h server (List.mem_filter.mpr ⟨hserver, decide_eq_true hmem⟩) ?_
      exact (conflicts_iff hserver).mpr (hid ▸ hapart)
    · intro h server hserver hconflict
      obtain ⟨hrow, hmem⟩ := List.mem_filter.mp hserver
      exact h server.id (of_decide_eq_true hmem) (hid ▸ (conflicts_iff hrow).mp hconflict)
  unfold AssignmentDb.Accepts AssignmentDb.setUserServers
  rw [hfound]
  dsimp only
  cases serverIds with
  | nil => exact iff_of_true ⟨_, rfl⟩ fun _ h => absurd h List.not_mem_nil
  | cons first rest =>
    rw [← hbad]
    by_cases hempty : ((db.requested (first :: rest)).filter (db.conflicts user)).isEmpty = true
    · exact iff_of_true ⟨_, if_pos hempty⟩ (List.isEmpty_iff.mp hempty)
    · refine iff_of_false ?_ fun hnil => hempty (List.isEmpty_iff.mpr hnil)
      rintro ⟨answer, h⟩
      change (if _ then _ else _) = _ at h
      rw [if_neg hempty] at h
      cases h

/-- A server is marked when it shares a workspace with the user. -/
theorem marks_iff {serverId : ServerId} : db.Marks userId serverId ↔
    db.Placed userId serverId ∧ ¬db.Apart userId serverId := by
  have hid := db.users.key_of_find? hfound
  unfold AssignmentDb.Marks AssignmentDb.getUserServerAssignments
  rw [hfound]
  constructor
  · rintro ⟨screen, hscreen, a, ha, rfl, hcompatible⟩
    cases hscreen
    obtain ⟨server, hserver, rfl⟩ := List.mem_map.mp ha
    obtain ⟨w, hu, hs⟩ := compatible_iff.mp hcompatible
    rw [hid] at hu
    exact ⟨⟨⟨server, hserver, rfl⟩, List.ne_nil_of_mem hu, List.ne_nil_of_mem hs⟩,
      fun hapart => hapart.2 w hu hs⟩
  · rintro ⟨hplaced, hshared⟩
    obtain ⟨server, hserver, rfl⟩ := hplaced.1
    refine ⟨_, rfl, _, List.mem_map.mpr ⟨server, hserver, rfl⟩, rfl, compatible_iff.mpr ?_⟩
    by_contra hnone
    refine hshared ⟨hplaced, fun w hw hs => hnone ⟨w, ?_, hs⟩⟩
    rw [hid]
    exact hw

/-- The endpoint and the screen agree exactly when a server of the list is apart from the user, or all
of them are placed. -/
theorem accepts_iff_marks_iff (serverIds : List ServerId) :
    (db.Accepts userId serverIds ↔ ∀ id ∈ serverIds, db.Marks userId id) ↔
      (∃ id ∈ serverIds, db.Apart userId id) ∨ ∀ id ∈ serverIds, db.Placed userId id := by
  have hmarks : ∀ id, db.Marks userId id ↔ db.Placed userId id ∧ ¬db.Apart userId id :=
    fun _ => marks_iff hfound
  rw [accepts_iff hfound]
  constructor
  · intro h
    by_cases hapart : ∃ id ∈ serverIds, db.Apart userId id
    · exact Or.inl hapart
    · refine Or.inr fun id hmem => ((hmarks id).mp ?_).1
      exact h.mp (fun id hmem hbad => hapart ⟨id, hmem, hbad⟩) id hmem
  · rintro (⟨id, hmem, hapart⟩ | hplaced)
    · exact iff_of_false (fun h => h id hmem hapart)
        fun h => ((hmarks id).mp (h id hmem)).2 hapart
    · exact ⟨fun h id hmem => (hmarks id).mpr ⟨hplaced id hmem, h id hmem⟩,
        fun h id hmem => ((hmarks id).mp (h id hmem)).2⟩

end Agreement

/-! ### Outside of the workspaces -/

/-- A server of no workspace. -/
def spareServer : ProxmoxServer :=
  ⟨1, "spare", "spare", "10.0.0.9", 8006, "root@pam", none, none, false, none, false, none, none, none,
    none, none, none⟩

/-- The tables before the first workspace. -/
def noWorkspaces : AssignmentDb where
  users := KeyedTable.empty.save ⟨5, "ann", false, none, []⟩
  servers := KeyedTable.empty.save spareServer
  workspaces := ⟨.empty, [], []⟩

theorem accepts_iff_marks_iff_spare :
    (noWorkspaces.Accepts 5 [1] ↔ ∀ id ∈ [1], noWorkspaces.Marks 5 id) ↔
      (∃ id ∈ [1], noWorkspaces.Apart 5 id) ∨ ∀ id ∈ [1], noWorkspaces.Placed 5 id :=
  accepts_iff_marks_iff (by rfl : noWorkspaces.users.find? 5 = some ⟨5, "ann", false, none, []⟩) [1]

/-- The endpoint assigns the server, and the screen does not mark it. -/
theorem spare_disagrees : noWorkspaces.users.find? 5 = some ⟨5, "ann", false, none, []⟩ ∧
    noWorkspaces.Accepts 5 [1] ∧ ¬noWorkspaces.Marks 5 1 := by
  refine ⟨rfl, ⟨_, rfl⟩, ?_⟩
  rintro ⟨screen, hscreen, a, ha, _, hcompatible⟩
  cases hscreen
  obtain ⟨server, hserver, rfl⟩ := List.mem_map.mp ha
  obtain ⟨w, hu, _⟩ := compatible_iff.mp hcompatible
  exact List.not_mem_nil hu

end PveManager.Users
