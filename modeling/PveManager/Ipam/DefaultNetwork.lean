import PveManager.Ipam.Pools

/-!
# The default network of a workspace

A network marked as the default of its workspace takes the mark from the other networks there, when
it is created and on every update, so no workspace ever has two.
-/

namespace PveManager.Ipam

open PveManager.Core PveManager.Net PveManager.Rbac
open PveManager.Api (Exc)

/-- A network with its place among the workspaces. -/
structure WorkspaceNetwork extends IPAMNetwork where
  workspaceId : Option Nat
  isDefault : Bool
  deriving DecidableEq

/-- The identifier of a row. -/
def WorkspaceNetwork.key (n : WorkspaceNetwork) : Nat := n.id

structure WorkspaceNetworkCreate extends IPAMNetworkCreate where
  workspaceId : Option Nat
  isDefault : Bool

/-- The sent fields; a sent null is `some none`. -/
structure WorkspaceNetworkUpdate extends IPAMNetworkUpdate where
  workspaceId : Option (Option Nat)
  isDefault : Option (Option Bool)

/-- The row with the sent fields, unless a null goes to a column that has none. -/
def WorkspaceNetworkUpdate.apply (data : WorkspaceNetworkUpdate) (network : WorkspaceNetwork) :
    Option WorkspaceNetwork := do
  let row ← data.toIPAMNetworkUpdate.apply network.toIPAMNetwork
  let isDefault ← data.isDefault.getD (some network.isDefault)
  pure { row with
    workspaceId := data.workspaceId.getD network.workspaceId
    isDefault := isDefault }

/-- A call of `create_network`, `update_network` or `delete_network`. -/
inductive NetworkCall
  | create (data : WorkspaceNetworkCreate)
  | update (networkId : Nat) (data : WorkspaceNetworkUpdate)
  /-- `allocated` says how many allocations the network has. -/
  | delete (networkId : Nat) (force : Bool) (allocated : Nat)

structure NetworkRequest where
  user : User
  /-- The identifier the database gives to a new row. -/
  newId : Nat
  /-- Whether the database takes the commit; a workspace that does not exist is refused. -/
  commits : Bool
  call : NetworkCall

/-- The networks of all workspaces. -/
abbrev NetworkTable := KeyedTable WorkspaceNetwork.key

/-- A sibling without the mark. -/
def clearDefault (network n : WorkspaceNetwork) : WorkspaceNetwork :=
  if n.workspaceId = network.workspaceId ∧ n.id ≠ network.id ∧ n.isDefault = true then
    { n with isDefault := false }
  else n

theorem key_clearDefault (network n : WorkspaceNetwork) :
    (clearDefault network n).key = n.key := by
  unfold clearDefault
  split
  · rfl
  · rfl

/-- `_enforce_single_default`. -/
def enforceSingleDefault (t : NetworkTable) (network : WorkspaceNetwork) : NetworkTable :=
  if network.isDefault = false ∨ network.workspaceId = none then t
  else t.mapRows (clearDefault network) (key_clearDefault network)

section Calls

variable (t : NetworkTable) (newId : Nat) (commits : Bool)

/-- `create_network`; the row is written before the marks are cleared. -/
def createWorkspaceNetwork (data : WorkspaceNetworkCreate) : NetworkTable × Except Exc Unit :=
  if (IpNetwork.parse data.network).isNone ||
      data.gateway.any fun ip => (IpAddress.parse ip).isNone then
    (t, .error (.http 422 "Unprocessable Entity"))
  else if t.rows.any fun n => decide (n.network = data.network) then
    (t, .error (.http 400 s!"Network {data.network} already exists"))
  else
    let network : WorkspaceNetwork :=
      { id := newId
        name := data.name
        network := data.network
        gateway := data.gateway
        dnsDomain := data.dnsDomain
        isActive := data.isActive
        workspaceId := data.workspaceId
        isDefault := data.isDefault }
    if commits && (t.find? newId).isNone then
      (enforceSingleDefault (t.save network) network, .ok ())
    else (t, .error (.other "IntegrityError"))

/-- `update_network`; the marks are cleared before the row is written. -/
def updateWorkspaceNetwork (networkId : Nat) (data : WorkspaceNetworkUpdate) :
    NetworkTable × Except Exc Unit :=
  match t.find? networkId with
  | none => (t, .error (.http 404 "Network not found"))
  | some network =>
    match data.apply network with
    | none => (t, .error (.other "IntegrityError"))
    | some network' =>
      if commits then ((enforceSingleDefault t network').save network', .ok ())
      else (t, .error (.other "IntegrityError"))

/-- `delete_network`. -/
def deleteWorkspaceNetwork (networkId : Nat) (force : Bool) (allocated : Nat) :
    NetworkTable × Except Exc Unit :=
  match t.find? networkId with
  | none => (t, .error (.http 404 "Network not found"))
  | some _ =>
    if decide (0 < allocated) && !force then
      (t, .error (.http 400
        s!"Network has {allocated} allocations. Use force=true to delete anyway."))
    else if commits then (t.erase networkId, .ok ())
    else (t, .error (.other "IntegrityError"))

end Calls

/-- The networks after a request. -/
def networkStep (t : NetworkTable) (r : NetworkRequest) : NetworkTable :=
  if !hasPermission r.user "ipam:manage" then t
  else match r.call with
    | .create data => (createWorkspaceNetwork t r.newId r.commits data).1
    | .update networkId data => (updateWorkspaceNetwork t r.commits networkId data).1
    | .delete networkId force allocated =>
      (deleteWorkspaceNetwork t r.commits networkId force allocated).1

/-- No workspace has two default networks. -/
def OneDefault (t : NetworkTable) : Prop :=
  ∀ a ∈ t.rows, ∀ b ∈ t.rows, a.isDefault = true → b.isDefault = true →
    a.workspaceId.isSome = true → a.workspaceId = b.workspaceId → a = b

section OneDefault

variable {t t' : NetworkTable} {network : WorkspaceNetwork}

/-- A default network after the marks are cleared is the network itself, or was one before in
another place. -/
theorem of_mem_enforceSingleDefault {a : WorkspaceNetwork}
    (ha : a ∈ (enforceSingleDefault t network).rows) (hdefault : a.isDefault = true) :
    a ∈ t.rows ∧ (network.isDefault = true → network.workspaceId.isSome = true →
      a.workspaceId = network.workspaceId → a.id = network.id) := by
  unfold enforceSingleDefault at ha
  split at ha
  · rename_i hskip
    refine ⟨ha, fun hmarked hplaced => ?_⟩
    rcases hskip with hskip | hskip
    · rw [hmarked] at hskip
      cases hskip
    · rw [hskip] at hplaced
      cases hplaced
  · rw [KeyedTable.rows_mapRows] at ha
    obtain ⟨n, hn, rfl⟩ := List.mem_map.mp ha
    unfold clearDefault at hdefault ⊢
    split at hdefault
    · cases hdefault
    · rename_i hother
      rw [if_neg hother]
      refine ⟨hn, fun _ _ hplace => ?_⟩
      by_contra hid
      exact hother ⟨hplace, hid, hdefault⟩

/-- A stored network that has taken the mark from its siblings is the only default there. -/
theorem OneDefault.save (network : WorkspaceNetwork) (h : OneDefault t)
    (hrows : ∀ a ∈ t'.rows, a.isDefault = true → a = network ∨
      a ∈ t.rows ∧ (network.isDefault = true → network.workspaceId.isSome = true →
        a.workspaceId ≠ network.workspaceId)) : OneDefault t' := by
  intro a ha b hb hdefault hdefault' hplaced hsame
  rcases hrows a ha hdefault with rfl | ⟨hat, haway⟩
  · rcases hrows b hb hdefault' with rfl | ⟨-, haway⟩
    · rfl
    · exact absurd hsame.symm (haway hdefault hplaced)
  · rcases hrows b hb hdefault' with rfl | ⟨hbt, -⟩
    · exact absurd hsame (haway hdefault' (hsame ▸ hplaced))
    · exact h a hat b hbt hdefault hdefault' hplaced hsame

theorem OneDefault.save_enforce (h : OneDefault t) (network : WorkspaceNetwork) :
    OneDefault (enforceSingleDefault (t.save network) network) := by
  refine OneDefault.save network h fun a ha hdefault => ?_
  obtain ⟨hmem, hid⟩ := of_mem_enforceSingleDefault ha hdefault
  rcases (KeyedTable.mem_rows_save _ _ _).mp hmem with rfl | ⟨hold, hne⟩
  · exact Or.inl rfl
  · exact Or.inr ⟨hold, fun hmarked hplaced hplace => hne (hid hmarked hplaced hplace)⟩

theorem OneDefault.enforce_save (h : OneDefault t) (network : WorkspaceNetwork) :
    OneDefault ((enforceSingleDefault t network).save network) := by
  refine OneDefault.save network h fun a ha hdefault => ?_
  rcases (KeyedTable.mem_rows_save _ _ _).mp ha with rfl | ⟨hold, hne⟩
  · exact Or.inl rfl
  · obtain ⟨hmem, hid⟩ := of_mem_enforceSingleDefault hold hdefault
    exact Or.inr ⟨hmem, fun hmarked hplaced hplace => hne (hid hmarked hplaced hplace)⟩

theorem OneDefault.create (h : OneDefault t) (newId : Nat) (commits : Bool)
    (data : WorkspaceNetworkCreate) :
    OneDefault (createWorkspaceNetwork t newId commits data).1 := by
  unfold createWorkspaceNetwork
  split
  · exact h
  · split
    · exact h
    · dsimp only
      split
      · exact h.save_enforce _
      · exact h

theorem OneDefault.update (h : OneDefault t) (commits : Bool) (networkId : Nat)
    (data : WorkspaceNetworkUpdate) :
    OneDefault (updateWorkspaceNetwork t commits networkId data).1 := by
  unfold updateWorkspaceNetwork
  split
  · exact h
  · split
    · exact h
    · split
      · exact h.enforce_save _
      · exact h

theorem OneDefault.delete (h : OneDefault t) (commits : Bool) (networkId : Nat) (force : Bool)
    (allocated : Nat) :
    OneDefault (deleteWorkspaceNetwork t commits networkId force allocated).1 := by
  unfold deleteWorkspaceNetwork
  split
  · exact h
  · split
    · exact h
    · split
      · intro a ha b hb
        rw [KeyedTable.mem_rows_erase] at ha hb
        exact h a ha.1 b hb.1
      · exact h

theorem OneDefault.step (h : OneDefault t) (r : NetworkRequest) : OneDefault (networkStep t r) := by
  unfold networkStep
  split
  · exact h
  · cases r.call with
    | create data => exact h.create r.newId r.commits data
    | update networkId data => exact h.update r.commits networkId data
    | delete networkId force allocated => exact h.delete r.commits networkId force allocated

end OneDefault

/-- In every state no workspace has two default networks. -/
theorem oneDefault_of_requests (requests : List NetworkRequest) :
    ∀ t ∈ visited networkStep .empty requests, OneDefault t :=
  invariant_of_step (fun _ r h => h.step r) (fun _ h => absurd h List.not_mem_nil) requests

/-- A default network moves to the workspace of another one. -/
def moveCalls : List NetworkRequest :=
  let admin : User := ⟨1, "admin", true, none, []⟩
  [⟨admin, 1, true, .create ⟨⟨"office", "10.0.0.0/24", none, none, true⟩, some 1, true⟩⟩,
    ⟨admin, 2, true, .create ⟨⟨"lab", "10.0.1.0/24", none, none, true⟩, some 2, true⟩⟩,
    ⟨admin, 0, true, .update 2 ⟨⟨none, none, none, none⟩, some (some 1), none⟩⟩]

theorem oneDefault_of_moveCalls : OneDefault (moveCalls.foldl networkStep .empty) :=
  oneDefault_of_requests moveCalls _ (foldl_mem_visited _ _ _)

end PveManager.Ipam
