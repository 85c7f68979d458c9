import Mathlib.Data.Finset.Basic
import PveManager.Models.Account

/-!
# Visible servers

Workspaces group servers and have members. The set of servers a user may see
combines direct assignment, workspace membership and the `X-Active-Workspace`
header; no set at all means that nothing is hidden.
-/

namespace PveManager.Api

open PveManager.Core

/-- A named group of servers. -/
structure Workspace where
  id : Nat
  name : String
  color : Option String
  isDefault : Bool
  deriving DecidableEq, Repr

/-- The workspaces with their junction tables. -/
structure WorkspaceTables where
  workspaces : KeyedTable Workspace.id
  /-- `workspace_users`: workspace and user. -/
  users : List (Nat × UserId)
  /-- `workspace_servers`: workspace and server. -/
  servers : List (Nat × ServerId)

/-- The value of a decimal digit. -/
def digitValue (c : Char) : Option Nat :=
  if c.isDigit then some (c.toNat - '0'.toNat) else none

/-- Digits with single underscores between them; the flag says that a digit was just read. -/
def digitsValue : Nat → Bool → List Char → Option Nat
  | n, afterDigit, [] => if afterDigit then some n else none
  | n, afterDigit, c :: cs =>
    match digitValue c with
    | some d => digitsValue (10 * n + d) true cs
    | none => if c = '_' && afterDigit then digitsValue n false cs else none

/-- `int(raw)`, `none` where it raises `ValueError`; more than 4300 digits are refused. -/
def parseInt (raw : String) : Option Int :=
  let chars := stripChars raw.toList
  if 4300 < (chars.filter Char.isDigit).length then none
  else
    match chars with
    | '-' :: digits => (digitsValue 0 false digits).map fun n => -(n : Int)
    | '+' :: digits => (digitsValue 0 false digits).map Int.ofNat
    | digits => (digitsValue 0 false digits).map Int.ofNat

example : parseInt " -12_0 " = some (-120) := by decide

namespace WorkspaceTables

variable (ws : WorkspaceTables)

/-- The workspaces a user belongs to. -/
def ofUser (userId : UserId) : List Nat :=
  (ws.users.filter fun wu => decide (wu.2 = userId)).map Prod.fst

/-- The servers of some workspaces. -/
def serversOf (ids : List Nat) : List ServerId :=
  (ws.servers.filter fun row => decide (row.1 ∈ ids)).map Prod.snd

/-- The servers of the user's workspaces; a user of none falls back to the default one. -/
def union (user : User) : List ServerId :=
  match ws.ofUser user.id with
  | [] =>
    match ws.workspaces.rows.find? Workspace.isDefault with
    | some w => ws.serversOf [w.id]
    | none => []
  | ids => ws.serversOf ids

/-- The servers of one workspace, for its members and for administrators. -/
def narrowed (user : User) (workspaceId : Int) : List ServerId :=
  match ws.workspaces.rows.find? fun w => decide ((w.id : Int) = workspaceId) with
  | none => []
  | some w => if user.isAdmin || decide ((w.id, user.id) ∈ ws.users) then ws.serversOf [w.id] else []

/-- `get_workspace_server_ids`: the filter of the active workspace, `none` for no filter. -/
def getWorkspaceServerIds (user : User) (header : Option String) : Option (List ServerId) :=
  match header with
  | none => none
  | some raw =>
    match parseInt raw with
    | none => none
    | some workspaceId =>
      if workspaceId = 0 then
        if user.isAdmin then none else some (ws.union user)
      else some (ws.narrowed user workspaceId)

end WorkspaceTables

/-- The access part of `get_visible_server_ids` is skipped for these users. -/
def isPrivileged (user : User) : Bool :=
  user.isAdmin || user.role.any fun role => decide (role.name ∈ ["admin", "moderator"])

/-- `get_visible_server_ids`: `none` is everything, which an empty set is not. -/
def getVisibleServerIds (ws : WorkspaceTables) (user : User) (header : Option String) :
    Option (Finset ServerId) :=
  let wsFilter := (ws.getWorkspaceServerIds user header).map List.toFinset
  if isPrivileged user then wsFilter
  else
    let effective := user.assignedServers.toFinset ∪ (ws.serversOf (ws.ofUser user.id)).toFinset
    some ((wsFilter.map fun ids => effective ∩ ids).getD effective)

/-- Membership in a visible set. -/
def sees (visible : Option (Finset ServerId)) (serverId : ServerId) : Bool :=
  visible.all fun ids => decide (serverId ∈ ids)

end PveManager.Api
