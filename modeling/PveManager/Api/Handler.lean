import PveManager.Core.Proc
import PveManager.Rbac.Engine

/-!
# Request handlers

A handler reads the database, calls Proxmox through a client built from a stored
server, and answers or raises. A router says which requests its handlers send and
which other effects they have; the client's construction and connection check are
the same everywhere.
-/

namespace PveManager.Api

open PveManager.Core PveManager.Rbac

/-- A JSON value. -/
inductive Json
  | null
  | bool (b : Bool)
  | number (n : Int)
  | text (s : String)
  | list (items : List Json)
  | dict (fields : List (String × Json))

namespace Json

/-- Python's truth test. -/
def truthy : Json → Bool
  | .null => false
  | .bool b => b
  | .number n => decide (n ≠ 0)
  | .text s => decide (s ≠ "")
  | .list items => !items.isEmpty
  | .dict fields => !fields.isEmpty

/-- `data.get(key)` on a dictionary, `none` on anything else. -/
def get? : Json → String → Option Json
  | .dict fields, key => some ((fields.lookup key).getD .null)
  | _, _ => none

/-- `isinstance(data, dict) and data.get(key) == value`. -/
def fieldIs (data : Json) (key value : String) : Bool :=
  match data.get? key with
  | some (.text s) => decide (s = value)
  | _ => false

end Json

/-- A Python exception. -/
inductive Exc
  | http (status : Nat) (detail : String)
  | other (text : String)
  deriving DecidableEq, Repr

/-- `str(e)`. -/
def Exc.str : Exc → String
  | .http status detail => s!"{status}: {detail}"
  | .other text => text

/-- The requests and effects of a router's handlers. -/
structure Router where
  Op : Type
  OpAnswer : Op → Type
  Effect : Type
  EffectAnswer : Effect → Type

/-- What a handler does outside of itself. -/
inductive RouterCall (R : Router)
  /-- `client.is_connected()` of the client built from the stored server. -/
  | isConnected (server : ProxmoxServer)
  /-- A method of that client. -/
  | request (server : ProxmoxServer) (op : R.Op)
  | effect (e : R.Effect)

abbrev RouterCall.Answer {R : Router} : RouterCall R → Type
  | .isConnected _ => Bool
  | .request _ op => R.OpAnswer op
  | .effect e => R.EffectAnswer e

abbrev Router.interface (R : Router) : Interface := ⟨RouterCall R, RouterCall.Answer⟩

/-- A handler of a router. -/
abbrev Handler (R : Router) (α : Type) := Proc R.interface Exc α

section Common

variable {R : Router} {α : Type}

/-- Send one request. -/
def request (server : ProxmoxServer) (op : R.Op) : Handler R (R.OpAnswer op) :=
  Proc.ask (I := R.interface) (.request server op)

/-- Have one effect. -/
def effect (e : R.Effect) : Handler R (R.EffectAnswer e) :=
  Proc.ask (I := R.interface) (.effect e)

/-- A request whose method may raise. -/
def orRaise (p : Handler R (Except String α)) : Handler R α := do
  match ← p with
  | .ok a => pure a
  | .error e => throw (.other e)

/-- `PermissionChecker(permission)`. -/
def permissionChecker (user : User) (permission : String) : Handler R Unit :=
  Proc.ensure (hasPermission user permission) (.http 403 s!"Permission denied: {permission}")

/-- `_resolve_server`, also written out in most handlers. -/
def resolveServer (db : Db) (serverId : ServerId) (detail : String) : Handler R ProxmoxServer :=
  match db.servers.find? serverId with
  | none => throw (.http 404 detail)
  | some server => pure server

/-- The server has a password or a token to log in with. -/
def hasCredentials (server : ProxmoxServer) : Bool :=
  (server.usePassword && truthy server.password) ||
    (truthy server.apiTokenName && truthy server.apiTokenValue)

/-- `_get_proxmox_client`. -/
def getProxmoxClient (server : ProxmoxServer) : Handler R Unit :=
  Proc.ensure (hasCredentials server)
    (.http 503 (s!"Server '{server.name}' has no valid Proxmox credentials configured " ++
      "(API token or password). Edit the server settings."))

/-- `client.is_connected()`. -/
def isConnected (server : ProxmoxServer) : Handler R Bool :=
  Proc.ask (I := R.interface) (.isConnected server)

/-- `_get_client_or_503`. -/
def getClientOr503 (server : ProxmoxServer) (detail : String) : Handler R Unit := do
  getProxmoxClient server
  let connected ← isConnected server
  Proc.ensure connected (.http 503 detail)

/-- `except Exception as e: raise HTTPException(500, str(e))`. -/
def orServerError (p : Handler R α) : Handler R α :=
  tryCatch p fun e => throw (.http 500 e.str)

/-- The same after `except HTTPException: raise`. -/
def orServerErrorKeepHttp (p : Handler R α) : Handler R α :=
  tryCatch p fun
    | .http status detail => throw (.http status detail)
    | .other text => throw (.http 500 text)

end Common

/-! ## Running a handler -/

section Run

variable {R : Router} {α β : Type} (env : Environment R.interface) (h : List (RouterCall R))

@[simp] theorem run_request (server : ProxmoxServer) (op : R.Op) :
    (request server op : Handler R _).run env h =
      (h ++ [.request server op], .ok (env h (.request server op))) := rfl

@[simp] theorem run_effect (e : R.Effect) :
    (effect e : Handler R _).run env h = (h ++ [.effect e], .ok (env h (.effect e))) := rfl

/-- A handler wrapped for errors makes the same calls. -/
theorem run_orServerError (p : Handler R α) :
    (orServerError p).run env h =
      ((p.run env h).1, (p.run env h).2.mapError fun e => .http 500 e.str) := by
  unfold orServerError
  rw [Proc.run_tryCatch]
  cases hp : p.run env h with
  | mk h' r =>
    cases r with
    | ok a => rfl
    | error e => rfl

theorem run_orServerErrorKeepHttp (p : Handler R α) :
    (orServerErrorKeepHttp p).run env h =
      ((p.run env h).1, (p.run env h).2.mapError fun
        | .http status detail => .http status detail
        | .other text => .http 500 text) := by
  unfold orServerErrorKeepHttp
  rw [Proc.run_tryCatch]
  cases hp : p.run env h with
  | mk h' r =>
    cases r with
    | ok a => rfl
    | error e => cases e <;> rfl

end Run

end PveManager.Api
