import Mathlib.Data.List.DropRight
import PveManager.Core.Proc
import PveManager.Models.Records

/-!
# The script engine

`script_engine.execute` from the rendered script to its result: over SSH on the
host of the server's record, over SSH and `pct` in a container, or through the
guest agent of a machine. The file names are made from a reduced hash or the
guest's number and the second in which the execution makes them.
-/

namespace PveManager.Scripts

open PveManager.Core

/-- `ExecResult`. -/
structure ExecResult where
  success : Bool
  output : String
  exitCode : Int
  error : Option String
  deriving DecidableEq, Repr

/-- The dictionary the guest agent call answers with. -/
structure AgentResult where
  success : Bool
  stdout : String
  stderr : String
  exitCode : Int
  error : Option String
  deriving DecidableEq, Repr

/-- What an execution asks of the outside. -/
inductive ScriptCall
  /-- `ProxmoxClient.from_server`. -/
  | fromServer (server : ServerId)
  /-- `ssh.connect`. -/
  | connect (host : String)
  /-- `printf … | base64 -d > path`, made executable on request. -/
  | write (host path content : String) (executable : Bool)
  /-- `pct push`. -/
  | push (host : String) (vmid : Vmid) (src dst : String)
  /-- `env interpreter path` on the host. -/
  | execOnHost (host interpreter path : String) (timeout : Nat)
  /-- `pct exec … interpreter path`. -/
  | execInCt (host : String) (vmid : Vmid) (interpreter path : String) (timeout : Nat)
  /-- `rm -f path`. -/
  | removeOnHost (host path : String)
  /-- `pct exec … rm -f path`. -/
  | removeInCt (host : String) (vmid : Vmid) (path : String)
  /-- `agent.exec` with the script as input. -/
  | agentExec (server : ServerId) (node : String) (vmid : Vmid) (interpreter payload : String)
      (timeout : Nat)

/-- A command answers its output and exit code, `-1` for a timeout or a broken connection. -/
abbrev ScriptCall.Answer : ScriptCall → Type
  | .fromServer _ => Option String
  | .connect _ => Bool
  | .agentExec .. => AgentResult
  | .write .. | .push .. | .execOnHost .. | .execInCt .. | .removeOnHost .. | .removeInCt .. =>
    String × Int

abbrev ScriptIO : Interface := ⟨ScriptCall, ScriptCall.Answer⟩

/-- A step of an execution; the exception is `ScriptExecError`. -/
abbrev Script (α : Type) := Proc ScriptIO String α

/-- `_node_ssh`: the host of the connection, without its port. -/
def sshHost (s : ProxmoxServer) : String :=
  String.ofList ((if s.ipAddress ≠ "" then s.ipAddress else s.hostname).toList.takeWhile (· ≠ ':'))

/-- `(output or '').strip()[:2000]`. -/
def shortOutput (output : String) : String :=
  String.ofList (((output.toList.dropWhile Char.isWhitespace).rdropWhile Char.isWhitespace).take 2000)

/-- `_run`: a command that must succeed. -/
def runCommand (command : Script (String × Int)) (what : String) : Script String := do
  let (output, exitCode) ← command
  if exitCode = -1 then throw s!"{what}: таймаут (>60с) или обрыв SSH"
  else if exitCode ≠ 0 then throw s!"{what}: exit={exitCode}: {shortOutput output}"
  else pure output

/-- The name of a script file on a node. -/
def tmpName (tag second : Nat) : String := s!"/tmp/pve_script_{tag}_{second}"

/-- The name of a script file inside a container. -/
def tmpCt (vmid : Vmid) : String := s!"/tmp/pve_script_{vmid}.sh"

/-- `abs(hash(script)) % 100000`; Python's hash of a text differs between processes. -/
def scriptTag (hash : String → Int) (script : String) : Nat := (hash script).natAbs % 100000

def failed (error : String) : ExecResult := ⟨false, "", -1, some error⟩

/-- The handler of `ScriptExecError`. -/
def orFailed (p : Script ExecResult) : Script ExecResult :=
  tryCatch p fun e => pure (failed e)

/-- `run_on_node`. -/
def runOnNode (hash : String → Int) (server : ProxmoxServer) (script interpreter : String)
    (timeout second : Nat) : Script ExecResult := do
  let host := sshHost server
  let tmp := tmpName (scriptTag hash script) second
  let connected : Bool ← Proc.ask (I := ScriptIO) (.connect host)
  if connected then do
    let result ← orFailed do
      let _ ← runCommand (Proc.ask (I := ScriptIO) (.write host tmp script true))
        "write script on node"
      let (output, exitCode) ← Proc.ask (I := ScriptIO) (.execOnHost host interpreter tmp timeout)
      pure ⟨decide (exitCode = 0), output, exitCode, none⟩
    let _ ← Proc.ask (I := ScriptIO) (.removeOnHost host tmp)
    pure result
  else pure (failed s!"Не удалось подключиться по SSH к {server.name}")

/-- `run_on_lxc`. -/
def runOnLxc (server : ProxmoxServer) (vmid : Vmid) (script interpreter : String)
    (timeout second : Nat) : Script ExecResult := do
  let host := sshHost server
  let tmpNode := tmpName vmid second
  let connected : Bool ← Proc.ask (I := ScriptIO) (.connect host)
  if connected then do
    let result ← orFailed do
      let _ ← runCommand (Proc.ask (I := ScriptIO) (.write host tmpNode script false))
        "write script on node"
      let _ ← runCommand (Proc.ask (I := ScriptIO) (.push host vmid tmpNode (tmpCt vmid)))
        "pct push script"
      let (output, exitCode) ←
        Proc.ask (I := ScriptIO) (.execInCt host vmid interpreter (tmpCt vmid) timeout)
      pure ⟨decide (exitCode = 0), output, exitCode, none⟩
    let _ ← Proc.ask (I := ScriptIO) (.removeOnHost host tmpNode)
    let _ ← Proc.ask (I := ScriptIO) (.removeInCt host vmid (tmpCt vmid))
    pure result
  else pure (failed s!"Не удалось подключиться по SSH к {server.name}")

/-- `script_content.replace('\r\n', '\n').replace('\r', '\n')`. -/
def normalizeNewlines : List Char → List Char
  | '\r' :: '\n' :: rest => '\n' :: normalizeNewlines rest
  | '\r' :: rest => '\n' :: normalizeNewlines rest
  | c :: rest => c :: normalizeNewlines rest
  | [] => []

/-- `client.execute_script`: the script goes to the interpreter's input. -/
def executeScript (server : ServerId) (node : String) (vmid : Vmid) (script interpreter : String)
    (timeout : Nat) : Script AgentResult :=
  Proc.ask (I := ScriptIO) (.agentExec server node vmid interpreter
    (String.ofList (normalizeNewlines script.toList)) timeout)

/-- The texts Python's `or` falls back over. -/
def orElse (a b : Option String) : Option String := if truthy a then a else b

/-- `run_on_qemu`. -/
def runOnQemu (server : ServerId) (node : String) (vmid : Vmid) (script interpreter : String)
    (timeout : Nat) : Script ExecResult := do
  let result ← executeScript server node vmid script interpreter timeout
  if result.success then
    pure ⟨decide (result.exitCode = 0), result.stdout, result.exitCode,
      orElse (some result.stderr) none⟩
  else
    pure ⟨false, result.stdout, result.exitCode, orElse result.error (some result.stderr)⟩

/-- The arguments of an execution. -/
structure ExecuteArgs where
  server : ProxmoxServer
  targetType : String
  node : Option String
  vmid : Option Vmid
  vmType : Option String
  script : String
  interpreter : String
  timeout : Nat
  /-- `int(time.time())` where the file names are made. -/
  second : Nat

/-- Where an execution runs its script. -/
inductive Destination
  | host
  | container (vmid : Vmid)
  | machine (node : String) (vmid : Vmid)
  | nowhere (error : String)
  deriving DecidableEq, Repr

/-- The dispatch of `execute`. -/
def ExecuteArgs.destination (a : ExecuteArgs) : Destination :=
  if a.targetType = "node" then .host
  else if a.targetType = "guest" then
    match a.vmid, a.node with
    | some vmid, some node =>
      if node = "" then .nowhere "Для guest-скрипта нужны node и vmid"
      else if a.vmType = some "lxc" then .container vmid
      else .machine node vmid
    | _, _ => .nowhere "Для guest-скрипта нужны node и vmid"
  else .nowhere s!"Неизвестный target_type: {a.targetType}"

/-- What the dispatch takes from the arguments. -/
theorem ExecuteArgs.destination_container {a : ExecuteArgs} {vmid : Vmid}
    (h : a.destination = .container vmid) :
    a.vmid = some vmid := by
  unfold ExecuteArgs.destination at h
  split at h
  · exact absurd h (by simp)
  · split at h
    · split at h
      · split at h
        · exact absurd h (by simp)
        · split at h
          · simp_all
          · exact absurd h (by simp)
      · exact absurd h (by simp)
    · exact absurd h (by simp)

theorem ExecuteArgs.destination_machine {a : ExecuteArgs} {node : String} {vmid : Vmid}
    (h : a.destination = .machine node vmid) : a.node = some node ∧ a.vmid = some vmid := by
  unfold ExecuteArgs.destination at h
  split at h
  · exact absurd h (by simp)
  · split at h
    · split at h
      · split at h
        · exact absurd h (by simp)
        · split at h
          · exact absurd h (by simp)
          · simp_all
      · exact absurd h (by simp)
    · exact absurd h (by simp)

/-- `execute`. -/
def execute (hash : String → Int) (a : ExecuteArgs) : Script ExecResult := do
  let refused : Option String ← Proc.ask (I := ScriptIO) (.fromServer a.server.id)
  match refused with
  | some e => pure (failed s!"Не удалось создать Proxmox-клиент: {e}")
  | none =>
    match a.destination with
    | .host => runOnNode hash a.server a.script a.interpreter a.timeout a.second
    | .container vmid => runOnLxc a.server vmid a.script a.interpreter a.timeout a.second
    | .machine node vmid => runOnQemu a.server.id node vmid a.script a.interpreter a.timeout
    | .nowhere e => pure (failed e)

/-! ## The calls of an execution -/

private theorem only_runCommand {P : ScriptCall → Prop} {p : Script (String × Int)}
    (hp : p.Only P) (what : String) : (runCommand p what).Only P := by
  refine Proc.only_bind hp fun r => ?_
  obtain ⟨output, exitCode⟩ := r
  dsimp only
  split
  · trivial
  · split <;> trivial

private theorem only_orFailed {P : ScriptCall → Prop} {p : Script ExecResult} (hp : p.Only P) :
    (orFailed p).Only P :=
  Proc.only_tryCatch hp fun _ => trivial

/-- The calls of a node script. -/
theorem only_runOnNode {P : ScriptCall → Prop} {hash : String → Int} {server : ProxmoxServer}
    {script interpreter : String} {timeout second : Nat}
    (hconnect : P (.connect (sshHost server)))
    (hwrite : P (.write (sshHost server) (tmpName (scriptTag hash script) second) script true))
    (hexec : P (.execOnHost (sshHost server) interpreter
      (tmpName (scriptTag hash script) second) timeout))
    (hremove : P (.removeOnHost (sshHost server) (tmpName (scriptTag hash script) second))) :
    (runOnNode hash server script interpreter timeout second).Only P := by
  refine Proc.only_bind (Proc.only_ask hconnect) fun connected => ?_
  cases connected with
  | false => trivial
  | true =>
    refine Proc.only_bind (only_orFailed ?_) fun result => ?_
    · refine Proc.only_bind (only_runCommand (Proc.only_ask hwrite) _) fun _ => ?_
      exact Proc.only_bind (Proc.only_ask hexec) fun _ => trivial
    · exact Proc.only_bind (Proc.only_ask hremove) fun _ => trivial

/-- The calls of a container script. -/
theorem only_runOnLxc {P : ScriptCall → Prop} {server : ProxmoxServer} {vmid : Vmid}
    {script interpreter : String} {timeout second : Nat}
    (hconnect : P (.connect (sshHost server)))
    (hwrite : P (.write (sshHost server) (tmpName vmid second) script false))
    (hpush : P (.push (sshHost server) vmid (tmpName vmid second) (tmpCt vmid)))
    (hexec : P (.execInCt (sshHost server) vmid interpreter (tmpCt vmid) timeout))
    (hremove : P (.removeOnHost (sshHost server) (tmpName vmid second)))
    (hremoveCt : P (.removeInCt (sshHost server) vmid (tmpCt vmid))) :
    (runOnLxc server vmid script interpreter timeout second).Only P := by
  refine Proc.only_bind (Proc.only_ask hconnect) fun connected => ?_
  cases connected with
  | false => trivial
  | true =>
    refine Proc.only_bind (only_orFailed ?_) fun result => ?_
    · refine Proc.only_bind (only_runCommand (Proc.only_ask hwrite) _) fun _ => ?_
      refine Proc.only_bind (only_runCommand (Proc.only_ask hpush) _) fun _ => ?_
      exact Proc.only_bind (Proc.only_ask hexec) fun _ => trivial
    · refine Proc.only_bind (Proc.only_ask hremove) fun _ => ?_
      exact Proc.only_bind (Proc.only_ask hremoveCt) fun _ => trivial

/-- A handled part always continues. -/
theorem run_orFailed (env : Environment ScriptIO) (h : List ScriptCall) (p : Script ExecResult) :
    ∃ h' r, (orFailed p).run env h = (h', .ok r) := by
  unfold orFailed
  rw [Proc.run_tryCatch]
  cases hp : p.run env h with
  | mk h' x =>
    cases x with
    | ok r => exact ⟨h', r, rfl⟩
    | error e => exact ⟨h', failed e, rfl⟩

/-- A connected container script ends by removing its file in the container. -/
theorem removeInCt_mem_run {env : Environment ScriptIO} {h : List ScriptCall}
    {server : ProxmoxServer} (hconn : env h (.connect (sshHost server)) = true) (vmid : Vmid)
    (script interpreter : String) (timeout second : Nat) :
    ScriptCall.removeInCt (sshHost server) vmid (tmpCt vmid) ∈
      ((runOnLxc server vmid script interpreter timeout second).run env h).1 := by
  unfold runOnLxc
  dsimp only
  rw [Proc.run_ask_bind, if_pos hconn, Proc.run_bind]
  obtain ⟨h', r, hr⟩ := run_orFailed env (h ++ [.connect (sshHost server)]) (do
    let _ ← runCommand (Proc.ask (I := ScriptIO)
      (.write (sshHost server) (tmpName vmid second) script false)) "write script on node"
    let _ ← runCommand (Proc.ask (I := ScriptIO)
      (.push (sshHost server) vmid (tmpName vmid second) (tmpCt vmid))) "pct push script"
    let (output, exitCode) ← Proc.ask (I := ScriptIO)
      (.execInCt (sshHost server) vmid interpreter (tmpCt vmid) timeout)
    pure ⟨decide (exitCode = 0), output, exitCode, none⟩)
  rw [hr]
  exact List.mem_append_right _ (List.mem_singleton_self _)

/-- A container script that cannot connect makes no further call. -/
theorem run_runOnLxc_of_not_connected {env : Environment ScriptIO} {h : List ScriptCall}
    {server : ProxmoxServer} (hconn : env h (.connect (sshHost server)) = false) (vmid : Vmid)
    (script interpreter : String) (timeout second : Nat) :
    ((runOnLxc server vmid script interpreter timeout second).run env h).1 =
      h ++ [.connect (sshHost server)] := by
  unfold runOnLxc
  dsimp only
  rw [Proc.run_ask_bind, hconn]
  rfl

/-! ## File names and line ends -/

private theorem toDigits_inj {a b : Nat} (h : Nat.toDigits 10 a = Nat.toDigits 10 b) : a = b := by
  rw [← Nat.ofDigitChars_toDigits (b := 10) (n := a) (by decide) (by decide), h,
    Nat.ofDigitChars_toDigits (by decide) (by decide)]

/-- Two numbers between fixed texts can be read back. -/
private theorem numbers_inj {p : String} {a b c d : Nat}
    (h : p ++ a.repr ++ "_" ++ b.repr = p ++ c.repr ++ "_" ++ d.repr) : a = c ∧ b = d := by
  have hl := congrArg String.toList h
  have hu : "_".toList = ['_'] := rfl
  simp only [String.toList_append, List.append_assoc, hu, List.append_cancel_left_eq,
    List.singleton_append, Nat.toList_repr] at hl
  obtain ⟨h1, _, h2⟩ := (List.append_cons_inj_of_notMem Nat.underscore_not_in_toDigits
    Nat.underscore_not_in_toDigits).mp hl
  exact ⟨toDigits_inj h1, toDigits_inj h2⟩

/-- Node file names agree only where tag and second do. -/
theorem tmpName_inj {tag tag' second second' : Nat}
    (h : tmpName tag second = tmpName tag' second') : tag = tag' ∧ second = second' :=
  numbers_inj h

theorem not_mem_normalizeNewlines (l : List Char) : '\r' ∉ normalizeNewlines l := by
  fun_induction normalizeNewlines l with
  | case1 rest ih => simpa using ih
  | case2 rest _ ih => simpa using ih
  | case3 c rest _ hc ih =>
    intro hm
    rcases List.mem_cons.mp hm with rfl | hm
    · exact hc rfl
    · exact ih hm
  | case4 => simp

theorem normalizeNewlines_of_not_mem {l : List Char} (h : '\r' ∉ l) :
    normalizeNewlines l = l := by
  fun_induction normalizeNewlines l with
  | case1 rest ih => exact absurd List.mem_cons_self h
  | case2 rest _ ih => exact absurd List.mem_cons_self h
  | case3 c rest _ _ ih => rw [ih fun hm => h (List.mem_cons_of_mem _ hm)]
  | case4 => rfl

/-- The guest agent is given the script itself exactly when it has no carriage return. -/
theorem normalizeNewlines_eq_iff (script : String) :
    String.ofList (normalizeNewlines script.toList) = script ↔ '\r' ∉ script.toList := by
  constructor
  · intro h
    rw [← h, String.toList_ofList]
    exact not_mem_normalizeNewlines _
  · intro h
    rw [normalizeNewlines_of_not_mem h, String.ofList_toList]

end PveManager.Scripts
