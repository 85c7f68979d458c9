import PveManager.Api.Handler
import PveManager.Api.Visibility

/-!
# The reinstallation worker

`_do_reinstall_sync` destroys a guest and creates it again under its number. It
is a procedure whose calls read the tables, ask Proxmox and report on the task;
it writes no row and no address itself. The two waits for Proxmox are polls whose
result is dropped, and so is the result of the wait for the new guest.
-/

namespace PveManager.Reinstall

open PveManager.Core PveManager.Api

/-- A row of `os_templates`. -/
structure TemplateRow where
  id : Nat
  name : String
  vmid : Option Vmid
  node : Option String
  sourceNode : Option String
  replicatedNodes : List (String × Vmid)

/-- `get_source_node`. -/
def TemplateRow.getSourceNode (t : TemplateRow) : Option String :=
  if truthy t.sourceNode then t.sourceNode else t.node

/-- `get_vmid_for_node`. -/
def TemplateRow.getVmidForNode (t : TemplateRow) (node : String) : Option Vmid :=
  if t.getSourceNode = some node then t.vmid else t.replicatedNodes.lookup node

/-- What the guest is created from. -/
inductive Source
  /-- A clone of a template, on the node that holds it. -/
  | clone (template : TemplateRow) (node : String) (vmid : Option Vmid)
  /-- A container from a template archive. -/
  | archive (volid : String)
  /-- A blank machine for an installation image. -/
  | iso (volid : String)

/-- The creation that is sent to Proxmox. Storage, disk, network and the like are read from the
configuration of the old guest. -/
inductive Creation
  | clone (node : String) (vmid : Option Vmid) (name : String) (description : Option String)
  | container (volid hostname : String) (cores memory : Nat) (password sshKeys : Option String)
      (description : String) (previous : Json)
  | machine (volid name : String) (cores memory : Nat) (description : String) (previous : Json)

/-- What the worker does outside of itself. -/
inductive ReinstallCall
  /-- `_update_deploy_task`. -/
  | updateTask (status step : String) (progress : Nat) (error : Option String)
  /-- The row of the server. -/
  | server
  /-- The live row of the guest. -/
  | instanceRow
  | template (id : Nat)
  /-- `_connect`. -/
  | connect (server : ProxmoxServer)
  | config (ty : VmType)
  | stop (ty : VmType)
  | status (ty : VmType)
  /-- Start the destruction. -/
  | delete (ty : VmType)
  /-- Start the creation; the answer is the id of its task. -/
  | create (ty : VmType) (creation : Creation)
  | waitForTask (node upid : String) (timeout : Nat)
  | updateConfig (ty : VmType) (cores memory : Option Nat)
  | resizeDisk (ty : VmType) (disk size : String)
  | start (ty : VmType)
  /-- `LoggingService.log_proxmox_action`. -/
  | logAction (success : Bool) (error : Option String)

/-- The type of an answer; what may raise answers with the text instead. -/
abbrev ReinstallCall.Answer : ReinstallCall → Type
  | .updateTask .. | .logAction .. => Unit
  | .server => Option ProxmoxServer
  | .instanceRow => Option VMInstance
  | .template _ => Option TemplateRow
  | .connect _ => Except String Bool
  | .config _ | .status _ => Except String Json
  | .create .. => Except String (Option String)
  | .waitForTask .. => Except String Bool
  | .stop _ | .delete _ | .updateConfig .. | .resizeDisk .. | .start _ => Except String Unit

abbrev ReinstallIO : Interface := ⟨ReinstallCall, ReinstallCall.Answer⟩

/-- How the body is left early. -/
inductive Halt
  | returned
  | raised (text : String)

/-- The worker's procedures. -/
abbrev Work (α : Type) := Proc ReinstallIO Halt α

/-! ### Steps -/

section Steps

variable {α : Type}

def ask (c : ReinstallCall) : Work c.Answer := Proc.ask (I := ReinstallIO) c

/-- A call that may raise. -/
def attempt (p : Work (Except String α)) : Work α := do
  match ← p with
  | .ok a => pure a
  | .error text => throw (.raised text)

/-- `try … except Exception` around a step whose result is not used. -/
def swallow (p : Work α) : Work Unit :=
  tryCatch (do let _ ← p; pure ()) fun _ => pure ()

def running (step : String) (progress : Nat) : Work Unit :=
  ask (.updateTask "running" step progress none)

/-- Record the failure and return. -/
def fail (step : String) (progress : Nat) (error : String) : Work α := do
  ask (.updateTask "failed" step progress (some error))
  throw .returned

/-- A row that has to be there. -/
def found (o : Option α) (step error : String) : Work α :=
  match o with
  | some a => pure a
  | none => fail step 0 error

/-- An answer whose error ends the worker. -/
def orFail (answer : Except String α) (step : String) (progress : Nat) (error : String → String) :
    Work α :=
  match answer with
  | .ok a => pure a
  | .error text => fail step progress (error text)

/-- The source the guest is created from again. -/
def reinstallSource (node : String) (cached : VMInstance) : Work Source :=
  match cached.templateId.filter fun id => decide (id ≠ 0) with
  | some id => do
    let row ← ask (.template id)
    let template ← found (row.filter fun t => t.vmid.any fun v => decide (v ≠ 0))
      "Шаблон не найден" "Шаблон не найден или некорректен"
    match (template.getVmidForNode node).filter fun v => decide (v ≠ 0) with
    | some vmid => pure (.clone template node (some vmid))
    | none => pure (.clone template ((template.getSourceNode.or template.node).getD node) template.vmid)
  | none =>
    match cached.templateName.filter fun name => decide (':' ∈ name.toList) with
    | some volid =>
      match cached.vmType with
      | .lxc => pure (.archive volid)
      | .qemu => pure (.iso volid)
    | none => fail "Шаблон не привязан" 0 "У инстанса не сохранён шаблон, переустановка недоступна"

/-- Poll up to `n` times until the guest is not running any more. -/
def waitStopped (ty : VmType) : Nat → Work Unit
  | 0 => pure ()
  | n + 1 => do
    match ← ask (.status ty) with
    | .ok status => if status.fieldIs "status" "running" then waitStopped ty n else pure ()
    | .error _ => pure ()

/-- Poll up to `n` times until Proxmox has no status of the guest. -/
def waitGone (ty : VmType) : Nat → Work Unit
  | 0 => pure ()
  | n + 1 => do
    let status ← attempt (ask (.status ty))
    if status.truthy then waitGone ty n else pure ()

/-- `value or default` on a number. -/
def orDefault (value : Option Nat) (default : Nat) : Nat :=
  match value with
  | none | some 0 => default
  | some n => n

/-- The creation for a source. -/
def creationOf (cached : VMInstance) (previous : Json) : Source → Creation
  | .clone _ node vmid => .clone node vmid cached.name cached.description
  | .archive volid =>
    .container volid cached.name (orDefault cached.cores 1) (orDefault cached.memory 512)
      cached.cloudInitPassword cached.sshKeys
      (if truthy cached.description then cached.description.getD "" else s!"Reinstalled from {volid}")
      previous
  | .iso volid =>
    .machine volid cached.name (orDefault cached.cores 2) (orDefault cached.memory 2048)
      (if truthy cached.description then cached.description.getD "" else s!"Reinstalled from {volid}")
      previous

/-- The texts of a failed creation: the step, the error's prefix and the missing task. -/
def creationTexts : Source → String × String × String
  | .clone .. => ("Ошибка клонирования", "Clone failed: ",
      "Proxmox не вернул UPID задачи клонирования")
  | .archive _ => ("Ошибка создания контейнера", "Create failed: ",
      "Proxmox не вернул UPID задачи создания контейнера")
  | .iso _ => ("Ошибка создания ВМ", "Create failed: ",
      "Proxmox не вернул UPID задачи создания ВМ")

/-- `volid.split('/')[-1]`. -/
def volumeName (volid : String) : String := ((volid.splitOn "/").getLast?).getD ""

/-- The announcement of a creation, and of the wait for it. -/
def creationSteps : Source → String × String
  | .clone template _ _ => (s!"Клонирование из шаблона {template.name}...",
      "Ожидание завершения клонирования...")
  | .archive volid =>
    (s!"Создание контейнера из шаблона {volumeName volid}...",
      "Ожидание завершения создания...")
  | .iso volid =>
    (s!"Создание ВМ для установки с {volumeName volid}...",
      "Ожидание завершения создания...")

/-- Where and how long the task of a creation is waited for. -/
def creationWait (node : String) : Source → String × Nat
  | .clone _ source _ => (source, 600)
  | .archive _ => (node, 600)
  | .iso _ => (node, 300)

/-- Create the guest again and wait, for better or worse. -/
def recreate (node : String) (cached : VMInstance) (previous : Json) (source : Source) :
    Work Unit := do
  let texts := creationTexts source
  running (creationSteps source).1 50
  let answer ← ask (.create cached.vmType (creationOf cached previous source))
  let upid ← orFail answer texts.1 50 fun e => texts.2.1 ++ e
  match upid.filter fun u => decide (u ≠ "") with
  | none => fail texts.1 50 texts.2.2
  | some upid => do
    running (creationSteps source).2 75
    swallow (attempt (ask (.waitForTask (creationWait node source).1 upid (creationWait node source).2)))

/-- The numbers of the row that Proxmox takes: absent and zero are left out. -/
def positive (value : Option Nat) : Option Nat := value.filter fun n => decide (n ≠ 0)

def reapplyConfig (cached : VMInstance) : Work Unit :=
  if positive cached.cores = none ∧ positive cached.memory = none then pure ()
  else swallow (attempt (ask (.updateConfig cached.vmType (positive cached.cores)
    (positive cached.memory))))

/-- The characters after a pattern, where it occurs. -/
def after (pattern : List Char) : List Char → Option (List Char)
  | [] => if pattern = [] then some [] else none
  | c :: cs =>
    if pattern <+: c :: cs then some ((c :: cs).drop pattern.length) else after pattern cs

/-- The size a disk entry states, in gigabytes; without one it counts as zero. -/
def currentSizeGb (value : String) : Except String Nat :=
  match after "size=".toList value.toList with
  | none => .ok 0
  | some rest =>
    let part := rest.takeWhile fun c => decide (c ≠ ',')
    let number := parseInt (String.ofList part.dropLast)
    if part.getLast? = some 'G' then
      number.elim (.error "invalid literal for int()") fun n => .ok n.toNat
    else if part.getLast? = some 'M' then
      number.elim (.error "invalid literal for int()") fun n => .ok (n.toNat / 1024)
    else .ok 0

/-- The entry is a drive for media and not the disk. -/
def isMedia (value : String) : Bool :=
  let lower := value.toLower.toList
  decide ("cdrom".toList <:+: lower ∨ "cloudinit".toList <:+: lower)

/-- The disk that is resized, with the text of its entry. -/
def mainDisk (ty : VmType) (config : Json) : Option (String × Option String) :=
  let entry := fun key => (config.get? key).bind fun
    | .text s => some s
    | _ => none
  match ty with
  | .lxc => some ("rootfs", entry "rootfs")
  | .qemu =>
    (["scsi0", "virtio0", "sata0", "scsi1", "virtio1"].find? fun key =>
      (entry key).any fun value => !isMedia value).map fun key => (key, entry key)

/-- Grow the disk to the recorded size. -/
def restoreDiskSize (cached : VMInstance) : Work Unit :=
  match positive cached.diskSize with
  | none => pure ()
  | some wanted => do
    running "Восстановление размера диска..." 92
    swallow do
      let config ← attempt (ask (.config cached.vmType))
      match mainDisk cached.vmType config with
      | none => pure ()
      | some (disk, value) => do
        let current ← attempt (pure (value.elim (.ok 0) currentSizeGb))
        if current < wanted then
          attempt (ask (.resizeDisk cached.vmType disk s!"{wanted}G"))

/-- `_do_reinstall_sync` on a node. -/
def doReinstall (node : String) : Work Unit :=
  tryCatch (do
    running "Подготовка..." 5
    let server ← found (← ask .server) "Сервер не найден" "Proxmox сервер не найден"
    let cached ← found (← ask .instanceRow) "VM не найдена" "Запись об инстансе не найдена"
    let source ← reinstallSource node cached
    running "Подключение к Proxmox..." 10
    let connected ← attempt (ask (.connect server))
    if connected = false then
      (fail "Ошибка подключения к Proxmox" 10 "Не удалось подключиться к Proxmox серверу" : Work Unit)
    let previous ← ask (.config cached.vmType)
    running "Остановка инстанса..." 20
    swallow (attempt (ask (.stop cached.vmType)))
    waitStopped cached.vmType 20
    running "Удаление старого инстанса..." 35
    let deleted ← ask (.delete cached.vmType)
    orFail deleted "Ошибка удаления" 35 fun e => s!"Не удалось удалить инстанс: {e}"
    waitGone cached.vmType 30
    recreate node cached (previous.toOption.getD .null) source
    running "Применение конфигурации..." 90
    reapplyConfig cached
    restoreDiskSize cached
    running "Запуск инстанса..." 96
    swallow (attempt (ask (.start cached.vmType)))
    ask (.logAction true none)
    ask (.updateTask "completed" "Переустановка завершена" 100 none)) fun
    | .returned => pure ()
    | .raised text => do
      ask (.logAction false (some text))
      ask (.updateTask "failed" s!"Ошибка: {String.ofList (text.toList.take 150)}" 0 (some text))

end Steps

/-! ### The dropped results -/

section Waits

variable {α β : Type}

/-- The procedure goes on alike however a wait for a task ends. -/
def IgnoresWait : Work α → Prop
  | .pure _ => True
  | .throw _ => True
  | .call (.waitForTask ..) next => (∀ a, IgnoresWait (next a)) ∧ ∀ a b, next a = next b
  | .call _ next => ∀ a, IgnoresWait (next a)

/-- The call is no wait for a task. -/
def NoWait : ReinstallCall → Prop
  | .waitForTask .. => False
  | _ => True

theorem ignoresWait_call {c : ReinstallCall} (hc : NoWait c) {next : c.Answer → Work α} :
    IgnoresWait (.call c next) ↔ ∀ a, IgnoresWait (next a) := by
  cases c with
  | waitForTask => exact hc.elim
  | _ => exact Iff.rfl

theorem ignoresWait_ask {c : ReinstallCall} (hc : NoWait c) : IgnoresWait (ask c) :=
  (ignoresWait_call hc).mpr fun _ => trivial

theorem ignoresWait_bind {p : Work α} {f : α → Work β} (hp : IgnoresWait p)
    (hf : ∀ a, IgnoresWait (f a)) : IgnoresWait (p >>= f) := by
  change IgnoresWait (p.bind f)
  induction p with
  | pure a => exact hf a
  | throw e => trivial
  | call c next ih =>
    cases c with
    | waitForTask =>
      exact ⟨fun a => ih a (hp.1 a), fun a b => congrArg (Proc.bind · f) (hp.2 a b)⟩
    | _ => exact fun a => ih a (hp a)

theorem ignoresWait_tryCatch {p : Work α} {f : Halt → Work α} (hp : IgnoresWait p)
    (hf : ∀ e, IgnoresWait (f e)) : IgnoresWait (tryCatch p f) := by
  change IgnoresWait (p.handle f)
  induction p with
  | pure a => trivial
  | throw e => exact hf e
  | call c next ih =>
    cases c with
    | waitForTask =>
      exact ⟨fun a => ih a (hp.1 a), fun a b => congrArg (Proc.handle · f) (hp.2 a b)⟩
    | _ => exact fun a => ih a (hp a)

theorem ignoresWait_attempt {p : Work (Except String α)} (hp : IgnoresWait p) :
    IgnoresWait (attempt p) :=
  ignoresWait_bind hp fun a => by cases a <;> trivial

theorem ignoresWait_swallow {p : Work α} (hp : IgnoresWait p) : IgnoresWait (swallow p) :=
  ignoresWait_tryCatch (ignoresWait_bind hp fun _ => trivial) fun _ => trivial

/-- A wait whose result and whose exceptions are dropped. -/
theorem ignoresWait_swallow_wait {node upid : String} {timeout : Nat} :
    IgnoresWait (swallow (attempt (ask (.waitForTask node upid timeout)))) := by
  have hdone : ∀ a : Except String Bool,
      (swallow (attempt (pure a)) : Work Unit) = pure () := by
    intro a
    cases a <;> rfl
  constructor
  · intro a
    change IgnoresWait (swallow (attempt (pure a)))
    rw [hdone a]
    trivial
  · exact fun a b => (hdone a).trans (hdone b).symm

private theorem ignoresWait_fail {step error : String} {progress : Nat} :
    IgnoresWait (fail step progress error : Work α) :=
  ignoresWait_bind (ignoresWait_ask trivial) fun _ => trivial

private theorem ignoresWait_found {o : Option α} {step error : String} :
    IgnoresWait (found o step error) := by
  cases o with
  | none => exact ignoresWait_fail
  | some a => trivial

private theorem ignoresWait_orFail {answer : Except String α} {step : String} {progress : Nat}
    {error : String → String} : IgnoresWait (orFail answer step progress error) := by
  cases answer with
  | ok a => trivial
  | error text => exact ignoresWait_fail

private theorem ignoresWait_reinstallSource {node : String} {cached : VMInstance} :
    IgnoresWait (reinstallSource node cached) := by
  unfold reinstallSource
  split
  · refine ignoresWait_bind (ignoresWait_ask trivial) fun row =>
      ignoresWait_bind ignoresWait_found fun template => ?_
    split <;> trivial
  · split
    · split <;> trivial
    · exact ignoresWait_fail

private theorem ignoresWait_waitStopped {ty : VmType} (n : Nat) : IgnoresWait (waitStopped ty n) := by
  induction n with
  | zero => trivial
  | succ n ih =>
    refine ignoresWait_bind (ignoresWait_ask trivial) fun answer => ?_
    cases answer with
    | ok status =>
      dsimp only
      split
      · exact ih
      · trivial
    | error e => trivial

private theorem ignoresWait_waitGone {ty : VmType} (n : Nat) : IgnoresWait (waitGone ty n) := by
  induction n with
  | zero => trivial
  | succ n ih =>
    refine ignoresWait_bind (ignoresWait_attempt (ignoresWait_ask trivial)) fun status => ?_
    split
    · exact ih
    · trivial

private theorem ignoresWait_recreate {node : String} {cached : VMInstance} {previous : Json}
    {source : Source} : IgnoresWait (recreate node cached previous source) := by
  refine ignoresWait_bind (ignoresWait_ask trivial) fun _ =>
    ignoresWait_bind (ignoresWait_ask trivial) fun answer =>
    ignoresWait_bind ignoresWait_orFail fun upid => ?_
  split
  · exact ignoresWait_fail
  · exact ignoresWait_bind (ignoresWait_ask trivial) fun _ => ignoresWait_swallow_wait

private theorem ignoresWait_reapplyConfig {cached : VMInstance} :
    IgnoresWait (reapplyConfig cached) := by
  unfold reapplyConfig
  split
  · trivial
  · exact ignoresWait_swallow (ignoresWait_attempt (ignoresWait_ask trivial))

private theorem ignoresWait_restoreDiskSize {cached : VMInstance} :
    IgnoresWait (restoreDiskSize cached) := by
  unfold restoreDiskSize
  split
  · trivial
  · refine ignoresWait_bind (ignoresWait_ask trivial) fun _ => ignoresWait_swallow ?_
    refine ignoresWait_bind (ignoresWait_attempt (ignoresWait_ask trivial)) fun config => ?_
    split
    · trivial
    · refine ignoresWait_bind (ignoresWait_attempt trivial) fun current => ?_
      split
      · exact ignoresWait_attempt (ignoresWait_ask trivial)
      · trivial

/-- The worker does not look at how the creation of the guest ended. -/
theorem ignoresWait_doReinstall (node : String) : IgnoresWait (doReinstall node) := by
  refine ignoresWait_tryCatch ?_ fun e => ?_
  · refine ignoresWait_bind (ignoresWait_ask trivial) fun _ => ?_
    refine ignoresWait_bind (ignoresWait_ask trivial) fun server => ?_
    refine ignoresWait_bind ignoresWait_found fun server => ?_
    refine ignoresWait_bind (ignoresWait_ask trivial) fun row => ?_
    refine ignoresWait_bind ignoresWait_found fun cached => ?_
    refine ignoresWait_bind ignoresWait_reinstallSource fun source => ?_
    refine ignoresWait_bind (ignoresWait_ask trivial) fun _ => ?_
    refine ignoresWait_bind (ignoresWait_attempt (ignoresWait_ask trivial)) fun connected => ?_
    have hrest : ∀ u : Unit, IgnoresWait (do
        let previous ← ask (.config cached.vmType)
        running "Остановка инстанса..." 20
        swallow (attempt (ask (.stop cached.vmType)))
        waitStopped cached.vmType 20
        running "Удаление старого инстанса..." 35
        let deleted ← ask (.delete cached.vmType)
        orFail deleted "Ошибка удаления" 35 fun e => s!"Не удалось удалить инстанс: {e}"
        waitGone cached.vmType 30
        recreate node cached (previous.toOption.getD .null) source
        running "Применение конфигурации..." 90
        reapplyConfig cached
        restoreDiskSize cached
        running "Запуск инстанса..." 96
        swallow (attempt (ask (.start cached.vmType)))
        ask (.logAction true none)
        ask (.updateTask "completed" "Переустановка завершена" 100 none) : Work Unit) := by
      intro _
      refine ignoresWait_bind (ignoresWait_ask trivial) fun previous => ?_
      refine ignoresWait_bind (ignoresWait_ask trivial) fun _ => ?_
      refine ignoresWait_bind
        (ignoresWait_swallow (ignoresWait_attempt (ignoresWait_ask trivial))) fun _ => ?_
      refine ignoresWait_bind (ignoresWait_waitStopped 20) fun _ => ?_
      refine ignoresWait_bind (ignoresWait_ask trivial) fun _ => ?_
      refine ignoresWait_bind (ignoresWait_ask trivial) fun deleted => ?_
      refine ignoresWait_bind ignoresWait_orFail fun _ => ?_
      refine ignoresWait_bind (ignoresWait_waitGone 30) fun _ => ?_
      refine ignoresWait_bind ignoresWait_recreate fun _ => ?_
      refine ignoresWait_bind (ignoresWait_ask trivial) fun _ => ?_
      refine ignoresWait_bind ignoresWait_reapplyConfig fun _ => ?_
      refine ignoresWait_bind ignoresWait_restoreDiskSize fun _ => ?_
      refine ignoresWait_bind (ignoresWait_ask trivial) fun _ => ?_
      refine ignoresWait_bind
        (ignoresWait_swallow (ignoresWait_attempt (ignoresWait_ask trivial))) fun _ => ?_
      exact ignoresWait_bind (ignoresWait_ask trivial) fun _ => ignoresWait_ask trivial
    dsimp only
    split
    · exact ignoresWait_bind ignoresWait_fail hrest
    · exact hrest ()
  · cases e with
    | returned => trivial
    | raised text =>
      exact ignoresWait_bind (ignoresWait_ask trivial) fun _ => ignoresWait_ask trivial

end Waits

end PveManager.Reinstall
