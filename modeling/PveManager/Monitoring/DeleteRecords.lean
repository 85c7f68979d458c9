import PveManager.Monitoring.UpidSync

/-!
# The task records of deleted guests

A deletion that went through leaves a row among the tracked tasks, under an identifier
that the panel makes up. The row of a machine is completed at once; the row of a
container is left running, and the poller then asks Proxmox for a task it never had.
-/

namespace PveManager.Monitoring

open PveManager.Core

/-- A deletion answered with success, and which of the commits for its row go through. -/
structure DeleteRecord where
  serverId : ServerId
  vmid : Vmid
  node : String
  userId : UserId
  now : Time
  /-- The task Proxmox ran to destroy the guest. -/
  destroyUpid : String
  /-- Whether the row is stored. -/
  registers : Bool
  /-- Whether the closing commit of a machine goes through. -/
  completes : Bool

namespace DeleteRecord

variable (d : DeleteRecord) (s : UpidSync)

/-- The identifier the row is stored under. -/
def upid : VmType → String
  | .qemu => s!"delete-vm-{d.vmid}-{d.serverId}"
  | .lxc => s!"delete-ct-{d.vmid}-{d.serverId}"

/-- `ProxmoxTaskService.register` under the made-up identifier. -/
def registered (ty : VmType) : UpidSync :=
  if d.registers = true then s.register (d.upid ty) d.serverId d.userId (some d.node) else s

/-- The record of `delete_vm` and the record of `delete_container`. -/
def recorded : VmType → UpidSync
  | .qemu =>
    if d.registers = true ∧ d.completes = true then
      (d.registered s .qemu).next (.complete s.nextId d.now)
    else d.registered s .qemu
  | .lxc => d.registered s .lxc

/-- The worker after the deletion and some ticks. -/
def after (ty : VmType) (ks : List UpidTick) : UpidSync :=
  ks.foldl UpidSync.runUpidTaskSync (d.recorded s ty)

/-- Proxmox said of the task that destroyed the guest that it stopped otherwise than `OK`. -/
def Reported (s' : UpidSync) (t : ProxmoxTask) : Prop :=
  t.upid = d.destroyUpid ∧ ∃ status log, .answered status log ∈ s'.pollsOf t.id ∧
    status.status = some "stopped" ∧ status.exitstatus ≠ some "OK"

/-- A record fails only as Proxmox reported it, after whatever ticks. -/
def FailsAsReported (ty : VmType) : Prop :=
  ∀ ks t, (d.after s ty ks).tasks.find? s.nextId = some t → t.status = .failed →
    d.Reported (d.after s ty ks) t

/-- The records of a machine and of a container deleted alike. -/
structure Truthful : Prop where
  fails : ∀ ty, d.FailsAsReported s ty
  agree : ∀ ks ks' t t', (d.after s .qemu ks).tasks.find? s.nextId = some t →
    (d.after s .lxc ks').tasks.find? s.nextId = some t' →
      t.status ≠ .running → t'.status ≠ .running → t.status = t'.status

/-- A row is stored running, where the poller takes it up. -/
def LeftToPoller (ty : VmType) : Prop :=
  d.registers = true ∧ (ty = .qemu → d.completes = false) ∧ d.serverId ≠ 0 ∧ d.node ≠ ""

/-- The row right after the deletion. -/
def row (ty : VmType) (id : TaskId) : ProxmoxTask where
  id := id
  upid := d.upid ty
  serverId := some d.serverId
  userId := d.userId
  node := some d.node
  status := if ty = .qemu ∧ d.completes = true then .completed else .running
  exitStatus := if ty = .qemu ∧ d.completes = true then some "OK" else none
  logText := none
  progress := none
  completedAt := if ty = .qemu ∧ d.completes = true then some d.now else none

end DeleteRecord

namespace UpidSync

/-! ### Keys that were not drawn -/

/-- Nothing is held about the keys that were not drawn. -/
def Undrawn (s : UpidSync) : Prop := ∀ id, s.nextId ≤ id → s.view id = ⟨none, 0, []⟩

variable {s : UpidSync} {id : TaskId}

theorem Undrawn.next (hs : s.Undrawn) (e : UpidEvent) : (s.next e).Undrawn := by
  intro id hid
  have hview := hs id (Nat.le_trans (nextId_le_next e) hid)
  have hrow : s.tasks.find? id = none := congrArg TaskView.row hview
  have hkeep : ∀ s' : UpidSync, s'.tasks.find? id = none →
      s'.upidFailCounts id = s.upidFailCounts id → s'.pollsOf id = s.pollsOf id →
        s'.view id = ⟨none, 0, []⟩ := by
    intro s' hrow' hfails hpolls
    rw [← hview, view, view, hrow', hrow, hfails, hpolls]
  cases e with
  | tick k =>
    rcases s.view_runUpidTaskSync k id with h | ⟨t, ht, -⟩
    · exact h.trans hview
    · rw [hrow] at ht
      cases ht
  | register upid serverId userId node =>
    refine hkeep _ ?_ rfl rfl
    rw [UpidSync.next, register, KeyedTable.find?_save, if_neg (Nat.ne_of_lt hid), hrow]
  | complete id' now =>
    refine hkeep _ ?_ rfl rfl
    rw [UpidSync.next, KeyedTable.find?_mapRows, hrow]
    rfl
  | clearCompleted userId =>
    refine hkeep _ ?_ rfl rfl
    rw [UpidSync.next, KeyedTable.find?_filter, hrow]
    rfl
  | userDeleted userId =>
    refine hkeep _ ?_ rfl rfl
    rw [UpidSync.next, KeyedTable.find?_filter, hrow]
    rfl
  | serverDeleted serverId =>
    refine hkeep _ ?_ rfl rfl
    rw [UpidSync.next, KeyedTable.find?_mapRows, hrow]
    rfl
  | restart =>
    have hpolls : s.pollsOf id = [] := congrArg TaskView.polls hview
    show (⟨s.tasks.find? id, 0, s.pollsOf id⟩ : TaskView) = ⟨none, 0, []⟩
    rw [hrow, hpolls]

theorem undrawn_boot (tasks : KeyedTable ProxmoxTask.id) (used : TaskId) :
    (boot tasks used).Undrawn := by
  intro id hid
  have hrow : tasks.find? id = none := by
    refine tasks.find?_eq_none_iff.mpr fun t ht heq => ?_
    exact Nat.not_lt_of_le hid (heq ▸ lt_nextId_boot tasks used ht)
  show (⟨tasks.find? id, 0, []⟩ : TaskView) = ⟨none, 0, []⟩
  rw [hrow]

theorem undrawn_foldl (tasks : KeyedTable ProxmoxTask.id) (used : TaskId)
    (es : List UpidEvent) : (es.foldl UpidSync.next (boot tasks used)).Undrawn :=
  invariant_of_step (P := Undrawn) (fun _ e hs => hs.next e) (undrawn_boot tasks used) es _
    (foldl_mem_visited _ _ es)

/-! ### Rows the poller passes over -/

/-- The row is finished, or the poller has no node to ask about it. -/
def PassedOver (t : ProxmoxTask) : Prop :=
  t.status ≠ .running ∨ t.serverId.getD 0 = 0 ∨ truthy t.node = false

/-- A tick leaves alone what it passes over. -/
theorem view_tick_of_passedOver (k : UpidTick)
    (h : ∀ t, s.tasks.find? id = some t → PassedOver t) :
    (s.runUpidTaskSync k).view id = s.view id := by
  have hnd : (s.runningTasks.map ProxmoxTask.id).Nodup :=
    s.tasks.keys_nodup.sublist (List.filter_sublist.map _)
  have hframe : ∀ (x : Ticking) (t : ProxmoxTask) (id : TaskId), t.id ≠ id →
      viewIn id (syncTask k x t) = viewIn id x :=
    view_syncTask_ne k
  rcases part_foldl hframe ⟨s, false⟩ id hnd with hview | ⟨t, ht, rfl, x, hx, hview⟩
  · exact hview
  · obtain ⟨hmem, hrun⟩ := List.mem_filter.mp ht
    have hskip : syncTask k x t = x := by
      rcases h t (s.tasks.find?_key hmem) with hdone | hserver | hnode
      · exact absurd (of_decide_eq_true hrun) hdone
      · rw [syncTask, if_pos (.inl hserver)]
      · rw [syncTask, if_pos (.inr (.inl hnode))]
    rw [hskip, hx] at hview
    exact hview

/-- Ticks leave alone what they pass over. -/
theorem view_ticks_of_passedOver (ks : List UpidTick)
    (h : ∀ t, s.tasks.find? id = some t → PassedOver t) :
    (ks.foldl runUpidTaskSync s).view id = s.view id := by
  induction ks generalizing s with
  | nil => rfl
  | cons k ks ih =>
    have hview := view_tick_of_passedOver k h
    have hrow : (s.runUpidTaskSync k).tasks.find? id = s.tasks.find? id :=
      congrArg TaskView.row hview
    exact (ih fun t ht => h t (hrow ▸ ht)).trans hview

/-! ### Ticks that get no status -/

/-- No task gets a status, and every commit goes through. -/
def silent : UpidTick where
  now := 0
  poll := fun _ => .unread none
  commits := fun _ => true

/-- What a tick holds about a task, and whether its session still works. -/
def turn (id : TaskId) (x : Ticking) : TaskView × Bool := (viewIn id x, x.broken)

/-- A tick that gets no status counts a running task up, or gives it up. -/
theorem view_tick_silent {t : ProxmoxTask} (ht : s.tasks.find? t.id = some t)
    (hpolled : ¬PassedOver t) :
    (s.runUpidTaskSync silent).view t.id =
      if s.upidFailCounts t.id + 1 < UPID_FAIL_THRESHOLD then
        ⟨some t, s.upidFailCounts t.id + 1, .unread none :: s.pollsOf t.id⟩
      else ⟨some (t.giveUp 0 none), 0, .unread none :: s.pollsOf t.id⟩ := by
  have hnd : (s.runningTasks.map ProxmoxTask.id).Nodup :=
    s.tasks.keys_nodup.sublist (List.filter_sublist.map _)
  have hrunning : t.status = .running := not_not.mp fun h => hpolled (.inl h)
  have hasked : ¬(t.serverId.getD 0 = 0 ∨ truthy t.node = false) := fun h => hpolled (.inr h)
  have hmem : t ∈ s.runningTasks :=
    List.mem_filter.mpr ⟨s.tasks.mem_of_find? ht, decide_eq_true hrunning⟩
  have hbroken : ∀ (x : Ticking) (u : ProxmoxTask), (syncTask silent x u).broken = x.broken := by
    intro x u
    unfold syncTask
    split
    · rfl
    · rename_i hnot
      have hx : x.broken = false := Bool.eq_false_iff.mpr fun h => hnot (.inr (.inr h))
      dsimp only [silent]
      split
      · exact hx.symm
      · exact hx.symm
  have hframe : ∀ (x : Ticking) (u : ProxmoxTask) (id : TaskId), u.id ≠ id →
      turn id (syncTask silent x u) = turn id x :=
    fun x u id hne => Prod.ext (view_syncTask_ne silent x u id hne) (hbroken x u)
  obtain ⟨x, hx, hview⟩ := part_foldl_of_mem hframe ⟨s, false⟩ hnd hmem
  obtain ⟨hsame, hworks⟩ : x.worker.view t.id = s.view t.id ∧ x.broken = false :=
    Prod.mk.inj hx
  have hcounts : x.worker.upidFailCounts t.id = s.upidFailCounts t.id :=
    congrArg TaskView.fails hsame
  have hpolls : x.worker.pollsOf t.id = s.pollsOf t.id := congrArg TaskView.polls hsame
  have hrow : x.worker.tasks.find? t.id = some t := (congrArg TaskView.row hsame).trans ht
  have hturn : ¬(t.serverId.getD 0 = 0 ∨ truthy t.node = false ∨ x.broken = true) := by
    rintro (h | h | h)
    · exact hasked (.inl h)
    · exact hasked (.inr h)
    · rw [hworks] at h
      cases h
  refine (congrArg Prod.fst hview).trans ?_
  show (syncTask silent x t).worker.view t.id = _
  rw [syncTask, if_neg hturn]
  show (if x.worker.upidFailCounts t.id + 1 < UPID_FAIL_THRESHOLD then
      (⟨x.worker.noted t.id (.unread none) (x.worker.upidFailCounts t.id + 1), false⟩ : Ticking)
    else ⟨(x.worker.noted t.id (.unread none) 0).stored (t.giveUp 0 none), false⟩).worker.view
      t.id = _
  rw [hcounts]
  split
  · rw [view_noted_self, hrow, hpolls]
  · rw [view_stored_self _ (t.id_giveUp 0 none), hpolls]

end UpidSync

namespace DeleteRecord

open UpidSync

variable {d : DeleteRecord} {s : UpidSync} {ty : VmType}

/-! ### The record of a deletion -/

theorem recorded_of_not_registers (h : d.registers = false) : d.recorded s ty = s := by
  have hsame : ∀ ty, d.registered s ty = s := by
    intro ty
    rw [registered, h]
    exact if_neg Bool.false_ne_true
  cases ty with
  | qemu =>
    rw [recorded, h, if_neg fun hboth => Bool.false_ne_true hboth.1]
    exact hsame .qemu
  | lxc => exact hsame .lxc

theorem find?_recorded (h : d.registers = true) :
    (d.recorded s ty).tasks.find? s.nextId = some (d.row ty s.nextId) := by
  have hrow : ∀ ty, d.registered s ty =
      s.register (d.upid ty) d.serverId d.userId (some d.node) := by
    intro ty
    rw [registered, if_pos h]
  cases ty with
  | qemu =>
    cases hcompletes : d.completes with
    | true =>
      rw [recorded, if_pos ⟨h, hcompletes⟩, hrow, UpidSync.next, KeyedTable.find?_mapRows,
        register, KeyedTable.find?_save, if_pos rfl, Option.map_some, ProxmoxTask.completeIf,
        if_pos rfl, row, hcompletes]
      rfl
    | false =>
      rw [recorded, if_neg fun hboth => Bool.false_ne_true (hcompletes.symm.trans hboth.2), hrow,
        register, KeyedTable.find?_save, if_pos rfl, row, hcompletes]
      rfl
  | lxc =>
    rw [recorded, hrow, register, KeyedTable.find?_save, if_pos rfl]
    rfl

/-- Nothing was polled under the key of a new record. -/
theorem view_recorded (ty : VmType) (hs : s.Undrawn) (h : d.registers = true) :
    (d.recorded s ty).view s.nextId = ⟨some (d.row ty s.nextId), 0, []⟩ := by
  have hview := hs s.nextId (Nat.le_refl _)
  have hfails : s.upidFailCounts s.nextId = 0 := congrArg TaskView.fails hview
  have hpolls : s.pollsOf s.nextId = [] := congrArg TaskView.polls hview
  have hregistered : ∀ ty, (d.registered s ty).upidFailCounts = s.upidFailCounts ∧
      (d.registered s ty).polls = s.polls := by
    intro ty
    rw [registered, if_pos h]
    exact ⟨rfl, rfl⟩
  have hrecorded : (d.recorded s ty).upidFailCounts = s.upidFailCounts ∧
      (d.recorded s ty).polls = s.polls := by
    cases ty with
    | qemu =>
      rw [recorded]
      split
      · exact hregistered .qemu
      · exact hregistered .qemu
    | lxc => exact hregistered .lxc
  rw [view, find?_recorded h, pollsOf, hrecorded.1, hrecorded.2, hfails]
  exact congrArg (TaskView.mk _ 0) hpolls

theorem status_row_ne_failed (id : TaskId) : (d.row ty id).status ≠ .failed := by
  rw [row]
  dsimp only
  split
  · exact UpidStatus.noConfusion
  · exact UpidStatus.noConfusion

/-- The poller passes the record over unless it is left to it. -/
theorem passedOver_row_iff (h : d.registers = true) (id : TaskId) :
    PassedOver (d.row ty id) ↔ ¬d.LeftToPoller ty := by
  have hstatus : (d.row ty id).status ≠ .running ↔ ty = .qemu ∧ d.completes = true := by
    rw [row]
    dsimp only
    split
    · rename_i hdone
      exact iff_of_true UpidStatus.noConfusion hdone
    · rename_i hopen
      exact iff_of_false (fun hne => hne rfl) hopen
  have hnode : truthy (d.row ty id).node = false ↔ d.node = "" := by
    show decide (d.node ≠ "") = false ↔ d.node = ""
    rw [decide_eq_false_iff_not, not_not]
  have hserver : (d.row ty id).serverId.getD 0 = 0 ↔ d.serverId = 0 := Iff.rfl
  rw [PassedOver, hstatus, hnode, hserver, LeftToPoller, ← Bool.not_eq_true d.completes]
  simp only [h, true_and, ne_eq]
  grind

/-- A record that is not left to the poller stays as it is. -/
theorem find?_after_of_not_left (hs : s.Undrawn) (h : ¬d.LeftToPoller ty) (ks : List UpidTick) :
    (d.after s ty ks).tasks.find? s.nextId =
      if d.registers = true then some (d.row ty s.nextId) else none := by
  have hkept : ∀ found, (d.recorded s ty).tasks.find? s.nextId = found →
      (∀ t, found = some t → PassedOver t) →
        (d.after s ty ks).tasks.find? s.nextId = found := by
    intro found hfound hpassed
    have hview := view_ticks_of_passedOver ks fun t ht => hpassed t (hfound.symm.trans ht)
    exact (congrArg TaskView.row hview).trans hfound
  split
  · rename_i hreg
    refine hkept _ (find?_recorded hreg) ?_
    rintro t ⟨⟩
    exact (passedOver_row_iff hreg s.nextId).mpr h
  · rename_i hreg
    refine hkept none ?_ fun t ht => by cases ht
    rw [recorded_of_not_registers (Bool.eq_false_iff.mpr hreg)]
    exact congrArg TaskView.row (hs s.nextId (Nat.le_refl _))

/-- Three ticks without a status fail a record that is left to the poller. -/
theorem find?_after_silent (hs : s.Undrawn) (h : d.LeftToPoller ty) :
    ∃ t, (d.after s ty [silent, silent, silent]).tasks.find? s.nextId = some t ∧
      t.status = .failed ∧
        ∀ r ∈ (d.after s ty [silent, silent, silent]).pollsOf s.nextId, r = .unread none := by
  have hpolled : ¬PassedOver (d.row ty s.nextId) := fun hover =>
    (passedOver_row_iff h.1 s.nextId).mp hover h
  have hfirst := view_recorded ty hs h.1
  have hstep : ∀ (s' : UpidSync) (fails : Nat) (polls : List PollResult),
      s'.view s.nextId = ⟨some (d.row ty s.nextId), fails, polls⟩ →
        (s'.runUpidTaskSync silent).view s.nextId =
          if fails + 1 < UPID_FAIL_THRESHOLD then
            ⟨some (d.row ty s.nextId), fails + 1, .unread none :: polls⟩
          else ⟨some ((d.row ty s.nextId).giveUp 0 none), 0, .unread none :: polls⟩ := by
    intro s' fails polls hview
    have hfails : s'.upidFailCounts s.nextId = fails := congrArg TaskView.fails hview
    have hpolls : s'.pollsOf s.nextId = polls := congrArg TaskView.polls hview
    have hrow : s'.tasks.find? (d.row ty s.nextId).id = some (d.row ty s.nextId) :=
      congrArg TaskView.row hview
    have htick := view_tick_silent hrow hpolled
    rw [← hfails, ← hpolls]
    exact htick
  have hsecond := hstep _ 0 [] hfirst
  rw [if_pos (by decide)] at hsecond
  have hthird := hstep _ 1 [.unread none] hsecond
  rw [if_pos (by decide)] at hthird
  have hlast := hstep _ 2 [.unread none, .unread none] hthird
  rw [if_neg (by decide)] at hlast
  have hview : (d.after s ty [silent, silent, silent]).view s.nextId =
      ⟨some ((d.row ty s.nextId).giveUp 0 none), 0, List.replicate 3 (.unread none)⟩ := hlast
  obtain ⟨hrow, -, hpolls⟩ := TaskView.mk.inj hview
  refine ⟨(d.row ty s.nextId).giveUp 0 none, hrow, rfl, ?_⟩
  rw [hpolls]
  exact fun r hr => List.eq_of_mem_replicate hr

/-- A record fails only as reported exactly when it is not left to the poller. -/
theorem failsAsReported_iff_not_left (hs : s.Undrawn) :
    d.FailsAsReported s ty ↔ ¬d.LeftToPoller ty := by
  constructor
  · intro h hleft
    obtain ⟨t, ht, hfailed, hunread⟩ := find?_after_silent hs hleft
    obtain ⟨-, status, log, hmem, -⟩ := h _ t ht hfailed
    rw [(KeyedTable.key_of_find? _ ht : t.id = s.nextId)] at hmem
    exact absurd (hunread _ hmem) PollResult.noConfusion
  · intro h ks t ht hfailed
    rw [find?_after_of_not_left hs h] at ht
    split at ht
    · cases ht
      exact absurd hfailed (status_row_ne_failed s.nextId)
    · cases ht

/-- After any events, the records of a deletion tell the truth exactly when the record of a
container is not left to the poller. -/
theorem truthful_iff_not_left (tasks : KeyedTable ProxmoxTask.id) (used : TaskId)
    (es : List UpidEvent) :
    d.Truthful (es.foldl UpidSync.next (boot tasks used)) ↔ ¬d.LeftToPoller .lxc := by
  have hs := undrawn_foldl tasks used es
  constructor
  · exact fun h => (failsAsReported_iff_not_left hs).mp (h.fails .lxc)
  · intro h
    have hmachine : ¬d.LeftToPoller .qemu := fun hleft =>
      h ⟨hleft.1, fun hty => VmType.noConfusion hty, hleft.2.2⟩
    refine ⟨fun ty => (failsAsReported_iff_not_left hs).mpr ?_, ?_⟩
    · cases ty with
      | qemu => exact hmachine
      | lxc => exact h
    · intro ks ks' t t' _ ht' _ hended
      rw [find?_after_of_not_left hs h] at ht'
      split at ht'
      · cases ht'
        exact absurd rfl hended
      · cases ht'

/-- A container is deleted on a panel that has just started, and every commit goes through. -/
def deletedContainer : DeleteRecord where
  serverId := 1
  vmid := 100
  node := "pve1"
  userId := 1
  now := 0
  destroyUpid := "UPID:pve1:00001234:00005678:65000000:vzdestroy:100:root@pam:"
  registers := true
  completes := true

/-- After three polls of the made-up identifier the deletion counts as failed. -/
theorem not_truthful_deletedContainer : ¬deletedContainer.Truthful (boot .empty 0) := by
  intro h
  have hleft : deletedContainer.LeftToPoller .lxc :=
    ⟨rfl, fun hty => VmType.noConfusion hty, by decide, by decide⟩
  exact (failsAsReported_iff_not_left (undrawn_boot .empty 0)).mp (h.fails .lxc) hleft

end DeleteRecord

end PveManager.Monitoring
