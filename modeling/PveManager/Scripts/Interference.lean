import Mathlib.Logic.Function.Iterate
import PveManager.Core.Interleave
import PveManager.Core.Run
import PveManager.Scripts.Engine

/-!
# Interference between script executions

Executions run in background threads and share the files of the nodes and
containers they reach. A state is undisturbed when every script about to be run
is the execution's own, in its recorded place, and no file about to be removed
can still be run by another execution. The main result says for which sets of
executions every interleaving is undisturbed.
-/

namespace PveManager.Scripts

open PveManager.Core

/-- Which machine answers under an address, and which one a node name stands for. -/
structure Network where
  machineAt : String → Nat
  nodeMachine : ServerId → String → Nat

/-- A file system a script file can be in. -/
inductive Place
  | node (machine : Nat)
  | container (machine : Nat) (vmid : Vmid)
  deriving DecidableEq, Repr

/-- What the environment decides about one call. -/
structure Outcome where
  refused : Option String
  connected : Bool
  output : String
  exitCode : Int
  /-- What a failed command leaves under the name it works on. -/
  left : Option String
  agent : AgentResult

/-- The answer to a call. -/
def Outcome.answer (o : Outcome) : (c : ScriptCall) → c.Answer
  | .fromServer _ => o.refused
  | .connect _ => o.connected
  | .agentExec .. => o.agent
  | .write .. | .push .. | .execOnHost .. | .execInCt .. | .removeOnHost .. | .removeInCt .. =>
    (o.output, o.exitCode)

namespace Network

variable (net : Network)

def hostFile (host path : String) : Place × String := (.node (net.machineAt host), path)

def ctFile (host : String) (vmid : Vmid) (path : String) : Place × String :=
  (.container (net.machineAt host) vmid, path)

/-- The file a command runs. -/
def runs : ScriptCall → Option (Place × String)
  | .execOnHost host _ path _ => some (net.hostFile host path)
  | .execInCt host vmid _ path _ => some (net.ctFile host vmid path)
  | _ => none

/-- The file a command removes. -/
def removes : ScriptCall → Option (Place × String)
  | .removeOnHost host path => some (net.hostFile host path)
  | .removeInCt host vmid path => some (net.ctFile host vmid path)
  | _ => none

/-- The files a command reads or writes. -/
def touches : ScriptCall → Place × String → Prop
  | .write host path _ _, x => x = net.hostFile host path
  | .push host vmid src dst, x => x = net.hostFile host src ∨ x = net.ctFile host vmid dst
  | .execOnHost host _ path _, x => x = net.hostFile host path
  | .execInCt host vmid _ path _, x => x = net.ctFile host vmid path
  | .removeOnHost host path, x => x = net.hostFile host path
  | .removeInCt host vmid path, x => x = net.ctFile host vmid path
  | .fromServer _, _ | .connect _, _ | .agentExec .., _ => False

/-- What a command leaves under the name it works on. -/
def settle (o : Outcome) (content : Option String) : Option String :=
  if o.exitCode = 0 then content else o.left

/-- The files after a command. -/
def effect : ScriptCall → Outcome → (Place × String → Option String) →
    Place × String → Option String
  | .write host path content _, o, s =>
    Function.update s (net.hostFile host path) (settle o (some content))
  | .push host vmid src dst, o, s =>
    Function.update s (net.ctFile host vmid dst) (settle o (s (net.hostFile host src)))
  | .removeOnHost host path, o, s => Function.update s (net.hostFile host path) (settle o none)
  | .removeInCt host vmid path, o, s =>
    Function.update s (net.ctFile host vmid path) (settle o none)
  | _, _, s => s

/-- The files of all nodes and containers. -/
abbrev files : SharedStore ScriptIO where
  Cell := Place × String
  Value := Option String
  Outcome := Outcome
  touches := net.touches
  effect := net.effect
  answer := fun c o => o.answer c
  effect_frame := by
    intro c o s x hx
    cases c with
    | push host vmid src dst =>
      exact Function.update_of_ne (fun h => hx (Or.inr h)) _ _
    | _ => simp_all [touches, effect, Function.update_of_ne]
  effect_local := by
    intro c o s s' hs x hx
    have hx' := hs x hx
    cases c with
    | push host vmid src dst =>
      have hsrc := hs (net.hostFile host src) (Or.inl rfl)
      simp only [effect, Function.update_apply, hsrc, hx']
    | _ => simp_all [touches, effect]

/-- The file after a write. -/
theorem effect_write_self (host path content : String) (x : Bool) (o : Outcome)
    (s : Place × String → Option String) :
    net.effect (.write host path content x) o s (net.hostFile host path) =
      settle o (some content) :=
  Function.update_self ..

/-- The container's file after a push. -/
theorem effect_push_self (host : String) (vmid : Vmid) (src dst : String) (o : Outcome)
    (s : Place × String → Option String) :
    net.effect (.push host vmid src dst) o s (net.ctFile host vmid dst) =
      settle o (s (net.hostFile host src)) :=
  Function.update_self ..

end Network

section Property

variable (net : Network)

/-- The place is the one the execution is recorded for. -/
def Recorded (a : ExecuteArgs) : Place → Prop
  | .node m => ∀ n, a.node = some n → n ≠ "" → m = net.nodeMachine a.server.id n
  | .container m vmid => a.vmid = some vmid ∧ m = net.machineAt (sshHost a.server)

/-- A command that runs a script runs the execution's own one, where it is recorded. -/
def RunsOwn (a : ExecuteArgs) (c : ScriptCall) (s : Place × String → Option String) : Prop :=
  (∀ x, net.runs c = some x → s x = some a.script ∧ Recorded net a x.1) ∧
    ∀ server node vmid interpreter payload timeout,
      c = .agentExec server node vmid interpreter payload timeout →
        payload = a.script ∧ server = a.server.id ∧ a.node = some node ∧ a.vmid = some vmid

variable {ι : Type}

/-- The running executions. -/
abbrev Executions (net : Network) (ι : Type) := net.files.Pool ι String ExecResult

/-- No execution is about to run something else than its own script in its own place, or to
remove a file another one may still run. -/
structure Undisturbed (e : ι → ExecuteArgs) (st : Executions net ι) : Prop where
  runs : ∀ i c next, st.rest i = .call c next → RunsOwn net (e i) c st.store
  cleanup : ∀ i c next, st.rest i = .call c next → ∀ x, net.removes c = some x →
    ∀ j, j ≠ i → (st.rest j).Only fun d => net.runs d ≠ some x

/-- All executions at their first step. -/
def started (hash : String → Int) (e : ι → ExecuteArgs)
    (files : Place × String → Option String) : Executions net ι where
  store := files
  rest := fun i => execute hash (e i)

end Property

/-- The number in the name of the file an execution writes on a node. -/
def ExecuteArgs.tag (hash : String → Int) (a : ExecuteArgs) : Option Nat :=
  match a.destination with
  | .host => some (scriptTag hash a.script)
  | .container vmid => some vmid
  | _ => none

/-- The container an execution pushes its script into. -/
def ExecuteArgs.container (a : ExecuteArgs) : Option Vmid :=
  match a.destination with
  | .container vmid => some vmid
  | _ => none

/-- An execution that runs its own script where it is recorded, left alone: a node script runs on
the host of the server's record, and the guest agent is given a script with plain line ends. -/
structure WellPlaced (net : Network) (a : ExecuteArgs) : Prop where
  host : a.destination = .host → ∀ n, a.node = some n → n ≠ "" →
    net.machineAt (sshHost a.server) = net.nodeMachine a.server.id n
  machine : ∀ node vmid, a.destination = .machine node vmid → '\r' ∉ a.script.toList

/-- Two executions share no file: over one machine they write different node files and push into
different containers. -/
structure Apart (net : Network) (hash : String → Int) (a b : ExecuteArgs) : Prop where
  node : net.machineAt (sshHost a.server) = net.machineAt (sshHost b.server) →
    ∀ n, a.tag hash = some n → b.tag hash = some n → a.second ≠ b.second
  container : net.machineAt (sshHost a.server) = net.machineAt (sshHost b.server) →
    ∀ vmid, a.container = some vmid → b.container ≠ some vmid

section Alone

variable {net : Network} {hash : String → Int} {a : ExecuteArgs}

/-- The files an execution works on. -/
def Footprint (net : Network) (hash : String → Int) (a : ExecuteArgs) (x : Place × String) :
    Prop :=
  (∃ n, a.tag hash = some n ∧ x = net.hostFile (sshHost a.server) (tmpName n a.second)) ∨
    ∃ vmid, a.container = some vmid ∧ x = net.ctFile (sshHost a.server) vmid (tmpCt vmid)

/-- Executions that are apart have no file in common. -/
theorem Apart.footprint {b : ExecuteArgs} (h : Apart net hash a b) {x : Place × String}
    (ha : Footprint net hash a x) : ¬Footprint net hash b x := by
  rintro (⟨n', hn', hx'⟩ | ⟨v', hv', hx'⟩)
  · rcases ha with ⟨n, hn, hx⟩ | ⟨v, hv, hx⟩
    · have he := hx.symm.trans hx'
      simp only [Network.hostFile, Prod.mk.injEq, Place.node.injEq] at he
      obtain ⟨hm, hname⟩ := he
      obtain ⟨rfl, hs⟩ := tmpName_inj hname
      exact h.node hm n hn hn' hs
    · have he := hx.symm.trans hx'
      simp [Network.hostFile, Network.ctFile] at he
  · rcases ha with ⟨n, hn, hx⟩ | ⟨v, hv, hx⟩
    · have he := hx.symm.trans hx'
      simp [Network.hostFile, Network.ctFile] at he
    · have he := hx.symm.trans hx'
      simp only [Network.ctFile, Prod.mk.injEq, Place.container.injEq] at he
      obtain ⟨⟨hm, rfl⟩, _⟩ := he
      exact h.container hm v hv hv'

/-- The condition on a call reads only the execution's own files. -/
theorem RunsOwn.congr {F : Place × String → Prop} {c : ScriptCall}
    (hc : ∀ x, net.runs c = some x → F x) {s s' : Place × String → Option String}
    (hs : ∀ x, F x → s x = s' x) (h : RunsOwn net a c s) : RunsOwn net a c s' :=
  ⟨fun x hx => hs x (hc x hx) ▸ h.1 x hx, h.2⟩

/-! ## One execution alone -/

/-- An execution works on its own files only. -/
theorem only_execute (net : Network) (hash : String → Int) (a : ExecuteArgs) :
    (execute hash a).Only fun c => ∀ x, net.touches c x → Footprint net hash a x := by
  refine Proc.only_bind (Proc.only_ask fun x hx => hx.elim) fun refused => ?_
  cases refused with
  | some e => trivial
  | none =>
    dsimp only
    have hnode : ∀ n, a.tag hash = some n → ∀ x,
        x = net.hostFile (sshHost a.server) (tmpName n a.second) → Footprint net hash a x :=
      fun n hn x hx => Or.inl ⟨n, hn, hx⟩
    cases hd : a.destination with
    | host =>
      have ht : a.tag hash = some (scriptTag hash a.script) := by simp [ExecuteArgs.tag, hd]
      exact only_runOnNode (fun x hx => hx.elim) (hnode _ ht) (hnode _ ht) (hnode _ ht)
    | container vmid =>
      have ht : a.tag hash = some vmid := by simp [ExecuteArgs.tag, hd]
      have hct : ∀ x, x = net.ctFile (sshHost a.server) vmid (tmpCt vmid) →
          Footprint net hash a x :=
        fun x hx => Or.inr ⟨vmid, by simp [ExecuteArgs.container, hd], hx⟩
      exact only_runOnLxc (fun x hx => hx.elim) (hnode _ ht)
        (fun x hx => hx.elim (hnode _ ht x) (hct x)) hct (hnode _ ht) hct
    | machine node vmid =>
      refine Proc.only_bind (Proc.only_ask fun x hx => hx.elim) fun r => ?_
      split <;> trivial
    | nowhere e => trivial

open SharedStore

private theorem wp_runCommand {Q : ScriptCall → net.files.Store → Prop}
    {p : Script (String × Int)} {what : String}
    {R : Except String String → net.files.Store → Prop} {s : net.files.Store}
    (h : net.files.wp Q p (fun r s => match r with
      | .ok (output, exitCode) => if exitCode = 0 then R (.ok output) s else ∀ e, R (.error e) s
      | .error e => R (.error e) s) s) :
    net.files.wp Q (runCommand p what) R s := by
  refine wp_bind (wp_mono ?_ h)
  rintro (e | ⟨output, exitCode⟩) s' hr
  · exact hr
  · dsimp only at hr ⊢
    split
    · rename_i he
      rw [he] at hr
      exact hr _
    · split
      · rename_i hne
        rw [if_neg hne] at hr
        exact hr _
      · rename_i hz
        rw [if_pos (not_not.mp hz)] at hr
        exact hr

/-- A call that runs no script meets the condition. -/
private theorem runsOwn_of_no_run {c : ScriptCall} {s : net.files.Store}
    (hr : net.runs c = none)
    (ha : ∀ server node vmid interpreter payload timeout,
      c ≠ .agentExec server node vmid interpreter payload timeout) : RunsOwn net a c s := by
  refine ⟨fun x hx => ?_, fun _ _ _ _ _ _ hc => absurd hc (ha _ _ _ _ _ _)⟩
  rw [hr] at hx
  exact absurd hx (by simp)

private theorem wp_orFailed {Q : ScriptCall → net.files.Store → Prop} {p : Script ExecResult}
    {R : Except String ExecResult → net.files.Store → Prop} {s : net.files.Store}
    (h : net.files.wp Q p (fun _ s => ∀ r, R (.ok r) s) s) : net.files.wp Q (orFailed p) R s := by
  refine wp_tryCatch (wp_mono ?_ h)
  rintro (e | r) s' hr
  · exact hr _
  · exact hr _

private theorem wp_runOnNode (hrec : Recorded net a (.node (net.machineAt (sshHost a.server))))
    (s : net.files.Store) :
    net.files.wp (RunsOwn net a)
      (runOnNode hash a.server a.script a.interpreter a.timeout a.second) (fun _ _ => True) s := by
  refine wp_bind (wp_ask (runsOwn_of_no_run rfl (by simp)) fun o => ?_)
  dsimp only
  split
  · refine wp_bind (wp_orFailed (wp_bind (wp_runCommand
      (wp_ask (runsOwn_of_no_run rfl (by simp)) fun o => ?_))))
    dsimp only
    have hremove : ∀ (r : ExecResult) (s : net.files.Store),
        net.files.wp (RunsOwn net a)
          (do let _ ← Proc.ask (I := ScriptIO) (.removeOnHost (sshHost a.server)
                (tmpName (scriptTag hash a.script) a.second))
              pure r : Script ExecResult) (fun _ _ => True) s :=
      fun r s => wp_bind (wp_ask (runsOwn_of_no_run rfl (by simp)) fun _ => trivial)
    split
    · rename_i hexit
      refine wp_bind (wp_ask ⟨?_, by simp⟩ fun o => fun r => hremove r _)
      intro x hx
      cases hx
      refine ⟨?_, hrec⟩
      rw [net.effect_write_self]
      exact if_pos hexit
    · exact fun e r => hremove r _
  · trivial

private theorem wp_runOnLxc {vmid : Vmid} (hvmid : a.vmid = some vmid) (s : net.files.Store) :
    net.files.wp (RunsOwn net a)
      (runOnLxc a.server vmid a.script a.interpreter a.timeout a.second) (fun _ _ => True) s := by
  refine wp_bind (wp_ask (runsOwn_of_no_run rfl (by simp)) fun o => ?_)
  dsimp only
  split
  · have hremove : ∀ (r : ExecResult) (s : net.files.Store),
        net.files.wp (RunsOwn net a)
          (do let _ ← Proc.ask (I := ScriptIO) (.removeOnHost (sshHost a.server)
                (tmpName vmid a.second))
              let _ ← Proc.ask (I := ScriptIO) (.removeInCt (sshHost a.server) vmid (tmpCt vmid))
              pure r : Script ExecResult) (fun _ _ => True) s :=
      fun r s => wp_bind (wp_ask (runsOwn_of_no_run rfl (by simp)) fun _ =>
        wp_bind (wp_ask (runsOwn_of_no_run rfl (by simp)) fun _ => trivial))
    refine wp_bind (wp_orFailed (wp_bind (wp_runCommand
      (wp_ask (runsOwn_of_no_run rfl (by simp)) fun o => ?_))))
    dsimp only
    split
    · rename_i hwrite
      refine wp_bind (wp_runCommand (wp_ask (runsOwn_of_no_run rfl (by simp)) fun o' => ?_))
      dsimp only
      split
      · rename_i hpush
        refine wp_bind (wp_ask ⟨?_, by simp⟩ fun o => fun r => hremove r _)
        intro x hx
        cases hx
        refine ⟨?_, hvmid, rfl⟩
        rw [net.effect_push_self, net.effect_write_self]
        exact (if_pos hpush).trans (if_pos hwrite)
      · exact fun e r => hremove r _
    · exact fun e r => hremove r _
  · trivial

private theorem wp_runOnQemu {node : String} {vmid : Vmid} (hn : a.node = some node)
    (hvmid : a.vmid = some vmid) (hcr : '\r' ∉ a.script.toList) (s : net.files.Store) :
    net.files.wp (RunsOwn net a)
      (runOnQemu a.server.id node vmid a.script a.interpreter a.timeout) (fun _ _ => True) s := by
  refine wp_bind (wp_ask ⟨by simp [Network.runs], ?_⟩ fun o => ?_)
  · intro server node' vmid' interpreter payload timeout hc
    cases hc
    exact ⟨(normalizeNewlines_eq_iff a.script).mpr hcr, rfl, hn, hvmid⟩
  · dsimp only
    split <;> trivial

/-- A well placed execution that runs alone runs its own script where it is recorded. -/
theorem WellPlaced.wp_execute (h : WellPlaced net a) (s : net.files.Store) :
    net.files.wp (RunsOwn net a) (execute hash a) (fun _ _ => True) s := by
  refine wp_bind (wp_ask (runsOwn_of_no_run rfl (by simp)) fun o => ?_)
  dsimp only
  split
  · trivial
  · cases hd : a.destination with
    | host => exact wp_runOnNode (h.host hd) _
    | container vmid => exact wp_runOnLxc (ExecuteArgs.destination_container hd) _
    | machine node vmid =>
      obtain ⟨hn, hv⟩ := ExecuteArgs.destination_machine hd
      exact wp_runOnQemu hn hv (h.machine node vmid hd) _
    | nowhere e => trivial

end Alone

/-! ## Every interleaving -/

section Interleavings

variable {net : Network} {hash : String → Int} {ι : Type} [DecidableEq ι] {e : ι → ExecuteArgs}

/-- A removed file is one the command touches. -/
private theorem touches_of_removes {c : ScriptCall} {x : Place × String}
    (h : net.removes c = some x) : net.touches c x := by
  cases c <;> simp_all [Network.removes, Network.touches]

private theorem touches_of_runs {c : ScriptCall} {x : Place × String}
    (h : net.runs c = some x) : net.touches c x := by
  cases c <;> simp_all [Network.runs, Network.touches]

private theorem only_mono {P P' : ScriptCall → Prop} (hP : ∀ c, P c → P' c)
    {p : Script ExecResult} (hp : p.Only P) : p.Only P' := by
  induction p with
  | pure a => trivial
  | throw e => trivial
  | call c next ih => exact ⟨hP c hp.1, fun a => ih a (hp.2 a)⟩

omit [DecidableEq ι] in
/-- Executions that are separate do not disturb each other. -/
private theorem undisturbed_of_separate (hapart : ∀ i j, i ≠ j → Apart net hash (e i) (e j))
    {st : Executions net ι}
    (h : st.Separate (fun i => RunsOwn net (e i)) fun i => Footprint net hash (e i)) :
    Undisturbed net e st := by
  constructor
  · intro i c next hr
    exact (h.next hr).1
  · intro i c next hr x hx j hj
    refine only_mono (fun d hd hrun => ?_) (h.own j)
    have hi := (h.next hr).2 x (touches_of_removes hx)
    exact (hapart i j (Ne.symm hj)).footprint hi (hd x (touches_of_runs hrun))

/-- Well placed executions without a common file run their own scripts in every interleaving. -/
private theorem undisturbed_of_apart (hplaced : ∀ i, WellPlaced net (e i))
    (hapart : ∀ i j, i ≠ j → Apart net hash (e i) (e j)) (files : Place × String → Option String)
    (events : List (ι × Outcome)) :
    ∀ st ∈ visited SharedStore.Pool.step (started net hash e files) events,
      Undisturbed net e st := by
  have hstart : (started net hash e files).Separate (fun i => RunsOwn net (e i))
      fun i => Footprint net hash (e i) :=
    ⟨fun i => only_execute net hash (e i), fun i => (hplaced i).wp_execute files⟩
  intro st hst
  refine undisturbed_of_separate hapart (invariant_of_step ?_ hstart events st hst)
  exact SharedStore.Pool.Separate.step
    (fun i c s s' hF hs h => h.congr (fun x hx => hF x (touches_of_runs hx)) hs)
    (fun i j hij x hx => (hapart i j hij).footprint hx)

/-! ### Interleavings that disturb -/

/-- The environment in which every command succeeds. -/
def fine : Outcome := ⟨none, true, "", 0, none, ⟨true, "", "", 0, none⟩⟩

/-- An execution after its next call, when that succeeds. -/
def advance : Script ExecResult → Script ExecResult
  | .call c next => next (fine.answer c)
  | p => p

/-- A number of steps of one execution changes what is left of that one only. -/
private theorem rest_alone (st : Executions net ι) (i : ι) (n : Nat) :
    ((List.replicate n (i, fine)).foldl SharedStore.Pool.step st).rest =
      Function.update st.rest i (advance^[n] (st.rest i)) := by
  induction n generalizing st with
  | zero => simp
  | succ n ih =>
    have hone : (st.step (i, fine)).rest = Function.update st.rest i (advance (st.rest i)) := by
      cases hr : st.rest i with
      | call c next => exact congrArg _ (SharedStore.Pool.step_of_call hr fine)
      | pure a =>
        simp only [SharedStore.Pool.step, hr]
        exact (Function.update_eq_self_iff.mpr hr.symm).symm
      | throw e =>
        simp only [SharedStore.Pool.step, hr]
        exact (Function.update_eq_self_iff.mpr hr.symm).symm
    rw [List.replicate_succ, List.foldl_cons, ih, hone, Function.update_self, Function.update_idem,
      Function.iterate_succ_apply]

/-- Some visited state has one execution after `m` and another one after `n` of its steps. -/
private theorem exists_visited (net : Network) (hash : String → Int) (e : ι → ExecuteArgs)
    (files : Place × String → Option String) {i j : ι} (hij : i ≠ j)
    (m n : Nat) :
    ∃ events, ∃ st ∈ visited SharedStore.Pool.step (started net hash e files) events,
      st.rest i = advance^[m] (execute hash (e i)) ∧
        st.rest j = advance^[n] (execute hash (e j)) := by
  refine ⟨List.replicate m (i, fine) ++ List.replicate n (j, fine), _,
    foldl_mem_visited _ _ _, ?_, ?_⟩
  · rw [List.foldl_append, rest_alone, Function.update_of_ne hij, rest_alone, Function.update_self]
    rfl
  · rw [List.foldl_append, rest_alone, Function.update_self, rest_alone,
      Function.update_of_ne (Ne.symm hij)]
    rfl

section Steps

variable {a : ExecuteArgs}

private theorem advance_execute :
    advance (execute hash a) =
      match a.destination with
      | .host => runOnNode hash a.server a.script a.interpreter a.timeout a.second
      | .container vmid => runOnLxc a.server vmid a.script a.interpreter a.timeout a.second
      | .machine node vmid => runOnQemu a.server.id node vmid a.script a.interpreter a.timeout
      | .nowhere e => pure (failed e) := rfl

/-- A node script after its write. -/
private theorem about_to_run_node (hash : String → Int) (h : a.destination = .host) :
    ∃ next, advance^[3] (execute hash a) = .call (.execOnHost (sshHost a.server) a.interpreter
      (tmpName (scriptTag hash a.script) a.second) a.timeout) next := by
  rw [Function.iterate_succ_apply, advance_execute, h]
  exact ⟨_, rfl⟩

/-- A container script after its push. -/
private theorem about_to_run_ct (hash : String → Int) {vmid : Vmid} (h : a.destination = .container vmid) :
    ∃ next, advance^[4] (execute hash a) = .call (.execInCt (sshHost a.server) vmid a.interpreter
      (tmpCt vmid) a.timeout) next := by
  rw [Function.iterate_succ_apply, advance_execute, h]
  exact ⟨_, rfl⟩

/-- The clean-up of a container. -/
private theorem about_to_remove_ct (hash : String → Int) {vmid : Vmid}
    (h : a.destination = .container vmid) :
    ∃ next, advance^[6] (execute hash a) =
      .call (.removeInCt (sshHost a.server) vmid (tmpCt vmid)) next := by
  rw [Function.iterate_succ_apply, advance_execute, h]
  exact ⟨_, rfl⟩

/-- The clean-up of a node. -/
private theorem about_to_remove_node {n : Nat} (h : a.tag hash = some n) :
    ∃ k next, advance^[k] (execute hash a) =
      .call (.removeOnHost (sshHost a.server) (tmpName n a.second)) next := by
  unfold ExecuteArgs.tag at h
  split at h
  · rename_i hd
    cases h
    refine ⟨4, ?_⟩
    rw [Function.iterate_succ_apply, advance_execute, hd]
    exact ⟨_, rfl⟩
  · rename_i hd
    cases h
    refine ⟨5, ?_⟩
    rw [Function.iterate_succ_apply, advance_execute, hd]
    exact ⟨_, rfl⟩
  · exact absurd h (by simp)

/-- The call of the guest agent. -/
private theorem about_to_run_machine (hash : String → Int) {node : String} {vmid : Vmid}
    (h : a.destination = .machine node vmid) :
    ∃ next, advance^[1] (execute hash a) = .call (.agentExec a.server.id node vmid a.interpreter
      (String.ofList (normalizeNewlines a.script.toList)) a.timeout) next := by
  rw [Function.iterate_succ_apply, advance_execute, h]
  exact ⟨_, rfl⟩

end Steps

/-- Every interleaving from any files is undisturbed. -/
def NeverDisturbed (net : Network) (hash : String → Int) (e : ι → ExecuteArgs) : Prop :=
  ∀ files events, ∀ st ∈ visited SharedStore.Pool.step (started net hash e files) events,
    Undisturbed net e st

/-- No execution can reach the removal of a file another one can reach the run of. -/
private theorem NeverDisturbed.no_clash (h : NeverDisturbed net hash e) {i j : ι} (hij : i ≠ j)
    {m n : Nat} {c d : ScriptCall} {next next'} {x : Place × String}
    (hi : advance^[m] (execute hash (e i)) = .call c next)
    (hj : advance^[n] (execute hash (e j)) = .call d next')
    (hc : net.removes c = some x) (hd : net.runs d = some x) : False := by
  obtain ⟨events, st, hst, hri, hrj⟩ :=
    exists_visited net hash e (fun _ => none) hij m n
  have honly := (h _ _ st hst).cleanup i c next (hri.trans hi) x hc j (Ne.symm hij)
  rw [hrj, hj] at honly
  exact honly.1 hd

/-- A call an execution reaches when all its commands succeed runs its own script. -/
private theorem NeverDisturbed.runsOwn (h : NeverDisturbed net hash e) {i : ι} {m : Nat}
    {c : ScriptCall} {next} (hi : advance^[m] (execute hash (e i)) = .call c next) :
    ∃ s, RunsOwn net (e i) c s := by
  refine ⟨_, (h (fun _ => none) (List.replicate m (i, fine)) _
    (foldl_mem_visited _ _ _)).runs i c next ?_⟩
  rw [rest_alone, Function.update_self]
  exact hi

private theorem NeverDisturbed.wellPlaced (h : NeverDisturbed net hash e) (i : ι) :
    WellPlaced net (e i) := by
  constructor
  · intro hd n hn hne
    obtain ⟨next, hnext⟩ := about_to_run_node hash hd
    obtain ⟨s, hs⟩ := h.runsOwn hnext
    exact (hs.1 _ rfl).2 n hn hne
  · intro node vmid hd
    obtain ⟨next, hnext⟩ := about_to_run_machine hash hd
    obtain ⟨s, hs⟩ := h.runsOwn hnext
    exact (normalizeNewlines_eq_iff _).mp (hs.2 _ _ _ _ _ _ rfl).1

private theorem destination_of_container {a : ExecuteArgs} {vmid : Vmid}
    (h : a.container = some vmid) : a.destination = .container vmid := by
  unfold ExecuteArgs.container at h
  split at h
  · rename_i hd
    cases h
    exact hd
  · exact absurd h (by simp)

/-- What an execution with a node file runs. -/
private theorem destination_of_tag {a : ExecuteArgs} {n : Nat} (h : a.tag hash = some n) :
    a.destination = .host ∧ scriptTag hash a.script = n ∨ a.destination = .container n := by
  unfold ExecuteArgs.tag at h
  split at h
  · rename_i hd
    exact Or.inl ⟨hd, Option.some.inj h⟩
  · rename_i hd
    cases h
    exact Or.inr hd
  · exact absurd h (by simp)

private theorem NeverDisturbed.container_ne (h : NeverDisturbed net hash e) {i j : ι}
    (hij : i ≠ j)
    (hm : net.machineAt (sshHost (e i).server) = net.machineAt (sshHost (e j).server))
    {vmid : Vmid} (hi : (e i).destination = .container vmid) :
    (e j).destination ≠ .container vmid := by
  intro hj
  obtain ⟨next, hnext⟩ := about_to_remove_ct hash hi
  obtain ⟨next', hnext'⟩ := about_to_run_ct hash hj
  exact h.no_clash hij hnext hnext' rfl (by simp [Network.runs, Network.ctFile, hm])

private theorem NeverDisturbed.not_host (h : NeverDisturbed net hash e) {i j : ι} (hij : i ≠ j)
    (hm : net.machineAt (sshHost (e i).server) = net.machineAt (sshHost (e j).server)) {n : Nat}
    (hi : (e i).tag hash = some n) (hs : (e i).second = (e j).second)
    (hj : (e j).destination = .host) : scriptTag hash (e j).script ≠ n := by
  rintro rfl
  obtain ⟨k, next, hnext⟩ := about_to_remove_node hi
  obtain ⟨next', hnext'⟩ := about_to_run_node hash hj
  exact h.no_clash hij hnext hnext' rfl (by simp [Network.runs, Network.hostFile, hm, hs])

private theorem NeverDisturbed.apart (h : NeverDisturbed net hash e) {i j : ι} (hij : i ≠ j) :
    Apart net hash (e i) (e j) := by
  constructor
  · intro hm n hi hj hs
    rcases destination_of_tag hj with ⟨hd, ht⟩ | hd
    · exact h.not_host hij hm hi hs hd ht
    · rcases destination_of_tag hi with ⟨hd', ht'⟩ | hd'
      · exact h.not_host (Ne.symm hij) hm.symm hj hs.symm hd' ht'
      · exact h.container_ne hij hm hd' hd
  · intro hm vmid hi hj
    exact h.container_ne hij hm (destination_of_container hi) (destination_of_container hj)

/-- Executions never disturb each other exactly when each is well placed and no two of them share
a file. -/
theorem neverDisturbed_iff (net : Network) (hash : String → Int) (e : ι → ExecuteArgs) :
    NeverDisturbed net hash e ↔
      (∀ i, WellPlaced net (e i)) ∧ ∀ i j, i ≠ j → Apart net hash (e i) (e j) := by
  constructor
  · intro h
    exact ⟨h.wellPlaced, fun i j hij => h.apart hij⟩
  · rintro ⟨hplaced, hapart⟩ files events
    exact undisturbed_of_apart hplaced hapart files events

end Interleavings

/-! ## Two scripts for one container -/

/-- A server whose host is known by its address. -/
def scriptServer : ProxmoxServer where
  id := 1
  name := "pve"
  hostname := "pve"
  ipAddress := "10.0.0.1"
  port := 8006
  apiUser := "root@pam"
  apiTokenName := none
  apiTokenValue := none
  usePassword := true
  password := some "secret"
  verifySsl := false
  clusterName := none
  description := none
  isOnline := some true
  lastCheck := none
  lastError := none
  lastErrorKind := none

def scriptServers : KeyedTable ProxmoxServer.id := ⟨[scriptServer], by decide⟩

/-- Two executions in container 100, a minute apart. -/
def twoRuns (second : Bool) : ExecuteArgs where
  server := scriptServer
  targetType := "guest"
  node := some "pve"
  vmid := some 100
  vmType := some "lxc"
  script := if second then "reboot" else "uptime"
  interpreter := "/bin/sh"
  timeout := 60
  second := if second then 60 else 0

/-- After the second push the first execution runs the second one's script. -/
theorem twoRuns_disturbed :
    ¬NeverDisturbed ⟨fun _ => 0, fun _ _ => 0⟩ (fun _ => 0) twoRuns := by
  intro h
  have hst := h (fun _ => none) (List.replicate 4 (false, fine) ++ List.replicate 4 (true, fine)) _
    (foldl_mem_visited _ _ _)
  have hown := (hst.runs false _ _ rfl).1 _ rfl
  have hcontent := hown.1
  revert hcontent
  decide

end PveManager.Scripts
