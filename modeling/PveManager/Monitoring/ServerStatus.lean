import PveManager.Api.Servers
import PveManager.Core.Run

/-!
# The status of a server

The availability check, the status monitor, the connection test and an edit of a server all
write the three columns that say whether it answers. Each of them loads the row, probes the
server and commits, and a commit writes only the columns whose new value is not the loaded
one. The two monitors share their memory, which is written some time after the commit.
-/

namespace PveManager.Monitoring

open PveManager.Core PveManager.Api

/-! ### Rows and commits -/

/-- Why a server does not answer. -/
inductive ErrorKind
  | auth
  | connection
  deriving DecidableEq

def ErrorKind.text : ErrorKind → String
  | .auth => "auth"
  | .connection => "connection"

/-- A probe that failed, with what its writer says of it. -/
structure Failure where
  kind : ErrorKind
  text : String
  deriving DecidableEq

/-- The columns of a row that say whether the server answers. -/
structure Status where
  isOnline : Option Bool
  lastError : Option String
  lastErrorKind : Option String

/-- What a commit leaves in a column: a value that is the loaded one is not written. -/
def flushed {α : Type} [DecidableEq α] (loaded target stored : α) : α :=
  if target = loaded then stored else target

def Status.flush (loaded target stored : Status) : Status where
  isOnline := flushed loaded.isOnline target.isOnline stored.isOnline
  lastError := flushed loaded.lastError target.lastError stored.lastError
  lastErrorKind := flushed loaded.lastErrorKind target.lastErrorKind stored.lastErrorKind

end PveManager.Monitoring

namespace PveManager.ProxmoxServer

open PveManager.Monitoring

def status (s : ProxmoxServer) : Status := ⟨s.isOnline, s.lastError, s.lastErrorKind⟩

/-- Commit a loaded row with new values. -/
def flush (loaded target stored : ProxmoxServer) : ProxmoxServer :=
  { stored with
    isOnline := flushed loaded.isOnline target.isOnline stored.isOnline
    lastError := flushed loaded.lastError target.lastError stored.lastError
    lastErrorKind := flushed loaded.lastErrorKind target.lastErrorKind stored.lastErrorKind
    lastCheck := flushed loaded.lastCheck target.lastCheck stored.lastCheck }

theorem status_flush (loaded target stored : ProxmoxServer) :
    (loaded.flush target stored).status = loaded.status.flush target.status stored.status := rfl

end PveManager.ProxmoxServer

namespace PveManager.Monitoring

open PveManager.Core PveManager.Api

/-! ### The writers -/

/-- Who writes the status. -/
inductive StatusWriter
  /-- `run_server_availability_check`. -/
  | availability
  /-- `run_vm_status_monitoring`. -/
  | statusMonitor
  /-- `test_proxmox_connection`. -/
  | test
  /-- The check in `update_proxmox_server`, and the same in `create_proxmox_server`. -/
  | edit
  deriving DecidableEq

/-- How a probe ends. -/
inductive ProbeResult
  | up
  | down (kind : ErrorKind) (error : String)

/-- What a writer takes from its probe. -/
inductive Verdict
  /-- No credentials: nothing is written. -/
  | skipped
  | up
  | failed (f : Failure)

/-- `error or default`. -/
def orText (error default : String) : String := if error = "" then default else error

/-- What a writer says of a failure. -/
def StatusWriter.says (writer : StatusWriter) (hostname error : String) : String :=
  match writer with
  | .availability => String.ofList ((orText error "API not responding").toList.take 500)
  | .statusMonitor => orText error s!"Cannot connect to Proxmox server at {hostname}"
  | .test => "Failed to connect"
  | .edit => orText error "Failed to connect"

/-- A writer that has loaded the row and not committed yet. -/
structure ServerPass where
  writer : StatusWriter
  loaded : ProxmoxServer

/-- The monitors only log that a server has no credentials; the others record it. -/
def ServerPass.verdict (p : ServerPass) (result : ProbeResult) : Verdict :=
  if hasCredentials p.loaded then
    match result with
    | .up => .up
    | .down kind error => .failed ⟨kind, p.writer.says p.loaded.hostname error⟩
  else
    match p.writer with
    | .availability | .statusMonitor => .skipped
    | .test | .edit => .failed ⟨.connection, (Api.Servers.noCredentials p.loaded).str⟩

/-- `last_server_states` and `last_server_alerts` of a server. -/
structure StatusMemory where
  online : Option Bool
  alert : Option Time

/-- `_notify_server_offline` returns before it writes. -/
def StatusMemory.quiet (m : StatusMemory) (now : Time) : Bool :=
  m.alert.any fun last => decide (last ≠ 0 ∧ now < last + 600)

/-- The row of a failure. -/
def offline (loaded : ProxmoxServer) (f : Failure) (now : Time) : ProxmoxServer :=
  { loaded with
    isOnline := some false
    lastError := some f.text
    lastErrorKind := some f.kind.text
    lastCheck := some now }

/-- The values with which a writer commits. -/
def ServerPass.target (p : ServerPass) (m : StatusMemory) (now : Time) :
    Verdict → ProxmoxServer
  | .skipped => p.loaded
  | .up =>
    match p.writer with
    | .availability =>
      if p.loaded.isOnline ≠ some true ∨ m.online = some false then
        { p.loaded with
          isOnline := some true
          lastError := none
          lastErrorKind := none
          lastCheck := some now }
      else p.loaded
    | .statusMonitor =>
      { p.loaded with
        isOnline := some true
        lastError := none
        lastCheck := some now }
    | .test => p.loaded.updateStatus now true none none
    | .edit => p.loaded.updateStatus now true none none
  | .failed f =>
    match p.writer with
    | .availability => offline p.loaded f now
    | .statusMonitor => if m.quiet now then p.loaded else offline p.loaded f now
    | .test => p.loaded.updateStatus now false (some f.text) none
    | .edit => p.loaded.updateStatus now false (some f.text) (some f.kind.text)

/-- What a monitor still does to the memory after its commit. -/
inductive Aftermath
  /-- The availability check found the server up; an alert is forgotten when it was down. -/
  | recovered (wasOffline : Bool)
  | missed (wasOnline : Bool) (now : Time)
  /-- The status monitor found the server up. -/
  | seen
  | lost

def ServerPass.aftermath (p : ServerPass) (m : StatusMemory) (now : Time) : Verdict → List Aftermath
  | .skipped => []
  | .up =>
    match p.writer with
    | .availability => [.recovered (decide (m.online = some false))]
    | .statusMonitor => [.seen]
    | .test | .edit => []
  | .failed _ =>
    match p.writer with
    | .availability => [.missed (m.online.getD true) now]
    | .statusMonitor => if m.quiet now then [] else [.lost]
    | .test | .edit => []

def StatusMemory.settle (m : StatusMemory) (now : Time) : Aftermath → StatusMemory
  | .recovered wasOffline => ⟨some true, if wasOffline then none else m.alert⟩
  | .missed wasOnline time =>
    ⟨some false, if wasOnline || decide (m.alert.getD 0 + 600 ≤ time) then some time else m.alert⟩
  | .seen => ⟨some true, m.alert⟩
  | .lost => ⟨some false, some now⟩

/-! ### The system -/

/-- The row of a server, the memory of the monitors, what is under way, and the probe that failed
last. -/
structure StatusState where
  row : ProxmoxServer
  memory : StatusMemory
  passes : List ServerPass
  aftermaths : List Aftermath
  latest : Option Failure

/-- An edit leaves the status alone. -/
structure ServerEdit where
  apply : ProxmoxServer → ProxmoxServer
  keeps : ∀ s, (apply s).status = s.status

inductive StatusEvent
  | load (writer : StatusWriter)
  /-- The probe of a pass has ended, and what it says is committed. -/
  | conclude (i : Nat) (result : ProbeResult) (now : Time)
  | settle (i : Nat) (now : Time)
  | edit (u : ServerEdit)
  /-- A new process with an empty memory. -/
  | restart

/-- The probe that failed last, after a verdict. -/
def Verdict.latest (latest : Option Failure) : Verdict → Option Failure
  | .failed f => some f
  | .skipped => latest
  | .up => latest

namespace StatusState

variable (s : StatusState)

def conclude (p : ServerPass) (result : ProbeResult) (now : Time) : StatusState :=
  let verdict := p.verdict result
  { s with
    row := p.loaded.flush (p.target s.memory now verdict) s.row
    aftermaths := s.aftermaths ++ p.aftermath s.memory now verdict
    latest := verdict.latest s.latest }

def step : StatusEvent → StatusState
  | .load writer => { s with passes := s.passes ++ [⟨writer, s.row⟩] }
  | .conclude i result now =>
    match s.passes[i]? with
    | none => s
    | some p => { s.conclude p result now with passes := s.passes.eraseIdx i }
  | .settle i now =>
    match s.aftermaths[i]? with
    | none => s
    | some a =>
      { s with
        memory := s.memory.settle now a
        aftermaths := s.aftermaths.eraseIdx i }
  | .edit u => { s with row := u.apply s.row }
  | .restart =>
    { s with
      memory := ⟨none, none⟩
      passes := []
      aftermaths := [] }

end StatusState

/-! ### Coherence -/

/-- The columns are about this failure. -/
def Status.Describes (st : Status) (f : Failure) : Prop :=
  st.lastError = some f.text ∧ st.lastErrorKind = some f.kind.text

/-- A server that is online has no error, and the error of one that is offline is the latest. -/
structure Status.Coherent (st : Status) (latest : Option Failure) : Prop where
  online : st.isOnline = some true → st.lastError = none ∧ st.lastErrorKind = none
  offline : st.isOnline = some false → ∃ f, latest = some f ∧ st.Describes f

def StatusState.Coherent (s : StatusState) : Prop := s.row.status.Coherent s.latest

/-! ### The condition -/

/-- A pass that found the server up does not meet a row that says it is down, unless it had loaded
a row that it clears completely, or nothing to write. -/
def ServerPass.Clears (p : ServerPass) (row : ProxmoxServer) : Prop :=
  row.isOnline = some false →
    if p.writer = .statusMonitor then p.loaded.isOnline = some true else p.loaded.isOnline ≠ none

/-- The kind that a writer records; the connection test does not tell the kinds apart. -/
def StatusWriter.recorded (writer : StatusWriter) (kind : ErrorKind) : ErrorKind :=
  if writer = .test then .connection else kind

/-- The failure is described by what is written together with what is not: a column that had been
loaded with the same value is left as the row has it. -/
def Status.Marks (loaded row : Status) (f : Failure) (kind : ErrorKind) : Prop :=
  if loaded.isOnline = some false then
    (row.isOnline = some true →
      loaded.lastError = some f.text ∧ loaded.lastErrorKind = some kind.text) ∧
    (row.isOnline = some false →
      (loaded.lastError = some f.text → row.lastError = some f.text) ∧
        (if loaded.lastErrorKind = some kind.text then row.lastErrorKind = some f.kind.text
          else kind = f.kind))
  else kind = f.kind

/-- What a pass commits is right for the row it meets. -/
def ServerPass.Records (p : ServerPass) (m : StatusMemory) (row : ProxmoxServer) (now : Time) :
    Verdict → Prop
  | .skipped => True
  | .up => p.Clears row
  | .failed f =>
    if p.writer = .statusMonitor ∧ m.quiet now = true then
      row.isOnline = some false → row.status.Describes f
    else p.loaded.status.Marks row.status f (p.writer.recorded f.kind)

/-- Every pass that ends records what it has found. -/
def StatusState.Recorded (s : StatusState) : StatusEvent → Prop
  | .conclude i result now => ∀ p, s.passes[i]? = some p →
      p.Records s.memory s.row now (p.verdict result)
  | _ => True

/-! ### One commit -/

section Commit

variable {loaded row : Status} {latest : Option Failure} {f : Failure} {kind : ErrorKind}

/-- A status as the writers leave it. -/
structure Status.Shaped (st : Status) : Prop where
  unprobed : st.isOnline = none → st.lastError = none ∧ st.lastErrorKind = none
  online : st.isOnline = some true → st.lastError = none ∧ st.lastErrorKind = none
  offline : st.isOnline = some false → ∃ f, st.Describes f

theorem ErrorKind.text_inj {kind kind' : ErrorKind} (h : kind.text = kind'.text) : kind = kind' := by
  cases kind with
  | auth =>
    cases kind' with
    | auth => rfl
    | connection => exact absurd h (by decide)
  | connection =>
    cases kind' with
    | auth => exact absurd h (by decide)
    | connection => rfl

@[simp] theorem flushed_self {α : Type} [DecidableEq α] (loaded stored : α) :
    flushed loaded loaded stored = stored := if_pos rfl

theorem flushed_of_ne {α : Type} [DecidableEq α] {loaded target : α} (h : target ≠ loaded)
    (stored : α) : flushed loaded target stored = target := if_neg h

theorem Status.Shaped.of_coherent (h : row.Coherent latest)
    (hnone : row.isOnline = none → row.lastError = none ∧ row.lastErrorKind = none) :
    row.Shaped := by
  refine ⟨hnone, h.online, fun hdown => ?_⟩
  obtain ⟨f, -, hf⟩ := h.offline hdown
  exact ⟨f, hf⟩

/-- Only a server that is down has an error. -/
theorem Status.Shaped.clear (h : row.Shaped) (hdown : row.isOnline ≠ some false) :
    row.lastError = none ∧ row.lastErrorKind = none := by
  cases hrow : row.isOnline with
  | none => exact h.unprobed hrow
  | some b =>
    cases b with
    | true => exact h.online hrow
    | false => exact absurd hrow hdown

/-- Both columns of a server that is down are set. -/
theorem Status.Shaped.set (h : row.Shaped) (hdown : row.isOnline = some false) :
    row.lastError ≠ none ∧ row.lastErrorKind ≠ none := by
  obtain ⟨f, htext, hkind⟩ := h.offline hdown
  rw [htext, hkind]
  exact ⟨Option.some_ne_none _, Option.some_ne_none _⟩

/-- An online row is coherent when it has no error. -/
theorem Status.coherent_online_iff (h : row.isOnline = some true) :
    row.Coherent latest ↔ row.lastError = none ∧ row.lastErrorKind = none := by
  refine ⟨fun hc => hc.online h, fun hnone => ⟨fun _ => hnone, fun hdown => ?_⟩⟩
  rw [h] at hdown
  exact absurd hdown (by decide)

/-- An offline row is coherent when it describes the failure. -/
theorem Status.coherent_offline_iff (h : row.isOnline = some false) :
    row.Coherent (some f) ↔ row.Describes f := by
  constructor
  · intro hc
    obtain ⟨f', hf', hdescribes⟩ := hc.offline h
    rw [Option.some_inj.mp hf']
    exact hdescribes
  · refine fun hf => ⟨fun hup => ?_, fun _ => ⟨f, rfl, hf⟩⟩
    rw [h] at hup
    exact absurd hup (by decide)

/-- A row that is not written is coherent with a new failure when it describes it. -/
theorem Status.coherent_some_iff (hrow : row.Coherent latest) :
    row.Coherent (some f) ↔ (row.isOnline = some false → row.Describes f) := by
  constructor
  · exact fun h hdown => (Status.coherent_offline_iff hdown).mp h
  · exact fun h => ⟨hrow.online, fun hdown => ⟨f, rfl, h hdown⟩⟩

@[simp] theorem Status.flush_self (loaded row : Status) : loaded.flush loaded row = row := by
  unfold Status.flush
  rw [flushed_self, flushed_self, flushed_self]

/-- A commit that changes the column leaves its value there. -/
theorem Status.isOnline_flush_of_ne {target : Status} (h : target.isOnline ≠ loaded.isOnline) :
    (loaded.flush target row).isOnline = target.isOnline := flushed_of_ne h _

/-- A row that is not down stays clear when its errors are not written. -/
theorem Status.clear_iff (hrow : row.Shaped) {P : Prop} (hP : ¬P) :
    (row.lastError = none ∧ row.lastErrorKind = none) ↔ (row.isOnline = some false → P) := by
  constructor
  · exact fun h hdown => absurd h.1 (hrow.set hdown).1
  · exact fun h => hrow.clear fun hdown => hP (h hdown)

/-- A writer that clears the errors says that the server is up. -/
theorem Status.coherent_flush_clear_iff (hloaded : loaded.Shaped) (hshaped : row.Shaped)
    (hrow : row.Coherent latest) :
    (loaded.flush ⟨some true, none, none⟩ row).Coherent latest ↔
      (row.isOnline = some false → loaded.isOnline ≠ none) := by
  cases hup : loaded.isOnline with
  | none =>
    obtain ⟨htext, hkind⟩ := hloaded.unprobed hup
    have hflush : loaded.flush ⟨some true, none, none⟩ row =
        ⟨some true, row.lastError, row.lastErrorKind⟩ := by
      unfold Status.flush
      rw [hup, htext, hkind, flushed_self, flushed_self, flushed_of_ne (by decide)]
    rw [hflush, Status.coherent_online_iff rfl]
    exact Status.clear_iff hshaped fun h => h rfl
  | some b =>
    refine iff_of_true ?_ fun _ => Option.some_ne_none b
    cases b with
    | true =>
      obtain ⟨htext, hkind⟩ := hloaded.online hup
      have hflush : loaded.flush ⟨some true, none, none⟩ row = row := by
        unfold Status.flush
        rw [hup, htext, hkind, flushed_self, flushed_self, flushed_self]
      rw [hflush]
      exact hrow
    | false =>
      obtain ⟨htext, hkind⟩ := hloaded.set hup
      have hflush : loaded.flush ⟨some true, none, none⟩ row = ⟨some true, none, none⟩ := by
        unfold Status.flush
        rw [hup, flushed_of_ne (by decide), flushed_of_ne htext.symm, flushed_of_ne hkind.symm]
      rw [hflush, Status.coherent_online_iff rfl]
      exact ⟨rfl, rfl⟩

/-- A writer that leaves the kind of the error says that the server is up. -/
theorem Status.coherent_flush_seen_iff (hloaded : loaded.Shaped) (hshaped : row.Shaped)
    (hrow : row.Coherent latest) :
    (loaded.flush ⟨some true, none, loaded.lastErrorKind⟩ row).Coherent latest ↔
      (row.isOnline = some false → loaded.isOnline = some true) := by
  cases hup : loaded.isOnline with
  | none =>
    have hflush : loaded.flush ⟨some true, none, loaded.lastErrorKind⟩ row =
        ⟨some true, row.lastError, row.lastErrorKind⟩ := by
      unfold Status.flush
      rw [hup, (hloaded.unprobed hup).1, flushed_self, flushed_self,
        flushed_of_ne (Option.some_ne_none true)]
    rw [hflush, Status.coherent_online_iff rfl]
    exact Status.clear_iff hshaped fun h => absurd h (by decide)
  | some b =>
    cases b with
    | true =>
      have hflush : loaded.flush ⟨some true, none, loaded.lastErrorKind⟩ row = row := by
        unfold Status.flush
        rw [hup, (hloaded.online hup).1, flushed_self, flushed_self, flushed_self]
      rw [hflush]
      exact iff_of_true hrow fun _ => rfl
    | false =>
      have hflush : loaded.flush ⟨some true, none, loaded.lastErrorKind⟩ row =
          ⟨some true, none, row.lastErrorKind⟩ := by
        unfold Status.flush
        rw [hup, flushed_self, flushed_of_ne (by simp), flushed_of_ne (hloaded.set hup).1.symm]
      rw [hflush, Status.coherent_online_iff rfl]
      constructor
      · exact fun h hdown => absurd h.2 (hshaped.set hdown).2
      · exact fun h => ⟨rfl, (hshaped.clear fun hdown => absurd (h hdown) (by decide)).2⟩

/-- What a column says after a commit of a value. -/
theorem flushed_eq_iff {α : Type} [DecidableEq α] {loaded target stored value : α} :
    flushed loaded target stored = value ↔ if loaded = target then stored = value
      else target = value := by
  unfold flushed
  by_cases h : loaded = target
  · rw [if_pos h, if_pos h.symm]
  · rw [if_neg h, if_neg (Ne.symm h)]

/-- A writer records a failure. -/
theorem Status.coherent_flush_failed_iff (hloaded : loaded.Shaped) (hrow : row.Coherent latest)
    (hprobed : loaded.isOnline ≠ none → row.isOnline ≠ none) :
    (loaded.flush ⟨some false, some f.text, some kind.text⟩ row).Coherent (some f) ↔
      loaded.Marks row f kind := by
  have hkind : some kind.text = some f.kind.text ↔ kind = f.kind :=
    ⟨fun h => ErrorKind.text_inj (Option.some_inj.mp h), fun h => h ▸ rfl⟩
  unfold Status.Marks
  by_cases hdown : loaded.isOnline = some false
  · rw [if_pos hdown]
    have honline : (loaded.flush ⟨some false, some f.text, some kind.text⟩ row).isOnline =
        row.isOnline := by
      unfold Status.flush
      dsimp only
      rw [hdown, flushed_self]
    cases hup : row.isOnline with
    | none => exact absurd hup (hprobed (hdown ▸ Option.some_ne_none false))
    | some b =>
      rw [hup] at honline
      cases b with
      | true =>
        obtain ⟨htext, hkindNone⟩ := hrow.online hup
        rw [Status.coherent_online_iff honline]
        unfold Status.flush
        dsimp only
        rw [flushed_eq_iff, flushed_eq_iff, htext, hkindNone]
        simp
      | false =>
        rw [Status.coherent_offline_iff honline]
        unfold Status.Describes Status.flush
        dsimp only
        rw [flushed_eq_iff, flushed_eq_iff, hkind]
        simp
  · rw [if_neg hdown]
    obtain ⟨htext, hkindNone⟩ := hloaded.clear hdown
    have hflush : loaded.flush ⟨some false, some f.text, some kind.text⟩ row =
        ⟨some false, some f.text, some kind.text⟩ := by
      unfold Status.flush
      rw [htext, hkindNone, flushed_of_ne (Ne.symm hdown), flushed_of_ne (Option.some_ne_none _),
        flushed_of_ne (Option.some_ne_none _)]
    rw [hflush, Status.coherent_offline_iff rfl]
    exact (and_iff_right rfl).trans hkind

end Commit

/-! ### One pass -/

section Pass

variable {p : ServerPass} {m : StatusMemory} {now : Time} {f : Failure}

theorem orText_ne {error default : String} (h : default ≠ "") : orText error default ≠ "" := by
  unfold orText
  split
  · exact h
  · assumption

/-- The answer to a request that is refused has a text. -/
theorem str_noCredentials_ne (s : ProxmoxServer) : (Api.Servers.noCredentials s).str ≠ "" := by
  intro h
  have hlength := congrArg String.length h
  unfold Api.Servers.noCredentials Exc.str at hlength
  simp at hlength

/-- The connection test and the edit always say something. -/
theorem ServerPass.text_ne {result : ProbeResult} (hwriter : p.writer = .test ∨ p.writer = .edit)
    (h : p.verdict result = .failed f) : f.text ≠ "" := by
  unfold ServerPass.verdict at h
  split at h
  · cases result with
    | up => cases h
    | down kind error =>
      cases h
      rcases hwriter with hw | hw
      · rw [hw]
        show "Failed to connect" ≠ ""
        decide
      · rw [hw]
        exact orText_ne (by decide)
  · rcases hwriter with hw | hw
    · rw [hw] at h
      cases h
      exact str_noCredentials_ne p.loaded
    · rw [hw] at h
      cases h
      exact str_noCredentials_ne p.loaded

theorem status_updateStatus_false {s : ProxmoxServer} {error : String} (h : error ≠ "")
    (kind : Option String) : (s.updateStatus now false (some error) kind).status =
      ⟨some false, some error,
        some (if truthy kind then kind.getD "" else "connection")⟩ := by
  have htruthy : truthy (some error) = true := decide_eq_true h
  unfold ProxmoxServer.updateStatus
  rw [if_pos htruthy]
  rfl

theorem truthy_text (kind : ErrorKind) : truthy (some kind.text) = true := by
  cases kind <;> decide

/-- The status that a pass commits after a success. -/
theorem ServerPass.status_target_up :
    (p.target m now .up).status =
      if p.writer = .statusMonitor then ⟨some true, none, p.loaded.status.lastErrorKind⟩
      else if p.writer = .availability ∧ p.loaded.isOnline = some true ∧ m.online ≠ some false then
        p.loaded.status
      else ⟨some true, none, none⟩ := by
  unfold ServerPass.target
  cases p.writer with
  | availability =>
    by_cases h : p.loaded.isOnline ≠ some true ∨ m.online = some false
    · have hnot : ¬(p.loaded.isOnline = some true ∧ m.online ≠ some false) := by
        rintro ⟨hup, hseen⟩
        rcases h with h | h
        · exact h hup
        · exact hseen h
      simp only [if_pos h, hnot, and_false, reduceCtorEq, if_false]
      rfl
    · obtain ⟨hup, hseen⟩ := not_or.mp h
      dsimp only
      rw [if_neg h, if_neg (by decide), if_pos ⟨rfl, not_not.mp hup, hseen⟩]
  | statusMonitor => rfl
  | test => rfl
  | edit => rfl

/-- The status that a pass commits after a failure. -/
theorem ServerPass.status_target_failed {result : ProbeResult} (h : p.verdict result = .failed f) :
    (p.target m now (.failed f)).status =
      if p.writer = .statusMonitor ∧ m.quiet now = true then p.loaded.status
      else ⟨some false, some f.text, some (p.writer.recorded f.kind).text⟩ := by
  unfold ServerPass.target
  cases hw : p.writer with
  | availability => rfl
  | statusMonitor =>
    by_cases hquiet : m.quiet now = true
    · simp only [hquiet, and_self, if_true]
    · simp only [hquiet]
      rfl
  | test =>
    have htext := ServerPass.text_ne (Or.inl hw) h
    exact status_updateStatus_false htext none
  | edit =>
    have htext := ServerPass.text_ne (Or.inr hw) h
    refine (status_updateStatus_false htext (some f.kind.text)).trans ?_
    rw [truthy_text]
    rfl

/-- A success is recorded when the pass clears the row that it meets. -/
theorem ServerPass.coherent_flush_up_iff {row : Status} {latest : Option Failure}
    (hloaded : p.loaded.status.Shaped) (hshaped : row.Shaped) (hrow : row.Coherent latest) :
    (p.loaded.status.flush (p.target m now .up).status row).Coherent latest ↔
      (row.isOnline = some false →
        if p.writer = .statusMonitor then p.loaded.isOnline = some true
        else p.loaded.isOnline ≠ none) := by
  rw [ServerPass.status_target_up]
  by_cases hw : p.writer = .statusMonitor
  · rw [if_pos hw, if_pos hw]
    exact Status.coherent_flush_seen_iff hloaded hshaped hrow
  · rw [if_neg hw, if_neg hw]
    split
    · next hquiet =>
      rw [Status.flush_self]
      exact iff_of_true hrow fun _ => hquiet.2.1 ▸ Option.some_ne_none true
    · exact Status.coherent_flush_clear_iff hloaded hshaped hrow

/-- A failure is recorded when its text and kind end up in the row. -/
theorem ServerPass.coherent_flush_failed_iff {row : Status} {latest : Option Failure}
    {result : ProbeResult} (h : p.verdict result = .failed f) (hloaded : p.loaded.status.Shaped)
    (hrow : row.Coherent latest) (hprobed : p.loaded.isOnline ≠ none → row.isOnline ≠ none) :
    (p.loaded.status.flush (p.target m now (.failed f)).status row).Coherent (some f) ↔
      if p.writer = .statusMonitor ∧ m.quiet now = true then
        row.isOnline = some false → row.Describes f
      else p.loaded.status.Marks row f (p.writer.recorded f.kind) := by
  rw [ServerPass.status_target_failed h]
  split
  · rw [Status.flush_self]
    exact Status.coherent_some_iff hrow
  · exact Status.coherent_flush_failed_iff hloaded hrow hprobed

/-- A pass writes nothing, or it has found out whether the server is up. -/
theorem ServerPass.target_eq_or (p : ServerPass) (m : StatusMemory) (now : Time)
    (verdict : Verdict) :
    p.target m now verdict = p.loaded ∨ (p.target m now verdict).isOnline ≠ none := by
  unfold ServerPass.target
  cases verdict with
  | skipped => exact Or.inl rfl
  | up =>
    cases p.writer with
    | availability =>
      dsimp only
      split
      · exact Or.inr (Option.some_ne_none true)
      · exact Or.inl rfl
    | statusMonitor => exact Or.inr (Option.some_ne_none true)
    | test => exact Or.inr (Option.some_ne_none true)
    | edit => exact Or.inr (Option.some_ne_none true)
  | failed f =>
    cases p.writer with
    | availability => exact Or.inr (Option.some_ne_none false)
    | statusMonitor =>
      dsimp only
      split
      · exact Or.inl rfl
      · exact Or.inr (Option.some_ne_none false)
    | test => exact Or.inr (by simp)
    | edit => exact Or.inr (by simp)

/-- A commit leaves the row alone, or the row of a server that was probed. -/
theorem ServerPass.flush_eq_or (p : ServerPass) (m : StatusMemory) (now : Time) (row : Status)
    (verdict : Verdict)
    (hprobed : p.loaded.isOnline ≠ none → row.isOnline ≠ none) :
    p.loaded.status.flush (p.target m now verdict).status row = row ∨
      (p.loaded.status.flush (p.target m now verdict).status row).isOnline ≠ none := by
  rcases p.target_eq_or m now verdict with h | h
  · left
    rw [h, Status.flush_self]
  · right
    by_cases heq : (p.target m now verdict).status.isOnline = p.loaded.status.isOnline
    · have hrow : row.isOnline ≠ none := hprobed fun hnone => h (heq.trans hnone)
      unfold Status.flush
      dsimp only
      rw [heq, flushed_self]
      exact hrow
    · rw [Status.isOnline_flush_of_ne heq]
      exact h

end Pass

/-! ### Runs -/

/-- A coherent state in which a row without a probe has no error, and every pass under way has
loaded such a row. -/
structure StatusState.Kept (s : StatusState) : Prop where
  coherent : s.Coherent
  unprobed : s.row.isOnline = none → s.row.lastError = none ∧ s.row.lastErrorKind = none
  loaded : ∀ p ∈ s.passes, p.loaded.status.Shaped
  probed : ∀ p ∈ s.passes, p.loaded.isOnline ≠ none → s.row.isOnline ≠ none

section Runs

variable {s : StatusState} {e : StatusEvent}

theorem StatusState.Kept.shaped (h : s.Kept) : s.row.status.Shaped :=
  Status.Shaped.of_coherent h.coherent h.unprobed

/-- A pass that ends leaves a coherent row when it records what it has found. -/
theorem StatusState.coherent_conclude_iff {p : ServerPass} (h : s.Kept) (hp : p ∈ s.passes)
    (result : ProbeResult) (now : Time) :
    (s.conclude p result now).Coherent ↔
      p.Records s.memory s.row now (p.verdict result) := by
  have hloaded := h.loaded p hp
  have hprobed := h.probed p hp
  unfold StatusState.Coherent StatusState.conclude
  dsimp only
  rw [ProxmoxServer.status_flush]
  cases hv : p.verdict result with
  | skipped =>
    refine iff_of_true ?_ trivial
    show (p.loaded.status.flush p.loaded.status s.row.status).Coherent s.latest
    rw [Status.flush_self]
    exact h.coherent
  | up => exact ServerPass.coherent_flush_up_iff hloaded h.shaped h.coherent
  | failed f => exact ServerPass.coherent_flush_failed_iff hv hloaded h.coherent hprobed

/-- What a commit keeps when it leaves a coherent row. -/
theorem StatusState.Kept.conclude {p : ServerPass} (h : s.Kept) (hp : p ∈ s.passes)
    {result : ProbeResult} {now : Time} (hc : (s.conclude p result now).Coherent) (i : Nat) :
    { s.conclude p result now with passes := s.passes.eraseIdx i }.Kept := by
  have hsub : ∀ p ∈ s.passes.eraseIdx i, p ∈ s.passes :=
    fun p hp => (List.eraseIdx_sublist s.passes i).mem hp
  have hflush := p.flush_eq_or s.memory now s.row.status (p.verdict result) (h.probed p hp)
  rw [← ProxmoxServer.status_flush] at hflush
  refine ⟨hc, fun hnone => ?_, fun q hq => h.loaded q (hsub q hq), fun q hq hq' => ?_⟩
  · rcases hflush with hsame | hset
    · have hrow := congrArg Status.isOnline hsame
      have hclear := h.unprobed (hrow.symm.trans hnone)
      exact ⟨(congrArg Status.lastError hsame).trans hclear.1,
        (congrArg Status.lastErrorKind hsame).trans hclear.2⟩
    · exact absurd hnone hset
  · rcases hflush with hsame | hset
    · intro hnone
      exact h.probed q (hsub q hq) hq' ((congrArg Status.isOnline hsame).symm.trans hnone)
    · exact hset

/-- One step leaves a coherent status exactly when a pass that ends records what it has found. -/
theorem StatusState.coherent_step_iff (h : s.Kept) (e : StatusEvent) :
    (s.step e).Coherent ↔ s.Recorded e := by
  cases e with
  | load writer => exact iff_of_true h.coherent trivial
  | conclude i result now =>
    unfold StatusState.step StatusState.Recorded
    dsimp only
    cases hi : s.passes[i]? with
    | none => exact iff_of_true h.coherent fun p hp => absurd hp.symm (Option.some_ne_none p)
    | some p =>
      have hiff := StatusState.coherent_conclude_iff h (List.mem_of_getElem? hi) result now
      constructor
      · rintro hc q hq
        rw [← Option.some_inj.mp hq]
        exact hiff.mp hc
      · exact fun hr => hiff.mpr (hr p rfl)
  | settle i now =>
    unfold StatusState.step
    dsimp only
    cases s.aftermaths[i]? with
    | none => exact iff_of_true h.coherent trivial
    | some a => exact iff_of_true h.coherent trivial
  | edit u =>
    refine iff_of_true ?_ trivial
    show (u.apply s.row).status.Coherent s.latest
    rw [u.keeps]
    exact h.coherent
  | restart => exact iff_of_true h.coherent trivial

/-- What a step keeps when it leaves a coherent status. -/
theorem StatusState.Kept.step (h : s.Kept) (e : StatusEvent) (hc : (s.step e).Coherent) :
    (s.step e).Kept := by
  cases e with
  | load writer =>
    refine ⟨hc, h.unprobed, fun p hp => ?_, fun p hp => ?_⟩
    · rcases List.mem_append.mp hp with hp | hp
      · exact h.loaded p hp
      · rw [List.mem_singleton.mp hp]
        exact h.shaped
    · rcases List.mem_append.mp hp with hp | hp
      · exact h.probed p hp
      · rw [List.mem_singleton.mp hp]
        exact id
  | conclude i result now =>
    unfold StatusState.step at hc ⊢
    dsimp only at hc ⊢
    cases hi : s.passes[i]? with
    | none => exact h
    | some p =>
      rw [hi] at hc
      exact h.conclude (List.mem_of_getElem? hi) hc i
  | settle i now =>
    unfold StatusState.step
    dsimp only
    cases s.aftermaths[i]? with
    | none => exact h
    | some a => exact ⟨h.coherent, h.unprobed, h.loaded, h.probed⟩
  | edit u =>
    have hrow := u.keeps s.row
    have honline := congrArg Status.isOnline hrow
    refine ⟨hc, fun hnone => ?_, h.loaded, fun p hp hp' hnone => ?_⟩
    · have hclear := h.unprobed (honline.symm.trans hnone)
      exact ⟨(congrArg Status.lastError hrow).trans hclear.1,
        (congrArg Status.lastErrorKind hrow).trans hclear.2⟩
    · exact h.probed p hp hp' (honline.symm.trans hnone)
  | restart =>
    exact ⟨hc, h.unprobed, fun p hp => absurd hp List.not_mem_nil,
      fun p hp => absurd hp List.not_mem_nil⟩

end Runs

/-- A server that has just been stored: no check, no memory of it. -/
def StatusState.fresh (row : ProxmoxServer) : StatusState :=
  ⟨{ row with
      isOnline := none
      lastError := none
      lastErrorKind := none }, ⟨none, none⟩, [], [], none⟩

theorem StatusState.kept_fresh (row : ProxmoxServer) : (StatusState.fresh row).Kept where
  coherent := ⟨fun h => absurd h.symm (Option.some_ne_none true),
    fun h => absurd h.symm (Option.some_ne_none false)⟩
  unprobed := fun _ => ⟨rfl, rfl⟩
  loaded := fun _ h => absurd h List.not_mem_nil
  probed := fun _ h => absurd h List.not_mem_nil

def probedServer : ProxmoxServer :=
  ⟨1, "pve", "pve", "192.0.2.1", 8006, "root@pam", some "panel", some "secret", false, none, false,
    none, none, none, none, none, none⟩

/-- The availability check is refused, then the status monitor finds the server up. -/
def refusedThenSeen : List StatusEvent :=
  [.load .availability, .conclude 0 (.down .auth "401 Unauthorized") 100,
    .load .statusMonitor, .conclude 0 .up 130]

end PveManager.Monitoring
