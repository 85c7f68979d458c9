import PveManager.Core.Run
import PveManager.Security.Guessing

/-!
# Runs of logins

Requests come one after the other, each some time after the one before. The failures of an account
since they were last forgotten are no more than its counter, and from the last allowed one on each of
them locks the account. Every failure of a source has a row that the brute force check counts.
-/

namespace PveManager.Security

open PveManager.Core PveManager.Users

/-! ### Runs -/

inductive LoginAction
  | login (r : LoginRequest)
  /-- A reset by hand, with the password that it may set. -/
  | clear (username : String) (newPassword : Option String)

structure LoginEvent where
  /-- The time since the last event. -/
  wait : Time
  action : LoginAction

structure LoginState where
  now : Time
  tables : LoginTables
  /-- What has happened in the run. -/
  history : List Happening

/-- `unlock_user`, and the two resets of a password. -/
def LoginState.clear (s : LoginState) (now : Time) (username : String)
    (newPassword : Option String) : LoginState :=
  match s.tables.users.find? username with
  | none => { s with now := now }
  | some a =>
    let row := { resetFailedAttempts a with
      hashedPassword := newPassword.getD a.hashedPassword }
    { now := now
      tables := { s.tables with users := s.tables.users.save row }
      history := s.history ++ [.cleared username] }

def Site.step (site : Site) (s : LoginState) (e : LoginEvent) : LoginState :=
  let now := s.now + e.wait
  match e.action with
  | .login r =>
    let out := site.login now s.tables r
    ⟨now, out.tables, s.history ++ out.happenings⟩
  | .clear username newPassword => s.clear now username newPassword

/-! ### What is bounded -/

/-- The failures of the account after what happens next. -/
def failureStep (username : String) (times : List Time) : Happening → List Time
  | .checked _ account _ false time => if account = username then times ++ [time] else times
  | .checked _ _ _ true _ => times
  | .cleared account => if account = username then [] else times

/-- The times of the failing checks of the account since its failures were last forgotten. -/
def failuresOf (username : String) (history : List Happening) : List Time :=
  history.foldl (failureStep username) []

/-- The time of a failing check for the source. -/
def Happening.failedFrom (ip : String) : Happening → Option Time
  | .checked _ _ source false time => if source = ip then some time else none
  | _ => none

/-- The times of the failing checks for the source. -/
def failuresFrom (ip : String) (history : List Happening) : List Time :=
  history.filterMap (Happening.failedFrom ip)

/-- A credential of the account is checked. -/
def Happening.checks (username : String) : Happening → Bool
  | .checked _ account _ _ _ => decide (account = username)
  | .cleared _ => false

/-- A credential is checked for the source. -/
def Happening.checksFrom (ip : String) : Happening → Bool
  | .checked _ _ source _ _ => decide (source = ip)
  | .cleared _ => false

/-- The event resets the account by hand. -/
def LoginEvent.clears (e : LoginEvent) (username : String) : Prop :=
  ∃ newPassword, e.action = .clear username newPassword

namespace Site

variable (site : Site)

/-- No window as long as the lock has too many failing checks of an account. -/
def AccountBound (username : String) (s : LoginState) : Prop :=
  Sparse (failuresOf username s.history) site.cfg.lockout site.cfg.maxLoginAttempts

/-- No window of 30 minutes has too many failing checks for a source. -/
def SourceBound (s : LoginState) : Prop :=
  ∀ ip, Sparse (failuresFrom ip s.history) bruteForceWindow site.cfg.ipBlockThreshold

/-- While a lock or a block is in force, nothing is checked that it is about. -/
structure Silent (s : LoginState) : Prop where
  locked : ∀ username a expiry (later : List LoginEvent), s.tables.users.find? username = some a →
    a.lockedUntil = some expiry → (∀ e ∈ later, ¬e.clears username) →
    (later.foldl site.step s).now < expiry →
    (later.foldl site.step s).history.filter (Happening.checks username) =
      s.history.filter (Happening.checks username)
  blocked : ∀ ip row (later : List LoginEvent), s.tables.blocked.find? ip = some row →
    row.inForce (later.foldl site.step s).now = true →
    (later.foldl site.step s).history.filter (Happening.checksFrom ip) =
      s.history.filter (Happening.checksFrom ip)

/-- The event does not come to a wrong second factor of the account. -/
def NoWrongCode (username : String) (s : LoginState) (e : LoginEvent) : Prop :=
  ∀ r, e.action = .login r → r.username = username →
    ∀ a, ¬PresentsWrongCode site (s.now + e.wait) s.tables r a

end Site

/-! ### Counting -/

section Counting

variable {username ip : String} {history more : List Happening} {credential : Credential}
  {account source : String} {time : Time}

theorem failuresOf_append :
    failuresOf username (history ++ more) =
      more.foldl (failureStep username) (failuresOf username history) :=
  List.foldl_append

theorem failuresFrom_append :
    failuresFrom ip (history ++ more) = failuresFrom ip history ++ failuresFrom ip more :=
  List.filterMap_append

/-- Checks that pass are no failures. -/
theorem foldl_failureStep_passed {times : List Time}
    (h : ∀ x ∈ more, ∃ credential account source time, x = .checked credential account source true time) :
    more.foldl (failureStep username) times = times := by
  induction more with
  | nil => rfl
  | cons x more ih =>
    obtain ⟨credential, account, source, time, rfl⟩ := h x List.mem_cons_self
    exact ih fun y hy => h y (List.mem_cons_of_mem _ hy)

theorem failuresFrom_eq_nil (h : ∀ x ∈ more, x.failedFrom ip = none) : failuresFrom ip more = [] :=
  List.filterMap_eq_nil_iff.mpr h

/-- A failing check is a failure of its source alone. -/
theorem failuresFrom_failed :
    failuresFrom ip [.checked credential account source false time] =
      if source = ip then [time] else [] := by
  by_cases heq : source = ip
  · simp [failuresFrom, Happening.failedFrom, heq]
  · simp [failuresFrom, Happening.failedFrom, heq]

/-- A check that passes is no failure. -/
theorem failuresFrom_passed :
    failuresFrom ip (.checked credential account source true time :: more) =
      failuresFrom ip more := rfl

end Counting

/-! ### The invariant of an account -/

/-- The counter of the account is at least the number of its failures, and at the bound each failure
has locked it. -/
structure Counted (cfg : GuessingSettings) (username : String) (s : LoginState) : Prop where
  counter : failuresOf username s.history ≠ [] → ∃ a, s.tables.users.find? username = some a ∧
    (failuresOf username s.history).length ≤ a.failedLoginAttempts ∧
    (cfg.maxLoginAttempts ≤ a.failedLoginAttempts → ∃ expiry, a.lockedUntil = some expiry ∧
      ∀ x ∈ failuresOf username s.history, x + cfg.lockout ≤ expiry)
  past : ∀ x ∈ failuresOf username s.history, x ≤ s.now
  sparse : Sparse (failuresOf username s.history) cfg.lockout cfg.maxLoginAttempts

section Account

variable {site : Site} {username : String} {s s' : LoginState}

/-- Where nothing has failed, there is nothing to count. -/
theorem counted_of_eq_nil {cfg : GuessingSettings} (h : failuresOf username s.history = []) :
    Counted cfg username s where
  counter hne := absurd h hne
  past x hx := by
    rw [h] at hx
    exact absurd hx List.not_mem_nil
  sparse := by
    rw [h]
    exact sparse_nil

/-- What leaves the failures and the row of the account keeps the count. -/
theorem Counted.of_same {cfg : GuessingSettings} (h : Counted cfg username s) (hnow : s.now ≤ s'.now)
    (hfind : s'.tables.users.find? username = s.tables.users.find? username)
    (hfailures : failuresOf username s'.history = failuresOf username s.history) :
    Counted cfg username s' where
  counter := by
    rw [hfailures, hfind]
    exact h.counter
  past := by
    rw [hfailures]
    exact fun x hx => Nat.le_trans (h.past x hx) hnow
  sparse := by
    rw [hfailures]
    exact h.sparse

/-- The row after another failure. -/
theorem incrementFailedAttempts_spec (cfg : GuessingSettings) (now : Time) (a : LoginAccount) :
    (incrementFailedAttempts cfg now a).1.username = a.username ∧
      (incrementFailedAttempts cfg now a).1.failedLoginAttempts = a.failedLoginAttempts + 1 ∧
      (cfg.maxLoginAttempts ≤ a.failedLoginAttempts + 1 →
        (incrementFailedAttempts cfg now a).1.lockedUntil = some (now + cfg.lockout)) := by
  unfold incrementFailedAttempts
  dsimp only
  split
  · exact ⟨rfl, rfl, fun _ => rfl⟩
  · rename_i hfew
    exact ⟨rfl, rfl, fun h => absurd h hfew⟩

theorem le_of_unlocked {now expiry : Time} {a : LoginAccount} (h : isAccountLocked now a = false)
    (hexpiry : a.lockedUntil = some expiry) : expiry ≤ now := by
  unfold isAccountLocked at h
  rw [hexpiry, Option.any_some, decide_eq_false_iff_not] at h
  exact Nat.le_of_not_lt h

/-- A failing password keeps the count: either the counter has room, or all failures before it are as
old as the lock that has ended. -/
theorem Counted.fail {cfg : GuessingSettings} {a : LoginAccount} (h : Counted cfg username s)
    (hnow : s.now ≤ s'.now) (hfound : s.tables.users.find? username = some a)
    (hunlocked : isAccountLocked s'.now a = false)
    (husers : s'.tables.users = s.tables.users.save (incrementFailedAttempts cfg s'.now a).1)
    (hfailures : failuresOf username s'.history = failuresOf username s.history ++ [s'.now]) :
    Counted cfg username s' := by
  obtain ⟨hname, hfailed, hlocks⟩ := incrementFailedAttempts_spec cfg s'.now a
  have hkey : a.username = username := s.tables.users.key_of_find? hfound
  have hlength : (failuresOf username s.history).length ≤ a.failedLoginAttempts := by
    by_cases hnil : failuresOf username s.history = []
    · rw [hnil]
      exact Nat.zero_le _
    · obtain ⟨b, hb, hlength, -⟩ := h.counter hnil
      rw [hfound] at hb
      cases hb
      exact hlength
  have hpast : ∀ x ∈ failuresOf username s'.history, x ≤ s'.now := by
    intro x hx
    rw [hfailures] at hx
    rcases List.mem_append.mp hx with hx | hx
    · exact Nat.le_trans (h.past x hx) hnow
    · exact Nat.le_of_eq (List.mem_singleton.mp hx)
  refine ⟨fun _ => ⟨(incrementFailedAttempts cfg s'.now a).1, ?_, ?_, fun hmax => ?_⟩, hpast, ?_⟩
  · have hsaved : (incrementFailedAttempts cfg s'.now a).1.key = username := hname.trans hkey
    rw [husers, KeyedTable.find?_save, if_pos hsaved]
  · rw [hfailures, hfailed, List.length_append]
    exact Nat.add_le_add_right hlength 1
  · rw [hfailed] at hmax
    exact ⟨_, hlocks hmax, fun x hx => Nat.add_le_add_right (hpast x hx) _⟩
  · rw [hfailures]
    by_cases hmax : cfg.maxLoginAttempts ≤ a.failedLoginAttempts
    · apply h.sparse.append_of_forall_le cfg.attempts_pos
      intro x hx
      obtain ⟨b, hb, -, hlocked⟩ := h.counter (List.ne_nil_of_mem hx)
      rw [hfound] at hb
      cases hb
      obtain ⟨expiry, hexpiry, hall⟩ := hlocked hmax
      exact Nat.le_trans (hall x hx) (le_of_unlocked hunlocked hexpiry)
    · exact h.sparse.append_of_length (Nat.lt_of_le_of_lt hlength (Nat.lt_of_not_le hmax))

theorem clear_of_none {now : Time} {name : String} {password : Option String}
    (h : s.tables.users.find? name = none) : s.clear now name password = { s with now := now } := by
  unfold LoginState.clear
  rw [h]

theorem clear_of_some {now : Time} {name : String} {password : Option String} {a : LoginAccount}
    (h : s.tables.users.find? name = some a) : s.clear now name password =
      { now := now
        tables := { s.tables with users := s.tables.users.save { resetFailedAttempts a with
          hashedPassword := password.getD a.hashedPassword } }
        history := s.history ++ [.cleared name] } := by
  unfold LoginState.clear
  rw [h]

/-- A reset by hand leaves the count of its account empty and every other one as it is. -/
theorem Counted.clear {cfg : GuessingSettings} (h : Counted cfg username s) {now : Time}
    (hnow : s.now ≤ now) (name : String) (password : Option String) :
    Counted cfg username (s.clear now name password) := by
  cases hfound : s.tables.users.find? name with
  | none =>
    rw [clear_of_none hfound]
    exact h.of_same hnow rfl rfl
  | some a =>
    have hkey : a.username = name := s.tables.users.key_of_find? hfound
    rw [clear_of_some hfound]
    by_cases heq : name = username
    · apply counted_of_eq_nil
      rw [failuresOf_append]
      exact if_pos heq
    · refine h.of_same hnow ?_ ?_
      · have hother : ¬(LoginAccount.key { resetFailedAttempts a with
            hashedPassword := password.getD a.hashedPassword } = username) :=
          fun hk => heq (hkey.symm.trans hk)
        rw [KeyedTable.find?_save, if_neg hother]
      · rw [failuresOf_append]
        exact if_neg heq

/-- A login keeps the count of every account whose second factor it does not get wrong. -/
theorem Counted.login (h : Counted site.cfg username s) (wait : Time) (r : LoginRequest)
    (hcode : r.username = username →
      ∀ a, ¬PresentsWrongCode site (s.now + wait) s.tables r a) :
    Counted site.cfg username (site.step s ⟨wait, .login r⟩) := by
  have hnow : s.now ≤ s.now + wait := Nat.le_add_right _ _
  have hpassword : ∀ more, failuresOf username (s.history ++ .checked .password r.username
      (getClientIp r.origin) true (s.now + wait) :: more) =
        failuresOf username (s.history ++ more) := by
    intro more
    rw [failuresOf_append, failuresOf_append]
    rfl
  cases effect_login site (s.now + wait) s.tables r with
  | unchecked users attempts happenings =>
    refine h.of_same hnow (congrArg (fun table => table.find? username) users) ?_
    change failuresOf username (s.history ++ _) = _
    rw [happenings, List.append_nil]
  | wrongPassword a found unlocked room users attempts happenings =>
    by_cases heq : r.username = username
    · refine h.fail hnow (heq ▸ found) unlocked users ?_
      change failuresOf username (s.history ++ _) = _
      rw [happenings, failuresOf_append]
      exact if_pos heq
    · refine h.of_same hnow ?_ ?_
      · have hkey : (incrementFailedAttempts site.cfg (s.now + wait) a).1.key = r.username :=
          (incrementFailedAttempts_spec _ _ _).1.trans (s.tables.users.key_of_find? found)
        change (site.login (s.now + wait) s.tables r).tables.users.find? username = _
        rw [users, KeyedTable.find?_save, if_neg (hkey ▸ heq)]
      · change failuresOf username (s.history ++ _) = _
        rw [happenings, failuresOf_append]
        exact if_neg heq
  | passed a found unlocked users attempts happenings =>
    refine h.of_same hnow (congrArg (fun table => table.find? username) users) ?_
    change failuresOf username (s.history ++ _) = _
    rw [happenings, hpassword, List.append_nil]
  | wrongCode a wrong room users attempts happenings =>
    have hne : r.username ≠ username := fun heq => hcode heq a wrong
    refine h.of_same hnow (congrArg (fun table => table.find? username) users) ?_
    change failuresOf username (s.history ++ _) = _
    rw [happenings, hpassword, failuresOf_append]
    exact if_neg hne
  | loggedIn a a' found unlocked name users attempts codes passed happenings =>
    have hfailures : failuresOf username (site.step s ⟨wait, .login r⟩).history =
        if r.username = username then [] else failuresOf username s.history := by
      have hcodes : codes.foldl (failureStep username) (failuresOf username s.history) =
          failuresOf username s.history :=
        foldl_failureStep_passed fun x hx => ⟨_, _, _, _, passed x hx⟩
      change failuresOf username (s.history ++ _) = _
      rw [happenings, List.cons_append, hpassword, ← List.append_assoc, failuresOf_append,
        failuresOf_append, hcodes]
      rfl
    by_cases heq : r.username = username
    · apply counted_of_eq_nil
      rw [hfailures, if_pos heq]
    · refine h.of_same hnow ?_ ?_
      · have hother : ¬(resetFailedAttempts a').key = username := fun hk => heq (name.symm.trans hk)
        change (site.login (s.now + wait) s.tables r).tables.users.find? username = _
        rw [users, KeyedTable.find?_save, if_neg hother]
      · rw [hfailures, if_neg heq]

theorem Counted.step (h : Counted site.cfg username s) (e : LoginEvent)
    (hcode : site.NoWrongCode username s e) : Counted site.cfg username (site.step s e) := by
  obtain ⟨wait, action⟩ := e
  cases action with
  | login r => exact h.login wait r (hcode r rfl)
  | clear name password => exact h.clear (Nat.le_add_right _ _) name password

end Account

/-! ### The invariant of a source -/

/-- Every failure of the source has a row of its own. -/
structure Recorded (threshold : Nat) (ip : String) (s : LoginState) : Prop where
  rows : (failuresFrom ip s.history).Sublist
    ((s.tables.attempts.filter (LoginAttempt.failedFrom ip)).map LoginAttempt.attemptedAt)
  sparse : Sparse (failuresFrom ip s.history) bruteForceWindow threshold

section Source

variable {site : Site} {ip : String} {threshold : Nat} {s s' : LoginState}

/-- More rows, and no more failures. -/
theorem Recorded.of_same (h : Recorded threshold ip s)
    (hrows : s.tables.attempts <+: s'.tables.attempts)
    (hfailures : failuresFrom ip s'.history = failuresFrom ip s.history) :
    Recorded threshold ip s' where
  rows := by
    rw [hfailures]
    exact h.rows.trans ((hrows.sublist.filter _).map _)
  sparse := by
    rw [hfailures]
    exact h.sparse

/-- The brute force check counts at least the failures of the source within the window. -/
theorem Recorded.countP_le (h : Recorded threshold ip s) (now : Time) :
    ((failuresFrom ip s.history).countP fun x => decide (now < x + bruteForceWindow)) ≤
      failedCount now s.tables.attempts ip := by
  have hcount : failedCount now s.tables.attempts ip =
      ((s.tables.attempts.filter (LoginAttempt.failedFrom ip)).map
        LoginAttempt.attemptedAt).countP fun x => decide (now < x + bruteForceWindow) := by
    unfold failedCount
    rw [List.countP_map, List.countP_filter]
    congr 1
    funext row
    exact Bool.and_comm _ _
  rw [hcount]
  exact h.rows.countP_le

/-- A failing check of a source with room adds a failure and its row. -/
theorem Recorded.fail {now : Time} (h : Recorded threshold ip s)
    (hroom : failedCount now s.tables.attempts ip < threshold)
    (hrows : ∃ row, s'.tables.attempts = s.tables.attempts ++ [row] ∧ row.failedFrom ip = true ∧
      row.attemptedAt = now)
    (hfailures : failuresFrom ip s'.history = failuresFrom ip s.history ++ [now]) :
    Recorded threshold ip s' where
  rows := by
    obtain ⟨row, hattempts, hfailed, htime⟩ := hrows
    rw [hfailures, hattempts, List.filter_append, List.map_append, List.filter_singleton,
      hfailed, cond_true, List.map_singleton, htime]
    exact h.rows.append (List.Sublist.refl _)
  sparse := by
    rw [hfailures]
    exact h.sparse.append_of_countP (Nat.lt_of_le_of_lt (h.countP_le now) hroom)

theorem Recorded.clear (h : Recorded threshold ip s) (now : Time) (name : String)
    (password : Option String) : Recorded threshold ip (s.clear now name password) := by
  cases hfound : s.tables.users.find? name with
  | none =>
    rw [clear_of_none hfound]
    exact h.of_same List.prefix_rfl rfl
  | some a =>
    rw [clear_of_some hfound]
    refine h.of_same List.prefix_rfl ?_
    rw [failuresFrom_append]
    exact List.append_nil _

theorem Recorded.login (h : Recorded site.cfg.ipBlockThreshold ip s) (wait : Time)
    (r : LoginRequest) :
    Recorded site.cfg.ipBlockThreshold ip (site.step s ⟨wait, .login r⟩) := by
  have hhistory : failuresFrom ip (site.step s ⟨wait, .login r⟩).history =
      failuresFrom ip s.history ++
        failuresFrom ip (site.login (s.now + wait) s.tables r).happenings := failuresFrom_append
  cases effect_login site (s.now + wait) s.tables r with
  | unchecked users attempts happenings =>
    refine h.of_same attempts ?_
    rw [hhistory, happenings]
    exact List.append_nil _
  | wrongPassword a found unlocked room users attempts happenings =>
    rw [happenings] at hhistory
    by_cases heq : getClientIp r.origin = ip
    · rw [heq] at room attempts
      exact h.fail room attempts (hhistory.trans (by rw [failuresFrom_failed, if_pos heq]))
    · obtain ⟨row, hrow, -, -⟩ := attempts
      refine h.of_same ⟨[row], hrow.symm⟩ (hhistory.trans ?_)
      rw [failuresFrom_failed, if_neg heq, List.append_nil]
  | passed a found unlocked users attempts happenings =>
    refine h.of_same attempts ?_
    rw [hhistory, happenings]
    exact List.append_nil _
  | wrongCode a wrong room users attempts happenings =>
    rw [happenings] at hhistory
    by_cases heq : getClientIp r.origin = ip
    · rw [heq] at room attempts
      refine h.fail room attempts (hhistory.trans ?_)
      rw [failuresFrom_passed, failuresFrom_failed, if_pos heq]
    · obtain ⟨row, hrow, -, -⟩ := attempts
      refine h.of_same ⟨[row], hrow.symm⟩ (hhistory.trans ?_)
      rw [failuresFrom_passed, failuresFrom_failed, if_neg heq, List.append_nil]
  | loggedIn a a' found unlocked name users attempts codes passed happenings =>
    refine h.of_same attempts ?_
    have hnone : failuresFrom ip (site.login (s.now + wait) s.tables r).happenings = [] := by
      rw [happenings]
      apply failuresFrom_eq_nil
      intro x hx
      rcases List.mem_append.mp hx with hx | hx
      · rcases List.mem_cons.mp hx with rfl | hx
        · rfl
        · rw [passed x hx]
          rfl
      · rw [List.mem_singleton.mp hx]
        rfl
    rw [hhistory, hnone, List.append_nil]

theorem Recorded.step (h : Recorded site.cfg.ipBlockThreshold ip s) (e : LoginEvent) :
    Recorded site.cfg.ipBlockThreshold ip (site.step s e) := by
  obtain ⟨wait, action⟩ := e
  cases action with
  | login r => exact h.login wait r
  | clear name password => exact h.clear _ name password

end Source

/-! ### Silence -/

section Silence

variable {site : Site} {s : LoginState}

/-- The clock does not run backwards. -/
theorem now_le_step (site : Site) (s : LoginState) (e : LoginEvent) : s.now ≤ (site.step s e).now := by
  obtain ⟨wait, action⟩ := e
  cases action with
  | login r => exact Nat.le_add_right _ _
  | clear name password =>
    have hnow : (s.clear (s.now + wait) name password).now = s.now + wait := by
      unfold LoginState.clear
      split <;> rfl
    exact Nat.le_trans (Nat.le_add_right _ wait) (Nat.le_of_eq hnow.symm)

theorem now_le_foldl (site : Site) (s : LoginState) (later : List LoginEvent) :
    s.now ≤ (later.foldl site.step s).now := by
  induction later generalizing s with
  | nil => exact Nat.le_refl _
  | cons e later ih => exact Nat.le_trans (now_le_step site s e) (ih _)

/-- A reset by hand checks nothing. -/
theorem filter_history_clear {p : Happening → Bool} (hp : ∀ account, p (.cleared account) = false)
    (now : Time) (name : String) (password : Option String) :
    (s.clear now name password).history.filter p = s.history.filter p := by
  unfold LoginState.clear
  split
  · rfl
  · rw [List.filter_append, List.filter_cons_of_neg (by rw [hp]; exact Bool.false_ne_true),
      List.filter_nil, List.append_nil]

/-- A login checks the account it names for the source it comes from, and nothing else. -/
theorem checked_or_cleared_of_mem_login {now : Time} {t : LoginTables} {r : LoginRequest}
    {x : Happening} (hx : x ∈ (site.login now t r).happenings) :
    (∃ credential passed time,
      x = .checked credential r.username (getClientIp r.origin) passed time) ∨
        ∃ account, x = .cleared account := by
  cases effect_login site now t r with
  | unchecked users attempts happenings =>
    rw [happenings] at hx
    cases hx
  | wrongPassword b found unlocked room users attempts happenings =>
    rw [happenings] at hx
    exact Or.inl ⟨_, _, _, List.mem_singleton.mp hx⟩
  | passed b found unlocked users attempts happenings =>
    rw [happenings] at hx
    exact Or.inl ⟨_, _, _, List.mem_singleton.mp hx⟩
  | wrongCode b wrong room users attempts happenings =>
    rw [happenings] at hx
    rcases List.mem_cons.mp hx with hx | hx
    · exact Or.inl ⟨_, _, _, hx⟩
    · exact Or.inl ⟨_, _, _, List.mem_singleton.mp hx⟩
  | loggedIn b b' found unlocked name users attempts codes passed happenings =>
    rw [happenings] at hx
    rcases List.mem_append.mp hx with hx | hx
    · rcases List.mem_cons.mp hx with hx | hx
      · exact Or.inl ⟨_, _, _, hx⟩
      · exact Or.inl ⟨_, _, _, passed x hx⟩
    · exact Or.inr ⟨_, List.mem_singleton.mp hx⟩

/-- A login to another account checks nothing of this one. -/
theorem filter_checks_login {username : String} {now : Time} {t : LoginTables} {r : LoginRequest}
    (hne : r.username ≠ username) :
    (site.login now t r).happenings.filter (Happening.checks username) = [] := by
  rw [List.filter_eq_nil_iff]
  intro x hx
  rcases checked_or_cleared_of_mem_login hx with ⟨credential, passed, time, rfl⟩ | ⟨account, rfl⟩
  · exact fun h => hne (of_decide_eq_true h)
  · exact Bool.false_ne_true

/-- What a login checks, it checks for its source. -/
theorem filter_checksFrom_login {ip : String} {now : Time} {t : LoginTables} {r : LoginRequest}
    (hne : getClientIp r.origin ≠ ip) :
    (site.login now t r).happenings.filter (Happening.checksFrom ip) = [] := by
  rw [List.filter_eq_nil_iff]
  intro x hx
  rcases checked_or_cleared_of_mem_login hx with ⟨credential, passed, time, rfl⟩ | ⟨account, rfl⟩
  · exact fun h => hne (of_decide_eq_true h)
  · exact Bool.false_ne_true

/-- A login to a locked account checks nothing, and one to another account nothing of it. -/
theorem locked_login (site : Site) {username : String} {a : LoginAccount} {expiry now : Time}
    (r : LoginRequest)
    (hfound : s.tables.users.find? username = some a) (hlocked : a.lockedUntil = some expiry)
    (hnow : now < expiry) :
    (site.login now s.tables r).tables.users.find? username = some a ∧
      (site.login now s.tables r).happenings.filter (Happening.checks username) = [] := by
  have hisLocked : isAccountLocked now a = true := by
    unfold isAccountLocked
    rw [hlocked, Option.any_some]
    exact decide_eq_true hnow
  have hother : ∀ b, s.tables.users.find? r.username = some b → isAccountLocked now b = false →
      r.username ≠ username := by
    intro b hb hunlocked heq
    rw [heq, hfound] at hb
    cases hb
    rw [hisLocked] at hunlocked
    cases hunlocked
  cases effect_login site now s.tables r with
  | unchecked users attempts happenings =>
    rw [users, happenings]
    exact ⟨hfound, rfl⟩
  | wrongPassword b found unlocked room users attempts happenings =>
    have hne := hother b found unlocked
    have hkey : (incrementFailedAttempts site.cfg now b).1.key = r.username :=
      (incrementFailedAttempts_spec _ _ _).1.trans (s.tables.users.key_of_find? found)
    rw [users, KeyedTable.find?_save, if_neg (hkey ▸ hne)]
    exact ⟨hfound, filter_checks_login hne⟩
  | passed b found unlocked users attempts happenings =>
    rw [users]
    exact ⟨hfound, filter_checks_login (hother b found unlocked)⟩
  | wrongCode b wrong room users attempts happenings =>
    rw [users]
    exact ⟨hfound, filter_checks_login (hother b wrong.found wrong.unlocked)⟩
  | loggedIn b b' found unlocked name users attempts codes passed happenings =>
    have hne := hother b found unlocked
    have hkey : ¬(resetFailedAttempts b').key = username := fun hk => hne (name.symm.trans hk)
    rw [users, KeyedTable.find?_save, if_neg hkey]
    exact ⟨hfound, filter_checks_login hne⟩

/-- While an account is locked, no credential of it is checked. -/
theorem silent_of_locked {username : String} {a : LoginAccount} {expiry : Time}
    (later : List LoginEvent) (hfound : s.tables.users.find? username = some a)
    (hlocked : a.lockedUntil = some expiry) (hclear : ∀ e ∈ later, ¬e.clears username)
    (hend : (later.foldl site.step s).now < expiry) :
    (later.foldl site.step s).history.filter (Happening.checks username) =
      s.history.filter (Happening.checks username) := by
  induction later generalizing s with
  | nil => rfl
  | cons e later ih =>
    have hnow : (site.step s e).now < expiry :=
      Nat.lt_of_le_of_lt (now_le_foldl site _ later) hend
    have hrest : ∀ e' ∈ later, ¬e'.clears username :=
      fun e' he' => hclear e' (List.mem_cons_of_mem _ he')
    have hstep : (site.step s e).tables.users.find? username = some a ∧
        (site.step s e).history.filter (Happening.checks username) =
          s.history.filter (Happening.checks username) := by
      obtain ⟨wait, action⟩ := e
      cases action with
      | login r =>
        have hbefore : s.now + wait < expiry := hnow
        obtain ⟨hkept, hnone⟩ := locked_login site r hfound hlocked hbefore
        refine ⟨hkept, ?_⟩
        change (s.history ++ _).filter _ = _
        rw [List.filter_append, hnone, List.append_nil]
      | clear name password =>
        have hne : name ≠ username := by
          rintro rfl
          exact hclear _ List.mem_cons_self ⟨password, rfl⟩
        refine ⟨?_, filter_history_clear (fun _ => rfl) _ _ _⟩
        change (s.clear _ name password).tables.users.find? username = some a
        cases hname : s.tables.users.find? name with
        | none =>
          rw [clear_of_none hname]
          exact hfound
        | some b =>
          have hkey : b.username = name := s.tables.users.key_of_find? hname
          have hother : ¬(LoginAccount.key { resetFailedAttempts b with
              hashedPassword := password.getD b.hashedPassword } = username) :=
            fun hk => hne (hkey.symm.trans hk)
          rw [clear_of_some hname, KeyedTable.find?_save, if_neg hother]
          exact hfound
    exact (ih hstep.1 hrest hend).trans hstep.2

/-- A block that is in force later is in force now. -/
theorem inForce_of_le {row : BlockedIP} {now later : Time} (hle : now ≤ later)
    (h : row.inForce later = true) : row.inForce now = true := by
  unfold BlockedIP.inForce at h ⊢
  rw [Bool.or_eq_true] at h ⊢
  rcases h with h | h
  · exact Or.inl h
  · cases hexpiry : row.expiresAt with
    | none =>
      rw [hexpiry] at h
      cases h
    | some expiry =>
      rw [hexpiry, Option.any_some] at h
      exact Or.inr (decide_eq_true (Nat.lt_of_le_of_lt hle (of_decide_eq_true h)))

/-- While a source is blocked, no credential is checked for it. -/
theorem silent_of_blocked {ip : String} {row : BlockedIP} (later : List LoginEvent)
    (hfound : s.tables.blocked.find? ip = some row)
    (hforce : row.inForce (later.foldl site.step s).now = true) :
    (later.foldl site.step s).history.filter (Happening.checksFrom ip) =
      s.history.filter (Happening.checksFrom ip) := by
  induction later generalizing s with
  | nil => rfl
  | cons e later ih =>
    have hnow : row.inForce (site.step s e).now = true :=
      inForce_of_le (now_le_foldl site _ later) hforce
    have hstep : (site.step s e).tables.blocked.find? ip = some row ∧
        (site.step s e).history.filter (Happening.checksFrom ip) =
          s.history.filter (Happening.checksFrom ip) := by
      obtain ⟨wait, action⟩ := e
      cases action with
      | login r =>
        refine ⟨find?_blocked_login hfound hnow, ?_⟩
        have hnone : (site.login (s.now + wait) s.tables r).happenings.filter
            (Happening.checksFrom ip) = [] := by
          by_cases heq : getClientIp r.origin = ip
          · have hbefore : row.inForce (s.now + wait) = true := hnow
            rw [happenings_of_blocked (heq ▸ hfound) hbefore]
            rfl
          · exact filter_checksFrom_login heq
        change (s.history ++ _).filter _ = _
        rw [List.filter_append, hnone, List.append_nil]
      | clear name password =>
        refine ⟨?_, filter_history_clear (fun _ => rfl) _ _ _⟩
        change (s.clear _ name password).tables.blocked.find? ip = some row
        cases hname : s.tables.users.find? name with
        | none =>
          rw [clear_of_none hname]
          exact hfound
        | some b =>
          rw [clear_of_some hname]
          exact hfound
    exact (ih hstep.1 hforce).trans hstep.2

end Silence

/-! ### Every run -/

/-- A site with the default settings. -/
def defaultSite : Site where
  cfg := ⟨5, 30, 10, 60, by decide⟩
  verifyPassword := fun plain hashed => plain == hashed
  sha256 := fun text => text
  totp := fun _ _ code => code == "123456"
  clockText := fun _ => "00:30:00"

/-- An account with the second factor, and one without. -/
def guarded : LoginAccount where
  id := 1
  username := "owner"
  email := "owner@example.com"
  hashedPassword := "secret"
  fullName := none
  isActive := true
  isAdmin := false
  roleId := none
  failedLoginAttempts := 0
  lockedUntil := none
  requirePasswordChange := false
  twoFactorEnabled := true
  twoFactorSecret := some "BASE32"
  twoFactorBackupCodes := some []

def plain : LoginAccount :=
  { guarded with
    id := 2
    username := "guest"
    twoFactorEnabled := false }

def siteTables : LoginTables where
  users := (KeyedTable.empty.save guarded).save plain
  attempts := []
  blocked := .empty

/-- A login from one address. -/
def tryLogin (username password : String) (code : Option String) : LoginEvent :=
  ⟨0, .login ⟨username, password, code, ⟨none, none, some "10.0.0.9"⟩⟩⟩

/-- Six wrong codes behind the right password. -/
def codeGuesses : List LoginEvent :=
  List.replicate 6 (tryLogin "owner" "secret" (some "000000"))

end PveManager.Security
