import PveManager.Core.KeyedTable
import PveManager.Core.Run
import PveManager.Models.Records

/-!
# The cache of the security settings

One timestamp guards a cache that is filled key by key, and every query renews it. So an entry may
be kept by queries for other keys, and the age, a component of a time difference, starts anew every
day. A read is as fresh as the lifetime promises when its own entry is.
-/

namespace PveManager.Security

open PveManager.Core

/-! ### The service -/

/-- A row of `security_settings`. -/
structure SecuritySetting where
  key : String
  value : String
  deriving DecidableEq

/-- The table, with its unique index. -/
abbrev SettingTable := KeyedTable SecuritySetting.key

/-- An item of `_settings_cache`. -/
structure CachedSetting where
  key : String
  value : Option String
  deriving DecidableEq

/-- `_settings_cache` and `_cache_time`. -/
structure SettingCache where
  entries : KeyedTable CachedSetting.key
  time : Option Time

/-- `_cache_ttl`. -/
def cacheTtl : Time := 60

/-- `timedelta.seconds`: a difference without its days. -/
def secondsOf (difference : Time) : Time := difference % 86400

/-- The stored value, or the default of the call. -/
def valueOf (table : SettingTable) (key : String) (default : Option String) : Option String :=
  match table.find? key with
  | some row => some row.value
  | none => default

/-- The entry that answers a call without a query. -/
def SettingCache.lookup (cache : SettingCache) (now : Time) (key : String) : Option CachedSetting :=
  if cache.time.any fun time => decide (secondsOf (now - time) < cacheTtl) then
    cache.entries.find? key
  else none

/-- `get_setting`. -/
def getSetting (now : Time) (table : SettingTable) (cache : SettingCache) (key : String)
    (default : Option String) : Option String × SettingCache :=
  match cache.lookup now key with
  | some entry => (entry.value, cache)
  | none =>
    let value := valueOf table key default
    (value, ⟨cache.entries.save ⟨key, value⟩, some now⟩)

/-- `update_setting`; a commit that fails changes nothing. -/
def updateSetting (table : SettingTable) (cache : SettingCache) (key value : String)
    (commits : Bool) : SettingTable × SettingCache :=
  if commits then (table.save ⟨key, value⟩, { cache with entries := cache.entries.erase key })
  else (table, cache)

/-! ### Runs -/

/-- The last query for a key. -/
structure SettingQuery where
  key : String
  time : Time
  default : Option String
  table : SettingTable

structure SettingState where
  now : Time
  table : SettingTable
  cache : SettingCache
  /-- The tables that were replaced, with the time at which they were. -/
  past : List (SettingTable × Time)
  queries : KeyedTable SettingQuery.key

inductive SettingAction
  | read (key : String) (default : Option String)
  | update (key value : String) (commits : Bool)
  /-- Another process leaves this table. -/
  | foreign (table : SettingTable)

structure SettingEvent where
  /-- The time since the last event. -/
  wait : Time
  action : SettingAction

namespace SettingState

variable (s : SettingState)

/-- A process that has just started. -/
def start (now : Time) (table : SettingTable) : SettingState := ⟨now, table, ⟨.empty, none⟩, [], .empty⟩

/-- The database has another table from now on. -/
def replace (now : Time) (table : SettingTable) : SettingState :=
  { s with
    now := now
    table := table
    past := s.past ++ [(s.table, now)] }

def step (s : SettingState) (e : SettingEvent) : SettingState :=
  let now := s.now + e.wait
  match e.action with
  | .read key default =>
    { s with
      now := now
      cache := (getSetting now s.table s.cache key default).2
      queries := if (s.cache.lookup now key).isSome then s.queries
        else s.queries.save ⟨key, now, default, s.table⟩ }
  | .update key value commits =>
    let out := updateSetting s.table s.cache key value commits
    { s.replace now out.1 with cache := out.2 }
  | .foreign table => s.replace now table

/-- The tables that were in force at some time within a lifetime before. -/
def recent (now : Time) : List SettingTable :=
  s.table :: (s.past.filter fun p => decide (now ≤ p.2 + cacheTtl)).map Prod.fst

/-- A read returns the stored value, or its own default where none was stored, of a table that was in
force within a lifetime before. -/
def Fresh (e : SettingEvent) : Prop :=
  ∀ key default, e.action = .read key default → ∃ table ∈ s.recent (s.now + e.wait),
    (getSetting (s.now + e.wait) s.table s.cache key default).1 = valueOf table key default

/-- A read that the cache answers follows a query for its own key within a lifetime, and this query
has found a row or had the same default. -/
def Timely (e : SettingEvent) : Prop :=
  ∀ key default, e.action = .read key default →
    (s.cache.lookup (s.now + e.wait) key).isSome = true → ∀ q, s.queries.find? key = some q →
      s.now + e.wait ≤ q.time + cacheTtl ∧ ((q.table.find? key).isSome = true ∨ q.default = default)

/-- The table was in force at the time. -/
def InForceAt (time : Time) (table : SettingTable) : Prop :=
  time ≤ s.now ∧ (table = s.table ∨ ∃ ended, (table, ended) ∈ s.past ∧ time ≤ ended)

/-- Every entry is the answer to the last query for its key. -/
def Explained : Prop :=
  ∀ key entry, s.cache.entries.find? key = some entry → ∃ q, s.queries.find? key = some q ∧
    entry.value = valueOf q.table key q.default ∧ s.InForceAt q.time q.table

end SettingState

/-! ### Entries and queries -/

section Steps

variable {s : SettingState} {now time : Time} {table : SettingTable} {key : String}
  {default : Option String}

theorem lookup_eq_some {cache : SettingCache} {entry : CachedSetting}
    (h : cache.lookup now key = some entry) : cache.entries.find? key = some entry := by
  unfold SettingCache.lookup at h
  split at h
  · exact h
  · cases h

theorem getSetting_of_some {cache : SettingCache} {entry : CachedSetting}
    (h : cache.lookup now key = some entry) :
    getSetting now table cache key default = (entry.value, cache) := by
  unfold getSetting
  rw [h]

theorem getSetting_of_none {cache : SettingCache} (h : cache.lookup now key = none) :
    getSetting now table cache key default =
      (valueOf table key default, ⟨cache.entries.save ⟨key, valueOf table key default⟩, some now⟩) := by
  unfold getSetting
  rw [h]

/-- What is stored does not depend on the default. -/
theorem valueOf_congr {default' : Option String}
    (h : (table.find? key).isSome = true ∨ default = default') :
    valueOf table key default = valueOf table key default' := by
  unfold valueOf
  cases hfind : table.find? key with
  | some row => rfl
  | none =>
    rw [hfind] at h
    exact h.resolve_left Bool.false_ne_true

/-- A table that was in force within a lifetime before is a recent one. -/
theorem SettingState.InForceAt.mem_recent (h : s.InForceAt time table) (hle : now ≤ time + cacheTtl) :
    table ∈ s.recent now := by
  rcases h.2 with rfl | ⟨ended, hmem, hended⟩
  · exact List.mem_cons_self
  · apply List.mem_cons_of_mem
    have hrecent : decide (now ≤ ended + cacheTtl) = true :=
      decide_eq_true (Nat.le_trans hle (Nat.add_le_add_right hended _))
    exact List.mem_map.mpr ⟨(table, ended), List.mem_filter.mpr ⟨hmem, hrecent⟩, rfl⟩

/-- A table in force at an earlier time stays so when another one replaces it. -/
theorem SettingState.InForceAt.replace (h : s.InForceAt time table) (hnow : s.now ≤ now)
    (table' : SettingTable) : (s.replace now table').InForceAt time table := by
  refine ⟨Nat.le_trans h.1 hnow, Or.inr ?_⟩
  rcases h.2 with rfl | ⟨ended, hmem, hended⟩
  · exact ⟨now, List.mem_append_right _ (List.mem_singleton.mpr rfl), Nat.le_trans h.1 hnow⟩
  · exact ⟨ended, List.mem_append_left _ hmem, hended⟩

theorem SettingState.Explained.replace (h : s.Explained) (hnow : s.now ≤ now)
    (table' : SettingTable) {cache : SettingCache}
    (hcache : ∀ key entry, cache.entries.find? key = some entry →
      s.cache.entries.find? key = some entry) :
    SettingState.Explained { s.replace now table' with cache := cache } := by
  intro key entry hentry
  obtain ⟨q, hq, hvalue, hforce⟩ := h key entry (hcache key entry hentry)
  exact ⟨q, hq, hvalue, hforce.replace hnow table'⟩

/-- A query explains its entry, and leaves the others. -/
theorem SettingState.Explained.read (h : s.Explained) (wait : Time) (key : String)
    (default : Option String) : (s.step ⟨wait, .read key default⟩).Explained := by
  have hlater : ∀ {time table}, s.InForceAt time table →
      (s.step ⟨wait, .read key default⟩).InForceAt time table :=
    fun hforce => ⟨Nat.le_trans hforce.1 (Nat.le_add_right _ _), hforce.2⟩
  intro key' entry hentry
  unfold SettingState.step at hentry ⊢
  dsimp only at hentry ⊢
  cases hlookup : s.cache.lookup (s.now + wait) key with
  | some cached =>
    rw [getSetting_of_some hlookup] at hentry
    obtain ⟨q, hq, hvalue, hforce⟩ := h key' entry hentry
    exact ⟨q, hq, hvalue, hlater hforce⟩
  | none =>
    rw [getSetting_of_none hlookup, KeyedTable.find?_save] at hentry
    rw [Option.isSome_none, if_neg Bool.false_ne_true, KeyedTable.find?_save]
    by_cases heq : key = key'
    · rw [if_pos heq] at hentry ⊢
      cases hentry
      exact ⟨_, rfl, by rw [heq], Nat.le_refl _, Or.inl rfl⟩
    · rw [if_neg heq] at hentry ⊢
      obtain ⟨q, hq, hvalue, hforce⟩ := h key' entry hentry
      exact ⟨q, hq, hvalue, hlater hforce⟩

theorem SettingState.Explained.step (h : s.Explained) (e : SettingEvent) : (s.step e).Explained := by
  obtain ⟨wait, action⟩ := e
  have hnow : s.now ≤ s.now + wait := Nat.le_add_right _ _
  cases action with
  | read key default => exact h.read wait key default
  | update key value commits =>
    refine h.replace hnow _ fun key' entry hentry => ?_
    unfold updateSetting at hentry
    split at hentry
    · rw [KeyedTable.find?_erase] at hentry
      split at hentry
      · cases hentry
      · exact hentry
    · exact hentry
  | foreign table => exact h.replace hnow table fun _ _ hentry => hentry

/-- A timely read is fresh. -/
theorem SettingState.Explained.fresh (h : s.Explained) {e : SettingEvent} (htimely : s.Timely e) :
    s.Fresh e := by
  intro key default he
  cases hlookup : s.cache.lookup (s.now + e.wait) key with
  | none =>
    rw [getSetting_of_none hlookup]
    exact ⟨s.table, List.mem_cons_self, rfl⟩
  | some entry =>
    obtain ⟨q, hq, hvalue, hforce⟩ := h key entry (lookup_eq_some hlookup)
    obtain ⟨htime, hdefault⟩ := htimely key default he (by rw [hlookup]; rfl) q hq
    rw [getSetting_of_some hlookup]
    exact ⟨q.table, hforce.mem_recent htime, hvalue.trans (valueOf_congr hdefault)⟩

end Steps

/-! ### Every run -/

/-- In every run whose reads are timely, every read is fresh. -/
theorem fresh_of_timely (now : Time) (table : SettingTable) (events : List SettingEvent)
    (h : Guarded SettingState.step SettingState.Timely (.start now table) events) :
    Guarded SettingState.step SettingState.Fresh (.start now table) events := by
  have hstart : (SettingState.start now table).Explained := by
    intro key entry hentry
    cases hentry
  exact guarded_of_invariant (fun _ e hs _ => hs.step e) (fun _ _ hs hg => hs.fresh hg) hstart h

/-! ### An entry that other keys keep -/

/-- The number of attempts before an account is locked. -/
def attemptsStored (value : String) : SettingTable :=
  KeyedTable.empty.save ⟨"max_login_attempts", value⟩

/-- The number is read, changed by another process, and read again just after another setting. -/
def keptReads : List SettingEvent :=
  [⟨0, .read "max_login_attempts" (some "5")⟩, ⟨1, .foreign (attemptsStored "3")⟩,
    ⟨60, .read "ip_block_threshold" (some "10")⟩, ⟨1, .read "max_login_attempts" (some "5")⟩]

/-- The last read returns what was replaced more than a lifetime ago. -/
theorem keptReads_not_fresh :
    ¬Guarded SettingState.step SettingState.Fresh (.start 0 (attemptsStored "8")) keptReads := by
  rintro ⟨-, -, -, hlast, -⟩
  obtain ⟨table, hmem, hvalue⟩ := hlast "max_login_attempts" (some "5") rfl
  have hall : ∀ table' ∈ ((keptReads.take 3).foldl SettingState.step
      (.start 0 (attemptsStored "8"))).recent 62,
        valueOf table' "max_login_attempts" (some "5") = some "3" := by decide +kernel
  have hread : (getSetting 62 ((keptReads.take 3).foldl SettingState.step
      (.start 0 (attemptsStored "8"))).table ((keptReads.take 3).foldl SettingState.step
        (.start 0 (attemptsStored "8"))).cache "max_login_attempts" (some "5")).1 = some "8" := by
    decide +kernel
  have hboth := hread.symm.trans (hvalue.trans (hall table hmem))
  exact absurd hboth (by decide)

theorem fresh_of_timely_twice :
    Guarded SettingState.step SettingState.Fresh (.start 0 (attemptsStored "8"))
      [⟨5, .read "max_login_attempts" (some "5")⟩, ⟨10, .read "max_login_attempts" (some "4")⟩] := by
  refine fresh_of_timely 0 (attemptsStored "8") _
    ⟨fun key default hread hsome => ?_, fun key default hread hsome q hq => ?_, trivial⟩
  · exact absurd hsome Bool.false_ne_true
  · cases hread
    cases hq
    exact ⟨by decide, Or.inl rfl⟩

end PveManager.Security
