import Mathlib.Data.Rat.Defs
import PveManager.Models.Records

/-!
# Notifications

A notification is stored for a user unless the user's preferences refuse it. The
preferences are columns that the user writes; where one of them cannot be read,
the check raises. The lemmas say what a whole round of users comes to.
-/

namespace PveManager.Monitoring

open PveManager.Core

/-- The `data` column. -/
inductive NotificationData
  | vmStatus (vmId : Vmid) (vmName status oldStatus : String)
  | resource (resourceType resourceName : String) (usage : Rat) (threshold : Nat)
  deriving DecidableEq

/-- A notification; title and message are the keys of their translations. -/
structure Notification where
  userId : UserId
  type : String
  level : String
  title : String
  message : String
  data : NotificationData
  link : Option String
  source : String
  sourceId : Option String
  deriving DecidableEq

/-- What a user wants to be told. Every column may be null. -/
structure NotificationPreference where
  enabled : Option Bool
  notificationLevels : Option (List String)
  notificationTypes : Option (List String)
  quietHoursStart : Option String
  quietHoursEnd : Option String

/-- The preferences of a user without a row. -/
def NotificationPreference.default : NotificationPreference where
  enabled := some true
  notificationLevels := some ["critical", "warning", "info", "success"]
  notificationTypes := some ["vm_status", "resource_alert", "system", "ipam", "template"]
  quietHoursStart := none
  quietHoursEnd := none

/-- `get_user_preferences`. -/
def getUserPreferences (row : Option NotificationPreference) : NotificationPreference :=
  row.getD .default

/-- One or two digits below a limit. -/
def clockPart (limit : Nat) (chars : List Char) : Option Nat :=
  if (chars.length = 1 ∨ chars.length = 2) ∧ chars.all Char.isDigit = true then
    let n := chars.foldl (fun n c => 10 * n + (c.toNat - '0'.toNat)) 0
    if n < limit then some n else none
  else none

/-- `strptime(text, "%H:%M")` in minutes of the day, `none` where it raises. -/
def strptimeHm (text : String) : Option Nat :=
  match text.toList.splitOn ':' with
  | [hour, minute] => do
    let h ← clockPart 24 hour
    let m ← clockPart 60 minute
    pure (60 * h + m)
  | _ => none

/-- The microseconds of a minute. -/
def minuteMicros : Nat := 60000000

namespace NotificationPreference

variable (prefs : NotificationPreference)

/-- `_is_quiet_hours` at a time of the day in microseconds, `none` where it raises. -/
def isQuietHours (now : Nat) : Option Bool :=
  if ¬truthy prefs.quietHoursStart ∨ ¬truthy prefs.quietHoursEnd then some false
  else do
    let start ← strptimeHm (prefs.quietHoursStart.getD "")
    let finish ← strptimeHm (prefs.quietHoursEnd.getD "")
    if start ≤ finish then pure (start * minuteMicros ≤ now && now ≤ finish * minuteMicros)
    else pure (start * minuteMicros ≤ now || now ≤ finish * minuteMicros)

/-- `create_notification`: whether the notification is stored, `none` where the check raises. -/
def createNotification (now : Nat) (n : Notification) : Option Bool :=
  if prefs.enabled ≠ some true then some false
  else do
    let levels ← prefs.notificationLevels
    if n.level ∉ levels then pure false
    else do
      let types ← prefs.notificationTypes
      if n.type ∉ types then pure false
      else do
        let quiet ← prefs.isQuietHours now
        pure (!quiet || decide (n.level = "critical"))

/-- Preferences the check can read. -/
structure Readable : Prop where
  levels : prefs.notificationLevels.isSome = true
  types : prefs.notificationTypes.isSome = true
  hours : truthy prefs.quietHoursStart = true → truthy prefs.quietHoursEnd = true →
    (strptimeHm (prefs.quietHoursStart.getD "")).isSome = true ∧
      (strptimeHm (prefs.quietHoursEnd.getD "")).isSome = true

variable {prefs}

theorem Readable.isSome_isQuietHours (h : prefs.Readable) (now : Nat) :
    (prefs.isQuietHours now).isSome = true := by
  unfold isQuietHours
  split
  · rfl
  · rename_i hset
    rw [not_or, not_not, not_not] at hset
    obtain ⟨hstart, hend⟩ := h.hours hset.1 hset.2
    obtain ⟨start, hstart⟩ := Option.isSome_iff_exists.mp hstart
    obtain ⟨finish, hend⟩ := Option.isSome_iff_exists.mp hend
    simp only [hstart, hend, Option.bind_eq_bind, Option.bind_some]
    split <;> rfl

/-- Readable preferences decide about every notification. -/
theorem Readable.isSome_createNotification (h : prefs.Readable) (now : Nat) (n : Notification) :
    (prefs.createNotification now n).isSome = true := by
  obtain ⟨levels, hlevels⟩ := Option.isSome_iff_exists.mp h.levels
  obtain ⟨types, htypes⟩ := Option.isSome_iff_exists.mp h.types
  obtain ⟨quiet, hquiet⟩ := Option.isSome_iff_exists.mp (h.isSome_isQuietHours now)
  unfold createNotification
  simp only [hlevels, htypes, hquiet, Option.bind_eq_bind, Option.bind_some]
  split
  · rfl
  · split
    · rfl
    · split <;> rfl

end NotificationPreference

theorem readable_default : NotificationPreference.default.Readable where
  levels := rfl
  types := rfl
  hours h := by cases h

/-- One notification for each user in turn; the round ends where a check raises. -/
def notifyUsers (create : UserId → Option Bool) : List UserId → List UserId × Bool
  | [] => ([], true)
  | u :: rest =>
    match create u with
    | none => ([], false)
    | some stored =>
      let (told, completed) := notifyUsers create rest
      (if stored then u :: told else told, completed)

/-- A round in which no check raises tells the users whose preferences accept. -/
theorem notifyUsers_of_isSome {create : UserId → Option Bool} {users : List UserId}
    (h : ∀ u ∈ users, (create u).isSome = true) :
    notifyUsers create users = (users.filter fun u => create u = some true, true) := by
  induction users with
  | nil => rfl
  | cons u rest ih =>
    have hrest := ih fun v hv => h v (List.mem_cons_of_mem u hv)
    obtain ⟨stored, hstored⟩ := Option.isSome_iff_exists.mp (h u List.mem_cons_self)
    unfold notifyUsers
    rw [hstored, hrest]
    cases stored <;> simp [hstored]

/-- What one user is told in a sequence of rounds. -/
theorem filter_told {P T : Type} {users : P → List UserId} {accepts : P → UserId → Bool}
    {told : P → UserId → T} {user : T → UserId} (huser : ∀ p u, user (told p u) = u)
    (hnodup : ∀ p, (users p).Nodup) (u : UserId) (l : List P) :
    (l.flatMap fun p => ((users p).filter (accepts p)).map (told p)).filter
        (fun t => decide (user t = u)) =
      (l.filter fun p => decide (u ∈ users p) && accepts p u).map (told · u) := by
  induction l with
  | nil => rfl
  | cons p rest ih =>
    have hround : (((users p).filter (accepts p)).map (told p)).filter (fun t => decide (user t = u)) =
        if u ∈ users p ∧ accepts p u = true then [told p u] else [] := by
      rw [List.filter_map, List.filter_filter]
      have hthis : (users p).filter (fun v => decide (v = u) && accepts p v) =
          ((users p).filter (fun v => decide (v = u))).filter (accepts p) := by
        rw [List.filter_filter]
        exact List.filter_congr fun v _ => Bool.and_comm _ _
      simp only [Function.comp_def, huser]
      rw [hthis, List.filter_eq]
      by_cases hu : u ∈ users p
      · rw [List.count_eq_one_of_mem (hnodup p) hu]
        cases ha : accepts p u <;> simp [hu, ha]
      · simp [hu, List.count_eq_zero_of_not_mem hu]
    rw [List.flatMap_cons, List.filter_append, hround, ih, List.filter_cons]
    by_cases hu : u ∈ users p ∧ accepts p u = true
    · simp [hu]
    · rw [if_neg hu, if_neg (by simpa using hu)]
      rfl

example : strptimeHm "25:00" = none := by decide

end PveManager.Monitoring
