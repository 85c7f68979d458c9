import PveManager.Core.KeyedTable
import PveManager.Core.Run

/-!
# Backup codes

A login and a request to disable the second factor read the account, look for
the code in the list they have read, and write the whole list back. Any number
of attempts may be between their reading and their writing. Codes are used once
exactly when no login writes a list that another acceptance has changed since,
and no attempt presents a code that was accepted since it read the account.
-/

namespace PveManager.Users

open PveManager.Core

/-! ### The service -/

/-- `code.strip()`. -/
def strip (code : String) : List Char :=
  ((code.toList.dropWhile Char.isWhitespace).reverse.dropWhile Char.isWhitespace).reverse

/-- `hash_backup_code`: the digest of the code without case, dashes and blanks. -/
def hashBackupCode (sha256 : String → String) (code : String) : String :=
  sha256 (String.ofList (((strip code).map Char.toLower).filter fun c => c ≠ '-' && c ≠ ' '))

/-- `consume_backup_code`: the hashes that are left, when the code matches one. -/
def consumeBackupCode (sha256 : String → String) (code : String) (stored : List String) :
    Option (List String) :=
  if code = "" || stored.isEmpty then none
  else if stored.contains (hashBackupCode sha256 code) then
    some (stored.erase (hashBackupCode sha256 code))
  else none

/-- `verify_totp`, with the check that `pyotp` makes at the time of the request. -/
def verifyTotp (totp : String → String → Bool) (secret : Option String) (code : String) : Bool :=
  let digits := (strip code).filter fun c => c ≠ ' '
  secret.any fun secret =>
    secret ≠ "" && code ≠ "" && !digits.isEmpty && digits.all Char.isDigit &&
      totp secret (String.ofList digits)

/-! ### The two endpoints -/

/-- The columns of the second factor. -/
structure Factor where
  enabled : Bool
  secret : Option String
  codes : Option (List String)

inductive FactorEndpoint
  | login
  | disable
  deriving DecidableEq

/-- A request that may present a code. -/
structure Attempt where
  endpoint : FactorEndpoint
  code : Option String
  /-- The checks before the second factor: password, lock, activity. -/
  allowed : Bool
  totp : String → String → Bool

/-- The answer of the second factor. -/
inductive SecondFactor
  | refused
  /-- A login is asked for a code. -/
  | required
  | notAsked
  | byTotp
  | byCode (hash : String) (rest : List String)

/-- The second factor, on the row that the request has read. -/
def secondFactor (sha256 : String → String) (row : Factor) (a : Attempt) : SecondFactor :=
  let code := a.code.getD ""
  if !a.allowed then .refused
  else if !row.enabled then .notAsked
  else if a.endpoint = .login ∧ code = "" then .required
  else if verifyTotp a.totp row.secret code then .byTotp
  else
    match consumeBackupCode sha256 code (row.codes.getD []) with
    | some rest => .byCode (hashBackupCode sha256 code) rest
    | none => .refused

/-- The hash of the code that was accepted. -/
def SecondFactor.used : SecondFactor → Option String
  | .byCode hash _ => some hash
  | _ => none

/-- What a login writes: the list without the code. -/
def writeLogin (answer : SecondFactor) (row : Factor) : Factor :=
  match answer with
  | .byCode _ rest => { row with codes := some rest }
  | _ => row

/-- What a request to disable writes: the columns that it changes on the row it has read. -/
def writeDisable (answer : SecondFactor) (read row : Factor) : Factor :=
  match answer with
  | .refused | .required => row
  | _ =>
    { enabled := if read.enabled then false else row.enabled
      secret := if read.secret.isSome then none else row.secret
      codes := if read.codes.isSome then none else row.codes }

/-! ### Attempts at once -/

/-- An attempt that has read the account. -/
structure PendingAttempt where
  id : Nat
  attempt : Attempt
  read : Factor
  /-- How many codes had been accepted. -/
  before : Nat

structure CodeState where
  row : Factor
  pending : KeyedTable PendingAttempt.id
  /-- The hashes of the codes that were accepted, in order. -/
  accepted : List String

inductive CodeEvent
  | read (id : Nat) (a : Attempt)
  /-- The attempt writes and commits; a commit that fails undoes the request. -/
  | commit (id : Nat) (ok : Bool)

section Steps

variable (sha256 : String → String) (s : CodeState)

def PendingAttempt.answer (p : PendingAttempt) : SecondFactor := secondFactor sha256 p.read p.attempt

/-- The row after the attempt has committed. -/
def writeAttempt (p : PendingAttempt) : Factor :=
  match p.attempt.endpoint with
  | .login => writeLogin (p.answer sha256) s.row
  | .disable => writeDisable (p.answer sha256) p.read s.row

def readStep (id : Nat) (a : Attempt) : CodeState :=
  { s with pending := s.pending.save ⟨id, a, s.row, s.accepted.length⟩ }

def commitStep (id : Nat) (ok : Bool) : CodeState :=
  match s.pending.find? id with
  | none => s
  | some p =>
    if ok then
      { row := writeAttempt sha256 s p
        pending := s.pending.erase id
        accepted := s.accepted ++ (p.answer sha256).used.toList }
    else { s with pending := s.pending.erase id }

def codeStep : CodeEvent → CodeState
  | .read id a => readStep s id a
  | .commit id ok => commitStep sha256 s id ok

end Steps

/-! ### Single use -/

/-- The codes that an account was given, and what is sent for it. -/
structure Enrollment where
  sha256 : String → String
  secret : Option String
  codes : List String
  nodup : codes.Nodup
  events : List CodeEvent

namespace Enrollment

variable (n : Enrollment)

def start : CodeState := ⟨⟨true, n.secret, some n.codes⟩, .empty, []⟩

/-- The stored codes are the given ones without those accepted. -/
def Remaining (accepted : List String) (row : Factor) : Prop :=
  ∀ hash, hash ∈ row.codes.getD [] ↔ hash ∈ n.codes ∧ hash ∉ accepted

/-- No code was accepted twice and, while the second factor is on, an accepted code is gone and
every other one is still there. -/
structure SingleUse (s : CodeState) : Prop where
  once : s.accepted.Nodup
  remaining : s.row.enabled = true → n.Remaining s.accepted s.row

/-- An attempt with a code commits before any other acceptance that it could undo. -/
def Timely (s : CodeState) : CodeEvent → Prop
  | .commit id true => ∀ p, s.pending.find? id = some p → ∀ hash, (p.answer n.sha256).used = some hash →
      hash ∉ s.accepted.drop p.before ∧
        (p.attempt.endpoint = .login → s.row.enabled = true → s.accepted.drop p.before = [])
  | _ => True

/-! ### One attempt -/

section Steps

variable {n} {s : CodeState} {p : PendingAttempt} {hash : String}

theorem consumeBackupCode_eq_some {sha256 : String → String} {code : String}
    {stored rest : List String} (h : consumeBackupCode sha256 code stored = some rest) :
    hashBackupCode sha256 code ∈ stored ∧ rest = stored.erase (hashBackupCode sha256 code) := by
  unfold consumeBackupCode at h
  split at h
  · cases h
  · split at h
    · rename_i hmem
      exact ⟨List.contains_iff_mem.mp hmem, (Option.some.inj h).symm⟩
    · cases h

/-- An accepted code was in the list that the attempt has read, with the factor on. -/
theorem secondFactor_eq_byCode {sha256 : String → String} {row : Factor} {a : Attempt}
    {rest : List String} (h : secondFactor sha256 row a = .byCode hash rest) :
    row.enabled = true ∧ hash ∈ row.codes.getD [] ∧ rest = (row.codes.getD []).erase hash := by
  unfold secondFactor at h
  dsimp only at h
  split at h
  · cases h
  · split at h
    · cases h
    · rename_i henabled
      split at h
      · cases h
      · split at h
        · cases h
        · split at h
          · rename_i hconsume
            obtain ⟨hmem, hrest⟩ := consumeBackupCode_eq_some hconsume
            cases h
            exact ⟨by simpa using henabled, hmem, hrest⟩
          · cases h

theorem used_eq_some {answer : SecondFactor} (h : answer.used = some hash) :
    ∃ rest, answer = .byCode hash rest := by
  cases answer with
  | byCode hash' rest =>
    cases h
    exact ⟨rest, rfl⟩
  | _ => cases h

/-- What an attempt has read is what was stored when it read. -/
structure Reads (n : Enrollment) (s : CodeState) (p : PendingAttempt) : Prop where
  before_le : p.before ≤ s.accepted.length
  enabled : s.row.enabled = true → p.read.enabled = true
  nodup : p.read.enabled = true → (p.read.codes.getD []).Nodup
  remaining : p.read.enabled = true → n.Remaining (s.accepted.take p.before) p.read

/-- What the stored lists and the lists in flight keep. -/
structure Sound (n : Enrollment) (s : CodeState) : Prop where
  nodup : s.row.enabled = true → (s.row.codes.getD []).Nodup
  issued : ∀ hash ∈ s.accepted, hash ∈ n.codes
  reads : ∀ p ∈ s.pending.rows, n.Reads s p

theorem sound_start : n.Sound n.start where
  nodup := fun _ => n.nodup
  issued := fun _ h => absurd h List.not_mem_nil
  reads := fun _ h => absurd h List.not_mem_nil

theorem singleUse_start : n.SingleUse n.start where
  once := List.nodup_nil
  remaining := fun _ _ => (and_iff_left List.not_mem_nil).symm

/-- An attempt turns the factor off or leaves it as it is. -/
theorem enabled_writeAttempt (h : (writeAttempt n.sha256 s p).enabled = true) :
    s.row.enabled = true := by
  unfold writeAttempt at h
  split at h
  · unfold writeLogin at h
    split at h <;> exact h
  · unfold writeDisable at h
    split at h
    · exact h
    · exact h
    · dsimp only at h
      split at h
      · cases h
      · exact h

/-- An attempt that leaves the factor on writes the list of an accepted login, or nothing. -/
theorem writeAttempt_cases (hreads : n.Reads s p)
    (h : (writeAttempt n.sha256 s p).enabled = true) :
    (p.attempt.endpoint = .login ∧ ∃ hash rest, p.answer n.sha256 = .byCode hash rest ∧
        writeAttempt n.sha256 s p = { s.row with codes := some rest }) ∨
      ((p.answer n.sha256).used = none ∧ writeAttempt n.sha256 s p = s.row) := by
  have hon := hreads.enabled (enabled_writeAttempt h)
  revert h
  unfold writeAttempt
  cases hendpoint : p.attempt.endpoint with
  | login =>
    intro _
    cases hanswer : p.answer n.sha256 with
    | byCode hash rest => exact Or.inl ⟨rfl, hash, rest, rfl, rfl⟩
    | refused => exact Or.inr ⟨rfl, rfl⟩
    | required => exact Or.inr ⟨rfl, rfl⟩
    | notAsked => exact Or.inr ⟨rfl, rfl⟩
    | byTotp => exact Or.inr ⟨rfl, rfl⟩
  | disable =>
    cases hanswer : p.answer n.sha256 with
    | refused => exact fun _ => Or.inr ⟨rfl, rfl⟩
    | required => exact fun _ => Or.inr ⟨rfl, rfl⟩
    | _ =>
      intro h
      unfold writeDisable at h
      dsimp only at h
      rw [hon, if_pos rfl] at h
      cases h

/-- The step of a commit that works. -/
theorem codeStep_commit {id : Nat} (hfind : s.pending.find? id = some p) :
    codeStep n.sha256 s (.commit id true) =
      { row := writeAttempt n.sha256 s p
        pending := s.pending.erase id
        accepted := s.accepted ++ (p.answer n.sha256).used.toList } := by
  unfold codeStep commitStep
  simp only [hfind]
  rfl

theorem codeStep_failed {id : Nat} (hfind : s.pending.find? id = some p) :
    codeStep n.sha256 s (.commit id false) = { s with pending := s.pending.erase id } := by
  unfold codeStep commitStep
  simp only [hfind]
  rfl

theorem codeStep_unknown {id : Nat} {ok : Bool} (hfind : s.pending.find? id = none) :
    codeStep n.sha256 s (.commit id ok) = s := by
  unfold codeStep commitStep
  simp only [hfind]

/-- Acceptances after the reading leave what was read. -/
theorem Reads.after (h : n.Reads s p) {row : Factor} {pending : KeyedTable PendingAttempt.id}
    {more : List String} (hrow : row.enabled = true → s.row.enabled = true) :
    n.Reads ⟨row, pending, s.accepted ++ more⟩ p where
  before_le := by
    have hle := h.before_le
    simp only [List.length_append]
    omega
  enabled := fun hon => h.enabled (hrow hon)
  nodup := h.nodup
  remaining := by
    intro hon
    rw [List.take_append_of_le_length h.before_le]
    exact h.remaining hon

/-- An accepted code was given, and had not been accepted when the attempt read the account. -/
theorem Reads.of_byCode (h : n.Reads s p) {rest : List String}
    (hanswer : p.answer n.sha256 = .byCode hash rest) :
    hash ∈ n.codes ∧ hash ∉ s.accepted.take p.before ∧ rest.Nodup ∧
      ∀ hash', hash' ∈ rest ↔
        hash' ≠ hash ∧ hash' ∈ n.codes ∧ hash' ∉ s.accepted.take p.before := by
  obtain ⟨hon, hmem, rfl⟩ := secondFactor_eq_byCode hanswer
  obtain ⟨hcode, hfresh⟩ := (h.remaining hon hash).mp hmem
  have hnodup := h.nodup hon
  refine ⟨hcode, hfresh, hnodup.erase hash, fun hash' => ?_⟩
  rw [hnodup.mem_erase_iff, h.remaining hon hash']

theorem sound_codeStep (h : n.SingleUse s) (hsound : n.Sound s) (e : CodeEvent) :
    n.Sound (codeStep n.sha256 s e) := by
  cases e with
  | read id a =>
    refine ⟨hsound.nodup, hsound.issued, fun p hp => ?_⟩
    rcases (s.pending.mem_rows_save _ p).mp hp with rfl | ⟨hold, -⟩
    · refine ⟨Nat.le_refl _, fun hon => hon, hsound.nodup, fun hon => ?_⟩
      change n.Remaining (s.accepted.take s.accepted.length) s.row
      rw [List.take_length]
      exact h.remaining hon
    · obtain ⟨hle, hon, hnodup, hremaining⟩ := hsound.reads p hold
      exact ⟨hle, hon, hnodup, hremaining⟩
  | commit id ok =>
    cases hfind : s.pending.find? id with
    | none =>
      rw [codeStep_unknown hfind]
      exact hsound
    | some p =>
      have hreads := hsound.reads p (s.pending.mem_of_find? hfind)
      cases ok with
      | false =>
        rw [codeStep_failed hfind]
        refine ⟨hsound.nodup, hsound.issued, fun q hq => ?_⟩
        obtain ⟨hle, hon, hnodup, hremaining⟩ :=
          hsound.reads q ((s.pending.mem_rows_erase id q).mp hq).1
        exact ⟨hle, hon, hnodup, hremaining⟩
      | true =>
        rw [codeStep_commit hfind]
        refine ⟨fun hon => ?_, fun hash hmem => ?_, fun q hq => ?_⟩
        · rcases writeAttempt_cases hreads hon with ⟨-, hash, rest, hanswer, hrow⟩ | ⟨-, hrow⟩
          · rw [hrow]
            exact (hreads.of_byCode hanswer).2.2.1
          · rw [hrow]
            exact hsound.nodup (hrow ▸ hon)
        · rcases List.mem_append.mp hmem with hold | hnew
          · exact hsound.issued hash hold
          · obtain ⟨rest, hanswer⟩ := used_eq_some (Option.mem_toList.mp hnew)
            exact (hreads.of_byCode hanswer).1
        · exact (hsound.reads q ((s.pending.mem_rows_erase id q).mp hq).1).after
            enabled_writeAttempt

/-- An acceptance keeps the codes single use exactly when it comes in time. -/
theorem singleUse_commit_iff (h : n.SingleUse s) (hsound : n.Sound s) {id : Nat}
    (hfind : s.pending.find? id = some p) :
    n.SingleUse (codeStep n.sha256 s (.commit id true)) ↔ n.Timely s (.commit id true) := by
  have hreads := hsound.reads p (s.pending.mem_of_find? hfind)
  have hguard : n.Timely s (.commit id true) ↔ ∀ hash, (p.answer n.sha256).used = some hash →
      hash ∉ s.accepted.drop p.before ∧
        (p.attempt.endpoint = .login → s.row.enabled = true → s.accepted.drop p.before = []) := by
    constructor
    · exact fun hall => hall p hfind
    · intro hone q hq
      obtain rfl := Option.some.inj (hfind.symm.trans hq)
      exact hone
  rw [codeStep_commit hfind, hguard]
  cases hused : (p.answer n.sha256).used with
  | none =>
    refine iff_of_true ⟨?_, fun hon => ?_⟩ fun hash hhash => by cases hhash
    · simpa using h.once
    · rcases writeAttempt_cases hreads hon with ⟨-, hash, rest, hanswer, -⟩ | ⟨-, hrow⟩
      · rw [hanswer] at hused
        cases hused
      · rw [hrow] at hon ⊢
        simpa using h.remaining hon
  | some hash =>
    obtain ⟨rest, hanswer⟩ := used_eq_some hused
    obtain ⟨hcode, hfresh, -, hrest⟩ := hreads.of_byCode hanswer
    have hsplit : s.accepted = s.accepted.take p.before ++ s.accepted.drop p.before :=
      (List.take_append_drop _ _).symm
    have honce : (s.accepted ++ [hash]).Nodup ↔ hash ∉ s.accepted.drop p.before := by
      rw [List.nodup_append]
      constructor
      · rintro ⟨-, -, hne⟩ hmem
        exact hne hash (List.mem_of_mem_drop hmem) hash (List.mem_singleton_self _) rfl
      · intro hdrop
        refine ⟨h.once, List.nodup_singleton _, fun a ha b hb => ?_⟩
        obtain rfl := List.mem_singleton.mp hb
        rintro rfl
        rw [hsplit] at ha
        exact (List.mem_append.mp ha).elim hfresh hdrop
    constructor
    · rintro ⟨hnodup, hremaining⟩ hash' hhash'
      obtain rfl := Option.some.inj hhash'
      refine ⟨honce.mp hnodup, fun hlogin hon => ?_⟩
      have hrow : writeAttempt n.sha256 s p = { s.row with codes := some rest } := by
        unfold writeAttempt
        rw [hlogin, hanswer]
        rfl
      rw [List.eq_nil_iff_forall_not_mem]
      intro late hlate
      have hne : late ≠ hash := fun he => honce.mp hnodup (he ▸ hlate)
      have hlatecode := hsound.issued late (List.mem_of_mem_drop hlate)
      have hlatefresh : late ∉ s.accepted.take p.before := by
        have hnd := h.once
        rw [hsplit, List.nodup_append] at hnd
        exact fun hmem => hnd.2.2 late hmem late hlate rfl
      have hmem : late ∈ rest := (hrest late).mpr ⟨hne, hlatecode, hlatefresh⟩
      have hafter := (hremaining (by rw [hrow]; exact hon) late).mp (by rw [hrow]; exact hmem)
      exact hafter.2 (List.mem_append_left _ (List.mem_of_mem_drop hlate))
    · intro hall
      obtain ⟨hdrop, hempty⟩ := hall hash rfl
      refine ⟨honce.mpr hdrop, fun hon => ?_⟩
      rcases writeAttempt_cases hreads hon with ⟨hlogin, hash', rest', hanswer', hrow⟩ | ⟨hnone, -⟩
      · rw [hanswer] at hanswer'
        cases hanswer'
        have hall := hempty hlogin (enabled_writeAttempt hon)
        rw [hall, List.append_nil] at hsplit
        intro hash'
        rw [hrow]
        change hash' ∈ rest ↔ _
        rw [hrest, ← hsplit, List.mem_append]
        constructor
        · rintro ⟨hne, hcode', hold⟩
          exact ⟨hcode', fun hmem => hmem.elim hold fun hsame => hne (List.mem_singleton.mp hsame)⟩
        · rintro ⟨hcode', hnot⟩
          exact ⟨fun he => hnot (Or.inr (he ▸ List.mem_singleton_self _)), hcode',
            fun hold => hnot (Or.inl hold)⟩
      · rw [hused] at hnone
        cases hnone

theorem singleUse_codeStep_iff (h : n.SingleUse s) (hsound : n.Sound s) (e : CodeEvent) :
    n.SingleUse (codeStep n.sha256 s e) ↔ n.Timely s e := by
  cases e with
  | read id a => exact iff_of_true ⟨h.once, h.remaining⟩ trivial
  | commit id ok =>
    cases hfind : s.pending.find? id with
    | none =>
      rw [codeStep_unknown hfind]
      refine iff_of_true h ?_
      cases ok with
      | false => trivial
      | true =>
        intro p hp
        rw [hfind] at hp
        cases hp
    | some p =>
      cases ok with
      | false =>
        rw [codeStep_failed hfind]
        exact iff_of_true ⟨h.once, h.remaining⟩ trivial
      | true => exact singleUse_commit_iff h hsound hfind

end Steps

/-- A login with a backup code. -/
def loginWith (code : String) : Attempt := ⟨.login, some code, true, fun _ _ => false⟩

/-- Two logins read the account before either of them commits. -/
def twice : Enrollment where
  sha256 := id
  secret := some "secret"
  codes := ["1f2e3d4c"]
  nodup := List.nodup_singleton _
  events := [.read 1 (loginWith "1f2e-3d4c"), .read 2 (loginWith "1f2e-3d4c"), .commit 1 true,
    .commit 2 true]

end Enrollment

end PveManager.Users
