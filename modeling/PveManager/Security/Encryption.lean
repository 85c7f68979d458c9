import PveManager.Core.Run
import Mathlib.Logic.Function.Basic

/-!
# Encrypted columns

Sensitive columns are encrypted with the key of the settings and read back with it; a value that
the key does not open is taken for plain text. Each start encrypts what its key does not open in
the two password columns, so a value that was encrypted with another key is encrypted again. A
secret reads back exactly as long as it has met no other key.
-/

namespace PveManager.Security

open PveManager.Core

/-! ### The cipher -/

/-- `Fernet`, with what its documentation promises: a token opens with its own key and with no
other one. The number stands for the time and the random bytes. -/
structure Fernet (Key : Type) where
  encrypt : Key → Nat → String → String
  decrypt : Key → String → Option String
  decrypt_encrypt : ∀ k n v, decrypt k (encrypt k n v) = some v
  decrypt_foreign : ∀ k k' n v, k ≠ k' → decrypt k (encrypt k' n v) = none
  encrypt_ne_empty : ∀ k n v, encrypt k n v ≠ ""

namespace Fernet

variable {Key : Type} (F : Fernet Key)

/-- `encrypt_value`; `_get_fernet` gives nothing without a key. -/
def encryptValue (key : Option Key) (nonce : Nat) (value : String) : String :=
  if value = "" then value
  else
    match key with
    | none => value
    | some k => F.encrypt k nonce value

/-- `decrypt_value`. -/
def decryptValue (key : Option Key) (value : String) : String :=
  if value = "" then value
  else
    match key with
    | none => value
    | some k => (F.decrypt k value).getD value

/-- No key opens the text: it is no token. -/
def Plain (value : String) : Prop := ∀ k, F.decrypt k value = none

/-- What the migration makes of a value. -/
def migrated (k : Key) (nonce : Nat) (value : String) : String :=
  if value = "" then value
  else if (F.decrypt k value).isSome = true then value
  else F.encrypt k nonce value

end Fernet

/-! ### The columns -/

/-- The columns of the type `EncryptedString`. -/
inductive SecretColumn
  | serverPassword
  | serverTokenValue
  | cloudInitPassword
  | privateKey
  | appEnv
  | coolifyToken
  deriving DecidableEq

/-- The columns that the migration goes through. -/
def SecretColumn.isMigrated : SecretColumn → Bool
  | .serverPassword | .cloudInitPassword => true
  | _ => false

/-- A column of a row. -/
structure Cell where
  column : SecretColumn
  id : Nat
  deriving DecidableEq

/-- The database and the running panel. -/
structure Vault (Key : Type) where
  /-- `settings.FERNET_KEY`. -/
  settings : Option Key
  stored : Cell → Option String
  /-- Not in the code: what was last written to a cell, and the keys that have come to it since,
  the last one first. -/
  written : Cell → Option String
  met : Cell → List Key

/-- What happens. -/
inductive VaultEvent {Key : Type} (F : Fernet Key)
  /-- The panel starts. The settings may read the key from another place than the migration does,
  and the migration may fail. -/
  | start (settings environ : Option Key) (nonce : Cell → Nat) (commits : Bool)
  /-- The panel writes a secret that is no token. -/
  | write (cell : Cell) (nonce : Nat) (value : Option String)
      (plain : ∀ v ∈ value, F.Plain v)

/-- The event writes to the cell. -/
def VaultEvent.writes {Key : Type} {F : Fernet Key} (cell : Cell) : VaultEvent F → Prop
  | .start .. => False
  | .write cell' .. => cell' = cell

namespace Vault

variable {Key : Type} (F : Fernet Key) (s : Vault Key)

/-- The keys that the migration brings to a cell. -/
def comes (cell : Cell) (environ : Option Key) (commits : Bool) : Option Key :=
  if commits && cell.column.isMigrated then environ else none

/-- `migrate_encrypt_passwords`, all rows in one transaction. -/
def migrateEncryptPasswords (environ : Option Key) (nonce : Cell → Nat) (commits : Bool)
    (cell : Cell) : Option String :=
  match comes cell environ commits with
  | none => s.stored cell
  | some k => (s.stored cell).map (F.migrated k (nonce cell))

/-- `process_result_value` of a cell. -/
def read (cell : Cell) : Option String := (s.stored cell).map (F.decryptValue s.settings)

def step (s : Vault Key) : VaultEvent F → Vault Key
  | .start settings environ nonce commits =>
    { settings := settings
      stored := s.migrateEncryptPasswords F environ nonce commits
      written := s.written
      met := fun cell => (comes cell environ commits).toList ++ s.met cell }
  | .write cell nonce value _ =>
    { s with
      stored := Function.update s.stored cell (value.map (F.encryptValue s.settings nonce))
      written := Function.update s.written cell value
      met := Function.update s.met cell s.settings.toList }

/-- An empty database before the first start. -/
def fresh : Vault Key := ⟨none, fun _ => none, fun _ => none, fun _ => []⟩

end Vault

/-! ### Layers -/

/-- The text is the value under the layers of the keys that came to it, the last one first. A key
adds a layer unless it opens the one on top. -/
inductive Sealed {Key : Type} (F : Fernet Key) (value : String) : List Key → String → Prop
  | plain : Sealed F value [] value
  | same {keys : List Key} {text : String} {k : Key} (h : Sealed F value keys text)
      (htop : keys.head? = some k) : Sealed F value (k :: keys) text
  | layer {keys : List Key} {text : String} {k : Key} (h : Sealed F value keys text)
      (htop : keys.head? ≠ some k) (nonce : Nat) :
      Sealed F value (k :: keys) (F.encrypt k nonce text)

namespace Sealed

variable {Key : Type} {F : Fernet Key} {value text : String} {keys : List Key}

theorem ne_empty (h : Sealed F value keys text) (hvalue : value ≠ "") : text ≠ "" := by
  induction h with
  | plain => exact hvalue
  | same _ _ ih => exact ih
  | layer _ _ nonce => exact F.encrypt_ne_empty _ _ _

/-- Under a key on top lies a layer of it, and nothing else exactly where no other key came. -/
theorem exists_layer {k : Key} {rest : List Key} (h : Sealed F value (k :: rest) text) :
    ∃ keys' text' nonce, text = F.encrypt k nonce text' ∧ Sealed F value keys' text' ∧
      ((∀ k' ∈ k :: rest, k' = k) ↔ keys' = []) := by
  induction rest generalizing text with
  | nil =>
    cases h with
    | same h htop => cases htop
    | layer h htop nonce => exact ⟨[], _, nonce, rfl, h, by simp⟩
  | cons k₁ rest ih =>
    cases h with
    | same h htop =>
      cases htop
      obtain ⟨keys', text', nonce, heq, hsealed, hall⟩ := ih h
      exact ⟨keys', text', nonce, heq, hsealed, by simpa using hall⟩
    | layer h htop nonce =>
      refine ⟨k₁ :: rest, _, nonce, rfl, h, iff_of_false (fun hall => htop ?_) (by simp)⟩
      rw [hall k₁ (by simp)]
      rfl

/-- The key on top opens the text, and no other key does. -/
theorem decrypt_isSome_iff (hplain : F.Plain value) (h : Sealed F value keys text) (k : Key) :
    (F.decrypt k text).isSome = true ↔ keys.head? = some k := by
  cases keys with
  | nil =>
    cases h
    simp [hplain k]
  | cons k₁ rest =>
    obtain ⟨-, text', nonce, rfl, -⟩ := h.exists_layer
    by_cases hk : k = k₁
    · simp [hk, F.decrypt_encrypt]
    · simp [F.decrypt_foreign k k₁ nonce text' hk, Ne.symm hk]

/-- A text that a key opens is not the value. -/
theorem ne_value (hplain : F.Plain value) (h : Sealed F value keys text) (hkeys : keys ≠ []) :
    text ≠ value := by
  obtain ⟨k, rest, rfl⟩ := List.exists_cons_of_ne_nil hkeys
  rintro rfl
  simpa [hplain k] using (h.decrypt_isSome_iff hplain k).mpr rfl

/-- A key comes to the text. -/
theorem migrate (hplain : F.Plain value) (hvalue : value ≠ "") (h : Sealed F value keys text)
    (k : Key) (nonce : Nat) : Sealed F value (k :: keys) (F.migrated k nonce text) := by
  unfold Fernet.migrated
  rw [if_neg (h.ne_empty hvalue)]
  split
  · rename_i hopens
    exact .same h ((h.decrypt_isSome_iff hplain k).mp hopens)
  · rename_i hcloses
    exact .layer h (mt (h.decrypt_isSome_iff hplain k).mpr hcloses) nonce

/-- The value is read back exactly when all keys that came to it are the present one. -/
theorem decryptValue_eq_iff (hplain : F.Plain value) (hvalue : value ≠ "")
    (h : Sealed F value keys text) (key : Option Key) :
    F.decryptValue key text = value ↔ ∀ k ∈ keys, key = some k := by
  unfold Fernet.decryptValue
  rw [if_neg (h.ne_empty hvalue)]
  cases keys with
  | nil =>
    cases h
    cases key <;> simp [hplain _]
  | cons k₁ rest =>
    cases key with
    | none =>
      refine iff_of_false (h.ne_value hplain (by simp)) fun hall => ?_
      cases hall k₁ List.mem_cons_self
    | some k =>
      by_cases hk : k = k₁
      · subst hk
        obtain ⟨keys', text', nonce, rfl, hsealed, hall⟩ := h.exists_layer
        have hkeys : (∀ k' ∈ k :: rest, some k = some k') ↔ keys' = [] := by
          rw [← hall]
          simp [eq_comm]
        rw [hkeys]
        simp only [F.decrypt_encrypt, Option.getD_some]
        constructor
        · intro heq
          by_contra hne
          exact hsealed.ne_value hplain hne heq
        · rintro rfl
          cases hsealed
          rfl
      · refine iff_of_false ?_ (by simp [hk])
        have hnone : F.decrypt k text = none := by
          rw [← Option.not_isSome_iff_eq_none, h.decrypt_isSome_iff hplain k]
          simpa using Ne.symm hk
        simpa [hnone] using h.ne_value hplain (by simp)

end Sealed

/-! ### Runs -/

namespace Vault

variable {Key : Type} {F : Fernet Key} {s : Vault Key}

/-- What a cell holds is what was last written to it, under the layers of the keys it has met. -/
def Holds (F : Fernet Key) (s : Vault Key) (cell : Cell) : Prop :=
  match s.written cell with
  | none => s.stored cell = none
  | some v => F.Plain v ∧ ∃ text, s.stored cell = some text ∧
      if v = "" then text = "" else Sealed F v (s.met cell) text

theorem Holds.start {cell : Cell} (h : s.Holds F cell) (settings environ : Option Key)
    (nonce : Cell → Nat) (commits : Bool) :
    (s.step F (.start settings environ nonce commits)).Holds F cell := by
  unfold Holds at h ⊢
  simp only [step, migrateEncryptPasswords]
  cases hwritten : s.written cell with
  | none =>
    rw [hwritten] at h
    cases comes cell environ commits <;> simp_all
  | some v =>
    rw [hwritten] at h
    obtain ⟨hplain, text, htext, hsealed⟩ := h
    refine ⟨hplain, ?_⟩
    cases comes cell environ commits with
    | none => exact ⟨text, htext, hsealed⟩
    | some k =>
      refine ⟨F.migrated k (nonce cell) text, by simp [htext], ?_⟩
      split at hsealed
      · rename_i hempty
        simp [hempty, hsealed, Fernet.migrated]
      · rename_i hvalue
        rw [if_neg hvalue]
        exact hsealed.migrate hplain hvalue k (nonce cell)

theorem Holds.write {cell : Cell} (h : s.Holds F cell) (cell' : Cell) (nonce : Nat)
    (value : Option String) (plain : ∀ v ∈ value, F.Plain v) :
    (s.step F (.write cell' nonce value plain)).Holds F cell := by
  by_cases hcell : cell = cell'
  · subst hcell
    unfold Holds
    simp only [step, Function.update_self]
    cases value with
    | none => rfl
    | some v =>
      refine ⟨plain v rfl, _, rfl, ?_⟩
      by_cases hempty : v = ""
      · simp [hempty, Fernet.encryptValue]
      · simp only [Fernet.encryptValue, hempty, if_false]
        cases s.settings with
        | none => exact .plain
        | some k => exact .layer .plain (by simp) nonce
  · simpa [Holds, step, hcell] using h

theorem Holds.step {cell : Cell} (h : s.Holds F cell) (e : VaultEvent F) :
    (s.step F e).Holds F cell := by
  cases e with
  | start settings environ nonce commits => exact h.start settings environ nonce commits
  | write cell' nonce value plain => exact h.write cell' nonce value plain

theorem holds_of_run (events : List (VaultEvent F)) :
    ∀ s ∈ visited (step F) fresh events, ∀ cell, s.Holds F cell :=
  invariant_of_step (fun _ e h cell => (h cell).step e) (fun _ => rfl) events

/-- A text in a cell is a secret under its layers. -/
theorem Holds.exists_sealed {cell : Cell} (h : s.Holds F cell) {text : String}
    (htext : s.stored cell = some text) (hne : text ≠ "") :
    ∃ v, s.written cell = some v ∧ F.Plain v ∧ Sealed F v (s.met cell) text := by
  unfold Holds at h
  rw [htext] at h
  cases hwritten : s.written cell with
  | none => simp [hwritten] at h
  | some v =>
    simp only [hwritten, Option.some.injEq, exists_eq_left'] at h
    refine ⟨v, rfl, h.1, ?_⟩
    by_cases hvalue : v = "" <;> simp_all

theorem Holds.read_eq_iff {cell : Cell} (h : s.Holds F cell) {v : String}
    (hwritten : s.written cell = some v) (hvalue : v ≠ "") :
    s.read F cell = some v ↔ ∀ k ∈ s.met cell, s.settings = some k := by
  unfold Holds at h
  rw [hwritten] at h
  obtain ⟨hplain, text, htext, hsealed⟩ := h
  rw [if_neg hvalue] at hsealed
  rw [read, htext, Option.map_some, Option.some_inj]
  exact hsealed.decryptValue_eq_iff hplain hvalue s.settings

/-- A secret reads back exactly while every key that has come to it is the present one. -/
theorem reads_back_iff (events : List (VaultEvent F)) :
    ∀ s ∈ visited (step F) fresh events, ∀ cell v, s.written cell = some v → v ≠ "" →
      (s.read F cell = some v ↔ ∀ k ∈ s.met cell, s.settings = some k) :=
  fun s hs cell _ hwritten hvalue => (holds_of_run events s hs cell).read_eq_iff hwritten hvalue

/-- A secret that has met two keys is lost under every key, until it is written again. -/
theorem lost_for_good (events : List (VaultEvent F)) :
    ∀ s ∈ visited (step F) fresh events, ∀ cell v, s.written cell = some v → v ≠ "" →
      ∀ k ∈ s.met cell, ∀ k' ∈ s.met cell, k ≠ k' →
        ∀ later : List (VaultEvent F), (∀ e ∈ later, ¬e.writes cell) →
          ∀ s' ∈ visited (step F) s later, s'.read F cell ≠ some v := by
  intro s hs cell v hwritten hvalue k hk k' hk' hne later hlater
  have hholds := holds_of_run events s hs cell
  clear hs
  have hlost : ∀ s : Vault Key, s.Holds F cell → s.written cell = some v → k ∈ s.met cell →
      k' ∈ s.met cell → s.read F cell ≠ some v := by
    intro s hholds hwritten hk hk' hread
    have hall := (hholds.read_eq_iff hwritten hvalue).mp hread
    exact hne (Option.some.inj ((hall k hk).symm.trans (hall k' hk')))
  have hkept : ∀ s' ∈ visited (step F) s later, s'.Holds F cell ∧ s'.written cell = some v ∧
      k ∈ s'.met cell ∧ k' ∈ s'.met cell := by
    refine invariant_of_guarded ?_ ⟨hholds, hwritten, hk, hk'⟩ (guarded_of_forall hlater _)
    rintro s e ⟨hholds, hwritten, hk, hk'⟩ hother
    refine ⟨hholds.step e, ?_⟩
    cases e with
    | start settings environ nonce commits =>
      exact ⟨hwritten, List.mem_append_right _ hk, List.mem_append_right _ hk'⟩
    | write cell' nonce value plain =>
      have hne' : cell ≠ cell' := fun h => hother h.symm
      simpa [step, hne'] using ⟨hwritten, hk, hk'⟩
  intro s' hs'
  obtain ⟨hholds', hwritten', hmet, hmet'⟩ := hkept s' hs'
  exact hlost s' hholds' hwritten' hmet hmet'

/-- The key of the panel lies on top of every secret of the migrated columns. -/
def OnTop (s : Vault Key) (k : Key) : Prop :=
  s.settings = some k ∧ ∀ cell v, cell.column.isMigrated = true → s.written cell = some v →
    (s.met cell).head? = some k

theorem OnTop.write {k : Key} (h : s.OnTop k) (cell' : Cell) (nonce : Nat) (value : Option String)
    (plain : ∀ v ∈ value, F.Plain v) : (s.step F (.write cell' nonce value plain)).OnTop k := by
  refine ⟨h.1, fun cell v hmigrated hwritten => ?_⟩
  by_cases hcell : cell = cell'
  · subst hcell
    simp [step, h.1]
  · simp only [step, Function.update_of_ne hcell] at hwritten ⊢
    exact h.2 cell v hmigrated hwritten

end Vault

/-! ### A panel that gets a key -/

/-- Two keys, whose tokens show which one made them. -/
def twoKeys : Fernet Bool where
  encrypt k _ v := String.ofList ((if k = true then 'y' else 'n') :: v.toList)
  decrypt k t :=
    match t.toList with
    | c :: rest => if c = (if k = true then 'y' else 'n') then some (String.ofList rest) else none
    | [] => none
  decrypt_encrypt k n v := by simp
  decrypt_foreign k k' n v h := by
    cases k <;> cases k' <;> simp_all
  encrypt_ne_empty k n v h := by
    have hlist := congrArg String.toList h
    simp at hlist

def rootPassword : Cell := ⟨.serverPassword, 1⟩

theorem plain_secret : ∀ v ∈ some "secret", twoKeys.Plain v := by
  intro v hv
  cases hv
  intro k
  cases k <;> rfl

/-- A password is written before the panel has a key. -/
def keyless : List (VaultEvent twoKeys) :=
  [.start none none (fun _ => 0) true, .write rootPassword 0 (some "secret") plain_secret]

/-- A start with a key. -/
def startWith (k : Bool) : VaultEvent twoKeys := .start (some k) (some k) (fun _ => 0) true

namespace Vault

theorem reads_back_iff_keyless :
    ((keyless ++ [startWith true]).foldl (step twoKeys) fresh).read twoKeys rootPassword =
        some "secret" ↔
      ∀ k ∈ ((keyless ++ [startWith true]).foldl (step twoKeys) fresh).met rootPassword,
        ((keyless ++ [startWith true]).foldl (step twoKeys) fresh).settings = some k :=
  reads_back_iff (keyless ++ [startWith true]) _ (foldl_mem_visited _ _ _) rootPassword "secret"
    rfl (by decide)

/-- The panel runs with another key for a while, and with the old one again. -/
theorem lost_for_good_startWith :
    ([startWith true].foldl (step twoKeys) ((keyless ++ [startWith true, startWith false]).foldl
      (step twoKeys) fresh)).read twoKeys rootPassword ≠ some "secret" :=
  lost_for_good (keyless ++ [startWith true, startWith false]) _ (foldl_mem_visited _ _ _)
    rootPassword "secret" rfl (by decide) true (by decide) false (by decide) (by decide)
    [startWith true] (by simp [startWith, VaultEvent.writes]) _ (foldl_mem_visited _ _ _)

end Vault

end PveManager.Security
