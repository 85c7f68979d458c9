import PveManager.Core.Run
import PveManager.Core.TimedCache
import PveManager.Models.Records

/-!
# The cache of Proxmox connections

A client takes the session that is stored under its key, or opens one and stores it. The
key has the host, the user and the name of the token, but not the password and not the
value of the token.
-/

namespace PveManager.Servers

open PveManager.Core

/-! ### The client -/

/-- What proves to Proxmox who asks. -/
inductive Secret
  | token (name value : String)
  | password (password : String)
  deriving DecidableEq

/-- The arguments of `ProxmoxClient.__init__`. -/
structure Construction where
  host : String
  user : String
  password : Option String
  tokenName : Option String
  tokenValue : Option String
  verifySsl : Bool
  timeout : Nat

/-- A `ProxmoxAPI` object, with what it has logged in with. -/
structure Session where
  id : Nat
  host : String
  user : String
  secret : Secret
  verifySsl : Bool
  timeout : Nat
  deriving DecidableEq

/-- What is raised while a client connects. -/
structure ConnectError where
  /-- An `AuthenticationError` of the library. -/
  authentication : Bool
  statusCode : Option Nat
  text : String

/-- The connection of a client. -/
structure Client where
  proxmox : Option Session
  connectErrorKind : Option String
  connectError : Option String

/-- A session that went to a client. -/
structure Handout where
  construction : Construction
  session : Session
  /-- When the age of the session was looked at. -/
  checked : Time
  /-- When its use was written down. -/
  used : Time

/-- How a construction goes. -/
structure Connecting where
  now : Time
  /-- The clock when the session is stored. -/
  later : Time
  /-- What `ProxmoxAPI` raises. -/
  refused : Option ConnectError
  /-- What the first request raises. -/
  untested : Option ConnectError

/-- `MAX_CACHE_SIZE`. -/
def maxCacheSize : Nat := 50

/-- The seconds an entry is good for. -/
def cacheLifetime : Time := 3600

/-- `connection_cache`, with the sessions opened so far and all that were handed out. -/
structure State where
  cache : TimedCache String Session
  nextId : Nat
  handouts : List Handout

namespace Construction

variable (c : Construction)

/-- `connection_key`. -/
def connectionKey : String :=
  c.host ++ ":" ++ c.user ++ ":" ++
    (if truthy c.tokenName then c.tokenName.getD "" else "password")

/-- What a new session would log in with. -/
def secret : Option Secret :=
  if truthy c.tokenName && truthy c.tokenValue then
    some (.token (c.tokenName.getD "") (c.tokenValue.getD ""))
  else if truthy c.password then some (.password (c.password.getD ""))
  else none

end Construction

namespace State

variable (s : State)

/-- A client that is not connected; its key is dropped. -/
def fail (key : String) (error : ConnectError) (authentication : Bool) : State × Client :=
  ({ s with cache := s.cache.erase key },
    ⟨none, some (if authentication then "auth" else "connection"), some error.text⟩)

/-- A client with a new session. -/
def store (c : Construction) (w : Connecting) (secret : Secret) : State × Client :=
  let session : Session := ⟨s.nextId, c.host, c.user, secret, c.verifySsl, c.timeout⟩
  ({ cache := s.cache.put maxCacheSize ⟨c.connectionKey, session, w.later⟩
     nextId := s.nextId + 1
     handouts := ⟨c, session, w.now, w.later⟩ :: s.handouts }, ⟨some session, none, none⟩)

/-- The part of the constructor after the cache. -/
def connect (c : Construction) (w : Connecting) : State × Client :=
  match c.secret with
  | none => (s, ⟨none, none, none⟩)
  | some secret =>
    match w.refused, w.untested with
    | some error, _ =>
      s.fail c.connectionKey error (error.authentication || error.statusCode = some 401)
    | none, some error => s.fail c.connectionKey error (error.statusCode = some 401)
    | none, none => s.store c w secret

/-- `ProxmoxClient.__init__`. -/
def construct (c : Construction) (w : Connecting) : State × Client :=
  match s.cache.live? cacheLifetime w.now c.connectionKey with
  | some e =>
    ({ s with
       cache := s.cache.save { e with created := w.later }
       handouts := ⟨c, e.value, w.now, w.later⟩ :: s.handouts }, ⟨some e.value, none, none⟩)
  | none => State.connect { s with cache := s.cache.erase c.connectionKey } c w

/-- `cleanup_expired_connections`. -/
def cleanupExpiredConnections (now : Time) : State :=
  { s with cache := s.cache.filter fun e => decide (now ≤ e.created + cacheLifetime) }

/-- `clear_server_cache`. -/
def clearServerCache (host : String) : State :=
  { s with cache := s.cache.filter fun e => !(host ++ ":").toList.isPrefixOf e.key.toList }

/-- `clear_all_cache`. -/
def clearAllCache : State := { s with cache := .empty }

end State

/-- What happens to the cache. A change of credentials clears the entries of a host. -/
inductive Event
  | construct (c : Construction) (w : Connecting)
  | cleanup (now : Time)
  | clearServer (host : String)
  | clearAll

namespace State

def step (s : State) : Event → State
  | .construct c w => (s.construct c w).1
  | .cleanup now => s.cleanupExpiredConnections now
  | .clearServer host => s.clearServerCache host
  | .clearAll => s.clearAllCache

/-- A process that has just started. -/
def start : State := ⟨.empty, 0, []⟩

end State

/-! ### What is promised -/

/-- The session has logged in with this host, this user and this secret. -/
def Session.Fits (session : Session) (c : Construction) : Prop :=
  session.host = c.host ∧ session.user = c.user ∧ c.secret = some session.secret

/-- A session that was handed out before was used within the lifetime; the last comes first. -/
def Recent : List Handout → Prop
  | [] => True
  | h :: before =>
    (∀ h' ∈ before, h'.session = h.session →
      ∃ last ∈ before, last.session = h.session ∧ h.checked < last.used + cacheLifetime) ∧
    Recent before

/-- Every client has a session of its own credentials, no session was handed out unused for the
lifetime, and the cache is within its bound. -/
structure State.Separated (s : State) : Prop where
  fits : ∀ h ∈ s.handouts, h.session.Fits h.construction
  recent : Recent s.handouts
  bounded : s.cache.rows.length ≤ maxCacheSize

/-- The entry that a construction would take is one of its own credentials. -/
def State.Trusted (s : State) : Event → Prop
  | .construct c w => ∀ e, s.cache.find? c.connectionKey = some e →
      w.now < e.created + cacheLifetime → e.value.Fits c
  | _ => True

/-! ### What a construction does -/

section Construct

variable {s : State} {c : Construction} {w : Connecting}

/-- How a construction ends. -/
inductive Constructed (s : State) (c : Construction) (w : Connecting) : State × Client → Prop
  | taken (e : Timed String Session) (hfind : s.cache.find? c.connectionKey = some e)
    (hlive : w.now < e.created + cacheLifetime) :
    Constructed s c w
      ({ s with
         cache := s.cache.save { e with created := w.later }
         handouts := ⟨c, e.value, w.now, w.later⟩ :: s.handouts }, ⟨some e.value, none, none⟩)
  | unconnected (hmiss : s.cache.live? cacheLifetime w.now c.connectionKey = none)
    (cache : TimedCache String Session) (hcache : cache = s.cache.erase c.connectionKey ∨
      cache = (s.cache.erase c.connectionKey).erase c.connectionKey) (client : Client)
    (hclient : client.proxmox = none) : Constructed s c w ({ s with cache := cache }, client)
  | opened (hmiss : s.cache.live? cacheLifetime w.now c.connectionKey = none) (secret : Secret)
    (hsecret : c.secret = some secret) :
    Constructed s c w
      (State.store { s with cache := s.cache.erase c.connectionKey } c w secret)

theorem State.constructed (s : State) (c : Construction) (w : Connecting) :
    Constructed s c w (s.construct c w) := by
  unfold State.construct
  split
  · rename_i e hlive
    obtain ⟨hfind, hage⟩ := TimedCache.live?_eq_some_iff.mp hlive
    exact .taken e hfind hage
  · rename_i hmiss
    unfold State.connect
    split
    · exact .unconnected hmiss _ (Or.inl rfl) _ rfl
    · rename_i secret hsecret
      split
      · exact .unconnected hmiss _ (Or.inr rfl) _ rfl
      · exact .unconnected hmiss _ (Or.inr rfl) _ rfl
      · exact .opened hmiss secret hsecret

/-- What is written down is what the clients have. -/
theorem State.handouts_construct (s : State) (c : Construction) (w : Connecting) :
    (s.construct c w).1.handouts = ((s.construct c w).2.proxmox.map fun session =>
      (⟨c, session, w.now, w.later⟩ : Handout)).toList ++ s.handouts := by
  have hend := s.constructed c w
  generalize s.construct c w = outcome at hend
  cases hend with
  | taken e hfind hlive => rfl
  | unconnected hmiss cache hcache client hclient =>
    rw [hclient]
    rfl
  | opened hmiss secret hsecret => rfl

end Construct

/-! ### What every event keeps -/

/-- Every entry was handed out when it says, sessions are told apart by their numbers, and the
parts of the promise that do not depend on who asks hold. -/
structure State.Kept (s : State) : Prop where
  explained : ∀ e ∈ s.cache.rows, ∃ h ∈ s.handouts, h.session = e.value ∧ h.used = e.created
  below : ∀ h ∈ s.handouts, h.session.id < s.nextId
  recent : Recent s.handouts
  bounded : s.cache.rows.length ≤ maxCacheSize

section Keeping

variable {s : State}

/-- Entries may go. -/
theorem State.Kept.shrink (h : s.Kept) {cache : TimedCache String Session}
    (hmem : ∀ e ∈ cache.rows, e ∈ s.cache.rows)
    (hlength : cache.rows.length ≤ s.cache.rows.length) :
    State.Kept { s with cache := cache } where
  explained e he := h.explained e (hmem e he)
  below := h.below
  recent := h.recent
  bounded := Nat.le_trans hlength h.bounded

theorem State.Kept.filter (h : s.Kept) (p : Timed String Session → Bool) :
    State.Kept { s with cache := s.cache.filter p } :=
  h.shrink (fun _ he => List.mem_of_mem_filter he) (List.length_filter_le _ _)

/-- A stored session is used again. -/
theorem State.Kept.take (h : s.Kept) {c : Construction} {w : Connecting} {e : Timed String Session}
    (hfind : s.cache.find? c.connectionKey = some e) (hlive : w.now < e.created + cacheLifetime) :
    State.Kept { s with
      cache := s.cache.save { e with created := w.later }
      handouts := ⟨c, e.value, w.now, w.later⟩ :: s.handouts } := by
  have hmem := s.cache.mem_of_find? hfind
  obtain ⟨last, hlast, hsession, hused⟩ := h.explained e hmem
  refine ⟨fun e' he' => ?_, fun h' hh' => ?_, ⟨fun _ _ _ => ?_, h.recent⟩, ?_⟩
  · rcases (s.cache.mem_rows_save _ e').mp he' with rfl | ⟨hold, -⟩
    · exact ⟨_, List.mem_cons_self, rfl, rfl⟩
    · obtain ⟨h', hh', heq⟩ := h.explained e' hold
      exact ⟨h', List.mem_cons_of_mem _ hh', heq⟩
  · rcases List.mem_cons.mp hh' with rfl | hh'
    · exact hsession ▸ h.below last hlast
    · exact h.below h' hh'
  · exact ⟨last, hlast, hsession, hused ▸ hlive⟩
  · have hkey : s.cache.find? e.key = some e := s.cache.find?_key hmem
    exact Nat.le_trans (Nat.le_of_eq (TimedCache.length_save_of_find? hkey)) h.bounded

/-- A new session is like no other. -/
theorem State.Kept.store (h : s.Kept) (c : Construction) (w : Connecting) (secret : Secret) :
    (s.store c w secret).1.Kept := by
  refine ⟨fun e he => ?_, fun h' hh' => ?_, ⟨fun h' hh' heq => ?_, h.recent⟩, ?_⟩
  · rcases TimedCache.eq_or_mem_of_mem_put he with rfl | hold
    · exact ⟨_, List.mem_cons_self, rfl, rfl⟩
    · obtain ⟨h', hh', heq⟩ := h.explained e hold
      exact ⟨h', List.mem_cons_of_mem _ hh', heq⟩
  · rcases List.mem_cons.mp hh' with rfl | hh'
    · exact Nat.lt_succ_self _
    · exact Nat.lt_succ_of_lt (h.below h' hh')
  · have hid : h'.session.id = s.nextId := congrArg Session.id heq
    exact absurd hid (Nat.ne_of_lt (h.below h' hh'))
  · exact TimedCache.length_put_le (by decide) h.bounded

theorem State.Kept.erase (h : s.Kept) (key : String) :
    State.Kept { s with cache := s.cache.erase key } := h.filter _

/-- Whoever asks, no event breaks the rest of the promise. -/
theorem State.Kept.step (h : s.Kept) (e : Event) : (s.step e).Kept := by
  cases e with
  | construct c w =>
    change (s.construct c w).1.Kept
    have hend := s.constructed c w
    generalize s.construct c w = outcome at hend
    cases hend with
    | taken e hfind hlive => exact h.take hfind hlive
    | unconnected hmiss cache hcache client hclient =>
      rcases hcache with rfl | rfl
      · exact h.erase _
      · exact (h.erase _).erase _
    | opened hmiss secret hsecret => exact (h.erase _).store c w secret
  | cleanup now => exact h.filter _
  | clearServer host => exact h.filter _
  | clearAll => exact h.shrink (fun _ he => absurd he List.not_mem_nil) (Nat.zero_le _)

theorem not_live {c : Construction} {w : Connecting} {e : Timed String Session}
    (hmiss : s.cache.live? cacheLifetime w.now c.connectionKey = none) :
    ¬(s.cache.find? c.connectionKey = some e ∧ w.now < e.created + cacheLifetime) := by
  intro h
  rw [TimedCache.live?_eq_some_iff.mpr h] at hmiss
  cases hmiss

/-- A step hands out sessions of the right credentials exactly when it takes none of others. -/
theorem State.fits_step_iff (s : State) (e : Event)
    (hfits : ∀ h ∈ s.handouts, h.session.Fits h.construction) :
    (∀ h ∈ (s.step e).handouts, h.session.Fits h.construction) ↔ s.Trusted e := by
  cases e with
  | construct c w =>
    change (∀ h ∈ (s.construct c w).1.handouts, h.session.Fits h.construction) ↔ _
    have hend := s.constructed c w
    generalize s.construct c w = outcome at hend
    cases hend with
    | taken e hfind hlive =>
      rw [List.forall_mem_cons]
      constructor
      · rintro ⟨hfit, -⟩ e' hfind' -
        have hsame : e = e' := Option.some.inj (hfind.symm.trans hfind')
        exact hsame ▸ hfit
      · intro htrusted
        exact ⟨htrusted e hfind hlive, hfits⟩
    | unconnected hmiss cache hcache client hclient =>
      exact iff_of_true hfits fun e hfind hlive => absurd ⟨hfind, hlive⟩ (not_live hmiss)
    | opened hmiss secret hsecret =>
      refine iff_of_true ?_ fun e hfind hlive => absurd ⟨hfind, hlive⟩ (not_live hmiss)
      exact List.forall_mem_cons.mpr ⟨⟨rfl, rfl, hsecret⟩, hfits⟩
  | cleanup now => exact iff_of_true hfits trivial
  | clearServer host => exact iff_of_true hfits trivial
  | clearAll => exact iff_of_true hfits trivial

end Keeping

/-! ### Every run -/

theorem State.start_kept : State.start.Kept where
  explained _ he := absurd he List.not_mem_nil
  below _ hh := absurd hh List.not_mem_nil
  recent := trivial
  bounded := Nat.zero_le _

/-- In every state of a run the sessions are kept apart, exactly when no construction finds a
stored session of other credentials under its key. -/
theorem separated_iff_trusted (events : List Event) :
    (∀ s ∈ visited State.step .start events, s.Separated) ↔
      Guarded State.step State.Trusted .start events := by
  have hkept := invariant_of_step (fun _ e h => h.step e) State.start_kept events
  have hfits : (∀ s ∈ visited State.step .start events, s.Separated) ↔
      ∀ s ∈ visited State.step .start events, ∀ h ∈ s.handouts, h.session.Fits h.construction :=
    ⟨fun h s hs => (h s hs).fits,
      fun h s hs => ⟨h s hs, (hkept s hs).recent, (hkept s hs).bounded⟩⟩
  rw [hfits]
  exact forall_visited_iff_guarded (fun s e _ h => s.fits_step_iff e h)
    fun _ hh => absurd hh List.not_mem_nil

/-! ### A wrong password -/

def adminWith (password : String) : Construction :=
  ⟨"192.0.2.10", "root@pam", some password, none, none, false, 30⟩

/-- A client with the password of the server, and a test of another password a minute later. -/
def wrongPassword : List Event :=
  [.construct (adminWith "correct") ⟨0, 1, none, none⟩,
    .construct (adminWith "wrong") ⟨60, 61, some ⟨true, none, "Couldn't authenticate user"⟩, none⟩]

/-- The second client has the session of the first. -/
theorem wrongPassword_not_separated :
    ¬∀ s ∈ visited State.step .start wrongPassword, s.Separated := by
  intro h
  have hlast : (wrongPassword.foldl State.step .start).handouts.head?.map
      (fun h => (h.construction.secret, h.session.secret)) =
      some (some (.password "wrong"), .password "correct") := by decide +kernel
  obtain ⟨last, hhead, hpair⟩ := Option.map_eq_some_iff.mp hlast
  obtain ⟨hwrong, hcorrect⟩ := Prod.mk.inj hpair
  have hfits := (h _ (foldl_mem_visited _ _ _)).fits last (List.mem_of_head? hhead)
  rw [Session.Fits, hwrong, hcorrect] at hfits
  exact absurd hfits.2.2 (by decide)

end PveManager.Servers
