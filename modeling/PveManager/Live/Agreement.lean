import PveManager.Live.Scope
import PveManager.Live.Sockets

/-!
# Tabs and server agree on the channels

A tab tells the server each channel that gets its first handler or loses its last one, and
tells all of them again on a new socket. On an open socket the channels of the server are
those of the tab as soon as the messages on their way have been read.
-/

namespace PveManager.Live

open PveManager.Core PveManager.Api

/-- The channels that a tab wants. -/
def WebSocketManager.wants {H : Type} (c : WebSocketManager H) (channel : String) : Bool :=
  decide (channel ≠ "") && c.listens channel

/-! ### The invariant -/

/-- What the state of a socket is judged by. -/
structure Seen where
  /-- The socket is the one of its tab. -/
  mine : Prop
  wants : String → Bool
  connected : Prop
  has : String → Bool

/-- The invariant of one socket. -/
structure Link.Sound {T : Type} (l : Link T) (v : Seen) : Prop where
  current : l.readyState.live = true → v.mine
  plain : ∀ m ∈ l.upstream, m ≠ .broken
  silent : l.readyState = .connecting → l.upstream = [] ∧ ∀ channel, v.has channel = false
  answered : l.readyState = .opened → l.endpoint ≠ .waiting ∧ l.endpoint ≠ .refused
  ended : l.endpoint = .over → l.Broken
  registered : l.endpoint = .serving → ¬l.Broken → v.connected
  inStep : l.readyState = .opened → l.lost = false →
    InStep v.wants v.has (l.upstream.filterMap edit)

section Send

variable {T : Type} (l : Link T) (messages : List ClientMessage)

@[simp] theorem Link.tab_send : (l.send messages).tab = l.tab := by
  unfold Link.send
  split <;> rfl

@[simp] theorem Link.user_send : (l.send messages).user = l.user := by
  unfold Link.send
  split <;> rfl

@[simp] theorem Link.endpoint_send : (l.send messages).endpoint = l.endpoint := by
  unfold Link.send
  split <;> rfl

end Send

namespace Link.Sound

variable {T : Type} {l l' : Link T} {v v' : Seen}

/-- A socket that is closed or about to has nothing to keep. -/
theorem of_not_live (hstate : l.readyState.live = false) (hplain : ∀ m ∈ l.upstream, m ≠ .broken) :
    l.Sound v where
  current h := by simp [hstate] at h
  plain := hplain
  silent h := by simp [h, ReadyState.live] at hstate
  answered h := by simp [h, ReadyState.live] at hstate
  ended _ := by
    cases hs : l.readyState <;> simp_all [ReadyState.live, Link.Broken]
  registered _ h := by
    cases hs : l.readyState <;> simp_all [ReadyState.live, Link.Broken]
  inStep h := by simp [h, ReadyState.live] at hstate

/-- Only the channels that the tab wants have changed, and the socket is not the tab's. -/
theorem of_not_mine (h : l.Sound v) (hmine : ¬v.mine) : l.Sound v' := by
  refine of_not_live ?_ h.plain
  cases hlive : l.readyState.live
  · rfl
  · exact absurd (h.current hlive) hmine

theorem close (h : l.Sound v) : l.close.Sound v' := by
  refine of_not_live ?_ h.plain
  simp only [Link.close]
  split <;> rfl

/-- The network loses the socket. -/
theorem lose (h : l.Sound v) : Link.Sound { l with lost := true } v :=
  { h with
    ended := fun _ => Or.inl rfl
    registered := fun _ hbroken => absurd (Or.inl rfl) hbroken
    inStep := nofun }

/-- The endpoint goes on from one of its first places. -/
theorem accept (h : l.Sound v) (hwaiting : l.endpoint = .waiting) {e : Endpoint}
    (he : e = .accepted ∨ e = .refused) : Link.Sound { l with endpoint := e } v :=
  { h with
    answered := fun hopened => absurd hwaiting (h.answered hopened).1
    ended := fun hover => by rcases he with rfl | rfl <;> cases hover
    registered := fun hserving => by rcases he with rfl | rfl <;> cases hserving }

/-- A broken socket leaves the registry or a part of it. -/
theorem drop (h : l.Sound v) (hbroken : l.Broken) {has : String → Bool} {connected : Prop}
    (hhas : ∀ channel, has channel = true → v.has channel = true) :
    l.Sound { v with connected := connected, has := has } :=
  { h with
    silent := fun hstate => ⟨(h.silent hstate).1, fun channel => by
      have hnone := (h.silent hstate).2 channel
      cases hch : has channel
      · exact hch
      · rw [hhas channel hch] at hnone
        cases hnone⟩
    registered := fun _ hnot => absurd hbroken hnot
    inStep := fun hopened hlost => by
      rcases hbroken with hb | hb | hb <;> simp_all }

/-- The oldest message is read. -/
theorem read (h : l.Sound v) {m : ClientMessage} {rest : List ClientMessage}
    (hup : l.upstream = m :: rest) :
    Link.Sound { l with upstream := rest }
      { v with has := (edit m).toList.foldl Edit.apply v.has } :=
  { h with
    plain := fun m' hm' => h.plain m' (hup ▸ List.mem_cons_of_mem _ hm')
    silent := fun hstate => by
      have hnil := (h.silent hstate).1
      rw [hup] at hnil
      cases hnil
    inStep := fun hopened hlost => by
      have hstep := h.inStep hopened hlost
      rw [hup, List.filterMap_cons] at hstep
      cases hedit : edit m with
      | none => simpa [hedit] using hstep
      | some e =>
        rw [hedit] at hstep
        exact hstep.receive }

/-- The tab changes what it wants and sends the changes. -/
theorem send (h : l.Sound v) {wants : String → Bool} {messages : List ClientMessage}
    (hplain : ∀ m ∈ messages, m ≠ .broken)
    (hwants : wants = settled v.wants (messages.filterMap edit)) :
    (l.send messages).Sound { v with wants := wants } := by
  unfold Link.send
  split
  · rename_i hopened
    exact { h with
      plain := fun m hm => (List.mem_append.mp hm).elim (h.plain m) (hplain m)
      silent := fun hstate => by simp [hopened] at hstate
      inStep := fun _ hlost => by
        dsimp only
        rw [List.filterMap_append, hwants]
        exact (h.inStep hopened hlost).send _ }
  · rename_i hnot
    exact { h with inStep := fun hopened => absurd hopened hnot }

end Link.Sound

namespace LiveSystem

variable {T H : Type}

/-- What a socket is judged by in a state. -/
def seen (s : LiveSystem T H) (n : Nat) (l : Link T) : Seen where
  mine := (s.tabs l.tab).client.ws = some n
  wants := (s.tabs l.tab).client.wants
  connected := (⟨l.user, n⟩ : Socket) ∈ s.feed.manager.connections
  has := s.feed.manager.has ⟨l.user, n⟩

/-- Sockets, tabs and registry fit together. -/
structure Framed (s : LiveSystem T H) : Prop where
  distinct : s.feed.manager.Distinct
  unmade : ∀ n, s.made ≤ n → s.links n = none
  owned : ∀ tab n, (s.tabs tab).client.ws = some n → ∃ l, s.links n = some l ∧ l.tab = tab
  registry : ∀ socket, s.feed.manager.Knows socket →
    ∃ l, s.links socket.number = some l ∧ l.user = socket.user ∧ l.endpoint = .serving

/-- The invariant of the system. -/
structure Sound (s : LiveSystem T H) : Prop extends s.Framed where
  links : ∀ n l, s.links n = some l → l.Sound (s.seen n l)

section Steps

variable {s : LiveSystem T H} {n : Nat} {l : Link T} {tab : T}

theorem sound_start : (start : LiveSystem T H).Sound where
  distinct := ConnectionManager.distinct_empty
  unmade _ _ := rfl
  owned _ _ h := by cases h
  registry socket h := by
    rcases h with h | ⟨channel, h⟩
    · cases h
    · cases h
  links _ _ h := by cases h

theorem onLink_of_some (hl : s.links n = some l) (f : Link T → Link T) :
    s.onLink n f = { s with links := Function.update s.links n (some (f l)) } := by
  simp [onLink, hl]

theorem onLink_feed (hl : s.links n = some l) (feed : Feed) (f : Link T → Link T) :
    ({ s with feed := feed } : LiveSystem T H).onLink n f =
      { s with feed := feed, links := Function.update s.links n (some (f l)) } := by
  simp [onLink, hl]

theorem onLink_of_none (hl : s.links n = none) (f : Link T → Link T) : s.onLink n f = s := by
  have hsame : Function.update s.links n ((s.links n).map f) = s.links := by
    simp [hl]
  rw [LiveSystem.onLink, hsame]

theorem Framed.serving_of_knows (hs : s.Framed) (hl : s.links n = some l)
    (hknows : s.feed.manager.Knows ⟨l.user, n⟩) : l.endpoint = .serving := by
  obtain ⟨l₀, hl₀, -, hserving⟩ := hs.registry _ hknows
  rw [hl] at hl₀
  cases hl₀
  exact hserving

/-- A socket changes, and with it what the registry has of it. -/
theorem Framed.update (hs : s.Framed) (hl : s.links n = some l)
    (hothers : ∀ k l, k ≠ n → s.links k = some l → l.Sound (s.seen k l)) (f : Feed) (l' : Link T)
    (htab : l'.tab = l.tab) (huser : l'.user = l.user) (hdistinct : f.manager.Distinct)
    (hsame : s.feed.manager.SameBut ⟨l.user, n⟩ f.manager)
    (hknows : f.manager.Knows ⟨l.user, n⟩ → l'.endpoint = .serving)
    (hsound : l'.Sound
      { s.seen n l with
        connected := ⟨l.user, n⟩ ∈ f.manager.connections, has := f.manager.has ⟨l.user, n⟩ }) :
    Sound { s with feed := f, links := Function.update s.links n (some l') } where
  distinct := hdistinct
  unmade k hk := by
    have hne : k ≠ n := by
      rintro rfl
      rw [hs.unmade k hk] at hl
      cases hl
    simpa [hne] using hs.unmade k hk
  owned tab k hk := by
    obtain ⟨l₀, hl₀, rfl⟩ := hs.owned tab k hk
    by_cases hkn : k = n
    · subst hkn
      rw [hl] at hl₀
      cases hl₀
      exact ⟨l', by simp, htab⟩
    · exact ⟨l₀, by simpa [hkn] using hl₀, rfl⟩
  registry socket hsocket := by
    by_cases hother : socket = ⟨l.user, n⟩
    · subst hother
      exact ⟨l', by simp, huser, hknows hsocket⟩
    · obtain ⟨l₀, hl₀, huser₀, hserving⟩ := hs.registry socket ((hsame.knows hother).mp hsocket)
      have hne : socket.number ≠ n := by
        rintro rfl
        rw [hl] at hl₀
        cases hl₀
        exact hother (by rw [huser₀])
      exact ⟨l₀, by simpa [hne] using hl₀, huser₀, hserving⟩
  links k l₀ hl₀ := by
    by_cases hkn : k = n
    · subst hkn
      have hl' : l₀ = l' := by simpa using hl₀.symm
      subst hl'
      simpa only [seen, htab, huser] using hsound
    · have hold : s.links k = some l₀ := by simpa [hkn] using hl₀
      have hne : (⟨l₀.user, k⟩ : Socket) ≠ ⟨l.user, n⟩ := fun h => hkn (congrArg Socket.number h)
      simpa only [seen, hsame.has hne, hsame.connections _ hne] using hothers k l₀ hkn hold

theorem Sound.others (hs : s.Sound) (k : Nat) (l : Link T) (_ : k ≠ n) (hl : s.links k = some l) :
    l.Sound (s.seen k l) :=
  hs.links k l hl

/-- A socket changes, and the registry does not. -/
theorem Sound.onLink (hs : s.Sound) (hl : s.links n = some l) {f : Link T → Link T}
    (htab : (f l).tab = l.tab) (huser : (f l).user = l.user)
    (hserving : l.endpoint = .serving → (f l).endpoint = .serving)
    (hsound : (f l).Sound (s.seen n l)) : (s.onLink n f).Sound := by
  rw [onLink_of_some hl]
  exact hs.update hl hs.others s.feed (f l) htab huser hs.distinct (.refl _ _)
    (fun hknows => hserving (hs.serving_of_knows hl hknows)) hsound

theorem Sound.close (hs : s.Sound) (n : Nat) : (s.onLink n Link.close).Sound := by
  cases hl : s.links n with
  | none => rwa [onLink_of_none hl]
  | some l => exact hs.onLink hl rfl rfl (fun h => h) (hs.links n l hl).close

/-- A socket that lives is that of its tab. -/
theorem Sound.eq_of_live (hs : s.Sound) {k : Nat} (hl : s.links k = some l)
    (hlive : l.readyState.live = true) : (s.tabs l.tab).client.ws = some k :=
  (hs.links k l hl).current hlive

section Tabs

variable [DecidableEq T]

theorem seen_onTab_of_ne (h : l.tab ≠ tab) (f : Tab H → Tab H) :
    (s.onTab tab f).seen n l = s.seen n l := by
  simp [seen, LiveSystem.onTab, h]

theorem seen_onTab (f : Tab H → Tab H) : (s.onTab l.tab f).seen n l =
    { s.seen n l with
      mine := (f (s.tabs l.tab)).client.ws = some n
      wants := (f (s.tabs l.tab)).client.wants } := by
  simp [seen, LiveSystem.onTab]

theorem Framed.onTab (hs : s.Framed) {f : Tab H → Tab H}
    (hws : ∀ n, (f (s.tabs tab)).client.ws = some n → (s.tabs tab).client.ws = some n) :
    (s.onTab tab f).Framed := by
  refine ⟨hs.distinct, hs.unmade, fun tab' k hk => ?_, hs.registry⟩
  by_cases htab : tab' = tab
  · subst htab
    exact hs.owned tab' k (hws k (by simpa [LiveSystem.onTab] using hk))
  · exact hs.owned tab' k (by simpa [LiveSystem.onTab, htab] using hk)

/-- A tab changes, but neither its socket nor its channels. -/
theorem Sound.onTab (hs : s.Sound) (tab : T) (f : Tab H → Tab H)
    (hws : (f (s.tabs tab)).client.ws = (s.tabs tab).client.ws)
    (hsubs : (f (s.tabs tab)).client.subscribers = (s.tabs tab).client.subscribers) :
    (s.onTab tab f).Sound := by
  refine ⟨hs.toFramed.onTab fun n h => hws ▸ h, fun k l hl => ?_⟩
  by_cases htab : l.tab = tab
  · subst htab
    have hwants : (f (s.tabs l.tab)).client.wants = (s.tabs l.tab).client.wants := by
      funext channel
      simp only [WebSocketManager.wants, WebSocketManager.listens, hsubs]
    rw [seen_onTab, hws, hwants]
    exact hs.links k l hl
  · rw [seen_onTab_of_ne htab]
    exact hs.links k l hl

/-- A tab without a socket that lives lets go of its socket. -/
theorem Sound.onTab_idle (hs : s.Sound) {f : Tab H → Tab H}
    (hws : (f (s.tabs tab)).client.ws = none)
    (hidle : ∀ k l, s.links k = some l → l.tab = tab → l.readyState.live = false) :
    (s.onTab tab f).Sound := by
  refine ⟨hs.toFramed.onTab fun n h => by simp [hws] at h, fun k l hl => ?_⟩
  by_cases htab : l.tab = tab
  · exact .of_not_live (hidle k l hl htab) (hs.links k l hl).plain
  · rw [seen_onTab_of_ne htab]
    exact hs.links k l hl

/-- The client of a tab changes its channels and sends the changes. -/
theorem Sound.call (hs : s.Sound) (tab : T)
    (method : WebSocketManager H → WebSocketManager H × List ClientMessage)
    (hws : (method (s.tabs tab).client).1.ws = (s.tabs tab).client.ws)
    (hplain : ∀ m ∈ (method (s.tabs tab).client).2, m ≠ .broken)
    (hwants : (method (s.tabs tab).client).1.wants =
      settled (s.tabs tab).client.wants ((method (s.tabs tab).client).2.filterMap edit)) :
    (s.call tab method).Sound := by
  have hframed : (s.onTab tab fun t => { t with client := (method t.client).1 }).Framed :=
    hs.toFramed.onTab fun n h => hws ▸ h
  -- Only the socket of the tab can live, so only there the channels matter.
  have hrest : ∀ k l, s.links k = some l → (s.tabs tab).client.ws ≠ some k →
      l.Sound ((s.onTab tab fun t => { t with client := (method t.client).1 }).seen k l) := by
    intro k l hl hne
    by_cases htab : l.tab = tab
    · subst htab
      exact (hs.links k l hl).of_not_mine hne
    · rw [seen_onTab_of_ne htab]
      exact hs.links k l hl
  cases hn : (s.tabs tab).client.ws with
  | none =>
    have hcall : s.call tab method =
        s.onTab tab fun t => { t with client := (method t.client).1 } := by
      simp [LiveSystem.call, LiveSystem.send, LiveSystem.onTab, hws, hn]
    rw [hcall]
    exact ⟨hframed, fun k l hl => hrest k l hl (by simp [hn])⟩
  | some n =>
    obtain ⟨l, hl, rfl⟩ := hs.owned tab n hn
    have hcall : s.call l.tab method =
        (s.onTab l.tab fun t => { t with client := (method t.client).1 }).onLink n
          (Link.send · (method (s.tabs l.tab).client).2) := by
      simp [LiveSystem.call, LiveSystem.send, LiveSystem.onTab, hws, hn]
    rw [hcall, onLink_of_some (s := s.onTab l.tab _) hl]
    refine hframed.update hl (fun k l₀ hkn hl₀ => hrest k l₀ hl₀ ?_) s.feed _ (l.tab_send _)
      (l.user_send _) hs.distinct (.refl _ _) (fun h => ?_) ?_
    · simpa [hn] using Ne.symm hkn
    · rw [Link.endpoint_send]
      exact hs.serving_of_knows hl h
    · rw [seen_onTab, hws]
      exact (hs.links n l hl).send hplain hwants

/-- A tab makes a socket. -/
theorem Sound.connect (hs : s.Sound) (tab : T) (user : UserId) : (s.connect tab user).Sound := by
  unfold LiveSystem.connect
  split
  · exact hs
  · rename_i hdead
    -- The socket of the tab, if it has one, does not live.
    have hidle : ∀ k l, s.links k = some l → l.tab = tab → l.readyState.live = false := by
      rintro k l hl rfl
      cases hlive : l.readyState.live
      · rfl
      · refine absurd ?_ hdead
        simp [wsState, hs.eq_of_live hl hlive, hl, hlive]
    have hfresh : ∀ k l, s.links k = some l → k ≠ s.made := by
      rintro k l hl rfl
      simp [hs.unmade s.made le_rfl] at hl
    have hunknown : ¬s.feed.manager.Knows ⟨user, s.made⟩ := fun hknows => by
      obtain ⟨l, hl, -⟩ := hs.registry _ hknows
      exact hfresh _ l hl rfl
    refine ⟨⟨hs.distinct, fun k hk => ?_, fun tab' k hk => ?_, fun socket hsocket => ?_⟩,
      fun k l hl => ?_⟩
    · have hne : k ≠ s.made := by
        have : s.made + 1 ≤ k := hk
        omega
      simpa [hne] using hs.unmade k (Nat.le_of_succ_le hk)
    · by_cases htab : tab' = tab
      · subst htab
        have hk' : k = s.made := by simpa using hk.symm
        exact ⟨newLink tab' user, by simp [hk'], rfl⟩
      · obtain ⟨l, hl, hltab⟩ := hs.owned tab' k (by simpa [htab] using hk)
        exact ⟨l, by simpa [hfresh k l hl] using hl, hltab⟩
    · obtain ⟨l, hl, hrest⟩ := hs.registry socket hsocket
      exact ⟨l, by simpa [hfresh _ l hl] using hl, hrest⟩
    · by_cases hkn : k = s.made
      · subst hkn
        have hl' : l = newLink tab user := by simpa using hl.symm
        subst hl'
        exact {
          current := fun _ => by simp [seen, newLink]
          plain := fun m hm => absurd hm List.not_mem_nil
          silent := fun _ => ⟨rfl, ConnectionManager.has_of_not_knows hunknown⟩
          answered := fun hopened => by cases hopened
          ended := fun hover => by cases hover
          registered := fun hserving => by cases hserving
          inStep := fun hopened => by cases hopened }
      · have hold : s.links k = some l := by simpa [hkn] using hl
        have hsound := hs.links k l hold
        by_cases htab : l.tab = tab
        · exact .of_not_live (hidle k l hold htab) hsound.plain
        · simpa [seen, htab] using hsound

end Tabs

end Steps

end LiveSystem

/-! ### What the client wants -/

namespace WebSocketManager

variable {H : Type} {c : WebSocketManager H} {has : String → Bool}

section Handlers

variable [DecidableEq H]

theorem listens_subscribe (channel : String) (handler : H) (ch : String) :
    (c.subscribe channel handler).1.listens ch = (decide (ch = channel) || c.listens ch) := by
  unfold subscribe listens
  by_cases hch : ch = channel
  · subst hch
    cases hget : c.subscribers.get? ch <;> simp [KeyedTable.get?_set]
  · cases hget : c.subscribers.get? channel <;> simp [KeyedTable.get?_set, hch, Ne.symm hch]

theorem sent_subscribe (channel : String) (handler : H) : (c.subscribe channel handler).2 =
    if c.listens channel = true then [] else [.subscribe channel] := by
  unfold subscribe listens
  cases c.subscribers.get? channel <;> simp

/-- The handler is the last one of the channel. -/
def isLast (c : WebSocketManager H) (channel : String) (handler : H) : Bool :=
  (c.subscribers.get? channel).any fun handlers => decide (handlers.erase handler = [])

theorem listens_unsubscribe (channel : String) (handler : H) (ch : String) :
    (c.unsubscribe channel handler).1.listens ch =
      (c.listens ch && !(decide (ch = channel) && c.isLast channel handler)) := by
  unfold unsubscribe listens isLast
  cases hget : c.subscribers.get? channel with
  | none => simp
  | some handlers =>
    simp only [Option.any_some]
    generalize handlers.erase handler = left
    by_cases hch : ch = channel
    · subst hch
      by_cases hlast : left = [] <;>
        simp [hlast, hget, KeyedTable.get?_set, KeyedTable.get?_erase]
    · by_cases hlast : left = [] <;>
        simp [hlast, KeyedTable.get?_set, KeyedTable.get?_erase, hch, Ne.symm hch]

theorem sent_unsubscribe (channel : String) (handler : H) : (c.unsubscribe channel handler).2 =
    if c.isLast channel handler = true then [.unsubscribe channel] else [] := by
  unfold unsubscribe isLast
  cases c.subscribers.get? channel with
  | none => simp
  | some handlers =>
    simp only [Option.any_some, decide_eq_true_eq]
    split <;> rfl

/-- A handler more: the server is told of a new channel. -/
theorem wants_subscribe (channel : String) (handler : H) :
    (c.subscribe channel handler).1.wants =
      settled c.wants ((c.subscribe channel handler).2.filterMap edit) := by
  funext ch
  rw [sent_subscribe]
  by_cases hlistens : c.listens channel = true <;> by_cases hempty : channel = "" <;>
    by_cases hch : ch = channel <;>
    simp_all [wants, listens_subscribe, edit, Edit.apply]

/-- A handler less: the server is told of the end of a channel. -/
theorem wants_unsubscribe (channel : String) (handler : H) :
    (c.unsubscribe channel handler).1.wants =
      settled c.wants ((c.unsubscribe channel handler).2.filterMap edit) := by
  funext ch
  rw [sent_unsubscribe]
  by_cases hlast : c.isLast channel handler = true <;> by_cases hempty : channel = "" <;>
    by_cases hch : ch = channel <;>
    simp_all [wants, listens_unsubscribe, edit, Edit.apply]

end Handlers

theorem listens_iff {channel : String} : c.listens channel = true ↔ channel ∈ c.channels := by
  unfold listens channels
  rw [Option.isSome_iff_exists, List.mem_map]
  constructor
  · rintro ⟨handlers, hget⟩
    exact ⟨_, KeyedTable.get?_eq_some_iff.mp hget, rfl⟩
  · rintro ⟨⟨_, handlers⟩, hmem, rfl⟩
    exact ⟨handlers, KeyedTable.get?_eq_some_iff.mpr hmem⟩

/-- The channels that a new socket is told. -/
theorem edits_onopen : c.onopen.2.filterMap edit =
    (c.channels.filter fun channel => decide (channel ≠ "")).map .add := by
  simp only [onopen]
  induction c.channels with
  | nil => rfl
  | cons channel channels ih => by_cases hempty : channel = "" <;> simp [edit, hempty, ih]

/-- A new socket, of which the server has no channel, is sent all of them. -/
theorem inStep_onopen (hnone : ∀ channel, has channel = false) :
    InStep c.wants has (c.onopen.2.filterMap edit) := by
  have hwants : c.wants = fun channel =>
      decide (channel ∈ c.channels.filter fun channel => decide (channel ≠ "")) := by
    funext channel
    rw [wants, Bool.eq_iff_iff]
    simp [listens_iff, and_comm]
  rw [hwants, edits_onopen]
  exact .replay hnone

end WebSocketManager

/-! ### The steps -/

namespace LiveSystem

variable {T H : Type} {s : LiveSystem T H} {n : Nat} {l : Link T} {tab : T}

theorem Sound.register (hs : s.Sound) (hl : s.links n = some l) (w : World) : (s.register n w l).Sound := by
  have hl' := hs.links n l hl
  unfold LiveSystem.register
  rw [onLink_feed hl]
  refine hs.update hl hs.others _ _ rfl rfl (hs.distinct.connect _) ConnectionManager.sameBut_connect
    (fun _ => rfl) ?_
  exact { hl' with
    answered := fun hopened => ⟨nofun, nofun⟩
    ended := nofun
    registered := fun _ _ => by simp [ConnectionManager.connect] }

theorem Sound.read (hs : s.Sound) (hl : s.links n = some l) (hstate : l.endpoint = .serving)
    (w : World) : (s.read n w l).Sound := by
  unfold LiveSystem.read
  cases hup : l.upstream with
  | nil => exact hs
  | cons m rest =>
    have hl' := hs.links n l hl
    have hheard := heard_dispatch hs.distinct w ⟨l.user, n⟩
      (hl'.plain m (hup ▸ List.mem_cons_self))
    dsimp only
    rw [onLink_feed hl]
    refine hs.update hl hs.others _ _ rfl rfl hheard.distinct hheard.others (fun _ => hstate) ?_
    rw [hheard.connections, hheard.has]
    exact hl'.read hup

theorem Sound.dropDead (hs : s.Sound) (hl : s.links n = some l) (hbroken : l.Broken)
    (channel : Option String) : (s.onManager (dropDead ⟨l.user, n⟩ channel)).Sound := by
  have hm := hs.distinct
  have hupdate := Function.update_eq_self n s.links
  rw [hl] at hupdate
  have hs' : s.onManager (LiveSystem.dropDead ⟨l.user, n⟩ channel) =
      { s with
        feed := { s.feed with
          manager := LiveSystem.dropDead ⟨l.user, n⟩ channel s.feed.manager }
        links := Function.update s.links n (some l) } := by
    rw [hupdate]
    rfl
  rw [hs']
  cases channel with
  | none =>
    exact hs.update hl hs.others _ _ rfl rfl (hm.eraseConnection _) ConnectionManager.sameBut_eraseConnection
      (fun h => hs.serving_of_knows hl (h.imp_left List.mem_of_mem_erase))
      ((hs.links n l hl).drop hbroken fun _ h => h)
  | some channel =>
    have hleft : ∀ ch, (⟨l.user, n⟩ : Socket) ∈
        (s.feed.manager.unsubscribe ⟨l.user, n⟩ channel).subscribers ch →
        ⟨l.user, n⟩ ∈ s.feed.manager.subscribers ch :=
      fun ch h => ((ConnectionManager.mem_subscribers_unsubscribe hm).mp h).1
    refine hs.update hl hs.others _ _ rfl rfl (hm.unsubscribe _ channel)
      (ConnectionManager.sameBut_unsubscribe hm channel) (fun h => hs.serving_of_knows hl ?_)
      ((hs.links n l hl).drop hbroken fun ch h => decide_eq_true (hleft ch (of_decide_eq_true h)))
    refine h.imp (fun h => ?_) fun ⟨ch, h⟩ => ⟨ch, hleft ch h⟩
    simpa only [LiveSystem.dropDead, ConnectionManager.connections_unsubscribe] using h

theorem Sound.gone (hs : s.Sound) (hl : s.links n = some l) (hbroken : l.Broken) :
    ((s.onManager (·.disconnect ⟨l.user, n⟩)).onLink n fun l =>
      { l with endpoint := .over }).Sound := by
  have hl' := hs.links n l hl
  have hforgotten : ¬(s.feed.manager.disconnect ⟨l.user, n⟩).Knows ⟨l.user, n⟩ :=
    ConnectionManager.not_knows_disconnect hs.distinct
  rw [onManager, onLink_feed hl]
  refine hs.update hl hs.others _ _ rfl rfl (hs.distinct.disconnect _)
    (ConnectionManager.sameBut_disconnect hs.distinct) (fun h => absurd h hforgotten) ?_
  exact { hl' with
    silent := fun hstate => ⟨(hl'.silent hstate).1,
      ConnectionManager.has_of_not_knows hforgotten⟩
    answered := fun hopened => ⟨nofun, nofun⟩
    ended := fun _ => hbroken
    registered := nofun
    inStep := fun hopened hlost => by
      have hstate : l.readyState = .opened := hopened
      rcases hbroken with h | h | h <;> simp_all }

theorem Sound.restart (hs : s.Sound) : Sound
    { s with
      feed := .start
      links := fun n => (s.links n).map fun l =>
        { l with endpoint := l.endpoint.ended, lost := true } } where
  distinct := ConnectionManager.distinct_empty
  unmade k hk := by simp [hs.unmade k hk]
  owned tab k hk := by
    obtain ⟨l, hl, htab⟩ := hs.owned tab k hk
    exact ⟨{ l with endpoint := l.endpoint.ended, lost := true }, by simp [hl], htab⟩
  registry socket hknows := by
    rcases hknows with h | ⟨channel, h⟩
    · cases h
    · cases h
  links k l' hl' := by
    obtain ⟨l, hl, rfl⟩ := Option.map_eq_some_iff.mp hl'
    have hold := hs.links k l hl
    exact { hold with
      silent := fun hstate => ⟨(hold.silent hstate).1, fun channel => rfl⟩
      answered := fun hopened => by
        have hanswered := hold.answered hopened
        cases hend : l.endpoint <;> simp_all [Endpoint.ended]
      ended := fun _ => Or.inl rfl
      registered := fun _ hnot => absurd (Or.inl rfl) hnot
      inStep := nofun }

section Tabs

variable [DecidableEq T]

theorem Sound.opened (hs : s.Sound) (hl : s.links n = some l) (hstate : l.readyState = .connecting)
    (hwaiting : l.endpoint ≠ .waiting) (hrefused : l.endpoint ≠ .refused) :
    ((s.onLink n fun l => { l with readyState := .opened }).call l.tab
      WebSocketManager.onopen).Sound := by
  have hl' := hs.links n l hl
  have hws := hs.eq_of_live hl (by simp [hstate, ReadyState.live])
  have htab : (s.onTab l.tab fun t => { t with client := t.client.onopen.1 }).Sound :=
    hs.onTab l.tab _ rfl rfl
  have hsilent := hl'.silent hstate
  have hcall : (s.onLink n fun l => { l with readyState := .opened }).call l.tab
      WebSocketManager.onopen =
      { s.onTab l.tab fun t => { t with client := t.client.onopen.1 } with
        links := Function.update s.links n
          (some { l with
            readyState := .opened, upstream := (s.tabs l.tab).client.onopen.2 }) } := by
    simp [LiveSystem.call, LiveSystem.send, LiveSystem.onTab, LiveSystem.onLink, Link.send,
      WebSocketManager.onopen, hws, hl, hsilent.1]
  rw [hcall]
  refine htab.update hl htab.others s.feed _ rfl rfl hs.distinct (.refl _ _) (hs.serving_of_knows hl) ?_
  exact {
    current := fun _ => by simpa [seen, LiveSystem.onTab, WebSocketManager.onopen] using hws
    plain := fun m hm => by
      obtain ⟨channel, -, rfl⟩ := List.mem_map.mp hm
      nofun
    silent := nofun
    answered := fun _ => ⟨hwaiting, hrefused⟩
    ended := fun hover => by
      rcases hl'.ended hover with h | h | h
      · exact Or.inl h
      · simp [hstate] at h
      · simp [hstate] at h
    registered := fun hserving hnot => hl'.registered hserving fun hbroken => hnot <| by
      rcases hbroken with h | h | h
      · exact Or.inl h
      · simp [hstate] at h
      · simp [hstate] at h
    inStep := fun _ _ => by
      have hopen := WebSocketManager.inStep_onopen (c := (s.tabs l.tab).client) hsilent.2
      simp only [seen, LiveSystem.onTab, Function.update_self]
      exact hopen }

theorem Sound.closed (hs : s.Sound) (hl : s.links n = some l) :
    ((s.onLink n fun l => { l with readyState := .closed }).onTab l.tab Tab.onclose).Sound := by
  have hclosed : (s.onLink n fun l => { l with readyState := .closed }).Sound :=
    hs.onLink hl rfl rfl (fun h => h) (.of_not_live rfl (hs.links n l hl).plain)
  refine hclosed.onTab l.tab _ ?_ ?_
  · simp only [Tab.onclose, Tab.tryReconnect]
    split <;> rfl
  · simp only [Tab.onclose, Tab.tryReconnect]
    split <;> rfl

theorem Sound.disconnect (hs : s.Sound) (tab : T) :
    ((s.closeWs tab).onTab tab Tab.disconnect).Sound := by
  have hclose : (s.closeWs tab).Sound := by
    unfold closeWs
    split
    · exact hs
    · exact hs.close _
  refine hclose.onTab_idle rfl fun k l hl htab => ?_
  subst htab
  cases hlive : l.readyState.live
  · rfl
  · -- A socket that lives is the one that was just closed.
    have hws := hclose.eq_of_live hl hlive
    have hsame : (s.tabs l.tab).client.ws = some k := by
      unfold closeWs at hws
      split at hws <;> exact hws
    unfold closeWs at hl
    simp only [hsame, LiveSystem.onLink, Function.update_self, Option.map_eq_some_iff] at hl
    obtain ⟨l₀, -, rfl⟩ := hl
    simp only [Link.close] at hlive
    split at hlive <;> cases hlive

/-- Every step keeps the invariant. -/
theorem Sound.step [DecidableEq H] (hs : s.Sound) (toInt : String → Option Int)
    (e : LiveStep T H) : (s.step toInt e).Sound := by
  have hat : ∀ (n : Nat) (possible : Link T → Bool) (f : Link T → LiveSystem T H),
      (∀ l, s.links n = some l → possible l = true → (f l).Sound) →
        (s.atLink n possible f).Sound := by
    intro n possible f hf
    unfold atLink
    split
    · exact hs
    · rename_i l hl
      split
      · rename_i hpossible
        exact hf l hl hpossible
      · exact hs
  cases e with
  | connect tab user => exact hs.connect tab user
  | accept n w =>
    refine hat n _ _ fun l hl hp => hs.onLink hl rfl rfl (fun h => ?_) ?_
    · simp [of_decide_eq_true hp] at h
    · refine (hs.links n l hl).accept (of_decide_eq_true hp) ?_
      split
      · exact Or.inl rfl
      · exact Or.inr rfl
  | register n w => exact hat n _ _ fun l hl _ => hs.register hl w
  | opened n =>
    refine hat n _ _ fun l hl hp => ?_
    obtain ⟨hstate, hwaiting, hrefused⟩ := of_decide_eq_true hp
    exact hs.opened hl hstate hwaiting hrefused
  | closing n => exact hs.close n
  | closed n => exact hat n _ _ fun l hl _ => hs.closed hl
  | lose n =>
    simp only [LiveSystem.step]
    cases hl : s.links n with
    | none => rwa [onLink_of_none hl]
    | some l => exact hs.onLink hl rfl rfl (fun h => h) (hs.links n l hl).lose
  | read n w => exact hat n _ _ fun l hl hp => hs.read hl (of_decide_eq_true hp) w
  | sendFailed n channel =>
    exact hat n _ _ fun l hl hp => hs.dropDead hl (of_decide_eq_true hp) channel
  | gone n => exact hat n _ _ fun l hl hp => hs.gone hl (of_decide_eq_true hp).2
  | timer tab timer user =>
    simp only [LiveSystem.step]
    split
    · exact (hs.onTab tab _ rfl rfl).connect tab user
    · exact hs
  | disconnect tab => exact hs.disconnect tab
  | subscribe tab channel handler =>
    refine hs.call tab (·.subscribe channel handler) ?_ ?_
      (WebSocketManager.wants_subscribe channel handler)
    · unfold WebSocketManager.subscribe
      split <;> rfl
    · intro m hm
      rw [WebSocketManager.sent_subscribe] at hm
      split at hm <;> simp_all
  | unsubscribe tab channel handler =>
    refine hs.call tab (·.unsubscribe channel handler) ?_ ?_
      (WebSocketManager.wants_unsubscribe channel handler)
    · unfold WebSocketManager.unsubscribe
      split
      · rfl
      · split <;> rfl
    · intro m hm
      rw [WebSocketManager.sent_unsubscribe] at hm
      split at hm <;> simp_all
  | onType tab type handler =>
    exact hs.onTab tab (fun t => { t with client := t.client.onType type handler }) rfl rfl
  | offType tab type handler =>
    refine hs.onTab tab (fun t => { t with client := t.client.offType type handler }) ?_ ?_
    · simp only [WebSocketManager.offType]
      split <;> rfl
    · simp only [WebSocketManager.offType]
      split <;> rfl
  | ping tab =>
    simp only [LiveSystem.step]
    split
    · have hcall : s.send tab [.ping] = s.call tab fun c => (c, [.ping]) := by
        simp [LiveSystem.call, LiveSystem.onTab]
      rw [hcall]
      exact hs.call tab _ rfl (by simp) rfl
    · exact hs
  | round act w =>
    simp only [LiveSystem.step]
    split
    · rename_i hround
      have hmanager : (s.feed.step toInt ⟨act, w⟩).manager = s.feed.manager :=
        Feed.manager_round hround
      refine ⟨⟨hmanager ▸ hs.distinct, hs.unmade, hs.owned, fun socket h => ?_⟩, fun k l hl => ?_⟩
      · exact hs.registry socket (hmanager ▸ h)
      · have hold := hs.links k l hl
        unfold seen at hold ⊢
        rwa [hmanager]
    · exact hs
  | restart => exact hs.restart

end Tabs

/-! ### Runs -/

/-- What tabs and server agree on. -/
structure Agrees (s : LiveSystem T H) : Prop where
  /-- At most one socket of a tab is connecting or open. -/
  single : ∀ n n' l l', s.links n = some l → s.links n' = some l' → l.tab = l'.tab →
    l.readyState.live = true → l'.readyState.live = true → n = n'
  /-- On an open socket the server has the channels of the tab, once it has read what is on its
  way. -/
  channels : ∀ n l, s.links n = some l → l.readyState = .opened → l.lost = false →
    InStep (s.tabs l.tab).client.wants (s.feed.manager.has ⟨l.user, n⟩) (l.upstream.filterMap edit)
  /-- A socket that is served and works is registered. -/
  registered : ∀ n l, s.links n = some l → l.endpoint = .serving → ¬l.Broken →
    ⟨l.user, n⟩ ∈ s.feed.manager.connections
  /-- The registry has no socket that is not served, and none under another user. -/
  registry : ∀ socket, s.feed.manager.Knows socket →
    ∃ l, s.links socket.number = some l ∧ l.user = socket.user ∧ l.endpoint = .serving

theorem Sound.agrees (hs : s.Sound) : s.Agrees where
  single n n' l l' hl hl' htab hlive hlive' := by
    have hws := hs.eq_of_live hl hlive
    rw [htab, hs.eq_of_live hl' hlive'] at hws
    exact (Option.some.inj hws).symm
  channels n l hl := (hs.links n l hl).inStep
  registered n l hl := (hs.links n l hl).registered
  registry := hs.registry

section Runs

variable [DecidableEq T] [DecidableEq H] (toInt : String → Option Int)
  (steps : List (LiveStep T H))

theorem sound_of_run : ∀ s ∈ visited (fun s e => step s toInt e) start steps, s.Sound :=
  invariant_of_step (fun _ e hs => hs.step toInt e) sound_start steps

/-- In every run tabs and server agree. -/
theorem agrees_of_run : ∀ s ∈ visited (fun s e => step s toInt e) start steps, s.Agrees :=
  fun s hs => (sound_of_run toInt steps s hs).agrees

end Runs

/-- The dashboard puts its handler on the channel before the socket is open. -/
def visit : List (LiveStep Unit Nat) :=
  [.subscribe () "dashboard_metrics" 5, .connect () 7, .accept 0 (busyNode 0),
    .register 0 (busyNode 0), .opened 0, .read 0 (busyNode 0)]

theorem agrees_of_run_visit : (visit.foldl (fun s e => step s String.toInt? e) start).Agrees :=
  agrees_of_run String.toInt? visit _ (foldl_mem_visited _ _ _)

/-! ### Publications -/

/-- The handlers that a tab calls for what is sent on a socket. -/
def called [DecidableEq H] (c : WebSocketManager H) (socket : Socket)
    (sent : List (Socket × LiveMessage)) : List H :=
  (sent.filter fun m => decide (m.1 = socket)).flatMap fun m => c.onmessage m.2

/-- Only two messages change channels. -/
theorem eq_of_edit {m : ClientMessage} {e : Edit String} (h : edit m = some e) :
    m = .subscribe e.key ∨ m = .unsubscribe e.key := by
  cases m <;> simp only [edit, Option.ite_none_left_eq_some, Option.some.injEq, reduceCtorEq] at h
  · exact Or.inl (h.2 ▸ rfl)
  · exact Or.inr (h.2 ▸ rfl)

theorem filter_publication {sockets : List Socket} (hsockets : sockets.Nodup) (socket : Socket)
    (m : LiveMessage) : (sockets.map fun socket => (socket, m)).filter
      (fun m => decide (m.1 = socket)) = if socket ∈ sockets then [(socket, m)] else [] := by
  induction sockets with
  | nil => rfl
  | cons other sockets ih =>
    obtain ⟨hnew, hrest⟩ := List.nodup_cons.mp hsockets
    by_cases hsame : other = socket
    · subst hsame
      simp [ih hrest, hnew]
    · simp [ih hrest, hsame, Ne.symm hsame]

/-- What is published on a channel reaches the pages that listen to it, and no others. -/
theorem publication_called [DecidableEq T] [DecidableEq H] (toInt : String → Option Int)
    (steps : List (LiveStep T H)) (s : LiveSystem T H)
    (hs : s ∈ visited (fun s e => step s toInt e) start steps) (n : Nat) (l : Link T)
    (hl : s.links n = some l) (hopened : l.readyState = .opened) (hlost : l.lost = false)
    (channel : String) (hchannel : channel ≠ "")
    (hquiet : ∀ m ∈ l.upstream, m ≠ .subscribe channel ∧ m ≠ .unsubscribe channel)
    (data : ChannelData) :
    called (s.tabs l.tab).client ⟨l.user, n⟩
        ((s.feed.publish channel data).sent.drop s.feed.sent.length) =
      if (s.tabs l.tab).client.listens channel = true then
        ((s.tabs l.tab).client.typeListeners.get? "metrics_update").getD [] ++
          ((s.tabs l.tab).client.subscribers.get? channel).getD []
      else [] := by
  have hsound := sound_of_run toInt steps s hs
  have hsettled : s.feed.manager.has ⟨l.user, n⟩ channel =
      (s.tabs l.tab).client.wants channel := by
    refine ((hsound.links n l hl).inStep hopened hlost).quiet fun e he hkey => ?_
    obtain ⟨m, hm, hedit⟩ := List.mem_filterMap.mp he
    rcases eq_of_edit hedit with rfl | rfl
    · exact (hquiet _ hm).1 (congrArg ClientMessage.subscribe hkey)
    · exact (hquiet _ hm).2 (congrArg ClientMessage.unsubscribe hkey)
  have hnew : (s.feed.publish channel data).sent.drop s.feed.sent.length =
      (s.feed.manager.subscribers channel).map fun socket =>
        (socket, .metricsUpdate channel data) := by
    simp [Feed.publish, Feed.broadcastToChannel]
  have hmem : (⟨l.user, n⟩ : Socket) ∈ s.feed.manager.subscribers channel ↔
      (s.tabs l.tab).client.listens channel = true := by
    simpa [ConnectionManager.has, WebSocketManager.wants, hchannel] using
      Bool.eq_iff_iff.mp hsettled
  rw [called, hnew, filter_publication (hsound.distinct.subscribers channel)]
  by_cases hlistens : (s.tabs l.tab).client.listens channel = true
  · simp [hmem.mpr hlistens, hlistens, WebSocketManager.onmessage, LiveMessage.type,
      LiveMessage.channel, hchannel]
  · simp [mt hmem.mp hlistens, hlistens]

/-- The handler is called. -/
theorem publication_called_visit :
    called ((visit.foldl (fun s e => step s String.toInt? e) start).tabs ()).client ⟨7, 0⟩
      (((visit.foldl (fun s e => step s String.toInt? e) start).feed.publish "dashboard_metrics"
        (.list [])).sent.drop 1) = [5] :=
  publication_called String.toInt? visit _ (foldl_mem_visited _ _ _) 0
    ⟨(), 7, .opened, [], false, .serving⟩ rfl rfl rfl "dashboard_metrics" (by decide) (by simp)
    (.list [])

end LiveSystem

end PveManager.Live
