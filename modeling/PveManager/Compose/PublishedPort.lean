import PveManager.Compose.Delivery

/-!
# The published port

The port that is returned with a file is read from the first entry of the main service, or is the port
inside where that entry names none. Compose publishes it, and leads it to the app, only when an entry
says so.
-/

namespace PveManager.Compose

open PveManager.Core PveManager.Core.Yaml

/-- The entries of `ports`. -/
def entriesOf (svc : Yaml) : List Yaml :=
  match svc.get? "ports" with
  | some (.list entries) => entries
  | _ => []

/-- Some service publishes the host port. -/
def PublishesHost (reader : ComposeReader) (services : Items) (port : Int) : Prop :=
  ∃ item ∈ services, ∃ entry ∈ entriesOf item.2, ∃ inside, (port, inside) ∈ reader.published entry

/-- The host port leads to a port of the main service. -/
def LeadsTo (reader : ComposeReader) (services : Items) (main : Option String)
    (port inside : Int) : Prop :=
  ∃ name svc, main = some name ∧ services.lookup name = some svc ∧
    ∃ entry ∈ entriesOf svc, (port, inside) ∈ reader.published entry

/-- The internal port of the app, where it is known. -/
def internalOf (py : PyText) (o : RewriteOptions) (services : Items) : Option Int :=
  truePort (internalPort o (py.toInt? (insidePort py o.source services)).toOption.join)

/-- The port of a delivered file is published by a service of it, and leads to the internal port. -/
structure RealPort (py : PyText) (reader : ComposeReader) (o : RewriteOptions) (doc : Yaml)
    (delivered : Delivered) (port : Int) : Prop where
  published : PublishesHost reader (servicesOf delivered.doc) port
  leads : ∀ inside, internalOf py o (servicesOf doc) = some inside →
    LeadsTo reader (servicesOf delivered.doc) (mainName py o.source (servicesOf doc)) port inside

/-- An entry has the number where the host port stands, once the port of the app is filled in. -/
def NamesPort (py : PyText) (o : RewriteOptions) (entry : Yaml) (port : Int) : Prop :=
  publishedHostPort py entry o.hostPort = .ok (some port)

/-- The ports of a file serve the app. -/
structure Serves (py : PyText) (reader : ComposeReader) (o : RewriteOptions) (services : Items) :
    Prop where
  /-- Where an entry is added, both its numbers are ports. -/
  added : ∀ name svc inside, mainName py o.source services = some name →
    (keptServices o.source services).lookup name = some svc → svc.items?.isSome = true →
      ((svc.get? "ports").getD .null).truthy = false → internalOf py o services = some inside →
        IsPort (choosePort o.hostPort o.portExplicit inside) ∧ IsPort inside
  /-- What the first entry names leads to the internal port. -/
  named : ∀ first inside,
    firstPort (keptServices o.source services) (mainName py o.source services) = some first →
      internalOf py o services = some inside → ∀ port, port ≠ 0 → NamesPort py o first port →
        LeadsTo reader (keptServices o.source services) (mainName py o.source services) port inside
  /-- Where it names nothing, the internal port is published under its own number. -/
  unnamed : ∀ first inside,
    firstPort (keptServices o.source services) (mainName py o.source services) = some first →
      internalOf py o services = some inside → (∀ port, port ≠ 0 → ¬NamesPort py o first port) →
        LeadsTo reader (keptServices o.source services) (mainName py o.source services) inside inside
  /-- Without an internal port, what the first entry names is published. -/
  unknown : ∀ first port,
    firstPort (keptServices o.source services) (mainName py o.source services) = some first →
      internalOf py o services = none → NamesPort py o first port →
        PublishesHost reader (keptServices o.source services) port

section Same

variable {reader : ComposeReader} {key : String} {xs ys : Items}

theorem entriesOf_of_sameBut {a b : Yaml} (hkey : "ports" ≠ key) (h : SameBut key a b) :
    entriesOf b = entriesOf a := by
  unfold entriesOf
  rw [h.2 "ports" hkey]

theorem publishesHost_aligned (hkey : "ports" ≠ key) (h : Aligned (SameBut key) xs ys) {port : Int} :
    PublishesHost reader ys port ↔ PublishesHost reader xs port := by
  constructor
  · rintro ⟨b, hb, hentry⟩
    obtain ⟨a, ha, _, hsame⟩ := h.mem_right hb
    rw [entriesOf_of_sameBut hkey hsame] at hentry
    exact ⟨a, ha, hentry⟩
  · rintro ⟨a, ha, hentry⟩
    obtain ⟨b, hb, _, hsame⟩ := h.mem_left ha
    rw [← entriesOf_of_sameBut hkey hsame] at hentry
    exact ⟨b, hb, hentry⟩

theorem leadsTo_aligned (hkey : "ports" ≠ key) (h : Aligned (SameBut key) xs ys)
    {main : Option String} {port inside : Int} :
    LeadsTo reader ys main port inside ↔ LeadsTo reader xs main port inside := by
  constructor
  · rintro ⟨name, svc, hmain, hsvc, hentry⟩
    rcases h.lookup name with ⟨_, hnone⟩ | ⟨a, b, ha, hb, hsame⟩
    · rw [hnone] at hsvc
      cases hsvc
    · rw [hb] at hsvc
      cases hsvc
      rw [entriesOf_of_sameBut hkey hsame] at hentry
      exact ⟨name, a, hmain, ha, hentry⟩
  · rintro ⟨name, svc, hmain, hsvc, hentry⟩
    rcases h.lookup name with ⟨hnone, _⟩ | ⟨a, b, ha, hb, hsame⟩
    · rw [hnone] at hsvc
      cases hsvc
    · rw [ha] at hsvc
      cases hsvc
      rw [← entriesOf_of_sameBut hkey hsame] at hentry
      exact ⟨name, b, hmain, hb, hentry⟩

/-- A port that leads to the main service is published. -/
theorem LeadsTo.publishesHost {services : Items} {main : Option String} {port inside : Int}
    (h : LeadsTo reader services main port inside) : PublishesHost reader services port := by
  obtain ⟨name, svc, _, hsvc, entry, hentry, hpair⟩ := h
  exact ⟨(name, svc), mem_of_lookup hsvc, entry, hentry, inside, hpair⟩

/-- A service with one entry leads the ports of that entry. -/
theorem leadsTo_setKey {name : String} {svc : Items} {published internal port inside : Int} :
    LeadsTo reader (setKey name (.dict (setKey "ports" (.list [portEntry published internal]) svc)) xs)
        (some name) port inside ↔
      port = published ∧ inside = internal ∧ IsPort published ∧ IsPort internal := by
  have hlookup : (setKey name (.dict (setKey "ports" (.list [portEntry published internal]) svc))
      xs).lookup name =
        some (.dict (setKey "ports" (.list [portEntry published internal]) svc)) := by
    rw [lookup_setKey, if_pos rfl]
  have hentries : entriesOf (.dict (setKey "ports" (.list [portEntry published internal]) svc)) =
      [portEntry published internal] := by
    have hports : Yaml.get? (.dict (setKey "ports" (.list [portEntry published internal]) svc))
        "ports" = some (.list [portEntry published internal]) := by
      change (setKey "ports" _ svc).lookup "ports" = _
      rw [lookup_setKey, if_pos rfl]
    unfold entriesOf
    rw [hports]
  constructor
  · rintro ⟨name', svc', hname, hsvc, entry, hentry, hpair⟩
    cases hname
    rw [hlookup] at hsvc
    cases hsvc
    rw [hentries, List.mem_singleton] at hentry
    rw [hentry] at hpair
    exact (reader.mem_published_portEntry).mp hpair
  · intro h
    refine ⟨name, _, rfl, hlookup, portEntry published internal, ?_,
      (reader.mem_published_portEntry).mpr h⟩
    rw [hentries]
    exact List.mem_singleton_self _

end Same

theorem truePort_eq_some_iff {port : Option Int} {n : Int} :
    truePort port = some n ↔ port = some n ∧ n ≠ 0 := by
  unfold truePort
  rw [Option.filter_eq_some_iff, decide_eq_true_iff]

theorem mainService_main {services : Items} {main : Option String} {name : String} {svc : Items}
    (h : mainService services main = some (name, svc)) : main = some name := by
  unfold mainService at h
  obtain ⟨key, rfl, h⟩ := Option.bind_eq_some_iff.mp h
  obtain ⟨found, _, hsvc⟩ := Option.map_eq_some_iff.mp h
  cases hsvc
  rfl

/-- A service with a first entry has ports. -/
theorem truthy_of_firstPort {services : Items} {name : String} {svc first : Yaml}
    (hsvc : services.lookup name = some svc) (hfirst : firstPort services (some name) = some first) :
    ((svc.get? "ports").getD .null).truthy = true := by
  unfold firstPort portsOf at hfirst
  rw [Option.bind_some, hsvc, Option.bind_some] at hfirst
  cases hports : svc.get? "ports" with
  | none =>
    rw [hports] at hfirst
    cases hfirst
  | some ports =>
    rw [hports] at hfirst
    rcases ports with _ | _ | _ | _ | _ | (_ | ⟨first, rest⟩) | _
    case list.cons => rfl
    all_goals cases hfirst

section Rewritten

variable {py : PyText} {o : RewriteOptions} {doc : Yaml} {delivered : Delivered}
  {internal : Option Int} {new : Items} {pub : Publication}
  (hnew : IsRewritten py o doc delivered internal new pub) (reader : ComposeReader)

include hnew

theorem internalOf_rewritten :
    internalOf py o (servicesOf doc) = truePort (internalPort o internal) := by
  unfold internalOf
  rw [hnew.inside]
  rfl

theorem aligned_rewritten :
    Aligned (SameBut "depends_on") (keptServices o.source (servicesOf doc)) new :=
  hnew.stripped.imp fun _ _ hab => ⟨hab.1, hab.2.1⟩

/-- Where an entry was added, it is real when its numbers are ports. -/
theorem added_iff {name : String} {svc : Items} {inside : Int}
    (hneeds : NeedsPort new (mainName py o.source (servicesOf doc)) (internalPort o internal) name svc
      inside)
    (hpub : pub = ⟨setKey name (.dict (setKey "ports"
      (.list [portEntry (choosePort o.hostPort o.portExplicit inside) inside]) svc)) new,
        some (choosePort o.hostPort o.portExplicit inside), true⟩) :
    (∀ port, delivered.port = some port → RealPort py reader o doc delivered port) ↔
      Serves py reader o (servicesOf doc) := by
  obtain ⟨hmain, hinside, hfalsy⟩ := hneeds
  have hname := mainService_main hmain
  have hlookup := (portsOf_main hmain).2
  have hinternal := (internalOf_rewritten hnew).trans hinside
  have hport : delivered.port = some (choosePort o.hostPort o.portExplicit inside) := by
    rw [hnew.port, hpub]
  have hnone : firstPort (keptServices o.source (servicesOf doc))
      (mainName py o.source (servicesOf doc)) = none := by
    rw [← firstPort_stripped hnew.stripped, Option.eq_none_iff_forall_ne_some]
    intro first hfirst
    rw [hname] at hfirst
    have htrue := truthy_of_firstPort hlookup hfirst
    rw [show Yaml.get? (.dict svc) "ports" = svc.lookup "ports" from rfl, hfalsy] at htrue
    cases htrue
  have hno : ∀ {first}, firstPort (keptServices o.source (servicesOf doc))
      (mainName py o.source (servicesOf doc)) ≠ some first := by
    intro first hfirst
    rw [hnone] at hfirst
    cases hfirst
  have hleads : ∀ port inside', LeadsTo reader (servicesOf delivered.doc)
      (mainName py o.source (servicesOf doc)) port inside' ↔
        port = choosePort o.hostPort o.portExplicit inside ∧ inside' = inside ∧
          IsPort (choosePort o.hostPort o.portExplicit inside) ∧ IsPort inside := by
    intro port inside'
    rw [hnew.services, hpub, hname]
    exact leadsTo_setKey
  constructor
  · intro hreal
    refine ⟨fun _ _ inside' _ _ _ _ hinside' => ?_, fun _ _ h => absurd h hno,
      fun _ _ h => absurd h hno, fun _ _ h => absurd h hno⟩
    rw [hinternal] at hinside'
    cases hinside'
    exact ((hleads _ _).mp ((hreal _ hport).leads inside hinternal)).2.2
  · intro hserves port h
    rw [hport] at h
    cases h
    rcases (aligned_rewritten hnew).lookup name with ⟨_, hbad⟩ | ⟨a, b, ha, hb, hsame⟩
    · rw [hlookup] at hbad
      cases hbad
    · rw [hlookup] at hb
      cases hb
      have hports : a.get? "ports" = svc.lookup "ports" := (hsame.2 "ports" (by decide)).symm
      have hboth := hserves.added name a inside hname ha hsame.1.symm (by rw [hports, hfalsy])
        hinternal
      have hlead := (hleads _ _).mpr ⟨rfl, rfl, hboth⟩
      refine ⟨hlead.publishesHost, fun inside' hinside' => ?_⟩
      rw [hinternal] at hinside'
      cases hinside'
      exact hlead

/-- Where the first entry was read, the port is real when the entries of the file say so. -/
theorem read_iff {first : Yaml} {port : Option Int}
    (hfirst : firstPort new (mainName py o.source (servicesOf doc)) = some first)
    (hread : publishedHostPort py first o.hostPort = .ok port)
    (hpub : pub = ⟨new, readPort (internalPort o internal) port, false⟩) :
    (∀ port, delivered.port = some port → RealPort py reader o doc delivered port) ↔
      Serves py reader o (servicesOf doc) := by
  have hkept : firstPort (keptServices o.source (servicesOf doc))
      (mainName py o.source (servicesOf doc)) = some first := by
    rw [← firstPort_stripped hnew.stripped, hfirst]
  have hsome : ∀ {entry}, firstPort (keptServices o.source (servicesOf doc))
      (mainName py o.source (servicesOf doc)) = some entry → entry = first := by
    intro entry hentry
    rw [hkept] at hentry
    exact (Option.some.inj hentry).symm
  have hnames : ∀ n, NamesPort py o first n ↔ port = some n := by
    intro n
    unfold NamesPort
    rw [hread]
    exact ⟨fun h => Except.ok.inj h, fun h => congrArg _ h⟩
  have hadded : ∀ name svc, mainName py o.source (servicesOf doc) = some name →
      (keptServices o.source (servicesOf doc)).lookup name = some svc →
        ((svc.get? "ports").getD .null).truthy ≠ false := by
    intro name svc hname hsvc hfalsy
    rw [hname] at hkept
    rw [truthy_of_firstPort hsvc hkept] at hfalsy
    cases hfalsy
  have hleads : ∀ p inside, LeadsTo reader (servicesOf delivered.doc)
      (mainName py o.source (servicesOf doc)) p inside ↔
        LeadsTo reader (keptServices o.source (servicesOf doc))
          (mainName py o.source (servicesOf doc)) p inside := by
    intro p inside
    rw [hnew.services, hpub]
    exact leadsTo_aligned (by decide) (aligned_rewritten hnew)
  have hpublishes : ∀ p, PublishesHost reader (servicesOf delivered.doc) p ↔
      PublishesHost reader (keptServices o.source (servicesOf doc)) p := by
    intro p
    rw [hnew.services, hpub]
    exact publishesHost_aligned (by decide) (aligned_rewritten hnew)
  have hinternal := internalOf_rewritten hnew
  have hport : delivered.port = readPort (internalPort o internal) port := by rw [hnew.port, hpub]
  unfold readPort at hport
  cases hinside : truePort (internalPort o internal) with
  | none =>
    rw [hinside] at hport hinternal
    have hno : ∀ {inside}, internalOf py o (servicesOf doc) ≠ some inside := by
      intro inside h
      rw [hinternal] at h
      cases h
    constructor
    · intro hreal
      refine ⟨fun name svc _ hname hsvc _ hfalsy => absurd hfalsy (hadded name svc hname hsvc),
        fun _ _ _ h => absurd h hno, fun _ _ _ h => absurd h hno, fun entry p hentry _ hnamed => ?_⟩
      rw [hsome hentry] at hnamed
      exact (hpublishes p).mp (hreal p (hport.trans ((hnames p).mp hnamed))).published
    · intro hserves p hp
      refine ⟨(hpublishes p).mpr ?_, fun _ h => absurd h hno⟩
      exact hserves.unknown first p hkept hinternal ((hnames p).mpr (hport.symm.trans hp))
  | some inside =>
    rw [hinside] at hport hinternal
    have hno : internalOf py o (servicesOf doc) ≠ none := by
      rw [hinternal]
      exact Option.some_ne_none _
    have hlead : (∀ p, delivered.port = some p → RealPort py reader o doc delivered p) ↔
        LeadsTo reader (keptServices o.source (servicesOf doc))
          (mainName py o.source (servicesOf doc)) ((truePort port).getD inside) inside := by
      rw [← hleads]
      constructor
      · exact fun hreal => (hreal _ hport).leads inside hinternal
      · intro hlead p hp
        rw [hport] at hp
        cases hp
        refine ⟨hlead.publishesHost, fun inside' hinside' => ?_⟩
        rw [hinternal] at hinside'
        cases hinside'
        exact hlead
    rw [hlead]
    constructor
    · intro hlead
      refine ⟨fun name svc _ hname hsvc _ hfalsy => absurd hfalsy (hadded name svc hname hsvc),
        fun entry inside' hentry hinside' p hp hnamed => ?_,
        fun entry inside' hentry hinside' hnone => ?_, fun _ _ _ h => absurd h hno⟩
      · rw [hinternal] at hinside'
        cases hinside'
        rw [hsome hentry] at hnamed
        rw [truePort_eq_some_iff.mpr ⟨(hnames p).mp hnamed, hp⟩] at hlead
        exact hlead
      · rw [hinternal] at hinside'
        cases hinside'
        rw [hsome hentry] at hnone
        have hzero : truePort port = none := by
          rw [Option.eq_none_iff_forall_ne_some]
          intro n hn
          obtain ⟨hn, hne⟩ := truePort_eq_some_iff.mp hn
          exact hnone n hne ((hnames n).mpr hn)
        rw [hzero] at hlead
        exact hlead
    · intro hserves
      cases hn : truePort port with
      | none =>
        refine hserves.unnamed first inside hkept hinternal fun n hne hnamed => ?_
        rw [truePort_eq_some_iff.mpr ⟨(hnames n).mp hnamed, hne⟩] at hn
        cases hn
      | some n =>
        obtain ⟨hnamed, hne⟩ := truePort_eq_some_iff.mp hn
        exact hserves.named first inside hkept hinternal n hne ((hnames n).mpr hnamed)

/-- Where nothing was read or added, no port is returned. -/
theorem serves_of_nothing
    (hfirst : firstPort new (mainName py o.source (servicesOf doc)) = none)
    (hneeds : ∀ name svc inside, ¬NeedsPort new (mainName py o.source (servicesOf doc))
      (internalPort o internal) name svc inside) :
    Serves py reader o (servicesOf doc) := by
  have hno : ∀ {first}, firstPort (keptServices o.source (servicesOf doc))
      (mainName py o.source (servicesOf doc)) ≠ some first := by
    intro first h
    rw [← firstPort_stripped hnew.stripped, hfirst] at h
    cases h
  refine ⟨fun name svc inside hname hsvc hdict hfalsy hinside => ?_, fun _ _ h => absurd h hno,
    fun _ _ h => absurd h hno, fun _ _ h => absurd h hno⟩
  rcases (aligned_rewritten hnew).lookup name with ⟨hbad, _⟩ | ⟨a, b, ha, hb, hsame⟩
  · rw [hbad] at hsvc
    cases hsvc
  · rw [ha] at hsvc
    cases hsvc
    cases b with
    | dict items =>
      refine absurd ⟨?_, (internalOf_rewritten hnew).symm.trans hinside, ?_⟩
        (hneeds name items inside)
      · unfold mainService
        rw [hname, Option.bind_some, hb]
        rfl
      · rw [← hfalsy, ← hsame.2 "ports" (by decide)]
        rfl
    | _ =>
      have hnone := hsame.1
      rw [hdict] at hnone
      cases hnone

end Rewritten

/-- The port that is returned with a file is real exactly when the ports of the file serve the app; where
the file cannot be read, no port is returned. -/
theorem realPort_iff (py : PyText) (reader : ComposeReader) (o : RewriteOptions) (doc : Yaml) :
    (∀ port, (normalizeCompose py o doc).port = some port →
        RealPort py reader o doc (normalizeCompose py o doc) port) ↔
      Unreadable py o (servicesOf doc) ∨ Serves py reader o (servicesOf doc) := by
  rcases normalizeCompose_cases py o doc with ⟨hraw, heq⟩ | ⟨hgood, internal, new, pub, hnew⟩
  · have hport : ∀ port, (normalizeCompose py o doc).port ≠ some port := by
      intro port h
      rw [heq] at h
      cases h
    refine iff_of_true (fun port h => absurd h (hport port)) (hraw.imp_right fun hnone => ?_)
    rw [hnone]
    have hkept : keptServices o.source [] = [] := rfl
    have hfirst : ∀ {first}, firstPort (keptServices o.source []) (mainName py o.source []) ≠
        some first := by
      intro first h
      unfold firstPort portsOf at h
      rw [hkept] at h
      cases hmain : mainName py o.source [] with
      | none =>
        rw [hmain] at h
        cases h
      | some name =>
        rw [hmain] at h
        cases h
    exact ⟨fun _ _ _ _ h => absurd h.symm (Option.some_ne_none _), fun _ _ h => absurd h hfirst,
      fun _ _ h => absurd h hfirst, fun _ _ h => absurd h hfirst⟩
  · rw [or_iff_right hgood]
    have hpublished := hnew.published
    rcases publishPort_cases py new (mainName py o.source (servicesOf doc)) (internalPort o internal)
      o.hostPort o.portExplicit with
      ⟨name, svc, inside, hneeds, _, hok⟩ | ⟨first, hfirst, hok⟩ | ⟨hfirst, hneeds, hok⟩
    · rw [hok] at hpublished
      exact added_iff hnew reader hneeds (Except.ok.inj hpublished).symm
    · rw [hok] at hpublished
      cases hread : publishedHostPort py first o.hostPort with
      | error e =>
        rw [hread] at hpublished
        cases hpublished
      | ok port =>
        rw [hread] at hpublished
        exact read_iff hnew reader hfirst hread (Except.ok.inj hpublished).symm
    · rw [hok] at hpublished
      refine iff_of_true (fun port hport => ?_) (serves_of_nothing hnew reader hfirst hneeds)
      rw [hnew.port, ← Except.ok.inj hpublished] at hport
      cases hport

/-! ### Plain entries -/

section Plain

variable (py : PyText)

/-- A plain entry names its host port. -/
theorem namesPort_portEntry {o : RewriteOptions} {host inside port : Int} (h : IsPort host) :
    NamesPort py o (portEntry host inside) port ↔ port = host := by
  have hread : publishedHostPort py (portEntry host inside) o.hostPort = .ok (some host) := by
    have hdollar := dollar_not_mem_portEntry host inside
    unfold publishedHostPort publishedText portEntry
    dsimp only
    rw [show py.str (.str (toString host ++ ":" ++ toString inside)) =
      toString host ++ ":" ++ toString inside from rfl, substEnv_of_not_mem hdollar,
      splitOn_portEntry]
    change py.toInt (.str (String.ofList (toString host).toList)) = _
    rw [String.ofList_toList, toInt_port py h]
  unfold NamesPort
  rw [hread]
  exact ⟨fun heq => (Option.some.inj (Except.ok.inj heq)).symm, fun heq => heq ▸ rfl⟩

end Plain

/-- Plain entries serve the app when the first one leads to the internal port. -/
theorem serves_portEntry_iff {py : PyText} {reader : ComposeReader} {o : RewriteOptions}
    {services : Items} {name : String} {svc : Yaml} {host target inside : Int}
    (hmain : mainName py o.source services = some name)
    (hsvc : (keptServices o.source services).lookup name = some svc)
    (hports : svc.get? "ports" = some (.list [portEntry host target]))
    (hinside : internalOf py o services = some inside) (hhost : IsPort host)
    (htarget : IsPort target) : Serves py reader o services ↔ target = inside := by
  have hfirst : firstPort (keptServices o.source services) (mainName py o.source services) =
      some (portEntry host target) := by
    unfold firstPort portsOf
    rw [hmain, Option.bind_some, hsvc, Option.bind_some, hports]
    rfl
  have hentries : entriesOf svc = [portEntry host target] := by
    unfold entriesOf
    rw [hports]
  have hlead : LeadsTo reader (keptServices o.source services) (mainName py o.source services) host
      inside ↔ target = inside := by
    constructor
    · rintro ⟨name', svc', hname, hsvc', entry, hentry, hpair⟩
      rw [hmain] at hname
      cases hname
      rw [hsvc] at hsvc'
      cases hsvc'
      rw [hentries, List.mem_singleton] at hentry
      rw [hentry] at hpair
      exact ((reader.mem_published_portEntry).mp hpair).2.1.symm
    · rintro rfl
      refine ⟨name, svc, hmain, hsvc, portEntry host target, ?_,
        (reader.mem_published_portEntry).mpr ⟨rfl, rfl, hhost, htarget⟩⟩
      rw [hentries]
      exact List.mem_singleton_self _
  rw [← hlead]
  have hne : host ≠ 0 := Int.ne_of_gt hhost.1
  constructor
  · exact fun hserves => hserves.named _ inside hfirst hinside host hne
      ((namesPort_portEntry py hhost).mpr rfl)
  · intro hleads
    refine ⟨fun name' svc' _ hname hsvc' _ hfalsy => ?_, fun first inside' h hinside' port _ hnames => ?_,
      fun first _ h _ hnone => ?_, fun _ _ _ h => ?_⟩
    · rw [hmain] at hname
      cases hname
      rw [hsvc] at hsvc'
      cases hsvc'
      rw [hports] at hfalsy
      cases hfalsy
    · rw [hfirst] at h
      cases h
      rw [hinside] at hinside'
      cases hinside'
      rw [(namesPort_portEntry py hhost).mp hnames]
      exact hleads
    · rw [hfirst] at h
      cases h
      exact absurd ((namesPort_portEntry py hhost).mpr rfl) (hnone host hne)
    · rw [hinside] at h
      cases h

/-! ### A port of the container alone -/

/-- A web server that leaves its host port to Docker. -/
def containerOnly : Yaml :=
  .dict [("services", .dict [("web", .dict [("image", .str "nginx"),
    ("ports", .list [.str "80"]),
    ("x-runtipi", .dict [("is_main", .bool true), ("internal_port", .int 80)])])])]

/-- The internal port is returned, and no service publishes it. -/
theorem containerOnly_not_real :
    (normalizeCompose .ofAscii runtipiOptions containerOnly).port = some 80 ∧
      ¬RealPort .ofAscii .literal runtipiOptions containerOnly
        (normalizeCompose .ofAscii runtipiOptions containerOnly) 80 := by
  have hservices : servicesOf (normalizeCompose .ofAscii runtipiOptions containerOnly).doc =
      servicesOf containerOnly := rfl
  refine ⟨by decide +kernel, fun hreal => ?_⟩
  obtain ⟨item, hitem, entry, hentry, inside, hpair⟩ := hreal.published
  rw [hservices] at hitem
  cases List.mem_singleton.mp hitem
  cases List.mem_singleton.mp hentry
  have hnothing : ComposeReader.literal.published (.str "80") = [] := by decide +kernel
  rw [hnothing] at hpair
  exact List.not_mem_nil hpair

end PveManager.Compose
