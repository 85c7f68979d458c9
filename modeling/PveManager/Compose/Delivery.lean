import PveManager.Compose.PortSyntax
import PveManager.Compose.Removal

/-!
# Delivery

What a rewritten file has beside the kept services: the networks that were missing, and the port of
the main service. Where a port or a reference cannot be read, the file is delivered as it came.
-/

namespace PveManager.Compose

open PveManager.Core PveManager.Core.Yaml

variable (py : PyText)

/-! ### Networks -/

section Networks

variable {py} {top items services : Items} {net : String}

theorem lookup_declareNetworks (missing : List String) : (declareNetworks top missing).lookup net =
    if net ∈ missing then some externalNetwork else top.lookup net := by
  induction missing generalizing top with
  | nil => rfl
  | cons first rest ih =>
    have hstep : declareNetworks top (first :: rest) =
        declareNetworks (setKey first externalNetwork top) rest := rfl
    rw [hstep, ih, lookup_setKey]
    by_cases hrest : net ∈ rest
    · rw [if_pos hrest, if_pos (List.mem_cons_of_mem _ hrest)]
    · rw [if_neg hrest]
      by_cases hfirst : net = first
      · rw [if_pos hfirst, if_pos (hfirst ▸ List.mem_cons_self)]
      · rw [if_neg hfirst, if_neg (fun h => (List.mem_cons.mp h).elim hfirst hrest)]

theorem declaredNetworks_setKey (value : Items) :
    declaredNetworks (setKey "networks" (.dict value) items) = value := by
  unfold declaredNetworks
  rw [lookup_setKey, if_pos rfl]
  rfl

/-- The networks in use that no one declares. -/
def missingNetworks (py : PyText) (items services : Items) : List String :=
  (referencedNetworks py services).filter fun net => ((declaredNetworks items).lookup net).isNone

theorem mem_missingNetworks : net ∈ missingNetworks py items services ↔
    net ∈ referencedNetworks py services ∧ (declaredNetworks items).lookup net = none := by
  unfold missingNetworks
  rw [List.mem_filter, Option.isNone_iff_eq_none]

theorem missingNetworks_nil_of (items : Items) (h : referencedNetworks py services = []) :
    missingNetworks py items services = [] := by
  unfold missingNetworks
  rw [h]
  rfl

theorem withNetworks_eq (changed : Bool) : withNetworks py items services changed =
    if (referencedNetworks py services).isEmpty then (items, changed)
    else if changed || !(missingNetworks py items services).isEmpty then
      (setKey "networks" (.dict (declareNetworks (declaredNetworks items)
        (missingNetworks py items services))) items,
        changed || !(missingNetworks py items services).isEmpty)
    else (items, changed || !(missingNetworks py items services).isEmpty) := rfl

/-- The missing networks are declared as external ones, and the others stay. -/
theorem lookup_withNetworks (changed : Bool) :
    (declaredNetworks (withNetworks py items services changed).1).lookup net =
      if net ∈ missingNetworks py items services then some externalNetwork
      else (declaredNetworks items).lookup net := by
  rw [withNetworks_eq]
  by_cases hnone : (referencedNetworks py services).isEmpty = true
  · have hmissing := missingNetworks_nil_of items (List.isEmpty_iff.mp hnone)
    simp only [hnone, hmissing, List.not_mem_nil, if_true, if_false]
  · rw [if_neg hnone]
    split
    · rw [declaredNetworks_setKey]
      exact lookup_declareNetworks (missingNetworks py items services)
    · rename_i hsame
      have hmissing : missingNetworks py items services = [] := by
        cases h : missingNetworks py items services with
        | nil => rfl
        | cons _ _ => exact absurd (by rw [h]; exact Bool.or_true changed) hsame
      simp only [hmissing, List.not_mem_nil, if_false]

/-- The file has changed when a network was missing. -/
theorem withNetworks_changed (changed : Bool) : (withNetworks py items services changed).2 =
    (changed || !(missingNetworks py items services).isEmpty) := by
  rw [withNetworks_eq]
  by_cases hnone : (referencedNetworks py services).isEmpty = true
  · have hmissing := missingNetworks_nil_of items (List.isEmpty_iff.mp hnone)
    simp only [hnone, hmissing, if_true, List.isEmpty_nil, Bool.not_true, Bool.or_false]
  · rw [if_neg hnone]
    split <;> rfl

end Networks

/-! ### Ports -/

/-- What a service has in `ports`. -/
def portsOf (services : Items) (main : Option String) : Option Yaml :=
  main.bind fun name => (services.lookup name).bind fun svc => svc.get? "ports"

/-- The first entry of a list. -/
def firstOf : Option Yaml → Option Yaml
  | some (.list (first :: _)) => some first
  | _ => none

/-- The first port that the main service publishes. -/
def firstPort (services : Items) (main : Option String) : Option Yaml :=
  firstOf (portsOf services main)

/-- The port that is returned for a file that publishes one: `port or internal`. -/
def readPort (internal port : Option Int) : Option Int :=
  match truePort internal with
  | some internal => some ((truePort port).getD internal)
  | none => port

section Publication

variable {py} {services : Items} {main : Option String} {internal hostPort : Option Int}
  {portExplicit : Bool}

theorem portsOf_main {name : String} {svc : Items} (h : mainService services main = some (name, svc)) :
    portsOf services main = svc.lookup "ports" ∧ services.lookup name = some (.dict svc) := by
  unfold mainService at h
  obtain ⟨key, rfl, h⟩ := Option.bind_eq_some_iff.mp h
  obtain ⟨found, h, hsvc⟩ := Option.map_eq_some_iff.mp h
  obtain ⟨node, hnode, h⟩ := Option.bind_eq_some_iff.mp h
  cases node with
  | dict items =>
    cases h
    cases hsvc
    unfold portsOf
    rw [Option.bind_some, hnode]
    exact ⟨rfl, rfl⟩
  | _ => cases h

theorem portsOf_no_main (h : mainService services main = none) : portsOf services main = none := by
  unfold mainService at h
  unfold portsOf
  cases main with
  | none => rfl
  | some name =>
    rw [Option.bind_some] at h ⊢
    cases hnode : services.lookup name with
    | none => rfl
    | some node =>
      rw [hnode, Option.map_eq_none_iff] at h
      rw [Option.bind_some]
      unfold Yaml.get? Yaml.itemsOf
      rw [show node.items? = none from h]
      rfl

/-- The main service has no ports, and its port inside is known. -/
def NeedsPort (services : Items) (main : Option String) (internal : Option Int) (name : String)
    (svc : Items) (inside : Int) : Prop :=
  mainService services main = some (name, svc) ∧ truePort internal = some inside ∧
    ((svc.lookup "ports").getD .null).truthy = false

/-- What the publication does: a port is added to a service without any, the first entry is read, or
there is nothing to read. -/
theorem publishPort_cases (py : PyText) (services : Items) (main : Option String)
    (internal hostPort : Option Int) (portExplicit : Bool) :
    (∃ name svc inside, NeedsPort services main internal name svc inside ∧
        firstPort services main = none ∧
          publishPort py services main internal hostPort portExplicit = .ok
            ⟨setKey name (.dict (setKey "ports"
                (.list [portEntry (choosePort hostPort portExplicit inside) inside]) svc)) services,
              some (choosePort hostPort portExplicit inside), true⟩) ∨
      (∃ first, firstPort services main = some first ∧
        publishPort py services main internal hostPort portExplicit =
          (publishedHostPort py first hostPort).map fun port =>
            ⟨services, readPort internal port, false⟩) ∨
      firstPort services main = none ∧
        (∀ name svc inside, ¬NeedsPort services main internal name svc inside) ∧
          publishPort py services main internal hostPort portExplicit = .ok ⟨services, none, false⟩ := by
  unfold publishPort readPort firstPort NeedsPort
  cases hmain : mainService services main with
  | none =>
    rw [portsOf_no_main hmain]
    exact Or.inr (Or.inr ⟨rfl, fun _ _ _ h => Option.some_ne_none _ h.1.symm, rfl⟩)
  | some found =>
    obtain ⟨name, svc⟩ := found
    rw [(portsOf_main hmain).1]
    dsimp only
    cases hinside : truePort internal with
    | none =>
      dsimp only
      have hno : ∀ name' svc' inside, ¬(some (name, svc) = some (name', svc') ∧
          (none : Option Int) = some inside ∧ ((svc'.lookup "ports").getD .null).truthy = false) :=
        fun _ _ _ h => Option.some_ne_none _ h.2.1.symm
      cases hports : svc.lookup "ports" with
      | none => exact Or.inr (Or.inr ⟨rfl, hno, rfl⟩)
      | some ports =>
        rcases ports with _ | _ | _ | _ | _ | (_ | ⟨first, rest⟩) | _
        case list.cons => exact Or.inr (Or.inl ⟨first, rfl, rfl⟩)
        all_goals exact Or.inr (Or.inr ⟨rfl, hno, rfl⟩)
    | some inside =>
      dsimp only
      by_cases htrue : ((svc.lookup "ports").getD .null).truthy = false
      · refine Or.inl ⟨name, svc, inside, ⟨rfl, rfl, htrue⟩, ?_, if_pos htrue⟩
        cases hports : svc.lookup "ports" with
        | none => rfl
        | some ports =>
          rw [hports] at htrue
          rcases ports with _ | _ | _ | _ | _ | (_ | ⟨first, rest⟩) | _
          case list.cons => cases htrue
          all_goals rfl
      · rw [if_neg htrue]
        have hno : ∀ name' svc' inside', ¬(some (name, svc) = some (name', svc') ∧
            some inside = some inside' ∧ ((svc'.lookup "ports").getD .null).truthy = false) := by
          rintro name' svc' inside' ⟨hsame, _, hfalsy⟩
          cases hsame
          exact htrue hfalsy
        cases hports : svc.lookup "ports" with
        | none => exact Or.inr (Or.inr ⟨rfl, hno, rfl⟩)
        | some ports =>
          rcases ports with _ | _ | _ | _ | _ | (_ | ⟨first, rest⟩) | _
          case list.cons => exact Or.inr (Or.inl ⟨first, rfl, rfl⟩)
          all_goals exact Or.inr (Or.inr ⟨rfl, hno, rfl⟩)

/-- The publication ends with an error exactly when the first entry has a port that cannot be read. -/
theorem publishPort_error_iff :
    publishPort py services main internal hostPort portExplicit = .error () ↔
      ∃ entry, firstPort services main = some entry ∧
        publishedHostPort py entry hostPort = .error () := by
  rcases publishPort_cases py services main internal hostPort portExplicit with
    ⟨name, svc, inside, _, hfirst, hok⟩ | ⟨first, hfirst, hok⟩ | ⟨hfirst, _, hok⟩
  · rw [hok, hfirst]
    exact iff_of_false (fun h => by cases h) (fun ⟨_, h, _⟩ => by cases h)
  · rw [hok, hfirst]
    constructor
    · intro h
      cases hport : publishedHostPort py first hostPort with
      | error e => exact ⟨first, rfl, hport⟩
      | ok port =>
        rw [hport] at h
        cases h
    · rintro ⟨entry, hentry, hbad⟩
      cases hentry
      rw [hbad]
      rfl
  · rw [hok, hfirst]
    exact iff_of_false (fun h => by cases h) (fun ⟨_, h, _⟩ => by cases h)

/-- The services are the same apart from the ports of the main one. -/
theorem publishPort_aligned {pub : Publication}
    (h : publishPort py services main internal hostPort portExplicit = .ok pub) :
    Aligned (SameBut "ports") services pub.services ∧
      (pub.changed = false → pub.services = services) := by
  have hsame := Aligned.refl (SameBut.refl "ports") services
  rcases publishPort_cases py services main internal hostPort portExplicit with
    ⟨name, svc, inside, hneeds, _, hok⟩ | ⟨first, _, hok⟩ | ⟨_, _, hok⟩
  · rw [hok] at h
    cases h
    refine ⟨?_, fun hbad => by cases hbad⟩
    exact aligned_setKey (SameBut.refl "ports") (portsOf_main hneeds.1).2 (sameBut_setKey _ _ _)
  · rw [hok] at h
    cases hport : publishedHostPort py first hostPort with
    | error e =>
      rw [hport] at h
      cases h
    | ok port =>
      rw [hport] at h
      cases h
      exact ⟨hsame, fun _ => rfl⟩
  · rw [hok] at h
    cases h
    exact ⟨hsame, fun _ => rfl⟩

end Publication

/-! ### The delivered file -/

/-- What the rewriting reads as port numbers. -/
def portValues (o : RewriteOptions) (services : Items) : List Yaml :=
  let first := firstPort (keptServices o.source services) (mainName py o.source services)
  (insidePort py o.source services).toList ++
    ((first.bind fun entry => publishedText py entry o.hostPort).map Yaml.str).toList

/-- A port is made of digits that `int` does not read, or a reference cannot be hashed. -/
def Unreadable (o : RewriteOptions) (services : Items) : Prop :=
  (∃ value ∈ portValues py o services, py.toInt value = .error ()) ∨ Unstrippable o.source services

/-- A delivery of the kept services, with a publication of the main one. -/
structure IsRewritten (o : RewriteOptions) (doc : Yaml) (delivered : Delivered)
    (internal : Option Int) (new : Items) (pub : Publication) : Prop where
  inside : py.toInt? (insidePort py o.source (servicesOf doc)) = .ok internal
  stripped : Aligned (Stripped (removedServices o.source (servicesOf doc)))
    (keptServices o.source (servicesOf doc)) new
  published : publishPort py new (mainName py o.source (servicesOf doc)) (internalPort o internal)
    o.hostPort o.portExplicit = .ok pub
  services : servicesOf delivered.doc = pub.services
  networks : ∀ net, (declaredNetworks delivered.doc.itemsOf).lookup net =
    if net ∈ missingNetworks py doc.itemsOf new then some externalNetwork
    else (declaredNetworks doc.itemsOf).lookup net
  port : delivered.port = pub.port

section Delivery

variable {py} {o : RewriteOptions}

theorem toInt?_error_iff {value : Option Yaml} :
    py.toInt? value = .error () ↔ ∃ v ∈ value.toList, py.toInt v = .error () := by
  cases value with
  | none => exact iff_of_false (fun h => by cases h) (fun ⟨_, h, _⟩ => List.not_mem_nil h)
  | some v =>
    constructor
    · exact fun h => ⟨v, List.mem_singleton.mpr rfl, h⟩
    · rintro ⟨v', hv, h⟩
      rw [List.mem_singleton.mp hv] at h
      exact h

/-- The main service has the ports that it had. -/
theorem firstPort_stripped {removed : List String} {xs ys : Items}
    (h : Aligned (Stripped removed) xs ys) (main : Option String) :
    firstPort ys main = firstPort xs main := by
  unfold firstPort portsOf
  cases main with
  | none => rfl
  | some name =>
    rw [Option.bind_some, Option.bind_some]
    rcases h.lookup name with ⟨hx, hy⟩ | ⟨a, b, hx, hy, hab⟩
    · rw [hx, hy]
    · rw [hx, hy, Option.bind_some, Option.bind_some, hab.1.2 "ports" (by decide)]

/-- After the preparation, what is unreadable is the port of the first entry. -/
theorem unreadable_iff {services new : Items} {internal : Option Int}
    (hinside : py.toInt? (insidePort py o.source services) = .ok internal)
    (haligned : Aligned (Stripped (removedServices o.source services))
      (keptServices o.source services) new)
    (hgood : ¬Unstrippable o.source services) : Unreadable py o services ↔
      publishPort py new (mainName py o.source services) (internalPort o internal) o.hostPort
        o.portExplicit = .error () := by
  rw [publishPort_error_iff, firstPort_stripped haligned]
  unfold Unreadable portValues publishedHostPort
  constructor
  · rintro (⟨value, hvalue, hbad⟩ | hbad)
    · rcases List.mem_append.mp hvalue with hvalue | hvalue
      · rw [toInt?_error_iff.mpr ⟨value, hvalue, hbad⟩] at hinside
        cases hinside
      · cases hfirst : firstPort (keptServices o.source services) (mainName py o.source services) with
        | none =>
          rw [hfirst] at hvalue
          cases hvalue
        | some entry =>
          rw [hfirst] at hvalue
          exact ⟨entry, rfl, toInt?_error_iff.mpr ⟨value, hvalue, hbad⟩⟩
    · exact absurd hbad hgood
  · rintro ⟨entry, hentry, hbad⟩
    obtain ⟨value, hvalue, h⟩ := toInt?_error_iff.mp hbad
    rw [hentry]
    exact Or.inl ⟨value, List.mem_append_right _ hvalue, h⟩

/-- The rewriting ends with an error exactly when it has read something unreadable. -/
theorem rewrite_cases (py : PyText) (o : RewriteOptions) (items services : Items) :
    (Unreadable py o services ∧ rewrite py o items services = .error ()) ∨
      (¬Unreadable py o services ∧ ∃ internal new pub,
        py.toInt? (insidePort py o.source services) = .ok internal ∧
        Aligned (Stripped (removedServices o.source services)) (keptServices o.source services) new ∧
        (removedServices o.source services = [] → new = services) ∧
        publishPort py new (mainName py o.source services) (internalPort o internal) o.hostPort
          o.portExplicit = .ok pub ∧
        rewrite py o items services = .ok
          (setKey "services" (.dict pub.services)
              (withNetworks py items new !(removedServices o.source services).isEmpty).1,
            (!(removedServices o.source services).isEmpty || !(missingNetworks py items new).isEmpty) ||
              pub.changed, pub.port)) := by
  unfold rewrite
  rcases resolveMainAndPort_spec py o.source services with
    ⟨hbad, herr⟩ | ⟨⟨internal, hinside, new, hnew, haligned, hsame⟩, hgood⟩
  · rw [herr]
    refine Or.inl ⟨hbad.imp_left fun hbad => ?_, rfl⟩
    obtain ⟨value, hvalue, h⟩ := toInt?_error_iff.mp hbad
    exact ⟨value, List.mem_append_left _ hvalue, h⟩
  · have hunreadable := unreadable_iff hinside haligned hgood
    rw [hnew]
    change (_ ∧ (publishPort py new _ _ _ _ >>= _) = _) ∨ _
    cases hpub : publishPort py new (mainName py o.source services) (internalPort o internal)
        o.hostPort o.portExplicit with
    | error e => exact Or.inl ⟨hunreadable.mpr hpub, rfl⟩
    | ok pub =>
      refine Or.inr ⟨fun hbad => ?_, internal, new, pub, hinside, haligned, hsame, hpub, ?_⟩
      · rw [hunreadable.mp hbad] at hpub
        cases hpub
      · change (publishPort py new _ _ _ _ >>= _) = _
        rw [hpub, ← withNetworks_changed]
        rfl

theorem normalizeCompose_none {doc : Yaml} (h : (doc.get? "services").bind Yaml.items? = none) :
    normalizeCompose py o doc = ⟨doc, none⟩ := by
  unfold normalizeCompose
  rw [h]
  cases doc.items? <;> rfl

section Dict

variable {items services : Items} (h : items.lookup "services" = some (.dict services))

include h

theorem normalizeCompose_error (hrewrite : rewrite py o items services = .error ()) :
    normalizeCompose py o (.dict items) = ⟨.dict items, none⟩ := by
  have hservices : (Yaml.get? (.dict items) "services").bind Yaml.items? = some services := by
    change (items.lookup "services").bind Yaml.items? = some services
    rw [h]
    rfl
  have hitems : (Yaml.dict items).items? = some items := rfl
  unfold normalizeCompose
  rw [hservices, hitems]
  dsimp only
  rw [hrewrite]

theorem normalizeCompose_ok {new : Items} {changed : Bool} {port : Option Int}
    (hrewrite : rewrite py o items services = .ok (new, changed, port)) :
    normalizeCompose py o (.dict items) =
      if changed then ⟨.dict new, port⟩ else ⟨.dict items, port⟩ := by
  have hservices : (Yaml.get? (.dict items) "services").bind Yaml.items? = some services := by
    change (items.lookup "services").bind Yaml.items? = some services
    rw [h]
    rfl
  have hitems : (Yaml.dict items).items? = some items := rfl
  unfold normalizeCompose
  rw [hservices, hitems]
  dsimp only
  rw [hrewrite]

theorem servicesOf_dict : servicesOf (.dict items) = services := by
  have hget : Yaml.get? (.dict items) "services" = some (.dict services) := h
  unfold servicesOf
  rw [hget]
  rfl

end Dict

theorem servicesOf_none {doc : Yaml} (h : (doc.get? "services").bind Yaml.items? = none) :
    servicesOf doc = [] := by
  unfold servicesOf
  cases hservices : doc.get? "services" with
  | none => rfl
  | some services =>
    rw [hservices] at h
    change (Yaml.items? services).getD [] = []
    rw [show services.items? = none from h]
    rfl

theorem isRewritten_delivered {items services new : Items} {internal : Option Int}
    {pub : Publication} (h : items.lookup "services" = some (.dict services))
    (hinside : py.toInt? (insidePort py o.source services) = .ok internal)
    (haligned : Aligned (Stripped (removedServices o.source services))
      (keptServices o.source services) new)
    (hsame : removedServices o.source services = [] → new = services)
    (hpub : publishPort py new (mainName py o.source services) (internalPort o internal) o.hostPort
      o.portExplicit = .ok pub) :
    IsRewritten py o (.dict items)
      (if (!(removedServices o.source services).isEmpty ||
          !(missingNetworks py items new).isEmpty) || pub.changed then
        ⟨.dict (setKey "services" (.dict pub.services)
          (withNetworks py items new !(removedServices o.source services).isEmpty).1), pub.port⟩
      else ⟨.dict items, pub.port⟩) internal new pub := by
  have hservices := servicesOf_dict h
  split
  · refine ⟨hservices ▸ hinside, hservices ▸ haligned, hservices ▸ hpub, ?_, fun net => ?_, rfl⟩
    · exact servicesOf_dict (by rw [lookup_setKey, if_pos rfl])
    · rw [← lookup_withNetworks !(removedServices o.source services).isEmpty]
      unfold declaredNetworks
      change ((((setKey _ _ _).lookup "networks").map Yaml.itemsOf).getD []).lookup net = _
      rw [lookup_setKey, if_neg (by decide)]
      rfl
  · rename_i hunchanged
    rw [Bool.not_eq_true, Bool.or_eq_false_iff, Bool.or_eq_false_iff, Bool.not_eq_false',
      Bool.not_eq_false', List.isEmpty_iff, List.isEmpty_iff] at hunchanged
    obtain ⟨⟨hremoved, hmissing⟩, hpubSame⟩ := hunchanged
    refine ⟨hservices ▸ hinside, hservices ▸ haligned, hservices ▸ hpub, ?_, fun net => ?_, rfl⟩
    · rw [(publishPort_aligned hpub).2 hpubSame, hsame hremoved]
      exact hservices
    · change (declaredNetworks items).lookup net = if net ∈ missingNetworks py items new then _ else _
      rw [hmissing, if_neg List.not_mem_nil]
      rfl

/-- A file is delivered as it came, or with the kept services and the networks that were missing. -/
theorem normalizeCompose_cases (py : PyText) (o : RewriteOptions) (doc : Yaml) :
    ((Unreadable py o (servicesOf doc) ∨ servicesOf doc = []) ∧
        normalizeCompose py o doc = ⟨doc, none⟩) ∨
      (¬Unreadable py o (servicesOf doc) ∧
        ∃ internal new pub, IsRewritten py o doc (normalizeCompose py o doc) internal new pub) := by
  cases hservices : (doc.get? "services").bind Yaml.items? with
  | none => exact Or.inl ⟨Or.inr (servicesOf_none hservices), normalizeCompose_none hservices⟩
  | some services =>
    obtain ⟨node, hnode, hdict⟩ := Option.bind_eq_some_iff.mp hservices
    cases node with
    | dict services' =>
      cases hdict
      cases doc with
      | dict items =>
        have h : items.lookup "services" = some (.dict services) := hnode
        rw [servicesOf_dict h]
        rcases rewrite_cases py o items services with
          ⟨hbad, herr⟩ | ⟨hgood, internal, new, pub, hinside, haligned, hsame, hpub, hok⟩
        · exact Or.inl ⟨Or.inl hbad, normalizeCompose_error h herr⟩
        · rw [normalizeCompose_ok h hok]
          exact Or.inr ⟨hgood, internal, new, pub,
            isRewritten_delivered h hinside haligned hsame hpub⟩
      | _ => cases hnode
    | _ => cases hdict

end Delivery

end PveManager.Compose
