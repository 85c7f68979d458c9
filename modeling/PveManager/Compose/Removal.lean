import PveManager.Compose.Rewrite

/-!
# Removal of services

A service of the Umbrel runtime is taken out together with the references to it. What is left is the
same services in the same order, with the same main one.
-/

namespace PveManager.Compose

open PveManager.Core PveManager.Core.Yaml

/-- The services of a file. -/
def servicesOf (doc : Yaml) : Items := ((doc.get? "services").map Yaml.itemsOf).getD []

/-- The services that a service depends on. -/
def dependsOn (svc : Yaml) : List Yaml :=
  match svc.get? "depends_on" with
  | some (.list dep) => dep
  | some (.dict dep) => dep.map fun item => .str item.1
  | _ => []

/-- The services that are taken out. -/
def removedServices (source : AppSource) (services : Items) : List String :=
  match source with
  | .umbrel => infraServices services
  | .runtipi => []

/-- The services that are delivered. -/
def keptServices (source : AppSource) (services : Items) : Items :=
  dropKeys (removedServices source services) services

/-- The main service among those that are delivered. -/
def mainName (py : PyText) (source : AppSource) (services : Items) : Option String :=
  match source with
  | .umbrel =>
    umbrelMainService (keptServices source services) (proxyVariable py services "APP_HOST")
  | .runtipi => findMainService services

/-- The port that the file declares inside of the container. -/
def insidePort (py : PyText) (source : AppSource) (services : Items) : Option Yaml :=
  match source with
  | .umbrel => (proxyVariable py services "APP_PORT").map Yaml.str
  | .runtipi => runtipiPort services

/-- A service refers to something that Python cannot hash. -/
def Unhashed (svc : Yaml) : Prop := ∃ d ∈ dependsOn svc, unhashable d = true

/-- A kept service does, while there is a service to take out. -/
def Unstrippable (source : AppSource) (services : Items) : Prop :=
  removedServices source services ≠ [] ∧ ∃ item ∈ keptServices source services, Unhashed item.2

section Strip

variable {removed : List String}

/-- The service has lost the references to the removed ones. -/
def Stripped (removed : List String) (a b : Yaml) : Prop :=
  SameBut "depends_on" a b ∧ dependsOn b = (dependsOn a).filter fun d => !isNamed removed d

theorem dependsOn_dict (svc : Items) : dependsOn (.dict svc) =
    match svc.lookup "depends_on" with
    | some (.list dep) => dep
    | some (.dict dep) => dep.map fun item => .str item.1
    | _ => [] := rfl

theorem dependsOn_drop (svc : Items) : dependsOn (.dict (dropKeys ["depends_on"] svc)) = [] := by
  rw [dependsOn_dict, lookup_dropKeys, if_pos List.mem_cons_self]

theorem not_exists_mem_nil {p : Yaml → Prop} : ¬∃ d ∈ ([] : List Yaml), p d :=
  fun ⟨_, h, _⟩ => List.not_mem_nil h

theorem filter_isNamed_keys (dep : Items) :
    (dep.map fun item => Yaml.str item.1).filter (fun d => !isNamed removed d) =
      (dropKeys removed dep).map fun item => .str item.1 := by
  unfold dropKeys
  rw [List.filter_map]
  congr 1
  apply List.filter_congr
  intro item _
  change (!decide (item.1 ∈ removed)) = decide (item.1 ∉ removed)
  by_cases h : item.1 ∈ removed <;> simp [h]

/-- The references to the removed services go, unless one of the list cannot be hashed. -/
theorem stripDepends_spec (removed : List String) (svc : Items) :
    (Unhashed (.dict svc) ∧ stripDepends removed svc = .error ()) ∨
      (¬Unhashed (.dict svc) ∧
        ∃ new, stripDepends removed svc = .ok new ∧ Stripped removed (.dict svc) (.dict new)) := by
  unfold stripDepends Stripped Unhashed
  rw [dependsOn_dict svc]
  cases hdep : svc.lookup "depends_on" with
  | none => exact Or.inr ⟨not_exists_mem_nil, svc, rfl, .refl _ _, by rw [dependsOn_dict, hdep]; rfl⟩
  | some value =>
    cases value with
    | list dep =>
      dsimp only
      cases hhash : dep.any unhashable with
      | true => exact Or.inl ⟨List.any_eq_true.mp hhash, rfl⟩
      | false =>
        refine Or.inr ⟨fun hbad => ?_, _, if_neg Bool.false_ne_true, ?_⟩
        · rw [List.any_eq_true.mpr hbad] at hhash
          cases hhash
        · split
          · rename_i hempty
            exact ⟨sameBut_dropKeys _ _, (dependsOn_drop svc).trans (List.isEmpty_iff.mp hempty).symm⟩
          · refine ⟨sameBut_setKey _ _ _, ?_⟩
            rw [dependsOn_dict, lookup_setKey, if_pos rfl]
    | dict dep =>
      dsimp only
      rw [filter_isNamed_keys]
      refine Or.inr ⟨?_, _, rfl, ?_⟩
      · rintro ⟨d, hd, hbad⟩
        obtain ⟨item, _, rfl⟩ := List.mem_map.mp hd
        cases hbad
      · split
        · rename_i hempty
          refine ⟨sameBut_dropKeys _ _, (dependsOn_drop svc).trans ?_⟩
          rw [List.isEmpty_iff.mp hempty]
          rfl
        · refine ⟨sameBut_setKey _ _ _, ?_⟩
          rw [dependsOn_dict, lookup_setKey, if_pos rfl]
    | null => exact Or.inr ⟨not_exists_mem_nil, svc, rfl, .refl _ _, by rw [dependsOn_dict, hdep]; rfl⟩
    | bool b => exact Or.inr ⟨not_exists_mem_nil, svc, rfl, .refl _ _, by rw [dependsOn_dict, hdep]; rfl⟩
    | int n => exact Or.inr ⟨not_exists_mem_nil, svc, rfl, .refl _ _, by rw [dependsOn_dict, hdep]; rfl⟩
    | other text =>
      exact Or.inr ⟨not_exists_mem_nil, svc, rfl, .refl _ _, by rw [dependsOn_dict, hdep]; rfl⟩
    | str text => exact Or.inr ⟨not_exists_mem_nil, svc, rfl, .refl _ _, by rw [dependsOn_dict, hdep]; rfl⟩

/-- A node that is no mapping depends on nothing. -/
theorem dependsOn_of_not_dict {svc : Yaml} (h : svc.items? = none) : dependsOn svc = [] := by
  have hnone : svc.get? "depends_on" = none := by
    unfold Yaml.get? Yaml.itemsOf
    rw [h]
    rfl
  unfold dependsOn
  rw [hnone]

theorem stripped_of_not_dict {svc : Yaml} (h : svc.items? = none) : Stripped removed svc svc := by
  refine ⟨.refl _ _, ?_⟩
  rw [dependsOn_of_not_dict h]
  rfl

theorem stripService_spec (removed : List String) (svc : Yaml) :
    (Unhashed svc ∧ stripService removed svc = .error ()) ∨
      (¬Unhashed svc ∧ ∃ new, stripService removed svc = .ok new ∧ Stripped removed svc new) := by
  cases hitems : svc.items? with
  | none =>
    have hnothing := dependsOn_of_not_dict hitems
    refine Or.inr ⟨?_, svc, ?_, stripped_of_not_dict hitems⟩
    · unfold Unhashed
      rw [hnothing]
      exact not_exists_mem_nil
    · cases svc with
      | dict items => cases hitems
      | _ => rfl
  | some items =>
    cases svc with
    | dict svc =>
      have hunfold : stripService removed (.dict svc) = (stripDepends removed svc).map Yaml.dict := rfl
      rw [hunfold]
      rcases stripDepends_spec removed svc with ⟨hbad, herr⟩ | ⟨hgood, new, hnew, hstripped⟩
      · rw [herr]
        exact Or.inl ⟨hbad, rfl⟩
      · rw [hnew]
        exact Or.inr ⟨hgood, .dict new, rfl, hstripped⟩
    | _ => cases hitems

/-- The same for all the services: the first that cannot be stripped ends it. -/
theorem stripDanglingDepends_spec (removed : List String) (services : Items) :
    ((∃ item ∈ services, Unhashed item.2) ∧ stripDanglingDepends removed services = .error ()) ∨
      ((∀ item ∈ services, ¬Unhashed item.2) ∧
        ∃ new, stripDanglingDepends removed services = .ok new ∧
          Aligned (Stripped removed) services new) := by
  induction services with
  | nil => exact Or.inr ⟨fun _ h => absurd h List.not_mem_nil, [], rfl, .nil⟩
  | cons item rest ih =>
    obtain ⟨name, svc⟩ := item
    unfold stripDanglingDepends
    rcases stripService_spec removed svc with ⟨hbad, herr⟩ | ⟨hgood, new, hnew, hstripped⟩
    · rw [herr]
      exact Or.inl ⟨⟨_, List.mem_cons_self, hbad⟩, rfl⟩
    · rcases ih with ⟨⟨item, hitem, hbad⟩, herr⟩ | ⟨hall, newRest, hrest, haligned⟩
      · rw [hnew, herr]
        exact Or.inl ⟨⟨item, List.mem_cons_of_mem _ hitem, hbad⟩, rfl⟩
      · rw [hnew, hrest]
        refine Or.inr ⟨List.forall_mem_cons.mpr ⟨hgood, hall⟩, (name, new) :: newRest, rfl, ?_⟩
        exact .cons ⟨rfl, hstripped⟩ haligned

theorem stripped_nil (svc : Yaml) : Stripped [] svc svc := by
  refine ⟨.refl _ _, ?_⟩
  have hall : ∀ d ∈ dependsOn svc, (!isNamed [] d) = true := by
    intro d _
    cases d <;> rfl
  exact (List.filter_eq_self.mpr hall).symm

theorem dropKeys_nil (items : Items) : dropKeys [] items = items :=
  List.filter_eq_self.mpr fun _ _ => rfl

/-- Stripped services have the same main one. -/
theorem umbrelMainService_congr {xs ys : Items} (h : Aligned (Stripped removed) xs ys)
    (host : Option String) : umbrelMainService ys host = umbrelMainService xs host := by
  have hhost : hostService ys = hostService xs := by
    funext host
    exact h.find? fun a b hname _ => by rw [hname]
  have himage : imageService ys = imageService xs := by
    refine h.find? fun a b _ hsame => ?_
    rw [hsame.1.2 "image" (by decide)]
  unfold umbrelMainService
  rw [hhost, himage]
  cases (host.filter (· ≠ "")).bind (hostService xs) with
  | some name => rfl
  | none =>
    cases h with
    | nil => rfl
    | @cons a b _ _ hab hrest =>
      obtain ⟨k, v⟩ := a
      obtain ⟨k', v'⟩ := b
      obtain ⟨rfl, _⟩ := hab
      cases hrest with
      | nil => rfl
      | cons _ _ => rfl

/-- What the preparation comes to: a port or a reference that Python cannot read, or the kept services
without their references to the others. -/
theorem resolveMainAndPort_spec (py : PyText) (source : AppSource) (services : Items) :
    ((py.toInt? (insidePort py source services) = .error () ∨ Unstrippable source services) ∧
        resolveMainAndPort py services source = .error ()) ∨
      ((∃ internal, py.toInt? (insidePort py source services) = .ok internal ∧
          ∃ new, resolveMainAndPort py services source = .ok ⟨new, mainName py source services,
              internal, !(removedServices source services).isEmpty⟩ ∧
            Aligned (Stripped (removedServices source services)) (keptServices source services) new ∧
              (removedServices source services = [] → new = services)) ∧
        ¬Unstrippable source services) := by
  cases source with
  | runtipi =>
    unfold resolveMainAndPort insidePort
    dsimp only
    cases hport : py.toInt? (runtipiPort services) with
    | error e => exact Or.inl ⟨Or.inl rfl, rfl⟩
    | ok internal =>
      refine Or.inr ⟨⟨internal, rfl, services, rfl, ?_, fun _ => rfl⟩, fun hbad => hbad.1 rfl⟩
      unfold keptServices removedServices
      dsimp only
      rw [dropKeys_nil]
      exact .refl stripped_nil services
  | umbrel =>
    unfold resolveMainAndPort insidePort prepareUmbrel
    dsimp only
    cases hport : py.toInt? ((proxyVariable py services "APP_PORT").map Yaml.str) with
    | error e => exact Or.inl ⟨Or.inl rfl, rfl⟩
    | ok internal =>
      change ((_ ∨ _) ∧ (if (infraServices services).isEmpty then _ else _) = _) ∨
        (∃ _, _ ∧ ∃ _, (if (infraServices services).isEmpty then _ else _) = _ ∧ _) ∧ _
      have hremoved : removedServices .umbrel services = infraServices services := rfl
      have hkept : keptServices .umbrel services = dropKeys (infraServices services) services := rfl
      have hmain : ∀ new, Aligned (Stripped (infraServices services))
          (dropKeys (infraServices services) services) new → mainName py .umbrel services =
            umbrelMainService new (proxyVariable py services "APP_HOST") :=
        fun new haligned => (umbrelMainService_congr haligned _).symm
      rw [hremoved, hkept]
      by_cases hempty : (infraServices services).isEmpty = true
      · have hnil := List.isEmpty_iff.mp hempty
        have haligned : Aligned (Stripped (infraServices services))
            (dropKeys (infraServices services) services)
              (dropKeys (infraServices services) services) := by
          rw [hnil]
          exact .refl stripped_nil _
        refine Or.inr ⟨⟨internal, rfl, _, ?_, haligned, fun _ => ?_⟩, fun hbad => hbad.1 hnil⟩
        · rw [if_pos hempty, hmain _ haligned]
          rfl
        · rw [hnil, dropKeys_nil]
      · rw [if_neg hempty]
        have hsome : infraServices services ≠ [] := fun hnil => hempty (List.isEmpty_iff.mpr hnil)
        rcases stripDanglingDepends_spec (infraServices services)
            (dropKeys (infraServices services) services) with
          ⟨hbad, herr⟩ | ⟨hall, new, hnew, haligned⟩
        · rw [herr]
          exact Or.inl ⟨Or.inr ⟨hsome, hbad⟩, rfl⟩
        · refine Or.inr ⟨⟨internal, rfl, new, ?_, haligned, fun hnil => absurd hnil hsome⟩, ?_⟩
          · rw [hnew, hmain new haligned]
            rfl
          · rintro ⟨_, item, hitem, hbad⟩
            exact hall item hitem hbad

end Strip

end PveManager.Compose
