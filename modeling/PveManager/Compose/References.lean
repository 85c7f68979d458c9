import PveManager.Compose.Delivery

/-!
# References in a delivered file

A service is taken out together with the references to it, and a network that no one declares becomes
an external one. Both workers create one network only, so the references resolve exactly when no kept
service uses another undeclared one.
-/

namespace PveManager.Compose

open PveManager.Core PveManager.Core.Yaml

/-! ### Workers -/

/-- `TIPI_NETWORK`. -/
def tipiNetwork : String := "tipi_main_network"

/-- What a worker does in the container from its start on. -/
inductive DeployStep
  | makeDirs
  /-- `docker network inspect` or `docker network create`. -/
  | ensureNetwork (name : String)
  | pushCompose
  | pushEnv
  | pushDataFiles
  | prepareBindMounts
  | composePull
  | composeUp
  deriving DecidableEq

/-- `poc_install`, once the container has an address. -/
def pocInstallSteps : List DeployStep :=
  [.makeDirs, .ensureNetwork tipiNetwork, .pushCompose, .pushEnv, .pushDataFiles,
    .prepareBindMounts, .composeUp]

/-- `poc_update`. -/
def pocUpdateSteps : List DeployStep :=
  [.makeDirs, .ensureNetwork tipiNetwork, .pushCompose, .pushEnv, .pushDataFiles,
    .prepareBindMounts, .composePull, .composeUp]

/-- The network is there when the app comes up. -/
def CreatedBeforeUp (steps : List DeployStep) (net : String) : Prop :=
  .ensureNetwork net ∈ steps.takeWhile fun step => decide (step ≠ .composeUp)

theorem createdBeforeUp_iff {net : String} :
    CreatedBeforeUp pocInstallSteps net ∧ CreatedBeforeUp pocUpdateSteps net ↔
      net = tipiNetwork := by
  have hinstall : pocInstallSteps.takeWhile (fun step => decide (step ≠ .composeUp)) =
      [.makeDirs, .ensureNetwork tipiNetwork, .pushCompose, .pushEnv, .pushDataFiles,
        .prepareBindMounts] := by decide
  have hupdate : pocUpdateSteps.takeWhile (fun step => decide (step ≠ .composeUp)) =
      [.makeDirs, .ensureNetwork tipiNetwork, .pushCompose, .pushEnv, .pushDataFiles,
        .prepareBindMounts, .composePull] := by decide
  unfold CreatedBeforeUp
  rw [hinstall, hupdate]
  simp

/-! ### References -/

/-- Every dependency names a service of the file. -/
def DependsNamed (doc : Yaml) : Prop :=
  ∀ item ∈ servicesOf doc, ∀ d ∈ dependsOn item.2,
    ∃ name ∈ (servicesOf doc).map Prod.fst, d = .str name

/-- The network is declared in the file. -/
def Declares (doc : Yaml) (net : String) : Prop :=
  ((declaredNetworks doc.itemsOf).lookup net).isSome = true

/-- The references of the delivered file resolve, and its networks are what they were. -/
structure Resolvable (py : PyText) (before after : Yaml) : Prop where
  depends : DependsNamed after
  /-- Every network in use is declared, or the one that Compose adds by itself. -/
  networks : ∀ net ∈ referencedNetworks py (servicesOf after), net = "default" ∨ Declares after net
  kept : ∀ net, net = "default" ∨ Declares before net →
    (declaredNetworks after.itemsOf).lookup net = (declaredNetworks before.itemsOf).lookup net
  created : ∀ net, ¬Declares before net → Declares after net →
    CreatedBeforeUp pocInstallSteps net ∧ CreatedBeforeUp pocUpdateSteps net

/-- The services use networks that are declared, or one that is known besides. -/
def UsesKnown (py : PyText) (doc : Yaml) (services : Items) (known : String) : Prop :=
  ∀ net ∈ referencedNetworks py services, Declares doc net ∨ net = known

theorem referencedNetworks_aligned (py : PyText) {key : String} {xs ys : Items}
    (hkey : "networks" ≠ key) (h : Aligned (SameBut key) xs ys) :
    referencedNetworks py ys = referencedNetworks py xs := by
  unfold Aligned at h
  induction h with
  | nil => rfl
  | cons hab _ ih =>
    have hnets := hab.2.2 "networks" hkey
    unfold referencedNetworks at ih ⊢
    rw [List.flatMap_cons, List.flatMap_cons, ih]
    unfold networksOf
    rw [hnets]

theorem dependsOn_of_sameBut {a b : Yaml} {key : String} (hkey : "depends_on" ≠ key)
    (h : SameBut key a b) : dependsOn b = dependsOn a := by
  unfold dependsOn
  rw [h.2 "depends_on" hkey]

/-- A file as it came resolves when its networks are declared. -/
theorem resolvable_self_iff {py : PyText} {doc : Yaml} (h : DependsNamed doc) :
    Resolvable py doc doc ↔ UsesKnown py doc (servicesOf doc) "default" := by
  constructor
  · exact fun hres net hnet => (hres.networks net hnet).symm
  · exact fun huses => ⟨h, fun net hnet => (huses net hnet).symm, fun _ _ => rfl,
      fun _ hbad hdecl => absurd hdecl hbad⟩

section Rewritten

variable {py : PyText} {o : RewriteOptions} {doc : Yaml} {delivered : Delivered}
  {internal : Option Int} {new : Items} {pub : Publication}
  (hnew : IsRewritten py o doc delivered internal new pub)

include hnew

/-- The delivered services use the networks of the kept ones. -/
theorem referenced_delivered : referencedNetworks py (servicesOf delivered.doc) =
    referencedNetworks py (keptServices o.source (servicesOf doc)) ∧
      referencedNetworks py new =
        referencedNetworks py (keptServices o.source (servicesOf doc)) := by
  have hstripped : Aligned (SameBut "depends_on") (keptServices o.source (servicesOf doc)) new :=
    hnew.stripped.imp fun _ _ hab => ⟨hab.1, hab.2.1⟩
  have hkept := referencedNetworks_aligned py (by decide) hstripped
  refine ⟨?_, hkept⟩
  rw [hnew.services, ← hkept]
  exact referencedNetworks_aligned py (by decide) (publishPort_aligned hnew.published).1

/-- No dependency names a service that was taken out. -/
theorem dependsNamed_delivered (h : DependsNamed doc) : DependsNamed delivered.doc := by
  unfold DependsNamed at h ⊢
  rw [hnew.services]
  intro item hitem d hd
  obtain ⟨mid, hmid, _, hports⟩ := (publishPort_aligned hnew.published).1.mem_right hitem
  obtain ⟨first, hfirst, _, hstripped⟩ := hnew.stripped.mem_right hmid
  rw [dependsOn_of_sameBut (by decide) hports, hstripped.2, List.mem_filter] at hd
  obtain ⟨name, hname, rfl⟩ := h first (mem_dropKeys.mp hfirst).1 d hd.1
  refine ⟨name, ?_, rfl⟩
  rw [(publishPort_aligned hnew.published).1.keys, hnew.stripped.keys]
  obtain ⟨service, hservice, rfl⟩ := List.mem_map.mp hname
  have hkept : service.1 ∉ removedServices o.source (servicesOf doc) := by
    simpa [isNamed] using hd.2
  exact List.mem_map.mpr ⟨service, mem_dropKeys.mpr ⟨hservice, hkept⟩, rfl⟩

/-- A network of the delivered file was declared before, or is in use and was not. -/
theorem declares_delivered {net : String} : Declares delivered.doc net ↔
    Declares doc net ∨ net ∈ referencedNetworks py (keptServices o.source (servicesOf doc)) := by
  have hmissing : net ∈ missingNetworks py doc.itemsOf new ↔ _ := mem_missingNetworks
  rw [(referenced_delivered hnew).2] at hmissing
  unfold Declares
  rw [hnew.networks net]
  split
  · rename_i hmem
    exact iff_of_true rfl (Or.inr (hmissing.mp hmem).1)
  · rename_i hmem
    constructor
    · exact Or.inl
    · rintro (hdecl | hused)
      · exact hdecl
      · rw [Option.isSome_iff_ne_none]
        exact fun hnone => hmem (hmissing.mpr ⟨hused, hnone⟩)

/-- A network is not touched when it was declared, or is not in use. -/
theorem lookup_delivered {net : String}
    (h : Declares doc net ∨ net ∉ referencedNetworks py (keptServices o.source (servicesOf doc))) :
    (declaredNetworks delivered.doc.itemsOf).lookup net =
      (declaredNetworks doc.itemsOf).lookup net := by
  rw [hnew.networks net, if_neg]
  rw [mem_missingNetworks, (referenced_delivered hnew).2]
  rintro ⟨hused, hnone⟩
  rcases h with hdecl | hunused
  · unfold Declares at hdecl
    rw [hnone] at hdecl
    cases hdecl
  · exact hunused hused

theorem resolvable_delivered_iff (h : DependsNamed doc) : Resolvable py doc delivered.doc ↔
    UsesKnown py doc (keptServices o.source (servicesOf doc)) tipiNetwork := by
  constructor
  · intro hres net hused
    by_cases hdecl : Declares doc net
    · exact Or.inl hdecl
    · exact Or.inr (createdBeforeUp_iff.mp
        (hres.created net hdecl ((declares_delivered hnew).mpr (Or.inr hused))))
  · intro huses
    refine ⟨dependsNamed_delivered hnew h, fun net hused => ?_, fun net hnet => ?_,
      fun net hbefore hafter => ?_⟩
    · rw [(referenced_delivered hnew).1] at hused
      exact Or.inr ((declares_delivered hnew).mpr (Or.inr hused))
    · refine lookup_delivered hnew ?_
      by_cases hdecl : Declares doc net
      · exact Or.inl hdecl
      · refine Or.inr fun hused => ?_
        have hdefault := hnet.resolve_right hdecl
        have htipi := (huses net hused).resolve_left hdecl
        exact absurd (hdefault.symm.trans htipi) (by decide)
    · rcases (declares_delivered hnew).mp hafter with hdecl | hused
      · exact absurd hdecl hbefore
      · exact createdBeforeUp_iff.mpr ((huses net hused).resolve_left hbefore)

end Rewritten

/-- The networks in use are declared, apart from the one that the workers create; in a file that is
delivered as it came, apart from the one that Compose adds. -/
def NetworksKnown (py : PyText) (o : RewriteOptions) (doc : Yaml) : Prop :=
  (Unreadable py o (servicesOf doc) → UsesKnown py doc (servicesOf doc) "default") ∧
    (¬Unreadable py o (servicesOf doc) →
      UsesKnown py doc (keptServices o.source (servicesOf doc)) tipiNetwork)

/-- The references of the delivered file resolve exactly when its networks are known. -/
theorem resolvable_iff (py : PyText) (o : RewriteOptions) (doc : Yaml) (h : DependsNamed doc) :
    Resolvable py doc (normalizeCompose py o doc).doc ↔ NetworksKnown py o doc := by
  unfold NetworksKnown
  rcases normalizeCompose_cases py o doc with ⟨hraw, heq⟩ | ⟨hgood, internal, new, pub, hnew⟩
  · rw [heq]
    change Resolvable py doc doc ↔ _
    rw [resolvable_self_iff h]
    rcases hraw with hbad | hnone
    · exact ⟨fun huses => ⟨fun _ => huses, fun hgood => absurd hbad hgood⟩, fun huses => huses.1 hbad⟩
    · have hnothing : keptServices o.source [] = [] := rfl
      rw [hnone, hnothing]
      refine iff_of_true ?_ ⟨fun _ => ?_, fun _ => ?_⟩ <;>
        exact fun _ hused => absurd hused List.not_mem_nil
  · rw [resolvable_delivered_iff hnew h]
    exact ⟨fun huses => ⟨fun hbad => absurd hbad hgood, fun _ => huses⟩, fun huses => huses.2 hgood⟩

/-- A file with one service, that uses these networks. -/
def oneService (nets : List String) : Yaml :=
  .dict [("services", .dict [("web", .dict [("image", .str "nginx"),
    ("networks", .list (nets.map .str))])])]

theorem dependsNamed_oneService (nets : List String) : DependsNamed (oneService nets) := by
  intro item hitem d hd
  rw [List.mem_singleton.mp hitem] at hd
  exact absurd hd List.not_mem_nil

theorem resolvable_iff_tipi :
    Resolvable .ofAscii (oneService [tipiNetwork])
        (normalizeCompose .ofAscii runtipiOptions (oneService [tipiNetwork])).doc ↔
      NetworksKnown .ofAscii runtipiOptions (oneService [tipiNetwork]) :=
  resolvable_iff .ofAscii runtipiOptions (oneService [tipiNetwork]) (dependsNamed_oneService _)

/-- The network that Compose adds becomes an external one that no one creates. -/
theorem default_not_resolvable :
    DependsNamed (oneService ["default", tipiNetwork]) ∧
      ¬Resolvable .ofAscii (oneService ["default", tipiNetwork])
        (normalizeCompose .ofAscii runtipiOptions (oneService ["default", tipiNetwork])).doc := by
  refine ⟨dependsNamed_oneService _, fun hres => ?_⟩
  have hkept := hres.kept "default" (Or.inl rfl)
  have hafter : (declaredNetworks (normalizeCompose .ofAscii runtipiOptions
      (oneService ["default", tipiNetwork])).doc.itemsOf).lookup "default" =
        some externalNetwork := by rfl
  rw [hafter] at hkept
  cases hkept

end PveManager.Compose
