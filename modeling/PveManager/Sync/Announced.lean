import PveManager.Core.Unwinding
import PveManager.Sync.Tick

/-!
# What a tick announces

A tick tells every connected client which guests changed their status, went or came.
Two ticks that find the same of some guests announce the same of them; where they find
the other guests as their rows have them, they announce the same altogether.
-/

namespace PveManager.Sync

open PveManager.Core

/-! ### Announcements and rows -/

section Upserts

variable (env : TickEnv) (ipam : Ipam) (clients : List (ServerId × ServerId))

/-- Each collected guest is compared with the row that the tick found. -/
theorem announced_foldl {found : List Found} (hnd : (found.map Found.key).Nodup) (acc : Upserted) :
    let up := found.foldl (upsertGuest env ipam clients) acc
    up.statusChanges = acc.statusChanges ++
        found.filterMap (fun f => statusChangeOf f (acc.vms.find? f.key)) ∧
      up.createdVms = acc.createdVms ++
        found.filterMap (fun f => createdOf f (acc.vms.find? f.key)) := by
  induction found generalizing acc with
  | nil => exact ⟨(List.append_nil _).symm, (List.append_nil _).symm⟩
  | cons f rest ih =>
    rw [List.map_cons, List.nodup_cons] at hnd
    have hrows : ∀ g ∈ rest, (upsertGuest env ipam clients acc f).vms.find? g.key =
        acc.vms.find? g.key := by
      intro g hg
      have hne : f.key ≠ g.key := fun he => hnd.1 (he ▸ List.mem_map_of_mem hg)
      rw [find?_upsertGuest, if_neg hne]
    obtain ⟨hchanges, hcreated⟩ := ih hnd.2 (upsertGuest env ipam clients acc f)
    refine ⟨?_, ?_⟩
    · rw [List.foldl_cons, hchanges, List.filterMap_congr fun g hg => by rw [hrows g hg]]
      unfold upsertGuest
      rw [List.append_assoc, List.filterMap_cons]
      cases statusChangeOf f (acc.vms.find? f.key) <;> rfl
    · rw [List.foldl_cons, hcreated, List.filterMap_congr fun g hg => by rw [hrows g hg]]
      unfold upsertGuest
      rw [List.append_assoc, List.filterMap_cons]
      cases createdOf f (acc.vms.find? f.key) <;> rfl

/-- Rows that no collected guest has stay where they are. -/
theorem filter_rows_foldl_upsertGuest {p : VMInstance → Bool} {found : List Found}
    (hp : ∀ f ∈ found, ∀ r : VMInstance, r.key = f.key → p r = false) (acc : Upserted) :
    (found.foldl (upsertGuest env ipam clients) acc).vms.rows.filter p =
      acc.vms.rows.filter p := by
  induction found generalizing acc with
  | nil => rfl
  | cons f rest ih =>
    rw [List.foldl_cons, ih fun g hg => hp g (List.mem_cons_of_mem f hg)]
    refine KeyedTable.filter_rows_save _ _ fun r hr => hp f List.mem_cons_self r (hr.trans ?_)
    exact key_upsertRow _ _ _ _ fun r hr => acc.vms.key_of_find? hr

end Upserts

variable {mine : ServerId × Vmid → Bool} {env env' : TickEnv} {db db' : Db}

/-- The three lists of a tick that goes through, read off what it finds. -/
theorem announced_syncVmCache (last : LastIpDetect) (hc : env.commitOk = true) :
    (syncVmCache env last db).statusChanges =
        (collected env db).allVmsData.filterMap
          (fun f => statusChangeOf f (db.vms.find? f.key)) ∧
      (syncVmCache env last db).createdVms =
        (collected env db).allVmsData.filterMap (fun f => createdOf f (db.vms.find? f.key)) ∧
      (syncVmCache env last db).deletedVms =
        (db.vms.rows.filter (isStale env db)).map deletedNotice := by
  have hseen : ∀ f ∈ (collected env db).allVmsData, ∀ r : VMInstance, r.key = f.key →
      isStale env db r = false := by
    intro f hf r hr
    have hmem : r.key ∈ allSeen env db := hr ▸ List.mem_map_of_mem hf
    unfold isStale
    rw [decide_eq_false (not_not_intro hmem), Bool.and_false]
  by_cases hn : onlineServers db = []
  · have hcollected : (collected env db).allVmsData = [] := by
      unfold collected
      rw [hn]
      rfl
    have hstale : db.vms.rows.filter (isStale env db) = [] := by
      refine List.filter_eq_nil_iff.mpr fun r _ hr => ?_
      obtain ⟨_, honline, _⟩ := isStale_iff.mp hr
      unfold Online at honline
      rw [hn] at honline
      exact List.not_mem_nil honline
    rw [syncVmCache_of_no_online hn, hcollected, hstale]
    exact ⟨rfl, rfl, rfl⟩
  · obtain ⟨hchanges, hcreated⟩ := announced_foldl env db.ipam
      (collected env db).serverClients (collected_keys_nodup env db)
      ⟨db.vms, last, [], []⟩
    unfold syncVmCache
    rw [if_neg hn]
    simp only [hc, if_true]
    refine ⟨hchanges, hcreated, congrArg (List.map deletedNotice) ?_⟩
    exact filter_rows_foldl_upsertGuest _ _ _ hseen _

theorem announced_of_not_commit (last : LastIpDetect) (db : Db) (hc : env.commitOk = false) :
    (syncVmCache env last db).statusChanges = [] ∧ (syncVmCache env last db).createdVms = [] ∧
      (syncVmCache env last db).deletedVms = [] := by
  unfold syncVmCache
  rw [hc]
  split <;> exact ⟨rfl, rfl, rfl⟩

/-! ### Two ticks -/

/-- Two lists with the same selection give the same, where nothing comes of the other elements. -/
private theorem filterMap_eq_of_filter_eq {α β : Type*} {p : α → Bool} {F G : α → Option β}
    {l l' : List α} (hF : ∀ x ∈ l, p x = false → F x = none)
    (hG : ∀ x ∈ l', p x = false → G x = none) (hFG : ∀ x, p x = true → F x = G x)
    (h : l.filter p = l'.filter p) : l.filterMap F = l'.filterMap G := by
  have hselect : ∀ {F : α → Option β} {l : List α}, (∀ x ∈ l, p x = false → F x = none) →
      l.filterMap F = (l.filter p).filterMap F := by
    intro F l hF
    rw [List.filterMap_filter]
    refine List.filterMap_congr fun x hx => ?_
    cases hp : p x with
    | true => rfl
    | false => exact hF x hx hp
  rw [hselect hF, hselect hG, ← h]
  exact List.filterMap_congr fun x hx => hFG x (List.mem_filter.mp hx).2

/-- The guests that a server lists; a server that is not read lists none. -/
def listed (env : TickEnv) (s : ProxmoxServer) : List Resource :=
  getClusterResources (fetchedReply env.fetch s).join

variable (mine env env' db db') in
/-- Two ticks find the same of the servers and of some guests. -/
structure SameGuests : Prop where
  servers : db.servers = db'.servers
  rows : db.vms.rows.filter (fun r => mine r.key) = db'.vms.rows.filter fun r => mine r.key
  probe : env.probe = env'.probe
  commit : env.commitOk = env'.commitOk
  listing : ∀ s : ProxmoxServer,
    (listed env s).filter (fun r => mine (tickKey env db s.id, r.vmid)) =
      (listed env' s).filter fun r => mine (tickKey env db s.id, r.vmid)

variable (mine env db) in
/-- The other guests are as their rows have them. -/
structure OthersStill : Prop where
  listed : ∀ f ∈ (collected env db).allVmsData, mine f.key = false →
    statusChangeOf f (db.vms.find? f.key) = none ∧ createdOf f (db.vms.find? f.key) = none
  rows : ∀ r ∈ db.vms.rows, isStale env db r = true → mine r.key = true

/-- Two collections with the same numbers and guests of a set. -/
structure Collected.Same (mine : ServerId × Vmid → Bool) (c c' : Collected) : Prop where
  seen : ∀ ns vmid, mine (ns.useServerId, vmid) = true →
    ((ns, vmid) ∈ c.seen ↔ (ns, vmid) ∈ c'.seen)
  found : c.allVmsData.filter (fun f => mine f.key) = c'.allVmsData.filter fun f => mine f.key

namespace Collected

variable {c c' : Collected} {ns : Namespace} {ty : VmType} {r : Resource}

theorem Same.symm (h : c.Same mine c') : c'.Same mine c :=
  ⟨fun ns vmid hm => (h.seen ns vmid hm).symm, h.found.symm⟩

/-- A guest outside the set leaves the collection as it is for the set. -/
theorem Same.takeGuest_hidden (h : c.Same mine c')
    (hhidden : mine (ns.useServerId, r.vmid) = false) :
    (Sync.takeGuest ns ty c r).Same mine c' := by
  unfold Sync.takeGuest
  split
  · exact h
  · split
    · exact h
    · refine ⟨fun ns' vmid hm => ?_, ?_⟩
      · have hne : (ns', vmid) ≠ (ns, r.vmid) := by
          rintro ⟨⟩
          exact Bool.false_ne_true (hhidden.symm.trans hm)
        rw [List.mem_cons, or_iff_right hne]
        exact h.seen ns' vmid hm
      · have hnew : mine (Found.key ⟨ns.useServerId, r, ty⟩) = false := hhidden
        dsimp only
        rw [List.filter_append, List.filter_singleton, hnew]
        exact (List.append_nil _).trans h.found

/-- A guest of the set is taken by both collections or by none. -/
theorem Same.takeGuest (h : c.Same mine c') (hmine : mine (ns.useServerId, r.vmid) = true) :
    (Sync.takeGuest ns ty c r).Same mine (Sync.takeGuest ns ty c' r) := by
  unfold Sync.takeGuest
  split
  · exact h
  · have hseen := h.seen ns r.vmid hmine
    by_cases hmem : (ns, r.vmid) ∈ c.seen
    · rw [if_pos hmem, if_pos (hseen.mp hmem)]
      exact h
    · rw [if_neg hmem, if_neg fun hmem' => hmem (hseen.mpr hmem')]
      refine ⟨fun ns' vmid hm => ?_, ?_⟩
      · rw [List.mem_cons, List.mem_cons]
        exact or_congr_right (h.seen ns' vmid hm)
      · dsimp only
        rw [List.filter_append, List.filter_append, h.found]

theorem Same.foldl_takeGuest (h : c.Same mine c') {rs rs' : List Resource}
    (hrs : rs.filter (fun r => mine (ns.useServerId, r.vmid)) =
      rs'.filter fun r => mine (ns.useServerId, r.vmid)) :
    (rs.foldl (Sync.takeGuest ns ty) c).Same mine (rs'.foldl (Sync.takeGuest ns ty) c') := by
  have hside : Alongside (fun r => mine (ns.useServerId, r.vmid) = false)
      (fun r => mine (ns.useServerId, r.vmid) = false)
      (fun r r' => r = r' ∧ mine (ns.useServerId, r.vmid) = true) (rs.map id) (rs'.map id) :=
    alongside_of_filter_eq (p := fun r => mine (ns.useServerId, r.vmid)) (fun _ h => h)
      (fun _ h => h) (fun _ h => ⟨rfl, h⟩) hrs
  rw [List.map_id, List.map_id] at hside
  refine hside.foldl (R := Collected.Same mine)
    (fun _ _ _ hr (_ : True) hs => hs.takeGuest_hidden hr)
    (fun _ _ _ hr (_ : True) hs => (hs.symm.takeGuest_hidden hr).symm) ?_ h (guarded_true _ _ _)
    (guarded_true _ _ _)
  rintro s t a _ ⟨rfl, hmine⟩ _ _ hs
  exact hs.takeGuest hmine

/-- For the set, reading a server means taking what it lists. -/
theorem same_collectServer (entries : List (ServerId × Finset String)) (env : TickEnv)
    (c : Collected) (s : ProxmoxServer) :
    (collectServer entries env.fetch c s).Same mine
      (((listed env s).filter fun r => r.kind = .lxc).foldl
        (Sync.takeGuest (namespaceOf entries s.id) .lxc)
        (((listed env s).filter fun r => r.kind = .qemu).foldl
          (Sync.takeGuest (namespaceOf entries s.id) .qemu) c)) := by
  have hrefl : ∀ c : Collected, c.Same mine c := fun c => ⟨fun _ _ _ => Iff.rfl, rfl⟩
  unfold collectServer listed
  cases fetchedReply env.fetch s with
  | none => exact hrefl c
  | some reply =>
    have hregister : (registerClient (namespaceOf entries s.id) s.id c).Same mine c := by
      refine ⟨fun ns vmid _ => ?_, by rw [allVmsData_registerClient]⟩
      unfold registerClient
      split
      · split <;> exact Iff.rfl
      · exact Iff.rfl
    exact (hregister.foldl_takeGuest rfl).foldl_takeGuest rfl

theorem Same.trans {c'' : Collected} (h : c.Same mine c') (h' : c'.Same mine c'') :
    c.Same mine c'' :=
  ⟨fun ns vmid hm => (h.seen ns vmid hm).trans (h'.seen ns vmid hm), h.found.trans h'.found⟩

end Collected

namespace SameGuests

variable (h : SameGuests mine env env' db db')

include h

theorem onlineServers_eq : onlineServers db = onlineServers db' := by
  unfold onlineServers
  rw [h.servers]

theorem detected_eq : detected env db = detected env' db' := by
  unfold detected
  rw [h.onlineServers_eq, h.probe]

/-- The guests of the set are collected alike. -/
theorem collected_same : (collected env db).Same mine (collected env' db') := by
  unfold collected collect
  rw [← h.onlineServers_eq, ← h.detected_eq]
  refine List.foldl_rel (f := collectServer (detected env db) env.fetch)
    (g := collectServer (detected env db) env'.fetch) (r := Collected.Same mine)
    ⟨fun _ _ _ => Iff.rfl, rfl⟩ fun s _ c c' hc => ?_
  have hkey : (namespaceOf (detected env db) s.id).useServerId = tickKey env db s.id :=
    useServerId_namespaceOf s.id
  have hlist : ∀ kind : ResourceKind,
      ((listed env s).filter fun r => r.kind = kind).filter
          (fun r => mine ((namespaceOf (detected env db) s.id).useServerId, r.vmid)) =
        ((listed env' s).filter fun r => r.kind = kind).filter
          fun r => mine ((namespaceOf (detected env db) s.id).useServerId, r.vmid) := by
    intro kind
    rw [hkey, List.filter_comm, h.listing s, List.filter_comm]
  exact ((Collected.same_collectServer _ env c s).trans
    ((hc.foldl_takeGuest (hlist .qemu)).foldl_takeGuest (hlist .lxc))).trans
      (Collected.same_collectServer _ env' c' s).symm

/-- A row of the set is the same in both tables. -/
theorem find?_eq {k : ServerId × Vmid} (hk : mine k = true) :
    db.vms.find? k = db'.vms.find? k := by
  have hselect : ∀ t : KeyedTable VMInstance.key,
      t.find? k = (t.rows.filter fun r => mine r.key).find? fun r => r.key = k := by
    intro t
    unfold KeyedTable.find?
    rw [List.find?_filter]
    refine congrArg (fun p => t.rows.find? p) (funext fun r => ?_)
    by_cases hr : r.key = k
    · simp [hr, hk]
    · simp [hr]
  rw [hselect, hselect, h.rows]

/-- A row of the set goes in both ticks or in none. -/
theorem isStale_eq {r : VMInstance} (hr : mine r.key = true) :
    isStale env db r = isStale env' db' r := by
  have hseen : r.key ∈ allSeen env db ↔ r.key ∈ allSeen env' db' := by
    have hselect : ∀ (env : TickEnv) (db : Db), r.key ∈ allSeen env db ↔
        r.key ∈ (((collected env db).allVmsData.filter fun f => mine f.key).map Found.key) := by
      intro env db
      unfold allSeen
      rw [List.mem_map, List.mem_map]
      refine exists_congr fun f => ?_
      rw [List.mem_filter, and_assoc]
      refine and_congr_right fun _ => ⟨fun hf => ⟨?_, hf⟩, And.right⟩
      rw [hf]
      exact hr
    rw [hselect, hselect, h.collected_same.found]
  have hsynced : syncedServerIds env db = syncedServerIds env' db' := by
    unfold syncedServerIds
    rw [h.onlineServers_eq, h.detected_eq]
  unfold isStale
  rw [hsynced, decide_eq_decide.mpr (not_congr hseen)]

/-- Two ticks that find the other guests still announce the same. -/
theorem announced_eq (last last' : LastIpDetect) (hs : OthersStill mine env db)
    (hs' : OthersStill mine env' db') :
    (syncVmCache env last db).statusChanges = (syncVmCache env' last' db').statusChanges ∧
      (syncVmCache env last db).createdVms = (syncVmCache env' last' db').createdVms ∧
      (syncVmCache env last db).deletedVms = (syncVmCache env' last' db').deletedVms := by
  cases hc : env.commitOk with
  | false =>
    have hnone := announced_of_not_commit last db hc
    have hnone' := announced_of_not_commit last' db' (h.commit.symm.trans hc)
    exact ⟨hnone.1.trans hnone'.1.symm, hnone.2.1.trans hnone'.2.1.symm,
      hnone.2.2.trans hnone'.2.2.symm⟩
  | true =>
    obtain ⟨hchanges, hcreated, hdeleted⟩ := announced_syncVmCache last hc
    obtain ⟨hchanges', hcreated', hdeleted'⟩ := announced_syncVmCache last'
      (h.commit.symm.trans hc)
    have hfound := h.collected_same.found
    refine ⟨?_, ?_, ?_⟩
    · rw [hchanges, hchanges']
      exact filterMap_eq_of_filter_eq (fun f hf hm => (hs.listed f hf hm).1)
        (fun f hf hm => (hs'.listed f hf hm).1) (fun f hm => by rw [h.find?_eq hm]) hfound
    · rw [hcreated, hcreated']
      exact filterMap_eq_of_filter_eq (fun f hf hm => (hs.listed f hf hm).2)
        (fun f hf hm => (hs'.listed f hf hm).2) (fun f hm => by rw [h.find?_eq hm]) hfound
    · have hselect : ∀ {env : TickEnv} {db : Db}, OthersStill mine env db →
          db.vms.rows.filter (isStale env db) =
            (db.vms.rows.filter fun r => mine r.key).filter (isStale env db) := by
        intro env db hs
        rw [List.filter_filter]
        refine List.filter_congr fun r hr => ?_
        cases hstale : isStale env db r with
        | true => rw [hs.rows r hr hstale, Bool.and_true]
        | false => rfl
      rw [hdeleted, hdeleted', hselect hs, hselect hs', ← h.rows]
      exact congrArg _ (List.filter_congr fun r hr => h.isStale_eq (List.mem_filter.mp hr).2)

end SameGuests

end PveManager.Sync
