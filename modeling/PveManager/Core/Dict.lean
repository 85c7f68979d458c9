import PveManager.Core.KeyedTable

/-!
# Dictionaries

Keyed tables of pairs, with the operations of a Python dictionary: reading,
writing, merging, and adding the keys that are missing. Each operation is
described by what it reads at every key.
-/

namespace PveManager.Core.KeyedTable

universe u v

variable {κ : Type u} {β : Type v} [DecidableEq κ]

section Dict

variable (d e : KeyedTable (Prod.fst : κ × β → κ)) (k k' : κ)

/-- `d.get(k)`. -/
def get? : Option β := (d.find? k).map Prod.snd

/-- `d[k] = x`. -/
def set (x : β) : KeyedTable (Prod.fst : κ × β → κ) := d.save (k, x)

/-- `{**d, **e}`. -/
def merge : KeyedTable (Prod.fst : κ × β → κ) := e.rows.foldl (fun t item => t.save item) d

/-- `{k: v for k, v in e.items() if k not in d}`. -/
def missing : KeyedTable (Prod.fst : κ × β → κ) := e.filter fun item => (d.find? item.1).isNone

/-- The keys of `e` that `d` does not have are added. -/
def addMissing : KeyedTable (Prod.fst : κ × β → κ) := d.merge (d.missing e)

/-- A dictionary written as a literal. -/
def ofList (items : List (κ × β)) : KeyedTable (Prod.fst : κ × β → κ) :=
  items.foldl (fun t item => t.save item) .empty

variable {d e k k'}

theorem get?_eq_some_iff {x : β} : d.get? k = some x ↔ (k, x) ∈ d.rows := by
  unfold get?
  rw [Option.map_eq_some_iff]
  constructor
  · rintro ⟨⟨k', x'⟩, hfind, rfl⟩
    obtain ⟨hmem, hkey⟩ := d.find?_eq_some_iff.mp hfind
    cases hkey
    exact hmem
  · exact fun hmem => ⟨(k, x), d.find?_eq_some_iff.mpr ⟨hmem, rfl⟩, rfl⟩

theorem get?_eq_none_iff : d.get? k = none ↔ ∀ x, (k, x) ∉ d.rows := by
  rw [Option.eq_none_iff_forall_ne_some]
  exact forall_congr' fun x => not_congr get?_eq_some_iff

@[simp] theorem get?_empty : (KeyedTable.empty : KeyedTable (Prod.fst : κ × β → κ)).get? k = none :=
  rfl

theorem get?_set (x : β) : (d.set k x).get? k' = if k = k' then some x else d.get? k' := by
  unfold set get?
  rw [find?_save]
  split <;> rfl

theorem get?_erase : (d.erase k).get? k' = if k' = k then none else d.get? k' := by
  unfold get?
  rw [find?_erase]
  split <;> rfl

/-- Pairs stored one by one: the last one of a key is read, or what was there before. -/
theorem get?_foldl_save (items : List (κ × β)) :
    (∃ x, (k, x) ∈ items ∧ (items.foldl (fun t item => t.save item) d).get? k = some x) ∨
      (∀ x, (k, x) ∉ items) ∧ (items.foldl (fun t item => t.save item) d).get? k = d.get? k := by
  unfold get?
  rcases find?_foldl_save id items d k with ⟨⟨k', x⟩, hmem, rfl, hfind⟩ | ⟨hnone, hfind⟩
  · exact Or.inl ⟨x, hmem, congrArg (Option.map Prod.snd) hfind⟩
  · exact Or.inr ⟨fun x hx => hnone (k, x) hx rfl, congrArg (Option.map Prod.snd) hfind⟩

/-- A merge reads the second dictionary first. -/
theorem get?_merge : (d.merge e).get? k = (e.get? k).or (d.get? k) := by
  unfold merge
  rcases get?_foldl_save (d := d) (k := k) e.rows with ⟨x, hmem, hget⟩ | ⟨hnone, hget⟩
  · rw [hget, get?_eq_some_iff.mpr hmem]
    rfl
  · rw [hget, get?_eq_none_iff.mpr hnone]
    rfl

theorem get?_missing : (d.missing e).get? k = if (d.get? k).isNone then e.get? k else none := by
  unfold missing
  conv_lhs => unfold get?
  rw [find?_filter]
  unfold get?
  cases hfind : e.find? k with
  | none => simp
  | some item =>
    have hkey : item.1 = k := e.key_of_find? hfind
    rw [Option.isNone_map]
    cases hd : d.find? k with
    | none => simp [Option.filter, hkey, hd]
    | some old => simp [Option.filter, hkey, hd]

/-- Keys that are there keep their values. -/
theorem get?_addMissing : (d.addMissing e).get? k = (d.get? k).or (e.get? k) := by
  unfold addMissing
  rw [get?_merge, get?_missing]
  cases d.get? k <;> simp

/-- A literal without repeated keys reads its items. -/
theorem get?_ofList_eq_some {items : List (κ × β)} {x : β} (h : (ofList items).get? k = some x) :
    (k, x) ∈ items := by
  unfold ofList at h
  rcases get?_foldl_save (d := .empty) (k := k) items with ⟨y, hmem, hget⟩ | ⟨-, hget⟩
  · rw [hget] at h
    cases h
    exact hmem
  · rw [hget] at h
    cases h

/-- A literal has the keys of its items. -/
theorem get?_ofList_isSome {items : List (κ × β)} {x : β} (h : (k, x) ∈ items) :
    ∃ y, (ofList items).get? k = some y := by
  unfold ofList
  rcases get?_foldl_save (d := .empty) (k := k) items with ⟨y, -, hget⟩ | ⟨hnone, -⟩
  · exact ⟨y, hget⟩
  · exact absurd h (hnone x)

/-- A literal without repeated keys has each of its items. -/
theorem get?_ofList_of_mem {items : List (κ × β)} (hnodup : (items.map Prod.fst).Nodup) {x : β}
    (h : (k, x) ∈ items) : (ofList items).get? k = some x := by
  obtain ⟨y, hy⟩ := get?_ofList_isSome h
  have hsame := List.inj_on_of_nodup_map hnodup h (get?_ofList_eq_some hy) rfl
  rw [hy, (Prod.mk.inj hsame).2]

end Dict

end PveManager.Core.KeyedTable
