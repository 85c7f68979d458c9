import Mathlib.Algebra.BigOperators.Group.List.Basic
import Mathlib.Algebra.Order.Ring.Rat
import Mathlib.Algebra.Order.Ring.Int
import Mathlib.Data.List.Induction
import Mathlib.Logic.Function.Basic
import PveManager.Core.Dict

/-!
# The points of a metrics chart

The samples of a guest are averaged over buckets of equal width. One pass collects the
values of every bucket in a dictionary and notes the buckets in the order in which they
are met; the points follow that order.
-/

namespace PveManager.Monitoring

open PveManager.Core

/-- A sample with the values it has. -/
structure MetricRow where
  time : Int
  values : String → Option Rat

/-- `r.get(f)`. -/
def MetricRow.get (r : MetricRow) (f : String) : Option Rat :=
  if f = "time" then some r.time else r.values f

/-- The start of the bucket that a time falls in. -/
def bucketStart (fromTs bucket time : Int) : Int :=
  fromTs + (time - fromTs).fdiv bucket * bucket

/-- The collected values by bucket and field, and the buckets in the order they were met. -/
structure Buckets where
  series : Int → Option (String → List Rat)
  order : List Int

/-- Note one field of a sample. -/
def addField (r : MetricRow) (vals : String → List Rat) (f : String) : String → List Rat :=
  match r.get f with
  | none => vals
  | some v => Function.update vals f (vals f ++ [v])

/-- Put one sample into the bucket that starts at `b`. -/
def Buckets.add (fields : List String) (s : Buckets) (b : Int) (r : MetricRow) : Buckets :=
  match s.series b with
  | none =>
    { series := Function.update s.series b (some (fields.foldl (addField r) fun _ => []))
      order := s.order ++ [b] }
  | some vals =>
    { series := Function.update s.series b (some (fields.foldl (addField r) vals))
      order := s.order }

/-- The mean of the collected values, or null. -/
def mean (vals : List Rat) : Option Rat :=
  if vals = [] then none else some (vals.sum / vals.length)

/-- A point of the chart. -/
abbrev Point := KeyedTable (Prod.fst : String × Option Rat → String)

/-- The point of one bucket. -/
def Buckets.point (fields : List String) (s : Buckets) (b : Int) : Point :=
  fields.foldl (fun p f => p.set f (mean (((s.series b).getD fun _ => []) f)))
    (.ofList [("time", some (b : Rat))])

/-- The pass over the samples. -/
def collect (rows : List MetricRow) (fromTs bucket : Int) (fields : List String) : Buckets :=
  rows.foldl (fun s r => s.add fields (bucketStart fromTs bucket r.time) r) ⟨fun _ => none, []⟩

/-- `aggregate_series`. -/
def aggregateSeries (rows : List MetricRow) (fromTs bucket : Int) (fields : List String) :
    List Point :=
  if rows = [] then []
  else
    let s := collect rows fromTs bucket fields
    s.order.map (s.point fields)

/-! ### Buckets on the line -/

/-- The bucket from `b` on holds a time, and the buckets are laid out from `fromTs`. -/
structure Holds (fromTs bucket b time : Int) : Prop where
  grid : bucket ∣ b - fromTs
  le : b ≤ time
  lt : time < b + bucket

instance (fromTs bucket b time : Int) : Decidable (Holds fromTs bucket b time) :=
  decidable_of_iff (bucket ∣ b - fromTs ∧ b ≤ time ∧ time < b + bucket)
    ⟨fun h => ⟨h.1, h.2.1, h.2.2⟩, fun h => ⟨h.grid, h.le, h.lt⟩⟩

section Line

variable {fromTs bucket : Int}

theorem bucketStart_mono (hb : 0 < bucket) {a b : Int} (h : a ≤ b) :
    bucketStart fromTs bucket a ≤ bucketStart fromTs bucket b := by
  unfold bucketStart
  rw [Int.fdiv_eq_ediv_of_nonneg _ (Int.le_of_lt hb),
    Int.fdiv_eq_ediv_of_nonneg _ (Int.le_of_lt hb)]
  have hdiv : (a - fromTs) / bucket ≤ (b - fromTs) / bucket :=
    Int.ediv_le_ediv hb (Int.sub_le_sub_right h fromTs)
  exact Int.add_le_add_left (Int.mul_le_mul_of_nonneg_right hdiv (Int.le_of_lt hb)) fromTs

theorem holds_bucketStart (hb : 0 < bucket) (time : Int) :
    Holds fromTs bucket (bucketStart fromTs bucket time) time where
  grid := ⟨(time - fromTs).fdiv bucket, by unfold bucketStart; rw [Int.mul_comm]; omega⟩
  le := by
    have h := Int.ediv_mul_le (time - fromTs) (Int.ne_of_gt hb)
    unfold bucketStart
    rw [Int.fdiv_eq_ediv_of_nonneg _ (Int.le_of_lt hb)]
    omega
  lt := by
    have h := Int.lt_fdiv_add_one_mul_self (time - fromTs) hb
    rw [Int.add_mul, Int.one_mul] at h
    unfold bucketStart
    omega

/-- Two buckets that hold one time are the same. -/
theorem Holds.unique {b b' time : Int} (h : Holds fromTs bucket b time)
    (h' : Holds fromTs bucket b' time) : b = b' := by
  have hdvd : bucket ∣ b - b' := by
    have hsub := Int.dvd_sub h.grid h'.grid
    have heq : b - fromTs - (b' - fromTs) = b - b' := by omega
    rwa [heq] at hsub
  have hlt := h.lt
  have hlt' := h'.lt
  have hle := h.le
  have hle' := h'.le
  have hzero : b - b' = 0 := Int.eq_zero_of_dvd_of_natAbs_lt_natAbs hdvd (by omega)
  omega

theorem bucketStart_eq_iff (hb : 0 < bucket) {b time : Int} :
    bucketStart fromTs bucket time = b ↔ Holds fromTs bucket b time := by
  constructor
  · rintro rfl
    exact holds_bucketStart hb time
  · exact fun h => (holds_bucketStart hb time).unique h

end Line

/-! ### The pass -/

/-- What one sample adds to a field that is asked for `n` times. -/
def copies (r : MetricRow) (f : String) (n : Nat) : List Rat :=
  (r.get f).elim [] (List.replicate n)

theorem addField_apply (r : MetricRow) (vals : String → List Rat) (g f : String) :
    addField r vals g f = vals f ++ copies r f (if g = f then 1 else 0) := by
  unfold addField copies
  by_cases hg : g = f
  · subst hg
    cases r.get g with
    | none => simp
    | some v => simp
  · cases hr : r.get g with
    | none => cases r.get f <;> simp [hg]
    | some v => cases r.get f <;> simp [hg, Ne.symm hg]

theorem copies_add (r : MetricRow) (f : String) (m n : Nat) :
    copies r f (m + n) = copies r f m ++ copies r f n := by
  unfold copies
  cases r.get f with
  | none => rfl
  | some v => exact List.replicate_add m n v

/-- A sample is noted once for every mention of the field. -/
theorem foldl_addField (r : MetricRow) (fields : List String) (vals : String → List Rat)
    (f : String) :
    fields.foldl (addField r) vals f = vals f ++ copies r f (fields.count f) := by
  induction fields generalizing vals with
  | nil => cases h : r.get f <;> simp [copies, h]
  | cons g fields ih =>
    have hcount : (g :: fields).count f = (if g = f then 1 else 0) + fields.count f := by
      rw [List.count_cons, Nat.add_comm]
      simp
    rw [List.foldl_cons, ih, addField_apply, List.append_assoc, ← copies_add, hcount]

/-- The values that the samples of a bucket add to a field. -/
def collected (rows : List MetricRow) (fromTs bucket b : Int) (fields : List String)
    (f : String) : List Rat :=
  (rows.filter fun r => bucketStart fromTs bucket r.time = b).flatMap
    fun r => copies r f (fields.count f)

/-- What the pass knows after the samples `rows`. -/
structure Passed (fromTs bucket : Int) (fields : List String) (rows : List MetricRow)
    (s : Buckets) : Prop where
  met : ∀ b, b ∈ s.order ↔ ∃ r ∈ rows, bucketStart fromTs bucket r.time = b
  noted : ∀ b, s.series b =
    if b ∈ s.order then some (collected rows fromTs bucket b fields) else none

section Pass

variable {fromTs bucket : Int} {fields : List String} {rows : List MetricRow} {s : Buckets}

theorem collected_concat (r : MetricRow) (b : Int) (f : String) :
    collected (rows ++ [r]) fromTs bucket b fields f =
      collected rows fromTs bucket b fields f ++
        if bucketStart fromTs bucket r.time = b then copies r f (fields.count f) else [] := by
  unfold collected
  rw [List.filter_append, List.flatMap_append]
  by_cases hb : bucketStart fromTs bucket r.time = b
  · simp [hb]
  · simp [hb]

theorem collected_eq_nil (b : Int) (h : ¬∃ r ∈ rows, bucketStart fromTs bucket r.time = b) :
    collected rows fromTs bucket b fields = fun _ => [] := by
  funext f
  have hfilter : (rows.filter fun r => bucketStart fromTs bucket r.time = b) = [] := by
    rw [List.filter_eq_nil_iff]
    intro r hr hb
    exact h ⟨r, hr, of_decide_eq_true hb⟩
  rw [collected, hfilter, List.flatMap_nil]

/-- The pass has collected the values of a bucket whether or not it was met. -/
theorem Passed.getD (h : Passed fromTs bucket fields rows s) (b : Int) :
    ((s.series b).getD fun _ => []) = collected rows fromTs bucket b fields := by
  rw [h.noted b]
  by_cases hb : b ∈ s.order
  · rw [if_pos hb, Option.getD_some]
  · rw [if_neg hb, Option.getD_none, collected_eq_nil b fun hr => hb ((h.met b).mpr hr)]

theorem series_add (s : Buckets) (b : Int) (r : MetricRow) :
    (s.add fields b r).series = Function.update s.series b
      (some (fields.foldl (addField r) ((s.series b).getD fun _ => []))) := by
  unfold Buckets.add
  cases s.series b with
  | none => rfl
  | some vals => rfl

theorem order_add (h : Passed fromTs bucket fields rows s) (b : Int) (r : MetricRow) :
    (s.add fields b r).order = if b ∈ s.order then s.order else s.order ++ [b] := by
  unfold Buckets.add
  rw [h.noted b]
  by_cases hb : b ∈ s.order
  · simp [hb]
  · simp [hb]

/-- One sample more. -/
theorem Passed.add (h : Passed fromTs bucket fields rows s) (r : MetricRow) :
    Passed fromTs bucket fields (rows ++ [r])
      (s.add fields (bucketStart fromTs bucket r.time) r) := by
  have hmet : ∀ b, b ∈ (s.add fields (bucketStart fromTs bucket r.time) r).order ↔
      ∃ r' ∈ rows ++ [r], bucketStart fromTs bucket r'.time = b := by
    intro b
    rw [order_add h]
    simp only [List.mem_append, List.mem_singleton, or_and_right, exists_or, exists_eq_left]
    rw [← h.met b]
    split
    · rename_i hin
      exact ⟨Or.inl, fun hor => hor.elim id fun heq => heq ▸ hin⟩
    · rw [List.mem_append, List.mem_singleton, eq_comm (a := b)]
  refine ⟨hmet, fun b => ?_⟩
  rw [series_add, h.getD]
  by_cases hb : bucketStart fromTs bucket r.time = b
  · subst hb
    rw [Function.update_self, if_pos ((hmet _).mpr ⟨r, by simp, rfl⟩)]
    congr 1
    funext f
    rw [foldl_addField, collected_concat, if_pos rfl]
  · have hcoll : collected (rows ++ [r]) fromTs bucket b fields =
        collected rows fromTs bucket b fields := by
      funext f
      rw [collected_concat, if_neg hb, List.append_nil]
    have hin : b ∈ (s.add fields (bucketStart fromTs bucket r.time) r).order ↔ b ∈ s.order := by
      rw [hmet b, h.met b]
      simp only [List.mem_append, List.mem_singleton, or_and_right, exists_or, exists_eq_left]
      exact or_iff_left hb
    rw [Function.update_of_ne (Ne.symm hb), h.noted b, hcoll, if_congr hin rfl rfl]

theorem collect_concat (r : MetricRow) :
    collect (rows ++ [r]) fromTs bucket fields =
      (collect rows fromTs bucket fields).add fields (bucketStart fromTs bucket r.time) r := by
  unfold collect
  rw [List.foldl_append]
  rfl

/-- The pass over all samples. -/
theorem passed_collect (fromTs bucket : Int) (fields : List String) (rows : List MetricRow) :
    Passed fromTs bucket fields rows (collect rows fromTs bucket fields) := by
  induction rows using List.reverseRecOn with
  | nil => exact ⟨fun b => by simp [collect], fun b => rfl⟩
  | append_singleton rows r ih =>
    rw [collect_concat]
    exact ih.add r

/-- Sorted samples meet the buckets in increasing order. -/
theorem order_collect_sorted (hb : 0 < bucket)
    (hsorted : rows.Pairwise fun a b => a.time ≤ b.time) :
    (collect rows fromTs bucket fields).order.Pairwise (· < ·) := by
  induction rows using List.reverseRecOn with
  | nil => exact List.Pairwise.nil
  | append_singleton rows r ih =>
    have hpass := passed_collect fromTs bucket fields rows
    obtain ⟨hrows, _, hlast⟩ := List.pairwise_append.mp hsorted
    rw [collect_concat, order_add hpass]
    split
    · exact ih hrows
    · rename_i hnew
      refine List.pairwise_append.mpr ⟨ih hrows, List.pairwise_singleton _ _, ?_⟩
      intro b hbm b' hb'
      rw [List.mem_singleton] at hb'
      subst hb'
      obtain ⟨r', hr', rfl⟩ := (hpass.met b).mp hbm
      have hle : bucketStart fromTs bucket r'.time ≤ bucketStart fromTs bucket r.time :=
        bucketStart_mono hb (hlast r' hr' r (List.mem_singleton_self r))
      exact lt_of_le_of_ne hle fun heq => hnew (heq ▸ hbm)

end Pass

/-! ### The points -/

theorem length_flatMap_copies (rows : List MetricRow) (f : String) (n : Nat) :
    (rows.flatMap fun r => copies r f n).length =
      n * (rows.filterMap fun r => r.get f).length := by
  induction rows with
  | nil => rfl
  | cons r rows ih =>
    rw [List.flatMap_cons, List.length_append, ih]
    cases hr : r.get f with
    | none => simp [copies, hr]
    | some v => simp [copies, hr, Nat.mul_add, Nat.add_comm]

theorem sum_flatMap_copies (rows : List MetricRow) (f : String) (n : Nat) :
    (rows.flatMap fun r => copies r f n).sum = n * (rows.filterMap fun r => r.get f).sum := by
  induction rows with
  | nil => simp
  | cons r rows ih =>
    rw [List.flatMap_cons, List.sum_append, ih]
    cases hr : r.get f with
    | none => simp [copies, hr]
    | some v => simp [copies, hr, mul_add, List.sum_replicate]

/-- A field that is asked for repeatedly is averaged over repeated values. -/
theorem mean_flatMap_copies (rows : List MetricRow) (f : String) {n : Nat} (hn : 0 < n) :
    mean (rows.flatMap fun r => copies r f n) = mean (rows.filterMap fun r => r.get f) := by
  have hlen := length_flatMap_copies rows f n
  have hn0 : (n : Rat) ≠ 0 := Nat.cast_ne_zero.mpr (Nat.ne_of_gt hn)
  unfold mean
  rw [hlen, sum_flatMap_copies]
  by_cases hnil : (rows.filterMap fun r => r.get f) = []
  · have hcopies : (rows.flatMap fun r => copies r f n) = [] := by
      rw [← List.length_eq_zero_iff, hlen, hnil]
      rfl
    rw [if_pos hcopies, if_pos hnil]
  · have hcopies : (rows.flatMap fun r => copies r f n) ≠ [] := by
      rw [ne_eq, ← List.length_eq_zero_iff, hlen, Nat.mul_eq_zero, List.length_eq_zero_iff]
      exact fun h => h.elim (Nat.ne_of_gt hn) hnil
    rw [if_neg hcopies, if_neg hnil, Nat.cast_mul, mul_div_mul_left _ _ hn0]

/-- Fields that are set one by one. -/
theorem get?_foldl_set (g : String → Option Rat) (fields : List String) (p : Point) (f : String) :
    (fields.foldl (fun p f => p.set f (g f)) p).get? f =
      if f ∈ fields then some (g f) else p.get? f := by
  induction fields generalizing p with
  | nil => rfl
  | cons h fields ih =>
    rw [List.foldl_cons, ih, KeyedTable.get?_set]
    by_cases hf : f ∈ fields
    · rw [if_pos hf, if_pos (List.mem_cons_of_mem h hf)]
    · by_cases hh : h = f
      · subst hh
        rw [if_neg hf, if_pos rfl, if_pos List.mem_cons_self]
      · rw [if_neg hf, if_neg hh, if_neg fun hm => (List.mem_cons.mp hm).elim (Ne.symm hh) hf]

/-- The values that the samples of a bucket have for a field. -/
def presentValues (rows : List MetricRow) (fromTs bucket b : Int) (f : String) : List Rat :=
  (rows.filter fun r => Holds fromTs bucket b r.time).filterMap fun r => r.get f

/-- The points of a chart: one for every bucket that holds a sample, in increasing order,
with the mean of the present values of every field. -/
structure BucketMeans (rows : List MetricRow) (fromTs bucket : Int) (fields : List String)
    (points : List Point) : Prop where
  times : ∃ starts : List Int, starts.Pairwise (· < ·) ∧
    (∀ b, b ∈ starts ↔ ∃ r ∈ rows, Holds fromTs bucket b r.time) ∧
    points.map (fun p => p.get? "time") = starts.map fun b : Int => some (some (b : Rat))
  means : ∀ p ∈ points, ∀ b : Int, p.get? "time" = some (some (b : Rat)) → ∀ f ∈ fields,
    p.get? f = some (mean (presentValues rows fromTs bucket b f))

theorem get?_point_time (fields : List String) (htime : "time" ∉ fields) (s : Buckets) (b : Int) :
    (s.point fields b).get? "time" = some (some (b : Rat)) := by
  unfold Buckets.point
  rw [get?_foldl_set, if_neg htime]
  rfl

theorem get?_point (fields : List String) (rows : List MetricRow) (fromTs : Int) {bucket : Int}
    (hb : 0 < bucket) (b : Int) {f : String} (hf : f ∈ fields) :
    ((collect rows fromTs bucket fields).point fields b).get? f =
      some (mean (presentValues rows fromTs bucket b f)) := by
  have hfilter : (rows.filter fun r => bucketStart fromTs bucket r.time = b) =
      rows.filter fun r => Holds fromTs bucket b r.time :=
    List.filter_congr fun r _ => decide_eq_decide.mpr (bucketStart_eq_iff hb)
  unfold Buckets.point
  rw [get?_foldl_set, if_pos hf, (passed_collect fromTs bucket fields rows).getD, collected,
    hfilter, mean_flatMap_copies _ _ (List.count_pos_iff.mpr hf)]
  rfl

end PveManager.Monitoring
