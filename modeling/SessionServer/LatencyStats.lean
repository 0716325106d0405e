import Mathlib.Algebra.Ring.Nat
import Mathlib.Data.List.Sort
import Mathlib.Data.Int.Order.Basic

/-!
# Latency percentiles

A percentile is read off the sorted samples at the nearest rank.  The rank is
computed with 64-bit numbers; `none` stands for an index outside of the list.
-/

namespace SessionServer.LatencyStats

open List

def nearestRank (sorted : List ℤ) (numerator denominator : ℕ) : Option ℤ :=
  if sorted.isEmpty then some 0
  else
    let rank := ((sorted.length * numerator) % 2 ^ 64 + denominator - 1) % 2 ^ 64 / denominator
    sorted[(min rank sorted.length + (2 ^ 64 - 1)) % 2 ^ 64]?

structure LatencyReport where
  sampleCount : ℕ := 0
  minUs : ℤ := 0
  p50Us : ℤ := 0
  p95Us : ℤ := 0
  p99Us : ℤ := 0
  maxUs : ℤ := 0
  deriving DecidableEq

def latencyReport (samples : List ℤ) : Option LatencyReport :=
  if samples.isEmpty then some {}
  else do
    let values := samples.mergeSort
    return {
      sampleCount := samples.length
      minUs := ← values.head?
      p50Us := ← nearestRank values 50 100
      p95Us := ← nearestRank values 95 100
      p99Us := ← nearestRank values 99 100
      maxUs := ← values.getLast? }

/-- The least sample such that so many percent of the samples do not exceed it. -/
structure IsPercentile (samples : List ℤ) (percent : ℕ) (value : ℤ) : Prop where
  sample : value ∈ samples
  enough : percent * samples.length ≤ 100 * samples.countP (· ≤ value)
  least : ∀ other ∈ samples, percent * samples.length ≤ 100 * samples.countP (· ≤ other) →
    value ≤ other

variable {samples values : List ℤ} {percent index : ℕ}

theorem IsPercentile.perm {value : ℤ} (hpercentile : IsPercentile values percent value)
    (hperm : values.Perm samples) : IsPercentile samples percent value := by
  obtain ⟨hsample, henough, hleast⟩ := hpercentile
  simp only [hperm.length_eq, hperm.countP_eq, hperm.mem_iff] at hsample henough hleast
  exact ⟨hsample, henough, hleast⟩

theorem IsPercentile.le {higher : ℕ} {value upper : ℤ}
    (hpercentile : IsPercentile samples percent value)
    (hhigher : IsPercentile samples higher upper) (hle : percent ≤ higher) : value ≤ upper :=
  hpercentile.least upper hhigher.sample ((Nat.mul_le_mul_right _ hle).trans hhigher.enough)

/-! ## Sorted values -/

section Sorted

variable (hsorted : values.Pairwise (· ≤ ·))
include hsorted

theorem getElem_mono {later : ℕ} (hle : index ≤ later) (hlater : later < values.length) :
    values[index] ≤ values[later] := by
  rcases Nat.eq_or_lt_of_le hle with rfl | hlt
  · exact le_rfl
  · exact pairwise_iff_getElem.mp hsorted _ _ _ _ hlt

theorem succ_le_countP (hindex : index < values.length) :
    index + 1 ≤ values.countP (· ≤ values[index]) := by
  have htake : (values.take (index + 1)).countP (· ≤ values[index]) = index + 1 := by
    rw [countP_eq_length.mpr, length_take]
    · omega
    · intro value hvalue
      obtain ⟨place, hplace, rfl⟩ := mem_iff_getElem.mp hvalue
      rw [length_take] at hplace
      rw [getElem_take]
      exact decide_eq_true (getElem_mono hsorted (by omega) hindex)
  rw [← htake]
  exact (take_sublist _ _).countP_le

theorem countP_le_of_lt (hindex : index < values.length) {other : ℤ}
    (hother : other < values[index]) : values.countP (· ≤ other) ≤ index := by
  have hdrop : (values.drop index).countP (· ≤ other) = 0 := by
    rw [countP_eq_zero]
    intro value hvalue
    obtain ⟨place, hplace, rfl⟩ := mem_iff_getElem.mp hvalue
    rw [length_drop] at hplace
    rw [getElem_drop, decide_eq_true_eq, not_le]
    exact hother.trans_le (getElem_mono hsorted (by omega) (by omega))
  rw [← take_append_drop index values, countP_append, hdrop, Nat.add_zero]
  exact countP_le_length.trans (length_take_le _ _)

theorem nearestRank_percentile (hpercent : 0 < percent) (hle : percent ≤ 100)
    (hpositive : 0 < values.length) (hcount : values.length < 2 ^ 57) :
    ∃ value, nearestRank values percent 100 = some value ∧ IsPercentile values percent value := by
  have hproduct : values.length * percent ≤ values.length * 100 := Nat.mul_le_mul_left _ hle
  have hrank : 0 < values.length * percent := Nat.mul_pos hpositive hpercent
  have hplace : (min ((values.length * percent % 2 ^ 64 + 100 - 1) % 2 ^ 64 / 100)
      values.length + (2 ^ 64 - 1)) % 2 ^ 64 = (values.length * percent + 99) / 100 - 1 := by
    omega
  have hempty : values.isEmpty = false :=
    isEmpty_eq_false_iff.mpr (ne_nil_of_length_pos hpositive)
  rw [nearestRank, hempty]
  simp only [Bool.false_eq_true, if_false, hplace]
  have hindex : (values.length * percent + 99) / 100 - 1 < values.length := by omega
  have hbelow : 100 * ((values.length * percent + 99) / 100 - 1) < percent * values.length := by
    rw [Nat.mul_comm percent]
    omega
  have habove : percent * values.length ≤ 100 * ((values.length * percent + 99) / 100 - 1 + 1) := by
    rw [Nat.mul_comm percent]
    omega
  generalize (values.length * percent + 99) / 100 - 1 = index at hindex hbelow habove ⊢
  refine ⟨_, getElem?_eq_getElem hindex, getElem_mem hindex, ?_, ?_⟩
  · have hcount := succ_le_countP hsorted hindex
    omega
  · intro other _ henough
    by_contra hlt
    have hcount := countP_le_of_lt hsorted hindex (not_le.mp hlt)
    omega

theorem ends_of_sorted (hpositive : 0 < values.length) :
    ∃ first last, values.head? = some first ∧ values.getLast? = some last ∧
      first ∈ values ∧ last ∈ values ∧ ∀ value ∈ values, first ≤ value ∧ value ≤ last := by
  have hlast : values.length - 1 < values.length := by omega
  refine ⟨values[0], values[values.length - 1], ?_, ?_, getElem_mem _, getElem_mem _, ?_⟩
  · rw [head?_eq_getElem?]
    exact getElem?_eq_getElem hpositive
  · rw [getLast?_eq_getElem?]
    exact getElem?_eq_getElem hlast
  · intro value hvalue
    obtain ⟨place, hplace, rfl⟩ := mem_iff_getElem.mp hvalue
    exact ⟨getElem_mono hsorted (Nat.zero_le place) hplace, getElem_mono hsorted (by omega) hlast⟩

end Sorted

/-! ## The report -/

theorem latencyReport_perm {permuted : List ℤ} (hperm : permuted.Perm samples) :
    latencyReport permuted = latencyReport samples := by
  have hvalues : permuted.mergeSort (· ≤ ·) = samples.mergeSort (· ≤ ·) := by
    apply List.Perm.eq_of_pairwise' (pairwise_mergeSort' (· ≤ ·) permuted)
      (pairwise_mergeSort' (· ≤ ·) samples)
    exact ((mergeSort_perm _ _).trans hperm).trans (mergeSort_perm _ _).symm
  simp only [latencyReport, hperm.isEmpty_eq, hvalues, hperm.length_eq]

/-- The percentiles are true nearest-rank percentiles, in order, and do not
depend on the order of the samples. -/
theorem latencyReport_percentiles (samples : List ℤ) (hsome : samples ≠ [])
    (hcount : samples.length < 2 ^ 57) :
    ∃ report, latencyReport samples = some report ∧ report.sampleCount = samples.length ∧
      IsPercentile samples 50 report.p50Us ∧ IsPercentile samples 95 report.p95Us ∧
      IsPercentile samples 99 report.p99Us ∧
      report.minUs ∈ samples ∧ report.maxUs ∈ samples ∧
      report.minUs ≤ report.p50Us ∧ report.p50Us ≤ report.p95Us ∧
      report.p95Us ≤ report.p99Us ∧ report.p99Us ≤ report.maxUs ∧
      ∀ permuted : List ℤ, permuted.Perm samples → latencyReport permuted = some report := by
  have hperm := mergeSort_perm samples (· ≤ ·)
  have hpositive := length_pos_of_ne_nil hsome
  rw [← hperm.length_eq] at hpositive hcount
  have hsorted := pairwise_mergeSort' (· ≤ ·) samples
  have hrank (percent : ℕ) (hpercent : 0 < percent) (hle : percent ≤ 100) :=
    nearestRank_percentile hsorted hpercent hle hpositive hcount
  obtain ⟨p50, hp50, hmedian⟩ := hrank 50 (by decide) (by decide)
  obtain ⟨p95, hp95, hhigh⟩ := hrank 95 (by decide) (by decide)
  obtain ⟨p99, hp99, htail⟩ := hrank 99 (by decide) (by decide)
  obtain ⟨first, last, hfirst, hlast, hfirstIn, hlastIn, hbetween⟩ :=
    ends_of_sorted hsorted hpositive
  have hreport : latencyReport samples = some ⟨samples.length, first, p50, p95, p99, last⟩ := by
    simp only [latencyReport, isEmpty_eq_false_iff.mpr hsome, hp50, hp95, hp99, hfirst, hlast]
    rfl
  refine ⟨_, hreport, rfl, hmedian.perm hperm, hhigh.perm hperm, htail.perm hperm,
    hperm.mem_iff.mp hfirstIn, hperm.mem_iff.mp hlastIn, (hbetween _ hmedian.sample).1,
    hmedian.le hhigh (by decide), hhigh.le htail (by decide), (hbetween _ htail.sample).2, ?_⟩
  intro permuted hpermuted
  rw [latencyReport_perm hpermuted, hreport]

theorem latencyReport_percentiles_three :
    (latencyReport [30, 10, 20]).isSome = true ∧ ∃ report,
      latencyReport [30, 10, 20] = some report ∧ IsPercentile [30, 10, 20] 50 report.p50Us := by
  obtain ⟨report, hreport, _, hmedian, _⟩ :=
    latencyReport_percentiles [30, 10, 20] (by decide) (by decide)
  exact ⟨by rw [hreport]; rfl, report, hreport, hmedian⟩

end SessionServer.LatencyStats
