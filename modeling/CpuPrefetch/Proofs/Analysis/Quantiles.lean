/-
One quantile, computed in three places.

The rank is the ceiling of a fraction of the count.  Each place computes it from the
quotient and the remainder with guards of its own; for a fraction whose denominator is at
most 2^32 no guard refuses it and no product wraps around.  One sum can: the largest one is
2^64, and the next step takes one from it again.  The analysis walks the runs of equal
values, the other two sort the sample; all of them end at the same element
(`Lib/OrderStatistics`).
-/
import CpuPrefetch.Analysis.Summaries
import CpuPrefetch.Calibration.Rationals
import CpuPrefetch.Lib.Words
import CpuPrefetch.Lib.OrderStatistics
import CpuPrefetch.Timing.Qualification

namespace CpuPrefetch.Analysis

open List Timing OrderStatistics
open OrderStatistics (expand select)
open Protocol

def runs (encoded : List WeightedLatency) : List (UInt64 × Nat) :=
  encoded.map fun value => (value.latencyTicks, value.multiplicity.toNat)

/-- What the sample is, latency by latency. -/
def expansion (encoded : List WeightedLatency) : List UInt64 := expand (runs encoded)

/-- A fraction above zero and up to one, with a denominator of at most 2^32. -/
structure Fraction (numerator denominator : UInt64) : Prop where
  positive : 0 < numerator.toNat
  proper : numerator.toNat ≤ denominator.toNat
  small : denominator.toNat ≤ 2 ^ 32

/-- Strictly increasing values, each there at least once, and no more of them in all than a word
can count. -/
structure Encoded (encoded : List WeightedLatency) : Prop where
  nonempty : encoded ≠ []
  increasing : encoded.Pairwise (·.latencyTicks < ·.latencyTicks)
  positive : ∀ value ∈ encoded, value.multiplicity ≠ 0
  counted : (expansion encoded).length ≤ 2 ^ 64 - 1

/-! ### The rank -/

/-- Every product and every sum on the way to the rank is exact, but for the one sum that can be
2^64; what is left when one is taken from it is exact again. -/
structure ExactRank (count numerator denominator : UInt64) : Prop where
  whole : (count / denominator * numerator).toNat =
    count.toNat / denominator.toNat * numerator.toNat
  product : (count % denominator * numerator).toNat =
    count.toNat % denominator.toNat * numerator.toNat
  sum : (roundedSum count numerator denominator).toNat =
      count.toNat % denominator.toNat * numerator.toNat + denominator.toNat ↔
    ¬(numerator.toNat = 2 ^ 32 ∧ denominator.toNat = 2 ^ 32 ∧ count.toNat % 2 ^ 32 = 2 ^ 32 - 1)
  raised : (roundedSum count numerator denominator - 1).toNat =
    count.toNat % denominator.toNat * numerator.toNat + denominator.toNat - 1
  rank : (Timing.quantileRank count numerator denominator).toNat =
    (count.toNat * numerator.toNat) ⌈/⌉ denominator.toNat

section Rank

variable {count numerator denominator : UInt64}

theorem Fraction.denominator_pos (h : Fraction numerator denominator) : 0 < denominator.toNat :=
  Nat.lt_of_lt_of_le h.positive h.proper

theorem whole_le (h : Fraction numerator denominator) :
    count.toNat / denominator.toNat * numerator.toNat ≤ count.toNat :=
  calc count.toNat / denominator.toNat * numerator.toNat
      ≤ count.toNat / denominator.toNat * denominator.toNat := Nat.mul_le_mul_left _ h.proper
    _ ≤ count.toNat := Nat.div_mul_le_self _ _

theorem product_le (h : Fraction numerator denominator) :
    count.toNat % denominator.toNat * numerator.toNat ≤ (2 ^ 32 - 1) * 2 ^ 32 := by
  have hlt := Nat.mod_lt count.toNat h.denominator_pos
  have hsmall := h.small
  exact Nat.mul_le_mul (by omega) (Nat.le_trans h.proper hsmall)

/-- The sum reaches 2^64 only with the largest of the three terms. -/
theorem sum_lt_iff (h : Fraction numerator denominator) :
    count.toNat % denominator.toNat * numerator.toNat + denominator.toNat < 2 ^ 64 ↔
      ¬(numerator.toNat = 2 ^ 32 ∧ denominator.toNat = 2 ^ 32 ∧
        count.toNat % 2 ^ 32 = 2 ^ 32 - 1) := by
  have hlt := Nat.mod_lt count.toNat h.denominator_pos
  have hproper := h.proper
  have hsmall := h.small
  constructor
  · intro hsum hlargest
    obtain ⟨hnumerator, hdenominator, hcount⟩ := hlargest
    rw [hnumerator, hdenominator, hcount] at hsum
    omega
  · intro hnot
    by_cases hdenominator : denominator.toNat = 2 ^ 32
    · rw [hdenominator] at hlt ⊢
      by_cases hcount : count.toNat % 2 ^ 32 = 2 ^ 32 - 1
      · have hnumerator : numerator.toNat ≤ 2 ^ 32 - 1 := by omega
        have hle := Nat.mul_le_mul_left (count.toNat % 2 ^ 32) hnumerator
        rw [hcount] at hle ⊢
        omega
      · have hle : count.toNat % 2 ^ 32 * numerator.toNat ≤ (2 ^ 32 - 2) * 2 ^ 32 :=
          Nat.mul_le_mul (by omega) (by omega)
        omega
    · have hle : count.toNat % denominator.toNat * numerator.toNat ≤
          (2 ^ 32 - 2) * (2 ^ 32 - 1) := Nat.mul_le_mul (by omega) (by omega)
      omega

theorem exactRank (h : Fraction numerator denominator) :
    ExactRank count numerator denominator := by
  have hpositive := h.denominator_pos
  have hwhole : (count / denominator * numerator).toNat =
      count.toNat / denominator.toNat * numerator.toNat := by
    rw [UInt64.toNat_mul, UInt64.toNat_div]
    exact Nat.mod_eq_of_lt (Nat.lt_of_le_of_lt (whole_le h) count.toNat_lt)
  have hbound := @product_le count _ _ h
  have hproduct : (count % denominator * numerator).toNat =
      count.toNat % denominator.toNat * numerator.toNat := by
    rw [UInt64.toNat_mul, UInt64.toNat_mod]
    exact Nat.mod_eq_of_lt (by omega)
  have hsum : (roundedSum count numerator denominator).toNat =
      (count.toNat % denominator.toNat * numerator.toNat + denominator.toNat) % 2 ^ 64 := by
    rw [roundedSum, UInt64.toNat_add, hproduct]
  have hsmall := h.small
  have hraised : (roundedSum count numerator denominator - 1).toNat =
      count.toNat % denominator.toNat * numerator.toNat + denominator.toNat - 1 := by
    rw [UInt64.toNat_sub, hsum, UInt64.toNat_one]
    omega
  refine ⟨hwhole, hproduct, ?_, hraised, ?_⟩
  · rw [← sum_lt_iff h, hsum]
    constructor
    · intro heq
      rw [← heq]
      exact Nat.mod_lt _ (by decide)
    · exact Nat.mod_eq_of_lt
  · have hle : (count.toNat * numerator.toNat) ⌈/⌉ denominator.toNat ≤ count.toNat := by
      rw [ceilDiv_le_iff hpositive, Nat.mul_comm denominator.toNat]
      exact Nat.mul_le_mul_left _ h.proper
    have hlt := count.toNat_lt
    unfold Timing.quantileRank
    rw [UInt64.toNat_add, hwhole, UInt64.toNat_div, hraised,
      ceilDiv_split _ _ hpositive]
    exact Nat.mod_eq_of_lt (by omega)

theorem quantileRank_bounds (h : Fraction numerator denominator) (hcount : count ≠ 0) :
    1 ≤ (Timing.quantileRank count numerator denominator).toNat ∧
      (Timing.quantileRank count numerator denominator).toNat ≤ count.toNat := by
  have hpositive : 0 < count.toNat :=
    Nat.pos_of_ne_zero fun hzero => hcount (UInt64.toNat_inj.mp hzero)
  rw [(@exactRank count _ _ h).rank]
  exact rank_bounds hpositive h.positive h.proper

/-- The analysis and the calibration add one for a remainder instead. -/
theorem extra_eq (h : Fraction numerator denominator) :
    count % denominator * numerator / denominator +
        (if count % denominator * numerator % denominator = 0 then 0 else 1) =
      (roundedSum count numerator denominator - 1) / denominator := by
  have hexact := @exactRank count _ _ h
  have hpositive := h.denominator_pos
  have hbound := @product_le count _ _ h
  have hquotient := Nat.div_le_self (count.toNat % denominator.toNat * numerator.toNat)
    denominator.toNat
  apply UInt64.toNat_inj.mp
  rw [UInt64.toNat_add, UInt64.toNat_div, UInt64.toNat_div, hexact.raised, hexact.product,
    ceilDiv_remainder _ hpositive]
  have hcondition : count % denominator * numerator % denominator = 0 ↔
      count.toNat % denominator.toNat * numerator.toNat % denominator.toNat = 0 := by
    rw [← UInt64.toNat_inj, UInt64.toNat_mod, hexact.product, UInt64.toNat_zero]
  by_cases hzero : count.toNat % denominator.toNat * numerator.toNat % denominator.toNat = 0
  · rw [if_pos hzero, if_pos (hcondition.mpr hzero), UInt64.toNat_zero]
    exact Nat.mod_eq_of_lt (by omega)
  · rw [if_neg hzero, if_neg fun hword => hzero (hcondition.mp hword), UInt64.toNat_one]
    exact Nat.mod_eq_of_lt (by omega)

variable {left right : UInt64}

/-- A guard that divides first lets through what does not wrap around. -/
theorem not_gt_div (hpositive : 0 < right.toNat) (h : left.toNat * right.toNat < 2 ^ 64) :
    ¬left > 0xffffffffffffffff / right := by
  have hne : right ≠ 0 := by
    intro hzero
    rw [hzero] at hpositive
    exact Nat.lt_irrefl 0 hpositive
  intro hguard
  have hwraps := CheckedWords.product_guard.mp ⟨hne, hguard⟩
  rw [Nat.mul_comm] at hwraps
  omega

/-- A guard that subtracts first does, too. -/
theorem not_gt_sub (h : left.toNat + right.toNat < 2 ^ 64) :
    ¬left > 0xffffffffffffffff - right := by
  intro hguard
  have hwraps := CheckedWords.sum_guard.mp hguard
  omega

/-- The quotient, the remainder and the sum of what they give pass every guard. -/
structure Guarded (count numerator denominator : UInt64) : Prop where
  quotient : (count / denominator).toNat * numerator.toNat < 2 ^ 64
  remainder : (count % denominator).toNat * numerator.toNat < 2 ^ 64
  sum : (count / denominator * numerator).toNat +
    ((roundedSum count numerator denominator - 1) / denominator).toNat < 2 ^ 64

theorem guarded (h : Fraction numerator denominator) : Guarded count numerator denominator := by
  have hexact := @exactRank count _ _ h
  refine ⟨?_, ?_, ?_⟩
  · rw [UInt64.toNat_div]
    exact Nat.lt_of_le_of_lt (whole_le h) count.toNat_lt
  · rw [UInt64.toNat_mod]
    exact Nat.lt_of_le_of_lt (product_le h) (by decide)
  · rw [hexact.whole, UInt64.toNat_div, hexact.raised,
      ceilDiv_split _ _ h.denominator_pos]
    refine Nat.lt_of_le_of_lt ?_ count.toNat_lt
    rw [ceilDiv_le_iff h.denominator_pos, Nat.mul_comm denominator.toNat]
    exact Nat.mul_le_mul_left _ h.proper

theorem quantileRank_eq (h : Fraction numerator denominator) :
    quantileRank count numerator denominator =
      some (Timing.quantileRank count numerator denominator) := by
  have hguarded := @guarded count _ _ h
  have hquotient := not_gt_div h.positive hguarded.quotient
  have hremainder := not_gt_div h.positive hguarded.remainder
  have hsum := not_gt_sub hguarded.sum
  unfold quantileRank
  simp only [extra_eq h, hquotient, hremainder, hsum, decide_false, Bool.or_self,
    Bool.false_eq_true, if_false]
  rfl

theorem checkedMultiply_eq (h : left.toNat * right.toNat < 2 ^ 64) :
    Calibration.checkedMultiply left right = some (left * right) := by
  refine if_neg ?_
  intro hguard
  have hwraps := CheckedWords.product_guard.mp hguard
  omega

theorem checkedCeilDivide_eq (h : Fraction numerator denominator) :
    Calibration.checkedCeilDivide (count % denominator * numerator) denominator =
      some ((roundedSum count numerator denominator - 1) / denominator) := by
  have hpositive := h.denominator_pos
  have hne : denominator ≠ 0 := by
    intro hzero
    rw [hzero] at hpositive
    exact Nat.lt_irrefl 0 hpositive
  have hsmall : (count % denominator * numerator / denominator).toNat < 2 ^ 64 - 1 := by
    have hbound := @product_le count _ _ h
    rw [UInt64.toNat_div, (@exactRank count _ _ h).product]
    exact Nat.lt_of_le_of_lt (Nat.div_le_self _ _) (by omega)
  have hnotLargest : count % denominator * numerator / denominator ≠ 0xffffffffffffffff := by
    intro hlargest
    rw [hlargest] at hsmall
    exact Nat.lt_irrefl _ hsmall
  rw [← extra_eq h, Calibration.checkedCeilDivide, if_neg hne]
  simp only
  by_cases hzero : count % denominator * numerator % denominator = 0
  · rw [if_neg (not_not.mpr hzero), if_pos hzero, UInt64.add_zero]
  · rw [if_pos hzero, if_neg hnotLargest, if_neg hzero]

end Rank

/-! ### The sample -/

section Sample

variable {encoded : List WeightedLatency} {sample : List UInt64}

theorem runs_cons (value : WeightedLatency) (rest : List WeightedLatency) :
    runs (value :: rest) = (value.latencyTicks, value.multiplicity.toNat) :: runs rest := rfl

theorem length_expansion_cons (value : WeightedLatency) (rest : List WeightedLatency) :
    (expansion (value :: rest)).length =
      value.multiplicity.toNat + (expansion rest).length := by
  unfold expansion
  rw [runs_cons, expand_cons, length_append, length_replicate]

/-- A sum of multiplicities that a word can hold. -/
theorem toNat_add_multiplicity {sum : UInt64} {value : WeightedLatency}
    {rest : List WeightedLatency}
    (h : sum.toNat + (expansion (value :: rest)).length < 2 ^ 64) :
    (sum + value.multiplicity).toNat = sum.toNat + value.multiplicity.toNat := by
  rw [length_expansion_cons] at h
  rw [UInt64.toNat_add]
  exact Nat.mod_eq_of_lt (by omega)

/-- The multiplicities add up without wrapping around. -/
theorem toNat_cumulative (encoded : List WeightedLatency) (sum : UInt64)
    (h : sum.toNat + (expansion encoded).length < 2 ^ 64) :
    (encoded.foldl (fun sum value => sum + value.multiplicity) sum).toNat =
      sum.toNat + (expansion encoded).length := by
  induction encoded generalizing sum with
  | nil => rfl
  | cons value rest ih =>
      have hsum := toNat_add_multiplicity h
      rw [length_expansion_cons] at h
      rw [foldl_cons, ih _ (by omega), hsum, length_expansion_cons, Nat.add_assoc]

theorem checkedSum_eq (encoded : List WeightedLatency) (sum : UInt64)
    (h : sum.toNat + (expansion encoded).length < 2 ^ 64) :
    encoded.foldlM (fun sum value => checkedAdd sum value.multiplicity) sum =
      some (encoded.foldl (fun sum value => sum + value.multiplicity) sum) := by
  induction encoded generalizing sum with
  | nil => rfl
  | cons value rest ih =>
      have hsum := toNat_add_multiplicity h
      rw [length_expansion_cons] at h
      have hadd : checkedAdd sum value.multiplicity = some (sum + value.multiplicity) := by
        refine if_neg ?_
        omega
      rw [foldlM_cons, hadd, foldl_cons]
      exact ih _ (by omega)

theorem increasing_of_pairwise {previous : Option UInt64}
    (hpairwise : encoded.Pairwise (·.latencyTicks < ·.latencyTicks))
    (hpositive : ∀ value ∈ encoded, value.multiplicity ≠ 0)
    (hprevious : ∀ ticks, previous = some ticks → ∀ value ∈ encoded, ticks < value.latencyTicks) :
    increasing previous encoded = true := by
  induction encoded generalizing previous with
  | nil => rfl
  | cons value rest ih =>
      obtain ⟨hafter, hrest⟩ := List.pairwise_cons.mp hpairwise
      obtain ⟨hfirst, hothers⟩ := List.forall_mem_cons.mp hpositive
      have hlater := @ih (some value.latencyTicks) hrest hothers
        (by rintro ticks ⟨⟩; exact hafter)
      have hbefore : previous.all (fun ticks => decide (ticks < value.latencyTicks)) = true := by
        cases previous with
        | none => rfl
        | some ticks => exact decide_eq_true (hprevious ticks rfl value mem_cons_self)
      rw [increasing, hlater, hbefore]
      simp [hfirst]

/-- The walk of the analysis is the walk over the runs. -/
theorem atRank_eq {rank : UInt64} (encoded : List WeightedLatency) (cumulative : UInt64)
    (hbefore : cumulative.toNat < rank.toNat)
    (h : cumulative.toNat + (expansion encoded).length < 2 ^ 64) :
    atRank rank cumulative encoded = select (rank.toNat - cumulative.toNat) (runs encoded) := by
  induction encoded generalizing cumulative with
  | nil => rfl
  | cons value rest ih =>
      have hsum := toNat_add_multiplicity h
      rw [length_expansion_cons] at h
      rw [atRank, runs_cons, select]
      by_cases hreached : rank.toNat ≤ cumulative.toNat + value.multiplicity.toNat
      · have hge : cumulative + value.multiplicity ≥ rank := by
          rw [ge_iff_le, UInt64.le_iff_toNat_le, hsum]
          exact hreached
        rw [if_pos hge, if_pos (by omega)]
      · have hlt : ¬cumulative + value.multiplicity ≥ rank := by
          rw [ge_iff_le, UInt64.le_iff_toNat_le, hsum]
          exact hreached
        rw [if_neg hlt, if_neg (by omega), ih _ (by omega) (by omega), hsum, Nat.sub_add_eq]

theorem pairwise_expansion (h : encoded.Pairwise (·.latencyTicks < ·.latencyTicks)) :
    (expansion encoded).Pairwise (· ≤ ·) := by
  refine pairwise_expand (List.pairwise_map.mpr (h.imp ?_))
  intro value later hlt
  exact UInt64.le_of_lt hlt

theorem expansion_ne_nil (h : Encoded encoded) : expansion encoded ≠ [] := by
  obtain ⟨value, rest, rfl⟩ := exists_cons_of_ne_nil h.nonempty
  have hne := h.positive value mem_cons_self
  apply ne_nil_of_length_pos
  rw [length_expansion_cons]
  have hpositive : value.multiplicity.toNat ≠ 0 := fun hzero => hne (UInt64.toNat_inj.mp hzero)
  omega

end Sample

/-! ### The quantile -/

section Quantile

variable {encoded : List WeightedLatency} {sample : List UInt64} {numerator denominator : UInt64}

/-- The number of elements, as the code counts them. -/
def countOf (encoded : List WeightedLatency) : UInt64 := .ofNat (expansion encoded).length

theorem toNat_countOf (h : Encoded encoded) :
    (countOf encoded).toNat = (expansion encoded).length := by
  have hcounted := h.counted
  exact UInt64.toNat_ofNat_of_lt' (show _ < 2 ^ 64 by omega)

theorem countOf_ne_zero (h : Encoded encoded) : countOf encoded ≠ 0 := by
  intro hzero
  have hcount := toNat_countOf h
  rw [hzero, UInt64.toNat_zero] at hcount
  exact expansion_ne_nil h (eq_nil_of_length_eq_zero hcount.symm)

theorem checkedSum_encoded (h : Encoded encoded) :
    checkedSum encoded = some (countOf encoded) := by
  have hcounted := h.counted
  have hfits : (0 : UInt64).toNat + (expansion encoded).length < 2 ^ 64 := by
    rw [UInt64.toNat_zero]
    omega
  rw [checkedSum, checkedSum_eq encoded 0 hfits]
  congr 1
  apply UInt64.toNat_inj.mp
  rw [toNat_cumulative encoded 0 hfits, toNat_countOf h, UInt64.toNat_zero, Nat.zero_add]

/-- The rank is the position of an element. -/
theorem rank_lt (h : Encoded encoded) (hfraction : Fraction numerator denominator) :
    (Timing.quantileRank (countOf encoded) numerator denominator).toNat - 1 <
      (expansion encoded).length := by
  have hbounds := quantileRank_bounds hfraction (countOf_ne_zero h)
  rw [toNat_countOf h] at hbounds
  omega

/-- The element at the rank. -/
def quantileOf (encoded : List WeightedLatency) (numerator denominator : UInt64) : Option UInt64 :=
  (expansion encoded)[(Timing.quantileRank (countOf encoded) numerator denominator).toNat - 1]?

theorem Fraction.numerator_ne (h : Fraction numerator denominator) : numerator ≠ 0 := by
  intro hzero
  have hpositive := h.positive
  rw [hzero] at hpositive
  exact Nat.lt_irrefl 0 hpositive

theorem Fraction.denominator_ne (h : Fraction numerator denominator) : denominator ≠ 0 := by
  intro hzero
  have hpositive := h.denominator_pos
  rw [hzero] at hpositive
  exact Nat.lt_irrefl 0 hpositive

theorem Fraction.not_gt (h : Fraction numerator denominator) : ¬numerator > denominator := by
  rw [gt_iff_lt, UInt64.not_lt, UInt64.le_iff_toNat_le]
  exact h.proper

variable {value : UInt64}

theorem exactInverseEcdfQuantile_eq (h : Encoded encoded)
    (hfraction : Fraction numerator denominator)
    (hvalue : quantileOf encoded numerator denominator = some value) :
    exactInverseEcdfQuantile encoded numerator denominator = .ok value := by
  have hbounds := quantileRank_bounds hfraction (countOf_ne_zero h)
  have hcounted := h.counted
  have hwalk : atRank (Timing.quantileRank (countOf encoded) numerator denominator) 0 encoded =
      some value := by
    have hselect := atRank_eq encoded 0 (show (0 : UInt64).toNat < _ from hbounds.1)
      (by rw [UInt64.toNat_zero]; omega)
    rw [hselect, UInt64.toNat_zero, Nat.sub_zero, select_eq hbounds.1]
    exact hvalue
  have hempty : encoded.isEmpty = false := by
    rw [isEmpty_eq_false_iff]
    exact h.nonempty
  have hincreasing := increasing_of_pairwise h.increasing h.positive
    (show ∀ ticks, none = some ticks → _ from nofun)
  unfold exactInverseEcdfQuantile
  simp only [checkedSum_encoded h, quantileRank_eq hfraction, hwalk, hempty,
    hfraction.numerator_ne, hfraction.denominator_ne, hfraction.not_gt, countOf_ne_zero h,
    hincreasing, decide_false, Bool.or_self, Bool.false_eq_true, if_false, Bool.not_true]

/-- Sorting the sample gives back what was encoded. -/
theorem mergeSort_sample (h : Encoded encoded) (hperm : sample.Perm (expansion encoded)) :
    sample.mergeSort = expansion encoded :=
  mergeSort_of_perm hperm (pairwise_expansion h.increasing)

theorem toNat_rank_pred (h : Encoded encoded) (hfraction : Fraction numerator denominator) :
    (Timing.quantileRank (countOf encoded) numerator denominator - 1).toNat =
      (Timing.quantileRank (countOf encoded) numerator denominator).toNat - 1 := by
  have hbounds := quantileRank_bounds hfraction (countOf_ne_zero h)
  rw [UInt64.toNat_sub_of_le]
  · rfl
  · rw [UInt64.le_iff_toNat_le]
    exact hbounds.1

theorem timing_inverseEcdf_eq (h : Encoded encoded) (hperm : sample.Perm (expansion encoded))
    (hfraction : Fraction numerator denominator) :
    inverseEcdf sample numerator denominator =
      quantileOf encoded numerator denominator := by
  unfold inverseEcdf
  simp only [mergeSort_sample h hperm]
  show (expansion encoded)[(Timing.quantileRank (countOf encoded) _ _ - 1).toNat]? = _
  rw [toNat_rank_pred h hfraction]
  rfl

/-- A sample that a word can count has the quantile its rank names. -/
theorem calibration_inverseEcdf (hne : sample ≠ []) (hlength : sample.length < 2 ^ 64)
    (hfraction : Fraction numerator denominator)
    (hvalue : sample.mergeSort[(sample.length * numerator.toNat) ⌈/⌉ denominator.toNat - 1]? =
      some value) :
    Calibration.inverseEcdf sample numerator denominator = .ok value := by
  have hcount : (UInt64.ofNat sample.length).toNat = sample.length :=
    UInt64.toNat_ofNat_of_lt' hlength
  have hnonzero : UInt64.ofNat sample.length ≠ 0 := by
    intro hzero
    rw [hzero, UInt64.toNat_zero] at hcount
    exact hne (eq_nil_of_length_eq_zero hcount.symm)
  have hguarded := @guarded (.ofNat sample.length) _ _ hfraction
  have hbounds := quantileRank_bounds hfraction hnonzero
  have hwhole := checkedMultiply_eq hguarded.quotient
  have hproduct := checkedMultiply_eq hguarded.remainder
  have hceil := @checkedCeilDivide_eq (.ofNat sample.length) _ _ hfraction
  have hsum := not_gt_sub hguarded.sum
  have hrank : .ofNat sample.length / denominator * numerator +
      (roundedSum (.ofNat sample.length) numerator denominator - 1) / denominator =
        Timing.quantileRank (.ofNat sample.length) numerator denominator := rfl
  have hpositive : Timing.quantileRank (.ofNat sample.length) numerator denominator ≠ 0 := by
    intro hzero
    rw [hzero] at hbounds
    exact Nat.not_succ_le_zero 0 hbounds.1
  have hle : ¬Timing.quantileRank (.ofNat sample.length) numerator denominator >
      .ofNat sample.length := by
    rw [gt_iff_lt, UInt64.not_lt, UInt64.le_iff_toNat_le]
    exact hbounds.2
  have hpred : (Timing.quantileRank (.ofNat sample.length) numerator denominator - 1).toNat =
      (sample.length * numerator.toNat) ⌈/⌉ denominator.toNat - 1 := by
    rw [UInt64.toNat_sub_of_le, (@exactRank (.ofNat sample.length) _ _ hfraction).rank, hcount]
    · rfl
    · rw [UInt64.le_iff_toNat_le]
      exact hbounds.1
  have hget : sample.mergeSort.getD
      ((sample.length * numerator.toNat) ⌈/⌉ denominator.toNat - 1) 0 = value := by
    rw [getD_eq_getElem?_getD, hvalue]
    rfl
  unfold Calibration.inverseEcdf
  simp only [hne, hfraction.numerator_ne, hfraction.denominator_ne, hfraction.not_gt,
    hwhole, hproduct, hceil, hsum, hrank, hpositive, hle, hpred, hget, decide_false, Bool.or_self,
    Bool.false_eq_true, if_false]

/-- The rank of a sample that a word can count, and what is there. -/
theorem exists_ranked (hne : sample ≠ []) (hfraction : Fraction numerator denominator) :
    ∃ value, sample.mergeSort[(sample.length * numerator.toNat) ⌈/⌉ denominator.toNat - 1]? =
      some value := by
  have hbounds := rank_bounds (List.length_pos_iff.mpr hne) hfraction.positive
    hfraction.proper
  refine ⟨_, getElem?_eq_getElem ?_⟩
  rw [length_mergeSort]
  omega

theorem calibration_inverseEcdf_eq (h : Encoded encoded) (hperm : sample.Perm (expansion encoded))
    (hfraction : Fraction numerator denominator)
    (hvalue : quantileOf encoded numerator denominator = some value) :
    Calibration.inverseEcdf sample numerator denominator = .ok value := by
  have hcounted := h.counted
  have hne : sample ≠ [] := by
    intro hnil
    rw [hnil] at hperm
    exact expansion_ne_nil h hperm.symm.eq_nil
  have hlength : sample.length = (countOf encoded).toNat := by
    rw [hperm.length_eq, toNat_countOf h]
  refine calibration_inverseEcdf hne (by rw [hperm.length_eq]; omega) hfraction ?_
  rw [mergeSort_sample h hperm, hlength, ← (@exactRank (countOf encoded) _ _ hfraction).rank]
  exact hvalue

/-- **Three computations of one quantile.**

All three return the element at the rank that is the fraction of the count rounded up: the
least value that at least this fraction of the sample does not exceed.  The rank is the
position of an element, and it is computed exactly. -/
theorem quantiles_agree (h : Encoded encoded) (hperm : sample.Perm (expansion encoded))
    (hfraction : Fraction numerator denominator) :
    ∃ value, exactInverseEcdfQuantile encoded numerator denominator = .ok value ∧
      Calibration.inverseEcdf sample numerator denominator = .ok value ∧
      inverseEcdf sample numerator denominator = some value ∧
      sample.mergeSort[(sample.length * numerator.toNat) ⌈/⌉ denominator.toNat - 1]? = some value ∧
      IsLeast {value : UInt64 | sample.length * numerator.toNat ≤
        denominator.toNat * sample.countP (· ≤ value)} value ∧
      1 ≤ (sample.length * numerator.toNat) ⌈/⌉ denominator.toNat ∧
      (sample.length * numerator.toNat) ⌈/⌉ denominator.toNat ≤ sample.length ∧
      quantileRank (.ofNat sample.length) numerator denominator =
        some (Timing.quantileRank (.ofNat sample.length) numerator denominator) ∧
      ExactRank (.ofNat sample.length) numerator denominator ∧
      ∀ front : List WeightedLatency, front <+: encoded →
        (front.foldl (fun sum value => sum + value.multiplicity) (0 : UInt64)).toNat =
          (expansion front).length := by
  have hcount : UInt64.ofNat sample.length = countOf encoded := by
    rw [hperm.length_eq]
    rfl
  have hlength : sample.length = (countOf encoded).toNat := by
    rw [hperm.length_eq, toNat_countOf h]
  have hexact := @exactRank (countOf encoded) _ _ hfraction
  have hbounds := quantileRank_bounds hfraction (countOf_ne_zero h)
  obtain ⟨value, hvalue⟩ : ∃ value, quantileOf encoded numerator denominator = some value :=
    ⟨_, getElem?_eq_getElem (rank_lt h hfraction)⟩
  refine ⟨value, exactInverseEcdfQuantile_eq h hfraction hvalue,
    calibration_inverseEcdf_eq h hperm hfraction hvalue,
    (timing_inverseEcdf_eq h hperm hfraction).trans hvalue, ?_, ?_, ?_, ?_, ?_, ?_, ?_⟩
  · rw [mergeSort_sample h hperm, hlength, ← hexact.rank]
    exact hvalue
  · obtain ⟨hrank, rfl⟩ := List.getElem?_eq_some_iff.mp hvalue
    have hleast := isLeast_getElem (pairwise_expansion h.increasing) hrank
    have hset : {value : UInt64 | sample.length * numerator.toNat ≤
        denominator.toNat * sample.countP (· ≤ value)} =
        {value | (Timing.quantileRank (countOf encoded) numerator denominator).toNat - 1 <
          (expansion encoded).countP (· ≤ value)} := by
      ext value
      rw [Set.mem_ofPred_eq, Set.mem_ofPred_eq, ← hperm.countP_eq, hlength,
        ← ceilDiv_le_iff hfraction.denominator_pos, ← hexact.rank]
      omega
    rw [hset]
    exact hleast
  · rw [hlength, ← hexact.rank]
    exact hbounds.1
  · rw [hlength, ← hexact.rank]
    exact hbounds.2
  · rw [hcount]
    exact quantileRank_eq hfraction
  · rw [hcount]
    exact hexact
  · intro front hfront
    have hle : (expansion front).length ≤ (expansion encoded).length := by
      obtain ⟨back, rfl⟩ := hfront
      unfold expansion runs
      simp
    have hcounted := h.counted
    rw [toNat_cumulative front 0 (by rw [UInt64.toNat_zero]; omega), UInt64.toNat_zero,
      Nat.zero_add]

end Quantile

/-- The median of three values. -/
theorem quantiles_agree_median :
    ∃ value, exactInverseEcdfQuantile [⟨3, 2⟩, ⟨7, 1⟩] 1 2 = .ok value ∧
      Calibration.inverseEcdf [7, 3, 3] 1 2 = .ok value ∧
      inverseEcdf [7, 3, 3] 1 2 = some value := by
  have hencoded : Encoded [⟨3, 2⟩, ⟨7, 1⟩] :=
    ⟨by decide, by decide, by decide, by decide⟩
  have hperm : [7, 3, 3].Perm (expansion [⟨3, 2⟩, ⟨7, 1⟩]) := by decide
  have hfraction : Fraction 1 2 := ⟨by decide, by decide, by decide⟩
  obtain ⟨value, hanalysis, hcalibration, htiming, -⟩ :=
    quantiles_agree hencoded hperm hfraction
  exact ⟨value, hanalysis, hcalibration, htiming⟩

/-- The one sum that wraps around: 2^32 - 1 equal values and the fraction 2^32 / 2^32. -/
theorem rounded_sum_wraps :
    Encoded [⟨0, 4294967295⟩] ∧ Fraction 4294967296 4294967296 ∧
      (roundedSum (.ofNat (expansion [⟨0, 4294967295⟩]).length) 4294967296
        4294967296).toNat <
      (expansion [⟨0, 4294967295⟩]).length % 4294967296 * 4294967296 + 4294967296 := by
  have hlength : (expansion [⟨0, 4294967295⟩]).length = 4294967295 := by
    unfold expansion
    rw [length_expand]
    rfl
  refine ⟨⟨by decide, by decide, by decide, by rw [hlength]; decide⟩,
    ⟨by decide, by decide, by decide⟩, ?_⟩
  rw [hlength]
  decide

end CpuPrefetch.Analysis
