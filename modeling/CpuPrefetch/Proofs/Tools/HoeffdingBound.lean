/-
The bound of a cell encloses the Hoeffding bound.

Every operation between the counts and the bound is monotone and rounds upwards, and the
decimal after a nearest one is no less than the value that was rounded; so the steps compose.
For the reference the same steps are compared with each other, at 240 digits and at 160.
-/
import CpuPrefetch.Tools.CalibrationStatistics
import CpuPrefetch.Lib.Fallible

namespace CpuPrefetch.Tools.CalibrationStatistics

open Decimals

/-- What the two transcendental operations of a decimal module are documented to return. -/
structure DecimalModule.CorrectlyRounded (decimal : DecimalModule) : Prop where
  ln : ∀ {p : Nat} {x : ℚ}, 0 < p → 1 < x → IsNearest p (Real.log x) (decimal.ln p x)
  sqrt : ∀ {p : Nat} {x : ℚ}, 0 < p → 0 < x → IsNearest p (√(x : ℝ)) (decimal.sqrt p x)

theorem one_lt_alpha : (1 : ℚ) < (ACCEPTED_ALPHA_DENOMINATOR : ℚ) := by
  norm_num [ACCEPTED_ALPHA_DENOMINATOR]

theorem log_alpha_pos : 0 < Real.log (ACCEPTED_ALPHA_DENOMINATOR : ℚ) :=
  Real.log_pos (by exact_mod_cast one_lt_alpha)

/-! ### The margin -/

/-- The logarithm as the margin uses it. -/
def logarithmUp (decimal : DecimalModule) (p : Nat) : ℚ :=
  nextPlus p (decimal.ln p ACCEPTED_ALPHA_DENOMINATOR)

/-- What the square root of the margin is taken of. -/
def radicandUp (decimal : DecimalModule) (weights : ℚ) (p : Nat) : ℚ :=
  ceilTo p (ceilTo p (logarithmUp decimal p * ceilTo p weights) / 2)

theorem marginUp_eq (decimal : DecimalModule) (weights : ℚ) (p : Nat) :
    marginUp decimal weights p = nextPlus p (decimal.sqrt p (radicandUp decimal weights p)) := rfl

variable {decimal reference : DecimalModule} {weights : ℚ} {p q : Nat}

theorem le_logarithmUp (h : decimal.CorrectlyRounded) (hp : 0 < p) :
    Real.log (ACCEPTED_ALPHA_DENOMINATOR : ℚ) ≤ logarithmUp decimal p :=
  (h.ln hp one_lt_alpha).le_nextPlus hp log_alpha_pos

theorem logarithmUp_pos (h : decimal.CorrectlyRounded) (hp : 0 < p) :
    0 < logarithmUp decimal p := by
  have hlog := lt_of_lt_of_le log_alpha_pos (le_logarithmUp h hp)
  exact_mod_cast hlog

theorem radicandUp_pos (h : decimal.CorrectlyRounded) (hp : 0 < p) (hweights : 0 < weights) :
    0 < radicandUp decimal weights p :=
  ceilTo_pos (half_pos (ceilTo_pos (mul_pos (logarithmUp_pos h hp) (ceilTo_pos hweights))))

theorem le_radicandUp (h : decimal.CorrectlyRounded) (hp : 0 < p) (hweights : 0 < weights) :
    Real.log (ACCEPTED_ALPHA_DENOMINATOR : ℚ) * weights / 2 ≤ radicandUp decimal weights p := by
  have hlogarithm := le_logarithmUp h hp
  have hweightsUp : (weights : ℝ) ≤ ceilTo p weights := by exact_mod_cast le_ceilTo p weights
  have hproduct : ((logarithmUp decimal p * ceilTo p weights : ℚ) : ℝ) ≤
      ceilTo p (logarithmUp decimal p * ceilTo p weights) := by exact_mod_cast le_ceilTo p _
  have hhalf : ((ceilTo p (logarithmUp decimal p * ceilTo p weights) / 2 : ℚ) : ℝ) ≤
      radicandUp decimal weights p := by exact_mod_cast le_ceilTo p _
  have hnonneg : (0 : ℝ) ≤ weights := by exact_mod_cast hweights.le
  have hpositive : (0 : ℝ) ≤ logarithmUp decimal p := le_trans log_alpha_pos.le hlogarithm
  have hmul := mul_le_mul hlogarithm hweightsUp hnonneg hpositive
  push_cast at hproduct hhalf
  linarith

/-- The margin is no less than the exact one. -/
theorem le_marginUp (h : decimal.CorrectlyRounded) (hp : 0 < p) (hweights : 0 < weights) :
    √(Real.log (ACCEPTED_ALPHA_DENOMINATOR : ℚ) * weights / 2) ≤ marginUp decimal weights p := by
  have hradicand := radicandUp_pos h hp hweights
  have hpos : 0 < √((radicandUp decimal weights p : ℚ) : ℝ) :=
    Real.sqrt_pos.mpr (by exact_mod_cast hradicand)
  calc
    √(Real.log (ACCEPTED_ALPHA_DENOMINATOR : ℚ) * weights / 2)
        ≤ √((radicandUp decimal weights p : ℚ) : ℝ) :=
          Real.sqrt_le_sqrt (le_radicandUp h hp hweights)
    _ ≤ marginUp decimal weights p := by
        rw [marginUp_eq]
        exact (h.sqrt hp hradicand).le_nextPlus hp hpos

/-- With more digits every step of the margin is no larger. -/
theorem marginUp_precision (hreference : reference.CorrectlyRounded) (h : decimal.CorrectlyRounded)
    (hp : 0 < p) (hlt : p < q) (hweights : 0 < weights) :
    marginUp reference weights q ≤ marginUp decimal weights p := by
  have hq : 0 < q := Nat.lt_trans hp hlt
  have hlogarithm : logarithmUp reference q ≤ logarithmUp decimal p :=
    (h.ln hp one_lt_alpha).nextPlus_le_nextPlus hp hlt (hreference.ln hq one_lt_alpha) log_alpha_pos
      (le_refl _)
  have hproduct : logarithmUp reference q * ceilTo q weights ≤
      logarithmUp decimal p * ceilTo p weights :=
    mul_le_mul hlogarithm (ceilTo_precision hp hlt.le (le_refl weights)) (ceilTo_pos hweights).le
      (logarithmUp_pos h hp).le
  have hradicand : radicandUp reference weights q ≤ radicandUp decimal weights p := by
    refine ceilTo_precision hp hlt.le (div_le_div_of_nonneg_right ?_ (by norm_num))
    exact ceilTo_precision hp hlt.le hproduct
  have hpositive := radicandUp_pos hreference hq hweights
  rw [marginUp_eq, marginUp_eq]
  refine (h.sqrt hp (radicandUp_pos h hp hweights)).nextPlus_le_nextPlus hp hlt
    (hreference.sqrt hq hpositive) (Real.sqrt_pos.mpr (by exact_mod_cast hpositive)) ?_
  exact Real.sqrt_le_sqrt (by exact_mod_cast hradicand)

/-! ### The counts -/

/-- A run that offered something, and no more of it found the ring full. -/
def Countable (count : Int × Int) : Prop := 0 < count.1 ∧ 0 ≤ count.2 ∧ count.2 ≤ count.1

def offeredTotal (counts : List (Int × Int)) : Int := (counts.map Prod.fst).sum

def fullTotal (counts : List (Int × Int)) : Int := (counts.map Prod.snd).sum

/-- The sum of the squared weights. -/
def weightSum (counts : List (Int × Int)) : ℚ :=
  (counts.map fun count => ((count.1 : ℚ) / offeredTotal counts) ^ 2).sum

theorem requireExactNonnegative_ok {value : Int} (h : 0 ≤ value) (path : String) :
    requireExactNonnegative value path = .ok () := if_neg (not_lt.mpr h)

theorem totals_eq (counts : List (Int × Int)) (h : ∀ count ∈ counts, Countable count) :
    ∀ (index : Nat) (offered full : Int), totals index offered full counts =
      .ok (offered + offeredTotal counts, full + fullTotal counts) := by
  induction counts with
  | nil =>
      intro index offered full
      simp [totals, offeredTotal, fullTotal]
      rfl
  | cons count rest ih =>
      intro index offered full
      obtain ⟨⟨hoffered, hfull, hle⟩, hrest⟩ := List.forall_mem_cons.mp h
      obtain ⟨own, ownFull⟩ := count
      rw [totals, requireExactNonnegative_ok hoffered.le, requireExactNonnegative_ok hfull,
        Fallible.ok_bind, Fallible.ok_bind, if_neg hoffered.ne', if_neg (not_lt.mpr hle)]
      have hih := ih hrest (index + 1) (offered + own) (full + ownFull)
      simp only [offeredTotal, fullTotal, List.map_cons, List.sum_cons, ← add_assoc] at hih ⊢
      exact hih

variable {counts : List (Int × Int)}

theorem offeredTotal_pos (hne : counts ≠ []) (h : ∀ count ∈ counts, Countable count) :
    0 < offeredTotal counts := by
  apply List.sum_pos
  · intro offered hoffered
    obtain ⟨count, hcount, rfl⟩ := List.mem_map.mp hoffered
    exact (h count hcount).1
  · simpa using hne

theorem weightSum_pos (hne : counts ≠ []) (h : ∀ count ∈ counts, Countable count) :
    0 < weightSum counts := by
  apply List.sum_pos
  · intro weight hweight
    obtain ⟨count, hcount, rfl⟩ := List.mem_map.mp hweight
    have hoffered : (0 : ℚ) < count.1 := by exact_mod_cast (h count hcount).1
    have htotal : (0 : ℚ) < offeredTotal counts := by exact_mod_cast offeredTotal_pos hne h
    positivity
  · simpa using hne

/-! ### The bound -/

/-- The bound before it is limited to one. -/
def boundUp (decimal : DecimalModule) (counts : List (Int × Int)) (p : Nat) : ℚ :=
  ceilTo p (ceilTo p ((fullTotal counts : ℚ) / offeredTotal counts) +
    marginUp decimal (weightSum counts) p)

theorem ceilTo_limited (hp : 0 < p) (decimal : DecimalModule) (counts : List (Int × Int)) :
    ceilTo p (if boundUp decimal counts p > 1 then 1 else boundUp decimal counts p) =
      min 1 (boundUp decimal counts p) := by
  have hone : IsDecimal p 1 := by simpa using isDecimal_pow hp 0
  by_cases hover : boundUp decimal counts p > 1
  · rw [if_pos hover, min_eq_left hover.le, ceilTo_eq hp hone]
  · rw [if_neg hover, min_eq_right (not_lt.mp hover)]
    exact ceilTo_eq hp (isDecimal_ceilTo hp _)

theorem pUpperAt_eq (hp : 0 < p) (decimal : DecimalModule) (hne : counts ≠ [])
    (h : ∀ count ∈ counts, Countable count) : pUpperAt decimal counts p =
      .ok ((fullTotal counts : ℚ) / offeredTotal counts, weightSum counts,
        min 1 (boundUp decimal counts p)) := by
  rw [pUpperAt, if_neg hne, totals_eq counts h, ← ceilTo_limited hp]
  simp only [zero_add]
  rfl

/-- The exact bound of the method, before it is limited to one. -/
noncomputable def hoeffding (counts : List (Int × Int)) : ℝ :=
  ((fullTotal counts : ℚ) / offeredTotal counts : ℚ) +
    √(Real.log (ACCEPTED_ALPHA_DENOMINATOR : ℚ) * weightSum counts / 2)

theorem hoeffding_le_boundUp (hrounded : decimal.CorrectlyRounded) (hp : 0 < p)
    (hne : counts ≠ []) (h : ∀ count ∈ counts, Countable count) :
    hoeffding counts ≤ boundUp decimal counts p := by
  have hfraction : (((fullTotal counts : ℚ) / offeredTotal counts : ℚ) : ℝ) ≤
      ceilTo p ((fullTotal counts : ℚ) / offeredTotal counts) := by exact_mod_cast le_ceilTo p _
  have hmargin := le_marginUp hrounded hp (weightSum_pos hne h)
  have hsum : ((ceilTo p ((fullTotal counts : ℚ) / offeredTotal counts) +
      marginUp decimal (weightSum counts) p : ℚ) : ℝ) ≤ boundUp decimal counts p :=
    Rat.cast_le.mpr (le_ceilTo p _)
  rw [Rat.cast_add] at hsum
  rw [hoeffding]
  linarith

theorem boundUp_precision (hreference : reference.CorrectlyRounded)
    (hrounded : decimal.CorrectlyRounded) (hp : 0 < p) (hlt : p < q) (hne : counts ≠ [])
    (h : ∀ count ∈ counts, Countable count) :
    boundUp reference counts q ≤ boundUp decimal counts p := by
  refine ceilTo_precision hp hlt.le (add_le_add ?_ ?_)
  · exact ceilTo_precision hp hlt.le (le_refl _)
  · exact marginUp_precision hreference hrounded hp hlt (weightSum_pos hne h)

/--
The bound of a cell: exact fractions, and a decimal between the exact bound and one that the
reference does not exceed.
-/
theorem p_upper_encloses {runtime : Runtime} (hversion : runtime.version = (3, 14))
    (hdecimal : runtime.decimal.CorrectlyRounded) (hpydecimal : runtime.pydecimal.CorrectlyRounded)
    {counts : List (Int × Int)} (hne : counts ≠ []) (h : ∀ count ∈ counts, Countable count) :
    ∃ upper reference, pUpper runtime counts =
        .ok ((fullTotal counts : ℚ) / offeredTotal counts, weightSum counts, upper) ∧
      pUpperReference runtime counts = .ok reference ∧
      min 1 (hoeffding counts) ≤ upper ∧ upper ≤ 1 ∧ reference ≤ upper := by
  have hwork : 0 < WORK_PRECISION := by decide
  have hguard : WORK_PRECISION < REFERENCE_PRECISION := by decide
  have hruntime : requireRuntime runtime = .ok () := if_neg (not_ne_iff.mpr hversion)
  refine ⟨min 1 (boundUp runtime.decimal counts WORK_PRECISION),
    min 1 (boundUp runtime.pydecimal counts REFERENCE_PRECISION), ?_, ?_, ?_, min_le_left _ _, ?_⟩
  · rw [pUpper, hruntime, Fallible.ok_bind, pUpperAt_eq hwork _ hne h]
  · rw [pUpperReference, hruntime, Fallible.ok_bind,
      pUpperAt_eq (Nat.lt_trans hwork hguard) _ hne h]
    rfl
  · rw [Rat.cast_min, Rat.cast_one]
    exact min_le_min_left 1 (hoeffding_le_boundUp hdecimal hwork hne h)
  · exact min_le_min_left 1 (boundUp_precision hpydecimal hdecimal hwork hguard hne h)

/-- A decimal module whose operations take the nearest decimal. -/
noncomputable def nearestModule : DecimalModule where
  ln p x := nearest p (Real.log x)
  sqrt p x := nearest p √(x : ℝ)

theorem nearestModule_rounded : nearestModule.CorrectlyRounded where
  ln hp hx := isNearest_nearest hp (Real.log_pos (by exact_mod_cast hx))
  sqrt hp hx := isNearest_nearest hp (Real.sqrt_pos.mpr (by exact_mod_cast hx))

/-- At two runs of 100 and 200 offered events, one of which found the ring full once. -/
theorem p_upper_encloses_two :
    ∃ upper reference, pUpper ⟨(3, 14), nearestModule, nearestModule⟩ [(100, 0), (200, 1)] =
        .ok ((fullTotal [(100, 0), (200, 1)] : ℚ) / offeredTotal [(100, 0), (200, 1)],
          weightSum [(100, 0), (200, 1)], upper) ∧
      pUpperReference ⟨(3, 14), nearestModule, nearestModule⟩ [(100, 0), (200, 1)] = .ok reference ∧
      min 1 (hoeffding [(100, 0), (200, 1)]) ≤ upper ∧ upper ≤ 1 ∧ reference ≤ upper :=
  p_upper_encloses rfl nearestModule_rounded nearestModule_rounded (by simp) (by simp [Countable])

end CpuPrefetch.Tools.CalibrationStatistics
