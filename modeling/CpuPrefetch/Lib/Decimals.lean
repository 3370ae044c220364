/-
Decimal arithmetic of a fixed precision, with exact rationals for its numbers.

A decimal of precision `p` is an integer of at most `p` digits times a power of ten; exponents
are unbounded.  Rounding upwards takes the least decimal that is no less.  A function that is
correctly rounded gives a nearest decimal, so the decimal after it encloses the exact value from
above; and the enclosure of a higher precision is no larger, since the middle of two
neighbours is a decimal with one digit more.
-/
import Mathlib

namespace Decimals

/-- A number of at most `p` decimal digits. -/
def IsDecimal (p : Nat) (y : ℚ) : Prop :=
  ∃ m e : ℤ, |m| < 10 ^ p ∧ y = m * 10 ^ e

/-- One unit in the last place of `p` digits. -/
def quantum (p : Nat) (x : ℚ) : ℚ := 10 ^ (Int.log 10 |x| - p + 1)

/-- Rounding toward plus infinity. -/
def ceilTo (p : Nat) (x : ℚ) : ℚ := ⌈x / quantum p x⌉ * quantum p x

/-- The next representable number. -/
def nextPlus (p : Nat) (x : ℚ) : ℚ :=
  if ceilTo p x ≠ x then ceilTo p x else ceilTo p (x + quantum p x / 10)

theorem quantum_pos (p : Nat) (x : ℚ) : 0 < quantum p x := zpow_pos (by norm_num) _

/-! ### The grid -/

variable {p q : Nat} {x y : ℚ}

theorem pow_natCast_add (n : Nat) (k : ℤ) :
    (10 : ℚ) ^ ((n : ℤ) + k) = (10 ^ n : ℤ) * 10 ^ k := by
  rw [zpow_add₀ (by norm_num), zpow_natCast]
  push_cast
  rfl

theorem IsDecimal.mono (h : IsDecimal p y) (hle : p ≤ q) : IsDecimal q y := by
  obtain ⟨m, e, hm, rfl⟩ := h
  exact ⟨m, e, lt_of_lt_of_le hm (pow_le_pow_right₀ (by norm_num) hle), rfl⟩

theorem isDecimal_pow (hp : 0 < p) (k : ℤ) : IsDecimal p (10 ^ k) := by
  refine ⟨1, k, ?_, by rw [Int.cast_one, one_mul]⟩
  rw [abs_one]
  exact one_lt_pow₀ (by norm_num) hp.ne'

/-- The largest coefficient and one more is a decimal as well, one digit up. -/
theorem isDecimal_mul (hp : 0 < p) {n : ℤ} (h : |n| ≤ 10 ^ p) (k : ℤ) :
    IsDecimal p (n * 10 ^ k) := by
  rcases lt_or_eq_of_le h with hlt | heq
  · exact ⟨n, k, hlt, rfl⟩
  · obtain ⟨r, rfl⟩ : ∃ r, p = r + 1 := ⟨p - 1, by omega⟩
    have hten : (10 : ℚ) ^ (k + 1) = 10 ^ k * 10 := zpow_add_one₀ (by norm_num) k
    have hpow : |(10 : ℤ) ^ r| < 10 ^ (r + 1) := by
      rw [abs_of_pos (by positivity)]
      exact pow_lt_pow_right₀ (by norm_num) (Nat.lt_succ_self r)
    rcases abs_eq (by positivity) |>.mp heq with hpositive | hnegative
    · refine ⟨10 ^ r, k + 1, hpow, ?_⟩
      rw [hpositive, hten]
      push_cast
      ring
    · refine ⟨-10 ^ r, k + 1, by rwa [abs_neg], ?_⟩
      rw [hnegative, hten]
      push_cast
      ring

/-- A decimal of at least this size is a whole number of the units of that size. -/
theorem IsDecimal.multiple (h : IsDecimal p y) {k : ℤ} (hk : (10 : ℚ) ^ k ≤ |y|) :
    ∃ n : ℤ, y = n * 10 ^ (k - p + 1) := by
  obtain ⟨m, e, hm, rfl⟩ := h
  have hcoefficient : |(m : ℚ)| < 10 ^ (p : ℤ) := by
    rw [zpow_natCast]
    exact_mod_cast hm
  have hbelow : (10 : ℚ) ^ k < 10 ^ ((p : ℤ) + e) := by
    rw [zpow_add₀ (by norm_num)]
    refine lt_of_le_of_lt hk ?_
    rw [abs_mul, abs_of_pos (zpow_pos (by norm_num) e : (0 : ℚ) < 10 ^ e)]
    exact mul_lt_mul_of_pos_right hcoefficient (zpow_pos (by norm_num) e)
  have hexponent : k < p + e := (zpow_lt_zpow_iff_right₀ (by norm_num)).mp hbelow
  obtain ⟨d, hd⟩ := Int.le.dest (show k - p + 1 ≤ e by omega)
  refine ⟨m * 10 ^ d, ?_⟩
  rw [← hd, zpow_add₀ (by norm_num), zpow_natCast]
  push_cast
  ring

theorem pow_log_le (hx : x ≠ 0) : (10 : ℚ) ^ Int.log 10 |x| ≤ |x| := by
  exact_mod_cast Int.zpow_log_le_self (by norm_num : 1 < 10) (abs_pos.mpr hx)

theorem lt_pow_log (x : ℚ) : |x| < (10 : ℚ) ^ (Int.log 10 |x| + 1) := by
  exact_mod_cast Int.lt_zpow_succ_log_self (by norm_num : 1 < 10) |x|

/-- The power of ten below a number in its own units. -/
theorem pow_log_eq (hp : 0 < p) (x : ℚ) :
    (10 : ℚ) ^ Int.log 10 |x| = (10 ^ (p - 1) : ℤ) * quantum p x := by
  rw [quantum, ← pow_natCast_add]
  congr 1
  omega

theorem pow_succ_log_eq (p : Nat) (x : ℚ) :
    (10 : ℚ) ^ (Int.log 10 |x| + 1) = (10 ^ p : ℤ) * quantum p x := by
  rw [quantum, ← pow_natCast_add]
  congr 1
  omega

/-! ### Rounding upwards -/

theorem le_ceilTo (p : Nat) (x : ℚ) : x ≤ ceilTo p x := by
  have h := Int.le_ceil (x / quantum p x)
  rwa [div_le_iff₀ (quantum_pos p x)] at h

theorem isDecimal_ceilTo (hp : 0 < p) (x : ℚ) : IsDecimal p (ceilTo p x) := by
  refine isDecimal_mul hp (abs_le.mpr ⟨?_, ?_⟩) _
  · have hlt := (abs_lt.mp (lt_pow_log x)).1
    rw [pow_succ_log_eq p x, ← neg_mul, ← lt_div_iff₀ (quantum_pos p x)] at hlt
    have hle := le_trans hlt.le (Int.le_ceil _)
    exact_mod_cast hle
  · have hlt := (abs_lt.mp (lt_pow_log x)).2
    rw [pow_succ_log_eq p x, ← div_lt_iff₀ (quantum_pos p x)] at hlt
    exact Int.ceil_le.mpr hlt.le

/-- No decimal lies between a number and what it is rounded to. -/
theorem ceilTo_le (hp : 0 < p) (hy : IsDecimal p y) (h : x ≤ y) : ceilTo p x ≤ y := by
  rcases eq_or_ne x 0 with rfl | hx
  · rw [ceilTo, zero_div, Int.ceil_zero, Int.cast_zero, zero_mul]
    exact h
  rcases le_or_gt ((10 : ℚ) ^ Int.log 10 |x|) |y| with hlarge | hsmall
  · obtain ⟨n, hn⟩ := hy.multiple hlarge
    have hn : y = n * quantum p x := hn
    rw [hn] at h ⊢
    refine mul_le_mul_of_nonneg_right ?_ (quantum_pos p x).le
    exact_mod_cast Int.ceil_le.mpr ((div_le_iff₀ (quantum_pos p x)).mpr h)
  · -- the decimal is smaller than the number, which is therefore negative
    have hbound := (abs_lt.mp hsmall).1
    have hsize := pow_log_le hx
    have hnegative : x < 0 := by
      by_contra hnonneg
      rw [abs_of_nonneg (not_lt.mp hnonneg)] at hsize hsmall
      exact absurd (le_trans hsize h) (not_le.mpr (lt_of_le_of_lt (le_abs_self y) hsmall))
    have hbelow : x ≤ ((-10 ^ (p - 1) : ℤ) : ℚ) * quantum p x := by
      rw [abs_of_neg hnegative] at hsize
      have hpow := pow_log_eq hp x
      rw [abs_of_neg hnegative] at hpow
      push_cast at hpow ⊢
      linarith
    have hceil : ceilTo p x ≤ ((-10 ^ (p - 1) : ℤ) : ℚ) * quantum p x := by
      refine mul_le_mul_of_nonneg_right ?_ (quantum_pos p x).le
      exact_mod_cast Int.ceil_le.mpr ((div_le_iff₀ (quantum_pos p x)).mpr hbelow)
    have hpow := pow_log_eq hp x
    push_cast at hceil hpow
    linarith

theorem ceilTo_eq (hp : 0 < p) (hx : IsDecimal p x) : ceilTo p x = x :=
  le_antisymm (ceilTo_le hp hx (le_refl x)) (le_ceilTo p x)

/-- More digits round up by no more. -/
theorem ceilTo_precision (hp : 0 < p) (hle : p ≤ q) (h : x ≤ y) : ceilTo q x ≤ ceilTo p y :=
  ceilTo_le (Nat.lt_of_lt_of_le hp hle) ((isDecimal_ceilTo hp y).mono hle)
    (le_trans h (le_ceilTo p y))

theorem ceilTo_pos (h : 0 < x) : 0 < ceilTo p x := lt_of_lt_of_le h (le_ceilTo p x)

/-! ### The next decimal -/

/-- A positive decimal counts its own units. -/
theorem IsDecimal.coefficient (hx : IsDecimal p x) (hpos : 0 < x) :
    ∃ m : ℤ, 0 < m ∧ m < 10 ^ p ∧ x = m * quantum p x := by
  obtain ⟨m, hm⟩ := hx.multiple (pow_log_le hpos.ne')
  have hm : x = m * quantum p x := hm
  refine ⟨m, ?_, ?_, hm⟩
  · have hproduct : 0 < (m : ℚ) * quantum p x := hm ▸ hpos
    exact_mod_cast pos_of_mul_pos_left hproduct (quantum_pos p x).le
  · have hbound := lt_pow_log x
    rw [pow_succ_log_eq p x, abs_of_pos hpos] at hbound
    nth_rewrite 1 [hm] at hbound
    exact_mod_cast lt_of_mul_lt_mul_right hbound (quantum_pos p x).le

/-- A larger decimal is larger by a unit at least. -/
theorem add_quantum_le (hx : IsDecimal p x) (hpos : 0 < x) (hy : IsDecimal p y) (h : x < y) :
    x + quantum p x ≤ y := by
  have hsize := pow_log_le hpos.ne'
  obtain ⟨m, -, -, hm⟩ := hx.coefficient hpos
  have hlarge : (10 : ℚ) ^ Int.log 10 |x| ≤ |y| := by
    rw [abs_of_pos hpos] at hsize ⊢
    exact le_trans hsize (le_trans h.le (le_abs_self y))
  obtain ⟨n, hn⟩ := hy.multiple hlarge
  have hn : y = n * quantum p x := hn
  have hlt : m < n := by
    rw [hn] at h
    nth_rewrite 1 [hm] at h
    exact_mod_cast lt_of_mul_lt_mul_right h (quantum_pos p x).le
  have hle : ((m : ℚ) + 1) * quantum p x ≤ n * quantum p x :=
    mul_le_mul_of_nonneg_right (by exact_mod_cast hlt) (quantum_pos p x).le
  rw [hn]
  nth_rewrite 1 [hm]
  linarith

theorem isDecimal_add_quantum (hp : 0 < p) (hx : IsDecimal p x) (hpos : 0 < x) :
    IsDecimal p (x + quantum p x) := by
  obtain ⟨m, hmpos, hlt, hm⟩ := hx.coefficient hpos
  have hsum : x + quantum p x = ((m + 1 : ℤ) : ℚ) * quantum p x := by
    nth_rewrite 1 [hm]
    push_cast
    ring
  rw [hsum]
  refine isDecimal_mul hp ?_ _
  rw [abs_of_pos (by omega)]
  omega

/-- The decimal after a decimal is one unit larger. -/
theorem nextPlus_eq (hp : 0 < p) (hx : IsDecimal p x) (hpos : 0 < x) :
    nextPlus p x = x + quantum p x := by
  have hunit := quantum_pos p x
  rw [nextPlus, if_neg (not_not.mpr (ceilTo_eq hp hx))]
  apply le_antisymm
  · exact ceilTo_le hp (isDecimal_add_quantum hp hx hpos) (by linarith)
  · have hstep := le_ceilTo p (x + quantum p x / 10)
    exact add_quantum_le hx hpos (isDecimal_ceilTo hp _) (by linarith)

theorem isDecimal_nextPlus (hp : 0 < p) (hx : IsDecimal p x) (hpos : 0 < x) :
    IsDecimal p (nextPlus p x) := by
  rw [nextPlus_eq hp hx hpos]
  exact isDecimal_add_quantum hp hx hpos

theorem lt_nextPlus (hp : 0 < p) (hx : IsDecimal p x) (hpos : 0 < x) : x < nextPlus p x := by
  rw [nextPlus_eq hp hx hpos]
  exact lt_add_of_pos_right _ (quantum_pos p x)

theorem nextPlus_le (hp : 0 < p) (hx : IsDecimal p x) (hpos : 0 < x) (hy : IsDecimal p y)
    (h : x < y) : nextPlus p x ≤ y := by
  rw [nextPlus_eq hp hx hpos]
  exact add_quantum_le hx hpos hy h

/-- The middle of two neighbours needs one digit more. -/
theorem isDecimal_middle (hx : IsDecimal p x) (hpos : 0 < x) :
    IsDecimal (p + 1) (x + quantum p x / 2) := by
  obtain ⟨m, hmpos, hlt, hm⟩ := hx.coefficient hpos
  refine ⟨10 * m + 5, Int.log 10 |x| - p + 1 - 1, ?_, ?_⟩
  · rw [abs_of_pos (by omega), pow_succ]
    omega
  · rw [zpow_sub_one₀ (by norm_num)]
    nth_rewrite 1 [hm]
    rw [quantum]
    push_cast
    ring

/-! ### Nearest decimals -/

/-- A decimal than which none is nearer. -/
def IsNearest (p : Nat) (value : ℝ) (y : ℚ) : Prop :=
  IsDecimal p y ∧ ∀ d, IsDecimal p d → |value - y| ≤ |value - d|

variable {value smaller : ℝ}

theorem IsNearest.pos (hp : 0 < p) (h : IsNearest p value y) (hpos : 0 < value) : 0 < y := by
  by_contra hle
  have hle : (y : ℝ) ≤ 0 := by exact_mod_cast not_lt.mp hle
  have hlog : (10 : ℝ) ^ Int.log 10 value ≤ value := by
    exact_mod_cast Int.zpow_log_le_self (by norm_num : 1 < 10) hpos
  have hten : (0 : ℝ) < (10 : ℝ) ^ Int.log 10 value := zpow_pos (by norm_num) _
  have hnear := h.2 _ (isDecimal_pow hp (Int.log 10 value))
  push_cast at hnear
  rw [abs_of_nonneg (by linarith), abs_of_nonneg (by linarith)] at hnear
  linarith

/-- Nearest decimals do not pass a decimal. -/
theorem IsNearest.le_of_le (h : IsNearest p value y) {d : ℚ} (hd : IsDecimal p d)
    (hle : value ≤ d) : y ≤ d := by
  by_contra hlt
  have hlt : (d : ℝ) < y := by exact_mod_cast not_le.mp hlt
  have hnear := h.2 d hd
  rw [abs_of_nonpos (by linarith), abs_of_nonpos (by linarith)] at hnear
  linarith

/-- The decimal after a nearest one encloses the value. -/
theorem IsNearest.le_nextPlus (hp : 0 < p) (h : IsNearest p value y) (hpos : 0 < value) :
    value ≤ nextPlus p y := by
  have hy := h.pos hp hpos
  by_contra hlt
  have hlt := not_le.mp hlt
  have hnext : (y : ℝ) < nextPlus p y := by exact_mod_cast lt_nextPlus hp h.1 hy
  have hnear := h.2 _ (isDecimal_nextPlus hp h.1 hy)
  rw [abs_of_nonneg (by linarith), abs_of_nonneg (by linarith)] at hnear
  linarith

/-- A decimal of one digit more lies between a value and the decimal that encloses it. -/
theorem IsNearest.between (hp : 0 < p) (h : IsNearest p value y) (hpos : 0 < value) :
    ∃ d, IsDecimal (p + 1) d ∧ value ≤ d ∧ d < nextPlus p y := by
  have hy := h.pos hp hpos
  have hnext := nextPlus_eq hp h.1 hy
  have hunit := quantum_pos p y
  rcases le_or_gt value y with hle | hgt
  · exact ⟨y, h.1.mono (Nat.le_succ p), hle, lt_nextPlus hp h.1 hy⟩
  · refine ⟨y + quantum p y / 2, isDecimal_middle h.1 hy, ?_, by rw [hnext]; linarith⟩
    have hencloses := h.le_nextPlus hp hpos
    have hnear := h.2 _ (isDecimal_nextPlus hp h.1 hy)
    rw [abs_of_nonneg (by linarith), abs_of_nonpos (by linarith), hnext] at hnear
    push_cast at hnear ⊢
    linarith

/-- Of a smaller value, and with more digits, the enclosure is no larger. -/
theorem IsNearest.nextPlus_le_nextPlus (hp : 0 < p) (hlt : p < q) {z : ℚ}
    (h : IsNearest p value y) (hsmaller : IsNearest q smaller z) (hpos : 0 < smaller)
    (hle : smaller ≤ value) : nextPlus q z ≤ nextPlus p y := by
  have hq : 0 < q := Nat.lt_trans hp hlt
  have hvalue := lt_of_lt_of_le hpos hle
  obtain ⟨d, hd, hvalueLe, hdLt⟩ := h.between hp hvalue
  have hz : z ≤ d := hsmaller.le_of_le (hd.mono hlt) (le_trans hle hvalueLe)
  exact nextPlus_le hq hsmaller.1 (hsmaller.pos hq hpos)
    ((isDecimal_nextPlus hp h.1 (h.pos hp hvalue)).mono hlt.le) (lt_of_le_of_lt hz hdLt)

/-! ### A nearest decimal -/

/-- The unit in the last place of a positive real number. -/
noncomputable def unit (p : Nat) (value : ℝ) : ℚ := 10 ^ (Int.log 10 value - p + 1)

/-- The decimal of the nearest number of units. -/
noncomputable def nearest (p : Nat) (value : ℝ) : ℚ := round (value / unit p value) * unit p value

theorem unit_pos (p : Nat) (value : ℝ) : (0 : ℝ) < unit p value := by
  exact_mod_cast zpow_pos (by norm_num : (0 : ℚ) < 10) _

/-- No whole number of units is nearer. -/
theorem nearest_le (p : Nat) (value : ℝ) (n : ℤ) :
    |value - nearest p value| ≤ |value - (n * unit p value : ℚ)| := by
  have hunit := unit_pos p value
  have hscaled : ∀ k : ℤ, |value - (k * unit p value : ℚ)| =
      |value / unit p value - k| * unit p value := by
    intro k
    rw [← abs_of_pos hunit, ← abs_mul, abs_of_pos hunit, sub_mul, div_mul_cancel₀ _ hunit.ne']
    push_cast
    rfl
  rw [nearest, hscaled, hscaled]
  exact mul_le_mul_of_nonneg_right (round_le _ n) hunit.le

theorem isNearest_nearest (hp : 0 < p) (hpos : 0 < value) :
    IsNearest p value (nearest p value) := by
  have hunit := unit_pos p value
  have hlow : ((10 ^ (p - 1) : ℤ) * unit p value : ℚ) = (10 : ℚ) ^ Int.log 10 value := by
    rw [unit, ← pow_natCast_add]
    congr 1
    omega
  have hhigh : ((10 ^ p : ℤ) * unit p value : ℚ) = (10 : ℚ) ^ (Int.log 10 value + 1) := by
    rw [unit, ← pow_natCast_add]
    congr 1
    omega
  have hlowLe : ((10 : ℚ) ^ Int.log 10 value : ℚ) ≤ value := by
    push_cast
    exact_mod_cast Int.zpow_log_le_self (by norm_num : 1 < 10) hpos
  have hltHigh : value < ((10 : ℚ) ^ (Int.log 10 value + 1) : ℚ) := by
    push_cast
    exact_mod_cast Int.lt_zpow_succ_log_self (by norm_num : 1 < 10) value
  constructor
  · refine isDecimal_mul hp (abs_le.mpr ⟨?_, ?_⟩) _
    · have hnonneg : 0 ≤ round (value / unit p value) := by
        rw [round_eq]
        exact Int.floor_nonneg.mpr (by positivity)
      have hten : (0 : ℤ) ≤ 10 ^ p := by positivity
      omega
    · have hbelow : value / unit p value < (10 ^ p : ℤ) := by
        rw [div_lt_iff₀ hunit]
        rw [← hhigh] at hltHigh
        exact_mod_cast hltHigh
      rw [round_eq]
      have hfloor : ⌊value / unit p value + 1 / 2⌋ < (10 ^ p : ℤ) + 1 := by
        rw [Int.floor_lt]
        push_cast at hbelow ⊢
        linarith
      omega
  · intro d hd
    rcases le_or_gt ((10 : ℚ) ^ Int.log 10 value) |d| with hlarge | hsmall
    · obtain ⟨n, hn⟩ := hd.multiple hlarge
      rw [hn]
      exact nearest_le p value n
    · refine le_trans (nearest_le p value (10 ^ (p - 1))) ?_
      have hd : (d : ℝ) < ((10 : ℚ) ^ Int.log 10 value : ℚ) := by
        exact_mod_cast lt_of_le_of_lt (le_abs_self d) hsmall
      rw [hlow, abs_of_nonneg (by linarith), abs_of_nonneg (by linarith)]
      linarith

end Decimals
