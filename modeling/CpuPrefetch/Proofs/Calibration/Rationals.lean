/-
The arithmetic of exact rationals is that of the rationals.

Both factors of a product are first cancelled crosswise, so the product of what is left is in
lowest terms whenever each factor was, and the checks then refuse a numerator or a denominator
only when it is not a 64-bit word.  The comparison keeps one invariant over its passes: the
sign it started with is the sign of the present fractions, turned as often as they were
inverted.
-/
import CpuPrefetch.Calibration.Rationals
import CpuPrefetch.Lib.Words
import CpuPrefetch.Lib.Reciprocals

namespace CpuPrefetch.Calibration

open Reciprocals (fraction)
open Protocol (Result)

/-- The number that a rational stands for. -/
def ExactRational.value (r : ExactRational) : ℚ := fraction r.numerator.toNat r.denominator.toNat

/-- In lowest terms. -/
def ExactRational.Reduced (r : ExactRational) : Prop :=
  r.denominator ≠ 0 ∧ Nat.Coprime r.numerator.toNat r.denominator.toNat

theorem toNat_ne_zero {word : UInt64} : word.toNat ≠ 0 ↔ word ≠ 0 := by
  rw [not_iff_not, ← UInt64.toNat_inj, UInt64.toNat_zero]

/-! ### Comparison -/

/-- The fractions that the loop holds, the left one less the right one. -/
def Comparison.difference (c : Comparison) : ℚ :=
  fraction c.leftNumerator.toNat c.leftDenominator.toNat -
    fraction c.rightNumerator.toNat c.rightDenominator.toNat

/-- What the loop is to return: the sign of the difference, turned when inverted. -/
def Comparison.expected (c : Comparison) : Int :=
  if c.inverted then -(SignType.sign c.difference : Int) else SignType.sign c.difference

variable {c : Comparison}

theorem Comparison.oriented {sign : SignType} {result : Int}
    (hsign : SignType.sign c.difference = sign) (hresult : (sign : Int) = result) :
    (if c.inverted then -result else result) = c.expected := by
  rw [Comparison.expected, hsign, hresult]

theorem div_ne_iff {a b c d : UInt64} : a / b ≠ c / d ↔ a.toNat / b.toNat ≠ c.toNat / d.toNat := by
  rw [not_iff_not, ← UInt64.toNat_inj, UInt64.toNat_div, UInt64.toNat_div]

theorem mod_eq_zero_iff {a b : UInt64} : a % b = 0 ↔ a.toNat % b.toNat = 0 := by
  rw [← UInt64.toNat_inj, UInt64.toNat_mod, UInt64.toNat_zero]

/-- Different quotients decide by themselves. -/
theorem Comparison.sign_of_quotients (hleft : c.leftDenominator ≠ 0)
    (hright : c.rightDenominator ≠ 0)
    (h : c.leftNumerator / c.leftDenominator ≠ c.rightNumerator / c.rightDenominator) :
    (SignType.sign c.difference : Int) =
      if c.leftNumerator / c.leftDenominator < c.rightNumerator / c.rightDenominator then -1
      else 1 := by
  have hleft' := toNat_ne_zero.mpr hleft
  have hright' := toNat_ne_zero.mpr hright
  have hne := div_ne_iff.mp h
  simp only [UInt64.lt_iff_toNat_lt, UInt64.toNat_div]
  by_cases hlt : c.leftNumerator.toNat / c.leftDenominator.toNat <
      c.rightNumerator.toNat / c.rightDenominator.toNat
  · rw [if_pos hlt, Comparison.difference, Reciprocals.sign_of_div_lt hleft' hright' hlt]
    rfl
  · have hgt : c.rightNumerator.toNat / c.rightDenominator.toNat <
        c.leftNumerator.toNat / c.leftDenominator.toNat := by omega
    rw [if_neg hlt, Comparison.difference, Reciprocals.sign_of_lt_div hleft' hright' hgt]
    rfl

/-- With one quotient, a side without a remainder is the smaller one. -/
theorem Comparison.sign_of_remainder (hleft : c.leftDenominator ≠ 0)
    (hright : c.rightDenominator ≠ 0)
    (hquotient : c.leftNumerator / c.leftDenominator = c.rightNumerator / c.rightDenominator)
    (h : c.leftNumerator % c.leftDenominator = 0 ∨ c.rightNumerator % c.rightDenominator = 0) :
    (SignType.sign c.difference : Int) =
      if c.leftNumerator % c.leftDenominator = 0 ∧ c.rightNumerator % c.rightDenominator = 0 then 0
      else if c.leftNumerator % c.leftDenominator = 0 then -1 else 1 := by
  have hleft' := toNat_ne_zero.mpr hleft
  have hright' := toNat_ne_zero.mpr hright
  have hquotient' := not_ne_iff.mp (mt div_ne_iff.mpr (not_ne_iff.mpr hquotient))
  have hrest := Reciprocals.sign_of_div_eq hleft' hright' hquotient'
  rw [Comparison.difference, hrest]
  simp only [mod_eq_zero_iff] at h ⊢
  by_cases hleftZero : c.leftNumerator.toNat % c.leftDenominator.toNat = 0
  · by_cases hrightZero : c.rightNumerator.toNat % c.rightDenominator.toNat = 0
    · rw [if_pos ⟨hleftZero, hrightZero⟩, hleftZero, hrightZero]
      simp [fraction]
    · rw [if_neg fun hboth => hrightZero hboth.2, if_pos hleftZero, hleftZero]
      have hpositive := Reciprocals.fraction_pos hrightZero hright'
      rw [sign_neg (by simpa [fraction] using hpositive)]
      rfl
  · have hrightZero := h.resolve_left hleftZero
    rw [if_neg fun hboth => hleftZero hboth.1, if_neg hleftZero, hrightZero]
    have hpositive := Reciprocals.fraction_pos hleftZero hleft'
    rw [sign_pos (by simpa [fraction] using hpositive)]
    rfl

/-- A pass divides by nonzero words only, and what it decides is the expected sign. -/
theorem Comparison.pass_spec (hleft : c.leftDenominator ≠ 0) (hright : c.rightDenominator ≠ 0) :
    c.pass = .decided c.expected ∨ ∃ next, c.pass = .again next := by
  simp only [Comparison.pass, if_neg (not_or.mpr ⟨hleft, hright⟩)]
  by_cases hquotient : c.leftNumerator / c.leftDenominator ≠ c.rightNumerator / c.rightDenominator
  · rw [if_pos hquotient, c.oriented rfl (c.sign_of_quotients hleft hright hquotient)]
    exact Or.inl rfl
  rw [if_neg hquotient]
  by_cases hremainder :
      c.leftNumerator % c.leftDenominator = 0 ∨ c.rightNumerator % c.rightDenominator = 0
  · have hsign := c.sign_of_remainder hleft hright (not_ne_iff.mp hquotient) hremainder
    rw [if_pos hremainder]
    by_cases hboth :
        c.leftNumerator % c.leftDenominator = 0 ∧ c.rightNumerator % c.rightDenominator = 0
    · rw [if_pos hboth] at hsign ⊢
      rw [Comparison.expected, hsign, neg_zero, ite_self]
      exact Or.inl rfl
    · rw [if_neg hboth] at hsign ⊢
      rw [c.oriented rfl hsign]
      exact Or.inl rfl
  · rw [if_neg hremainder]
    exact Or.inr ⟨_, rfl⟩

/-- The next pass starts with nonzero denominators again, and expects the same result. -/
theorem Comparison.pass_again_spec {next : Comparison} (h : c.pass = .again next) :
    next.leftDenominator ≠ 0 ∧ next.rightDenominator ≠ 0 ∧ next.expected = c.expected := by
  obtain ⟨hleft, hright, hquotient, hleftRest, hrightRest, rfl⟩ := c.pass_again h
  refine ⟨hleftRest, hrightRest, ?_⟩
  have hturn := Reciprocals.sign_of_remainders (toNat_ne_zero.mpr hleft) (toNat_ne_zero.mpr hright)
    (not_ne_iff.mp (mt div_ne_iff.mpr (not_ne_iff.mpr hquotient)))
    (mt mod_eq_zero_iff.mpr hleftRest) (mt mod_eq_zero_iff.mpr hrightRest)
  rw [← UInt64.toNat_mod, ← UInt64.toNat_mod] at hturn
  simp only [Comparison.expected, Comparison.difference, hturn]
  cases c.inverted <;> simp

theorem Comparison.loop_eq (c : Comparison) (hleft : c.leftDenominator ≠ 0)
    (hright : c.rightDenominator ≠ 0) : c.loop = some c.expected := by
  fun_induction Comparison.loop c with
  | case1 c hpass =>
      obtain hdecided | ⟨next, hagain⟩ := c.pass_spec hleft hright
      · rw [hpass] at hdecided
        cases hdecided
      · rw [hpass] at hagain
        cases hagain
  | case2 c result hpass =>
      obtain hdecided | ⟨next, hagain⟩ := c.pass_spec hleft hright
      · rw [hpass] at hdecided
        rw [Pass.decided.inj hdecided]
      · rw [hpass] at hagain
        cases hagain
  | case3 c next hpass hlt ih =>
      obtain ⟨hleft', hright', hexpected⟩ := c.pass_again_spec hpass
      rw [ih hleft' hright', hexpected]

variable {left right : ExactRational}

theorem compare_eq (hleft : left.denominator ≠ 0) (hright : right.denominator ≠ 0) :
    compare left right = some (.ok (SignType.sign (left.value - right.value) : Int)) := by
  have hzero : ¬(left.denominator = 0 || right.denominator = 0) = true := by
    simp [hleft, hright]
  rw [compare, if_neg hzero, Comparison.loop_eq _ hleft hright]
  rfl

/-- A rational with a nonzero denominator, in lowest terms or not. -/
abbrev ProperRational := { r : ExactRational // r.denominator ≠ 0 }

/-- The order that `compare` decides. -/
def AtMost (left right : ProperRational) : Prop :=
  ∃ result, compare left.val right.val = some (.ok result) ∧ result ≤ 0

theorem sign_cast_nonpos (sign : SignType) : (sign : Int) ≤ 0 ↔ sign ≤ 0 := by
  cases sign <;> decide

theorem atMost_iff {left right : ProperRational} :
    AtMost left right ↔ left.val.value ≤ right.val.value := by
  have hsign : (SignType.sign (left.val.value - right.val.value) : Int) ≤ 0 ↔
      left.val.value ≤ right.val.value := by
    rw [sign_cast_nonpos, sign_nonpos_iff, sub_nonpos]
  rw [← hsign, AtMost, compare_eq left.property right.property]
  constructor
  · rintro ⟨result, heq, hle⟩
    cases heq
    exact hle
  · intro hle
    exact ⟨_, rfl, hle⟩

/--
`compare` returns the sign of the difference, with no division by zero on the way, and so
orders the rationals by their values.
-/
theorem compare_orders_values :
    (∀ left right : ProperRational, compare left.val right.val =
        some (.ok (SignType.sign (left.val.value - right.val.value) : Int))) ∧
      (∀ rational, AtMost rational rational) ∧
      (∀ first second third, AtMost first second → AtMost second third → AtMost first third) ∧
      (∀ left right, AtMost left right ∨ AtMost right left) ∧
      ∀ left right, (AtMost left right ∧ AtMost right left) ↔ left.val.value = right.val.value := by
  refine ⟨fun left right => compare_eq left.property right.property, ?_, ?_, ?_, ?_⟩
  · exact fun rational => atMost_iff.mpr (le_refl _)
  · exact fun first second third hfirst hsecond =>
      atMost_iff.mpr (le_trans (atMost_iff.mp hfirst) (atMost_iff.mp hsecond))
  · intro left right
    rw [atMost_iff, atMost_iff]
    exact le_total _ _
  · intro left right
    rw [atMost_iff, atMost_iff]
    exact le_antisymm_iff.symm

/-- Two fractions that differ from the sixth quotient on, inverted five times before. -/
example : compare ⟨0xffffffffffffffff, 0xfffffffffffffffe⟩
    ⟨0xfffffffffffffffe, 0xfffffffffffffffd⟩ =
    some (.ok (-1)) := by
  simp [compare, Comparison.loop, Comparison.pass]

/-! ### Reduction -/

theorem toNat_gcd (left right : UInt64) :
    (gcd left right).toNat = Nat.gcd left.toNat right.toNat := by
  have hlt : Nat.gcd left.toNat right.toNat < 2 ^ 64 := by
    rcases Nat.eq_zero_or_pos right.toNat with hzero | hpositive
    · rw [hzero, Nat.gcd_zero_right]
      exact left.toNat_lt
    · exact lt_of_le_of_lt (Nat.gcd_le_right _ hpositive) right.toNat_lt
  rw [gcd, UInt64.toNat_ofNat', Nat.mod_eq_of_lt hlt]

/-- Both words divided by their greatest common divisor. -/
theorem cancelled (left : UInt64) {right : UInt64} (h : right ≠ 0) :
    ∃ divisor, 0 < divisor ∧ left.toNat = (left / gcd left right).toNat * divisor ∧
      right.toNat = (right / gcd left right).toNat * divisor ∧ right / gcd left right ≠ 0 ∧
      Nat.Coprime (left / gcd left right).toNat (right / gcd left right).toNat := by
  have hpositive : 0 < Nat.gcd left.toNat right.toNat :=
    Nat.gcd_pos_of_pos_right _ (Nat.pos_of_ne_zero (toNat_ne_zero.mpr h))
  have hright : right.toNat = (right / gcd left right).toNat * Nat.gcd left.toNat right.toNat := by
    rw [UInt64.toNat_div, toNat_gcd, Nat.div_mul_cancel (Nat.gcd_dvd_right _ _)]
  refine ⟨Nat.gcd left.toNat right.toNat, hpositive, ?_, hright, ?_, ?_⟩
  · rw [UInt64.toNat_div, toNat_gcd, Nat.div_mul_cancel (Nat.gcd_dvd_left _ _)]
  · intro hzero
    rw [hzero, UInt64.toNat_zero, Nat.zero_mul] at hright
    exact toNat_ne_zero.mpr h hright
  · rw [UInt64.toNat_div, UInt64.toNat_div, toNat_gcd]
    exact Nat.coprime_div_gcd_div_gcd hpositive

theorem fraction_scale (numerator denominator : Nat) {factor : Nat} (h : 0 < factor) :
    fraction (numerator * factor) (denominator * factor) = fraction numerator denominator := by
  have hne : (factor : ℚ) ≠ 0 := Nat.cast_ne_zero.mpr h.ne'
  rw [fraction, fraction, Nat.cast_mul, Nat.cast_mul, mul_div_mul_right _ _ hne]

theorem fraction_mul (a b c d : Nat) : fraction a b * fraction c d = fraction (a * c) (b * d) := by
  simp only [fraction, Nat.cast_mul, div_mul_div_comm]

/-- The numerator and the denominator of a fraction in lowest terms are those of its value. -/
theorem num_den_fraction {numerator denominator : Nat} (h : denominator ≠ 0)
    (hcoprime : Nat.Coprime numerator denominator) :
    (fraction numerator denominator).num = numerator ∧
      (fraction numerator denominator).den = denominator := by
  have hpositive : (0 : ℤ) < denominator := by exact_mod_cast Nat.pos_of_ne_zero h
  constructor
  · have hnum := Rat.num_div_eq_of_coprime (a := (numerator : ℤ)) hpositive
      (by simpa using hcoprime)
    simpa [fraction] using hnum
  · have hden := Rat.den_div_eq_of_coprime (a := (numerator : ℤ)) hpositive
      (by simpa using hcoprime)
    exact_mod_cast (by simpa [fraction] using hden : ((fraction numerator denominator).den : ℤ) =
      denominator)

theorem makeRational_spec (numerator : UInt64) {denominator : UInt64} (path : String)
    (h : denominator ≠ 0) :
    ∃ r, makeRational numerator denominator path = .ok r ∧ r.Reduced ∧
      r.value = fraction numerator.toNat denominator.toNat := by
  obtain ⟨divisor, hpositive, hnumerator, hdenominator, hne, hcoprime⟩ := cancelled numerator h
  refine ⟨⟨numerator / gcd numerator denominator, denominator / gcd numerator denominator⟩,
    ?_, ?_, ?_⟩
  · rw [makeRational, if_neg h]
  · exact ⟨hne, hcoprime⟩
  · rw [ExactRational.value, hnumerator, hdenominator, fraction_scale _ _ hpositive]

/-! ### Checked products -/

theorem checkedMultiply_fits {left right : UInt64} (h : left.toNat * right.toNat ≤ 2 ^ 64 - 1) :
    checkedMultiply left right = some (left * right) := by
  rw [checkedMultiply, if_neg]
  rw [CheckedWords.product_guard]
  omega

theorem checkedMultiply_overflows {left right : UInt64}
    (h : 2 ^ 64 - 1 < left.toNat * right.toNat) : checkedMultiply left right = none := by
  rw [checkedMultiply, if_pos]
  rwa [CheckedWords.product_guard]

theorem checkedMultiply_some {left right product : UInt64}
    (h : checkedMultiply left right = some product) :
    product.toNat = left.toNat * right.toNat := by
  rcases Nat.lt_or_ge (2 ^ 64 - 1) (left.toNat * right.toNat) with hover | hfits
  · rw [checkedMultiply_overflows hover] at h
    cases h
  · rw [checkedMultiply_fits hfits] at h
    rw [← Option.some.inj h, CheckedWords.toNat_mul hfits]

/-! ### Throughput -/

/-- The events of an observation for each second of it. -/
def ThroughputObservation.rate (observation : ThroughputObservation) : ℚ :=
  fraction (observation.consumedEvents.toNat * observation.ticksPerSecond.toNat)
    observation.intervalTicks.toNat

/-- The failure of a throughput that is no 64-bit fraction. -/
def throughputOverflow : Result ExactRational :=
  Protocol.Load.fail .outOfRange "$/service_run/consumed_events" "CAL-SERVICE-THROUGHPUT-OVERFLOW"
    "exact throughput numerator overflows u64"

theorem exactThroughput_spec {observation : ThroughputObservation}
    (hinterval : observation.intervalTicks ≠ 0) (hfrequency : observation.ticksPerSecond ≠ 0) :
    if observation.rate.num < 2 ^ 64 then
      ∃ r, exactThroughput observation = .ok r ∧ r.Reduced ∧ r.value = observation.rate
    else exactThroughput observation = throughputOverflow := by
  obtain ⟨consumed, interval, frequency⟩ := observation
  simp only at hinterval hfrequency
  obtain ⟨first, hfirst, hconsumed, hintervalFirst, hrest, hcoprime⟩ := cancelled consumed hinterval
  obtain ⟨second, hsecond, hfrequencySecond, hrestSecond, hlast, hcoprimeSecond⟩ :=
    cancelled frequency hrest
  have hzero : ¬(frequency = 0 || interval = 0) = true := by simp [hinterval, hfrequency]
  simp only [exactThroughput, if_neg hzero, ThroughputObservation.rate]
  generalize consumed / gcd consumed interval = c at *
  generalize interval / gcd consumed interval = i at *
  generalize frequency / gcd frequency i = f at *
  generalize i / gcd frequency i = j at *
  have hreduced : Nat.Coprime (c.toNat * f.toNat) j.toNat := by
    refine Nat.Coprime.mul_left (hcoprime.coprime_dvd_right ?_) hcoprimeSecond
    exact ⟨second, hrestSecond⟩
  have hrate : fraction (consumed.toNat * frequency.toNat) interval.toNat =
      fraction (c.toNat * f.toNat) j.toNat := by
    have hnumerator : consumed.toNat * frequency.toNat = c.toNat * f.toNat * (first * second) := by
      rw [hconsumed, hfrequencySecond]
      ring
    have hdenominator : interval.toNat = j.toNat * (first * second) := by
      rw [hintervalFirst, hrestSecond]
      ring
    rw [hnumerator, hdenominator, fraction_scale _ _ (Nat.mul_pos hfirst hsecond)]
  have hnum := (num_den_fraction (toNat_ne_zero.mpr hlast) hreduced).1
  rw [← hrate] at hnum
  by_cases hfits : c.toNat * f.toNat ≤ 2 ^ 64 - 1
  · rw [if_pos (by omega), checkedMultiply_fits hfits]
    refine ⟨⟨c * f, j⟩, rfl, ⟨hlast, ?_⟩, ?_⟩
    · rw [CheckedWords.toNat_mul hfits]
      exact hreduced
    · rw [ExactRational.value, CheckedWords.toNat_mul hfits, hrate]
  · rw [if_neg (by omega), checkedMultiply_overflows (by omega)]
    rfl

/-! ### Multiplication -/

/-- The factors that the product keeps after the cancellation crosswise. -/
theorem crosswise (hleft : left.denominator ≠ 0) (hright : right.denominator ≠ 0) :
    ∃ a b c d : UInt64, b ≠ 0 ∧ d ≠ 0 ∧
      left.value * right.value = fraction (a.toNat * c.toNat) (b.toNat * d.toNat) ∧
      (left.Reduced → right.Reduced →
        Nat.Coprime (a.toNat * c.toNat) (b.toNat * d.toNat)) ∧
      ∀ path, multiply left right path =
        match checkedMultiply a c, checkedMultiply b d with
        | some numerator, some denominator => makeRational numerator denominator path
        | _, _ => Protocol.Load.fail .outOfRange path "CAL-RATIONAL-OVERFLOW"
            "exact rational multiplication overflows u64" := by
  obtain ⟨first, hfirst, hnumeratorLeft, hdenominatorRight, hd, hcoprimeFirst⟩ :=
    cancelled left.numerator hright
  obtain ⟨second, hsecond, hnumeratorRight, hdenominatorLeft, hb, hcoprimeSecond⟩ :=
    cancelled right.numerator hleft
  have hzero : ¬(left.denominator = 0 || right.denominator = 0) = true := by
    simp [hleft, hright]
  refine ⟨left.numerator / gcd left.numerator right.denominator,
    left.denominator / gcd right.numerator left.denominator,
    right.numerator / gcd right.numerator left.denominator,
    right.denominator / gcd left.numerator right.denominator, hb, hd, ?_, ?_, ?_⟩
  · rw [ExactRational.value, ExactRational.value, fraction_mul]
    generalize left.numerator / gcd left.numerator right.denominator = a at *
    generalize right.denominator / gcd left.numerator right.denominator = d at *
    generalize right.numerator / gcd right.numerator left.denominator = c at *
    generalize left.denominator / gcd right.numerator left.denominator = b at *
    have hnumerator : left.numerator.toNat * right.numerator.toNat =
        a.toNat * c.toNat * (first * second) := by
      rw [hnumeratorLeft, hnumeratorRight]
      ring
    have hdenominator : left.denominator.toNat * right.denominator.toNat =
        b.toNat * d.toNat * (first * second) := by
      rw [hdenominatorLeft, hdenominatorRight]
      ring
    rw [hnumerator, hdenominator, fraction_scale _ _ (Nat.mul_pos hfirst hsecond)]
  · intro hreducedLeft hreducedRight
    have hstraightLeft :=
      (hreducedLeft.2.coprime_dvd_left ⟨first, hnumeratorLeft⟩).coprime_dvd_right
      ⟨second, hdenominatorLeft⟩
    have hstraightRight :=
      (hreducedRight.2.coprime_dvd_left ⟨second, hnumeratorRight⟩).coprime_dvd_right
      ⟨first, hdenominatorRight⟩
    exact Nat.Coprime.mul_left (hstraightLeft.mul_right hcoprimeFirst)
      (hcoprimeSecond.mul_right hstraightRight)
  · intro path
    exact if_neg hzero

theorem multiply_ok {r : ExactRational} {path : String} (hleft : left.denominator ≠ 0)
    (hright : right.denominator ≠ 0) (h : multiply left right path = .ok r) :
    r.Reduced ∧ r.value = left.value * right.value := by
  obtain ⟨a, b, c, d, hb, hd, hvalue, -, hmultiply⟩ := crosswise hleft hright
  rw [hmultiply] at h
  split at h
  · rename_i numerator denominator hnumerator hdenominator
    have hne : denominator ≠ 0 := by
      rw [← toNat_ne_zero, checkedMultiply_some hdenominator]
      exact Nat.mul_ne_zero (toNat_ne_zero.mpr hb) (toNat_ne_zero.mpr hd)
    obtain ⟨made, hmade, hreduced, hmadeValue⟩ := makeRational_spec numerator path hne
    rw [hmade] at h
    cases h
    rw [hvalue, hmadeValue, checkedMultiply_some hnumerator, checkedMultiply_some hdenominator]
    exact ⟨hreduced, rfl⟩
  · cases h

theorem multiply_error_iff (path : String) (hleft : left.Reduced) (hright : right.Reduced) :
    (∃ errors, multiply left right path = .error errors) ↔
      2 ^ 64 - 1 < (left.value * right.value).num ∨
        2 ^ 64 - 1 < (left.value * right.value).den := by
  obtain ⟨a, b, c, d, hb, hd, hvalue, hcoprime, hmultiply⟩ := crosswise hleft.1 hright.1
  have hne : b.toNat * d.toNat ≠ 0 :=
    Nat.mul_ne_zero (toNat_ne_zero.mpr hb) (toNat_ne_zero.mpr hd)
  obtain ⟨hnum, hden⟩ := num_den_fraction hne (hcoprime hleft hright)
  rw [hvalue, hnum, hden, hmultiply]
  rcases Nat.lt_or_ge (2 ^ 64 - 1) (a.toNat * c.toNat) with hover | hnumerator
  · rw [checkedMultiply_overflows hover]
    exact ⟨fun _ => Or.inl (by omega), fun _ => ⟨_, rfl⟩⟩
  rcases Nat.lt_or_ge (2 ^ 64 - 1) (b.toNat * d.toNat) with hover | hdenominator
  · rw [checkedMultiply_overflows hover]
    refine ⟨fun _ => Or.inr hover, fun _ => ?_⟩
    cases checkedMultiply a c <;> exact ⟨_, rfl⟩
  · rw [checkedMultiply_fits hnumerator, checkedMultiply_fits hdenominator]
    have hproduct : b * d ≠ 0 := by
      rw [← toNat_ne_zero, CheckedWords.toNat_mul hdenominator]
      exact hne
    obtain ⟨made, hmade, -, -⟩ := makeRational_spec (a * c) path hproduct
    simp only [hmade]
    constructor
    · rintro ⟨errors, herrors⟩
      cases herrors
    · intro hover
      omega

/--
A throughput is the exact rate in lowest terms and fails only when its numerator is no 64-bit
word; a product is exact and in lowest terms, and of factors in lowest terms it fails only
when its own numerator or denominator is no 64-bit word.
-/
theorem products_exact_or_overflow :
    (∀ observation : ThroughputObservation,
        observation.intervalTicks ≠ 0 → observation.ticksPerSecond ≠ 0 →
        if observation.rate.num < 2 ^ 64 then
          ∃ r, exactThroughput observation = .ok r ∧ r.Reduced ∧ r.value = observation.rate
        else exactThroughput observation = throughputOverflow) ∧
      ∀ (left right : ExactRational) (path : String),
        left.denominator ≠ 0 → right.denominator ≠ 0 →
        (∀ r, multiply left right path = .ok r →
          r.Reduced ∧ r.value = left.value * right.value) ∧
        (left.Reduced → right.Reduced →
          ((∃ errors, multiply left right path = .error errors) ↔
            2 ^ 64 - 1 < (left.value * right.value).num ∨
              2 ^ 64 - 1 < (left.value * right.value).den)) := by
  refine ⟨fun observation hinterval hfrequency => exactThroughput_spec hinterval hfrequency, ?_⟩
  intro left right path hleft hright
  refine ⟨fun r h => multiply_ok hleft hright h, ?_⟩
  intro hreducedLeft hreducedRight
  exact multiply_error_iff path hreducedLeft hreducedRight

/-- At an observation of 6 events in 4 ticks, 10 to the second, and for the product 2/3 · 0/1. -/
theorem products_exact_or_overflow_small :
    (if (ThroughputObservation.rate ⟨6, 4, 10⟩).num < 2 ^ 64 then
        ∃ r, exactThroughput ⟨6, 4, 10⟩ = .ok r ∧ r.Reduced ∧
          r.value = ThroughputObservation.rate ⟨6, 4, 10⟩
      else exactThroughput ⟨6, 4, 10⟩ = throughputOverflow) ∧
      ((∃ errors, multiply ⟨2, 3⟩ ⟨0, 1⟩ "$" = .error errors) ↔
        2 ^ 64 - 1 < (ExactRational.value ⟨2, 3⟩ * ExactRational.value ⟨0, 1⟩).num ∨
          2 ^ 64 - 1 < (ExactRational.value ⟨2, 3⟩ * ExactRational.value ⟨0, 1⟩).den) :=
  ⟨products_exact_or_overflow.1 ⟨6, 4, 10⟩ (by decide) (by decide),
    (products_exact_or_overflow.2 ⟨2, 3⟩ ⟨0, 1⟩ "$" (by decide) (by decide)).2
      ⟨by decide, by decide⟩ ⟨by decide, by decide⟩⟩

example : multiply ⟨0xffffffffffffffff, 3⟩ ⟨9, 0xffffffffffffffff⟩ "$" = .ok ⟨3, 1⟩ := by decide

end CpuPrefetch.Calibration
