/-
The order of two numbers by their whole parts.

Two numbers with different whole parts are ordered as those.  With one whole part they are
ordered as what is left of them, and two positive rests are ordered the other way round than
their reciprocals.  One pass of a comparison by continued fractions is one use of these rules.
-/
import Mathlib

namespace Reciprocals

section Ordered

variable {K : Type*} [Field K] [LinearOrder K] [IsStrictOrderedRing K] {x y : K}

theorem sign_inv_sub_inv (hx : 0 < x) (hy : 0 < y) :
    SignType.sign (x⁻¹ - y⁻¹) = -SignType.sign (x - y) := by
  have hsplit : x⁻¹ - y⁻¹ = -(x - y) * (x * y)⁻¹ := by
    have hx' := hx.ne'
    have hy' := hy.ne'
    field_simp
    ring
  rw [hsplit, sign_mul, Left.sign_neg, sign_pos (inv_pos.mpr (mul_pos hx hy)), mul_one]

variable [FloorRing K]

theorem sign_of_floor_lt (h : ⌊x⌋ < ⌊y⌋) : SignType.sign (x - y) = -1 := by
  have hlt : x < y := Int.floor_mono.reflect_lt h
  exact sign_neg (sub_neg_of_lt hlt)

theorem sign_of_lt_floor (h : ⌊y⌋ < ⌊x⌋) : SignType.sign (x - y) = 1 := by
  have hlt : y < x := Int.floor_mono.reflect_lt h
  exact sign_pos (sub_pos_of_lt hlt)

omit [IsStrictOrderedRing K] in
theorem sign_of_floor_eq (h : ⌊x⌋ = ⌊y⌋) :
    SignType.sign (x - y) = SignType.sign (Int.fract x - Int.fract y) := by
  have hfract : Int.fract x - Int.fract y = x - y := by
    rw [Int.fract, Int.fract, h]
    ring
  rw [hfract]

end Ordered

/-! ### Fractions of naturals -/

/-- The fraction with this numerator and denominator. -/
def fraction (numerator denominator : Nat) : ℚ := numerator / denominator

variable {denominator : Nat}

theorem fraction_eq_add (numerator : Nat) (h : denominator ≠ 0) : fraction numerator denominator =
      (numerator / denominator : Nat) + fraction (numerator % denominator) denominator := by
  have hne : (denominator : ℚ) ≠ 0 := Nat.cast_ne_zero.mpr h
  have hsplit : (numerator : ℚ) =
      denominator * (numerator / denominator : Nat) + (numerator % denominator : Nat) := by
    exact_mod_cast (Nat.div_add_mod numerator denominator).symm
  rw [fraction, fraction, div_eq_iff hne, add_mul, div_mul_cancel₀ _ hne]
  linarith

theorem fraction_nonneg (numerator denominator : Nat) : 0 ≤ fraction numerator denominator := by
  unfold fraction
  positivity

theorem fraction_mod_lt_one (numerator : Nat) (h : denominator ≠ 0) :
    fraction (numerator % denominator) denominator < 1 := by
  have hpositive : (0 : ℚ) < denominator := Nat.cast_pos.mpr (Nat.pos_of_ne_zero h)
  rw [fraction, div_lt_one hpositive]
  exact_mod_cast Nat.mod_lt numerator (Nat.pos_of_ne_zero h)

theorem floor_fraction (numerator : Nat) (h : denominator ≠ 0) :
    ⌊fraction numerator denominator⌋ = (numerator / denominator : Nat) := by
  rw [Int.floor_eq_iff, fraction_eq_add numerator h, Int.cast_natCast]
  have hnonneg := fraction_nonneg (numerator % denominator) denominator
  have hlt := fraction_mod_lt_one numerator h
  constructor <;> linarith

theorem fract_fraction (numerator : Nat) (h : denominator ≠ 0) :
    Int.fract (fraction numerator denominator) =
      fraction (numerator % denominator) denominator := by
  rw [Int.fract, floor_fraction numerator h, fraction_eq_add numerator h, Int.cast_natCast,
    add_sub_cancel_left]

theorem inv_fraction (numerator denominator : Nat) :
    (fraction numerator denominator)⁻¹ = fraction denominator numerator := by
  rw [fraction, fraction, inv_div]

theorem fraction_pos {numerator : Nat} (hn : numerator ≠ 0) (hd : denominator ≠ 0) :
    0 < fraction numerator denominator := by
  have hn' : (0 : ℚ) < numerator := Nat.cast_pos.mpr (Nat.pos_of_ne_zero hn)
  have hd' : (0 : ℚ) < denominator := Nat.cast_pos.mpr (Nat.pos_of_ne_zero hd)
  exact div_pos hn' hd'

/-! ### One pass -/

variable {a b c d : Nat}

theorem sign_of_div_lt (hb : b ≠ 0) (hd : d ≠ 0) (h : a / b < c / d) :
    SignType.sign (fraction a b - fraction c d) = -1 := by
  apply sign_of_floor_lt
  rw [floor_fraction a hb, floor_fraction c hd]
  exact_mod_cast h

theorem sign_of_lt_div (hb : b ≠ 0) (hd : d ≠ 0) (h : c / d < a / b) :
    SignType.sign (fraction a b - fraction c d) = 1 := by
  apply sign_of_lt_floor
  rw [floor_fraction a hb, floor_fraction c hd]
  exact_mod_cast h

theorem sign_of_div_eq (hb : b ≠ 0) (hd : d ≠ 0) (h : a / b = c / d) :
    SignType.sign (fraction a b - fraction c d) =
      SignType.sign (fraction (a % b) b - fraction (c % d) d) := by
  rw [sign_of_floor_eq, fract_fraction a hb, fract_fraction c hd]
  rw [floor_fraction a hb, floor_fraction c hd, h]

/-- With one quotient and both remainders positive, the reciprocals are compared instead. -/
theorem sign_of_remainders (hb : b ≠ 0) (hd : d ≠ 0) (h : a / b = c / d)
    (hleft : a % b ≠ 0) (hright : c % d ≠ 0) :
    SignType.sign (fraction a b - fraction c d) =
      -SignType.sign (fraction b (a % b) - fraction d (c % d)) := by
  rw [sign_of_div_eq hb hd h, ← inv_fraction (a % b) b, ← inv_fraction (c % d) d,
    sign_inv_sub_inv (fraction_pos hleft hb) (fraction_pos hright hd), neg_neg]

end Reciprocals
