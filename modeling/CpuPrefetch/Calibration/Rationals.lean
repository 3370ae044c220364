/-
The quantiles of calibration samples; and exact rationals of 64-bit words: reduction, throughput,
comparison and product.
-/
import CpuPrefetch.Protocol.Load

namespace CpuPrefetch.Calibration

open Protocol.Load
open Protocol (Result)

def checkedMultiply (left right : UInt64) : Option UInt64 :=
  if left ≠ 0 ∧ right > 0xffffffffffffffff / left then none else some (left * right)

def checkedCeilDivide (numerator denominator : UInt64) : Option UInt64 :=
  if denominator = 0 then none
  else
    let result := numerator / denominator
    if numerator % denominator ≠ 0 then
      if result = 0xffffffffffffffff then none else some (result + 1)
    else some result

def inverseEcdf (values : List UInt64) (probabilityNumerator probabilityDenominator : UInt64) :
    Result UInt64 :=
  if values = [] || probabilityNumerator = 0 || probabilityNumerator > probabilityDenominator ||
      probabilityDenominator = 0 then
    fail .outOfRange "$/quantile" "CAL-INVERSE-ECDF-INPUT"
      "inverse ECDF needs data and probability in (0,1]"
  else
    let count : UInt64 := .ofNat values.length
    let overflow : Result UInt64 :=
      fail .outOfRange "$/quantile/rank" "CAL-QUANTILE-OVERFLOW" "quantile rank overflows u64"
    match checkedMultiply (count / probabilityDenominator) probabilityNumerator with
    | none => overflow
    | some whole =>
        match checkedMultiply (count % probabilityDenominator) probabilityNumerator with
        | none => overflow
        | some remainderProduct =>
            match checkedCeilDivide remainderProduct probabilityDenominator with
            | none => overflow
            | some remainderRank =>
                if whole > 0xffffffffffffffff - remainderRank then overflow
                else
                  let rank := whole + remainderRank
                  if rank = 0 || rank > count then
                    fail .crossField "$/quantile/rank" "CAL-QUANTILE-RANK"
                      "quantile rank is outside the observed sequence"
                  else .ok (values.mergeSort.getD (rank - 1).toNat 0)

/-! ### Rationals -/

structure ExactRational where
  numerator : UInt64
  denominator : UInt64
  deriving DecidableEq, Repr

structure ThroughputObservation where
  consumedEvents : UInt64
  intervalTicks : UInt64
  ticksPerSecond : UInt64
  deriving DecidableEq, Repr

/-- `std::gcd`. -/
def gcd (left right : UInt64) : UInt64 := .ofNat (Nat.gcd left.toNat right.toNat)

def makeRational (numerator denominator : UInt64) (path : String) : Result ExactRational :=
  if denominator = 0 then
    fail .outOfRange path "CAL-RATIONAL-DENOMINATOR"
      "exact rational denominator must be nonzero"
  else
    let divisor := gcd numerator denominator
    .ok ⟨numerator / divisor, denominator / divisor⟩

def exactThroughput (observation : ThroughputObservation) : Result ExactRational :=
  if observation.ticksPerSecond = 0 || observation.intervalTicks = 0 then
    fail .outOfRange "$/service_run" "CAL-SERVICE-UNITS"
      "tick frequency and interval must be nonzero"
  else
    let consumed := observation.consumedEvents
    let frequency := observation.ticksPerSecond
    let interval := observation.intervalTicks
    let divisor := gcd consumed interval
    let consumed := consumed / divisor
    let interval := interval / divisor
    let divisor := gcd frequency interval
    let frequency := frequency / divisor
    let interval := interval / divisor
    match checkedMultiply consumed frequency with
    | none =>
        fail .outOfRange "$/service_run/consumed_events"
          "CAL-SERVICE-THROUGHPUT-OVERFLOW" "exact throughput numerator overflows u64"
    | some numerator => .ok ⟨numerator, interval⟩

/-! ### Comparison -/

/-- The variables of the loop of `compare`. -/
structure Comparison where
  leftNumerator : UInt64
  leftDenominator : UInt64
  rightNumerator : UInt64
  rightDenominator : UInt64
  inverted : Bool
  deriving DecidableEq, Repr

/-- What one pass of the loop comes to; a division by zero has no defined result. -/
inductive Pass where
  | undefined
  | decided (result : Int)
  | again (next : Comparison)
  deriving DecidableEq, Repr

def Comparison.pass (c : Comparison) : Pass :=
  if c.leftDenominator = 0 ∨ c.rightDenominator = 0 then .undefined
  else
    let leftQuotient := c.leftNumerator / c.leftDenominator
    let rightQuotient := c.rightNumerator / c.rightDenominator
    if leftQuotient ≠ rightQuotient then
      let result : Int := if leftQuotient < rightQuotient then -1 else 1
      .decided (if c.inverted then -result else result)
    else
      let leftRemainder := c.leftNumerator % c.leftDenominator
      let rightRemainder := c.rightNumerator % c.rightDenominator
      if leftRemainder = 0 ∨ rightRemainder = 0 then
        if leftRemainder = 0 ∧ rightRemainder = 0 then .decided 0
        else
          let result : Int := if leftRemainder = 0 then -1 else 1
          .decided (if c.inverted then -result else result)
      else .again ⟨c.leftDenominator, leftRemainder, c.rightDenominator, rightRemainder,
        !c.inverted⟩

/-- Another pass is made only with two equal quotients and two remainders. -/
theorem Comparison.pass_again {c next : Comparison} (h : c.pass = .again next) :
    c.leftDenominator ≠ 0 ∧ c.rightDenominator ≠ 0 ∧
      c.leftNumerator / c.leftDenominator = c.rightNumerator / c.rightDenominator ∧
      c.leftNumerator % c.leftDenominator ≠ 0 ∧ c.rightNumerator % c.rightDenominator ≠ 0 ∧
      next = ⟨c.leftDenominator, c.leftNumerator % c.leftDenominator, c.rightDenominator,
        c.rightNumerator % c.rightDenominator, !c.inverted⟩ := by
  simp only [Comparison.pass] at h
  split at h
  · cases h
  rename_i hdenominators
  split at h
  · cases h
  rename_i hquotient
  split at h
  · split at h <;> cases h
  rename_i hremainders
  obtain ⟨hleft, hright⟩ := not_or.mp hdenominators
  obtain ⟨hleft', hright'⟩ := not_or.mp hremainders
  exact ⟨hleft, hright, not_not.mp hquotient, hleft', hright', (Pass.again.inj h).symm⟩

theorem Comparison.pass_again_lt {c next : Comparison} (h : c.pass = .again next) :
    next.leftDenominator.toNat < c.leftDenominator.toNat := by
  obtain ⟨hleft, -, -, -, -, rfl⟩ := c.pass_again h
  have hpositive : 0 < c.leftDenominator.toNat :=
    Nat.pos_of_ne_zero fun hzero => hleft (UInt64.toNat_inj.mp hzero)
  rw [UInt64.toNat_mod]
  exact Nat.mod_lt _ hpositive

/-- The loop; `none` is a division by zero. -/
def Comparison.loop (c : Comparison) : Option Int :=
  match h : c.pass with
  | .undefined => none
  | .decided result => some result
  | .again next =>
      have := c.pass_again_lt h
      next.loop
termination_by c.leftDenominator.toNat

def compare (left right : ExactRational) : Option (Result Int) :=
  if left.denominator = 0 || right.denominator = 0 then
    some (fail .outOfRange "$/rate" "CAL-RATIONAL-DENOMINATOR"
      "exact rational denominator must be nonzero")
  else
    (Comparison.loop ⟨left.numerator, left.denominator, right.numerator, right.denominator,
      false⟩).map .ok

/-! ### Product -/

def multiply (left right : ExactRational) (path : String) : Result ExactRational :=
  if left.denominator = 0 || right.denominator = 0 then
    fail .outOfRange path "CAL-RATIONAL-DENOMINATOR"
      "exact rational denominator must be nonzero"
  else
    let divisor := gcd left.numerator right.denominator
    let leftNumerator := left.numerator / divisor
    let rightDenominator := right.denominator / divisor
    let divisor := gcd right.numerator left.denominator
    let rightNumerator := right.numerator / divisor
    let leftDenominator := left.denominator / divisor
    match checkedMultiply leftNumerator rightNumerator,
        checkedMultiply leftDenominator rightDenominator with
    | some numerator, some denominator => makeRational numerator denominator path
    | _, _ =>
        fail .outOfRange path "CAL-RATIONAL-OVERFLOW"
          "exact rational multiplication overflows u64"

end CpuPrefetch.Calibration
