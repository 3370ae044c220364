/-
Qualifying the clocks: quantiles of samples, and how far apart the clocks of two cores can
be.

An exchange is a request and a response, each with the time it was sent on one core and
the time it was received on the other.  Arithmetic on signed words that overflows is
undefined in the language, so it is partial here.
-/
import Mathlib

namespace CpuPrefetch.Timing

def kCrossCoreExchangeCountPerWindow : Nat := 100000
def kCrossCoreWindowCount : Nat := 3
def kMinimumCrossCoreWindowStartSpanNanoseconds : UInt64 := 60000000000

/-! ### Quantiles -/

/-- What the remainder adds to the rank is rounded up by adding the denominator first. -/
def roundedSum (count numerator denominator : UInt64) : UInt64 :=
  count % denominator * numerator + denominator

def quantileRank (count numerator denominator : UInt64) : UInt64 :=
  let quotient := count / denominator
  quotient * numerator + (roundedSum count numerator denominator - 1) / denominator

/-- `values[rank - 1]` of the sorted values; reading past the end is undefined. -/
def inverseEcdf (values : List UInt64) (numerator denominator : UInt64) : Option UInt64 :=
  let sorted := values.mergeSort
  let rank := quantileRank (.ofNat sorted.length) numerator denominator
  sorted[(rank - 1).toNat]?

/-! ### Signed words -/

/-- A value that is computed in signed words; there is none when it does not fit. -/
abbrev Defined := Option

def signed (value : Int) : Defined Int64 :=
  if -2 ^ 63 ≤ value ∧ value < 2 ^ 63 then some (.ofInt value) else none

def int64Max : Int64 := .maxValue
def int64Min : Int64 := .minValue

/-- The difference of two timestamps, if the code accepts it. -/
def signedDifference (left right : UInt64) : Defined (Option Int64) :=
  let maximum := int64Max.toUInt64
  if left ≥ right then
    let difference := left - right
    if difference > maximum then some none else some (some difference.toInt64)
  else
    let difference := right - left
    if difference > maximum then some none
    else do
      let output ← signed (-difference.toInt64.toInt)
      some (some output)

def intervalWidth (lower upper : Int64) : Defined UInt64 :=
  if lower ≥ 0 then do
    let width ← signed (upper.toInt - lower.toInt)
    some width.toUInt64
  else if upper < 0 then do
    let lowerNext ← signed (lower.toInt + 1)
    let lowerMagnitude ← signed (-lowerNext.toInt)
    let upperNext ← signed (upper.toInt + 1)
    let upperMagnitude ← signed (-upperNext.toInt)
    some (lowerMagnitude.toUInt64 - upperMagnitude.toUInt64)
  else do
    let lowerNext ← signed (lower.toInt + 1)
    let lowerMagnitude ← signed (-lowerNext.toInt)
    some (lowerMagnitude.toUInt64 + 1 + upper.toUInt64)

def exceedsMax (left right : Int64) : Defined Bool :=
  if right > 0 then do
    let bound ← signed (int64Max.toInt - right.toInt)
    some (decide (left > bound))
  else some false

def fallsBelowMin (left right : Int64) : Defined Bool :=
  if right < 0 then do
    let bound ← signed (int64Min.toInt - right.toInt)
    some (decide (left < bound))
  else some false

/-- The sum, if the code accepts it. -/
def checkedSum (left right : Int64) : Defined (Option Int64) := do
  let above ← exceedsMax left right
  let below ← if above then some false else fallsBelowMin left right
  if above || below then some none
  else do
    let output ← signed (left.toInt + right.toInt)
    some (some output)

/-! ### Exchanges between two cores -/

structure CrossCoreExchangeSample where
  requestSend : UInt64
  requestReceive : UInt64
  responseSend : UInt64
  responseReceive : UInt64
  deriving DecidableEq, Repr

structure CrossCoreWindowInput where
  startAbsoluteNanoseconds : UInt64
  exchanges : List CrossCoreExchangeSample
  deriving DecidableEq, Repr

structure CrossCoreWindowEvidence where
  lowerPicoseconds : Int64
  upperPicoseconds : Int64
  widthPicoseconds : UInt64
  midpointTwicePicoseconds : Int64
  intervalNonempty : Bool
  boundsPass : Bool
  widthPass : Bool
  deriving DecidableEq, Repr

structure CrossCoreDirectionEvidence where
  windows : List CrossCoreWindowEvidence
  exchangeCountPerWindow : Nat
  causalRegressions : Nat
  midpointRangeTwicePicoseconds : UInt64
  acceptedPolicySampleCount : Bool
  windowSpanPasses : Bool
  intervalLimitsPass : Bool
  midpointDriftPasses : Bool
  limitsPass : Bool
  passes : Bool
  deriving DecidableEq, Repr

/-- The running bounds of a window, and the flag that goes on from window to window. -/
structure Bounds where
  lower : Int64
  upper : Int64
  arithmeticValid : Bool
  deriving DecidableEq, Repr

/-- One exchange.  A sample whose difference was refused, or not taken, stays zero. -/
def narrow (bounds : Bounds) (exchange : CrossCoreExchangeSample) : Defined Bounds := do
  let lowerTaken ← signedDifference exchange.responseSend exchange.responseReceive
  let upperTaken ←
    if lowerTaken.isSome then signedDifference exchange.requestReceive exchange.requestSend
    else some none
  some {
    lower := max bounds.lower (lowerTaken.getD 0)
    upper := min bounds.upper (upperTaken.getD 0)
    arithmeticValid := lowerTaken.isSome && upperTaken.isSome && bounds.arithmeticValid }

/-- The regressions of one exchange: something received before it was sent. -/
def regressions (exchange : CrossCoreExchangeSample) : Nat :=
  (if exchange.requestReceive < exchange.requestSend then 1 else 0) +
    (if exchange.responseReceive < exchange.responseSend then 1 else 0)

/-- One window, with the flag before it and after it. -/
def evaluateWindow (arithmeticValid : Bool) (window : CrossCoreWindowInput) :
    Defined (Bool × CrossCoreWindowEvidence) := do
  let bounds ← window.exchanges.foldlM narrow ⟨int64Min, int64Max, arithmeticValid⟩
  let nonempty := bounds.arithmeticValid && bounds.lower ≤ bounds.upper
  let width ← (if nonempty then intervalWidth bounds.lower bounds.upper
    else some 0xffffffffffffffff)
  let midpoint ← (if nonempty then checkedSum bounds.lower bounds.upper else some (some 0))
  some (midpoint.isSome && bounds.arithmeticValid, {
    lowerPicoseconds := bounds.lower
    upperPicoseconds := bounds.upper
    widthPicoseconds := width
    midpointTwicePicoseconds := midpoint.getD 0
    intervalNonempty := nonempty
    boundsPass := nonempty && bounds.lower ≥ -100000 && bounds.upper ≤ 100000
    widthPass := nonempty && width ≤ 200000 })

def evaluateWindows : Bool → List CrossCoreWindowInput →
    Defined (Bool × List CrossCoreWindowEvidence)
  | arithmeticValid, [] => some (arithmeticValid, [])
  | arithmeticValid, window :: rest => do
      let (arithmeticValid, evidence) ← evaluateWindow arithmeticValid window
      let (arithmeticValid, others) ← evaluateWindows arithmeticValid rest
      some (arithmeticValid, evidence :: others)

def spanPasses (first last : CrossCoreWindowInput) : Bool :=
  last.startAbsoluteNanoseconds ≥ first.startAbsoluteNanoseconds &&
    last.startAbsoluteNanoseconds - first.startAbsoluteNanoseconds ≥
      kMinimumCrossCoreWindowStartSpanNanoseconds

/-- The evidence of a direction, or none when the windows are not as many as they must be.  An
exchange takes thirty-two bytes, so the regressions of three windows can be counted. -/
def evaluateCrossCoreDirection (windows : List CrossCoreWindowInput) :
    Defined (Option CrossCoreDirectionEvidence) :=
  if windows.length ≠ kCrossCoreWindowCount then some none
  else
    match windows with
    | [] => some none
    | first :: later =>
        let exchangeCount := first.exchanges.length
        if exchangeCount = 0 ||
            windows.any fun window => window.exchanges.length ≠ exchangeCount then
          some none
        else do
          let (arithmeticValid, evidences) ← evaluateWindows true windows
          let causalRegressions :=
            (windows.map fun window => (window.exchanges.map regressions).sum).sum
          let midpoints := evidences.map CrossCoreWindowEvidence.midpointTwicePicoseconds
          let windowSpanPasses := spanPasses first (later.getLastD first)
          let intervalLimitsPass := evidences.all fun window =>
            window.intervalNonempty && window.boundsPass && window.widthPass
          let midpointRange ←
            intervalWidth (midpoints.tail.foldl min (midpoints.headD 0))
              (midpoints.tail.foldl max (midpoints.headD 0))
          let midpointDriftPasses := midpointRange ≤ 100000
          let limitsPass := arithmeticValid && causalRegressions = 0 && windowSpanPasses &&
            intervalLimitsPass && midpointDriftPasses
          let acceptedPolicySampleCount := exchangeCount = kCrossCoreExchangeCountPerWindow
          some (some {
            windows := evidences
            exchangeCountPerWindow := exchangeCount
            causalRegressions := causalRegressions
            midpointRangeTwicePicoseconds := midpointRange
            acceptedPolicySampleCount := acceptedPolicySampleCount
            windowSpanPasses := windowSpanPasses
            intervalLimitsPass := intervalLimitsPass
            midpointDriftPasses := midpointDriftPasses
            limitsPass := limitsPass
            passes := acceptedPolicySampleCount && limitsPass })

end CpuPrefetch.Timing
