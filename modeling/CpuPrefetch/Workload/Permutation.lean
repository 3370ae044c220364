/-
Permutations: a Fisher-Yates shuffle, by draws without bias.

A draw below the threshold is thrown away and the next one taken; the ordinals of the
draws count up and run out before they wrap around, so `fuel` is how many are left.
-/
import CpuPrefetch.Workload.Deterministic

namespace CpuPrefetch.Workload

inductive WorkloadSetupError where
  | zeroCardinality
  | drawOrdinalExhausted
  deriving DecidableEq, Repr

/-- The draws below this one would make some remainders more likely than others. -/
def rejectionThreshold (bound : UInt64) : UInt64 := (0 - bound) % bound

/-- The ordinals from this one on that may still be drawn. -/
def ordinalsLeft (drawOrdinal : UInt64) : Nat := 2 ^ 64 - 1 - drawOrdinal.toNat

/-- The first draw that is not below the threshold, and the ordinal after it. -/
def acceptedDraw (draw : UInt64 → UInt64) (threshold : UInt64) :
    Nat → UInt64 → Option (UInt64 × UInt64)
  | 0, _ => none
  | fuel + 1, drawOrdinal =>
      if draw drawOrdinal < threshold then acceptedDraw draw threshold fuel (drawOrdinal + 1)
      else some (draw drawOrdinal, drawOrdinal + 1)

/-- `std::swap` of two elements. -/
def swapAt (values : List Nat) (left right : Nat) : List Nat :=
  match values[left]?, values[right]? with
  | some first, some second => (values.set left second).set right first
  | _, _ => values

/-- The loop over the remaining elements, the last of which is swapped with a drawn one. -/
def shuffle (draw : UInt64 → UInt64) :
    Nat → UInt64 → List Nat → Except WorkloadSetupError (List Nat)
  | 0, _, result => .ok result
  | 1, _, result => .ok result
  | remaining + 2, drawOrdinal, result =>
      let bound : UInt64 := .ofNat (remaining + 2)
      match acceptedDraw draw (rejectionThreshold bound) (ordinalsLeft drawOrdinal) drawOrdinal with
      | none => .error .drawOrdinalExhausted
      | some (value, next) =>
          shuffle draw (remaining + 1) next (swapAt result (remaining + 1) (value % bound).toNat)

def makePermutation (count : Nat) (draw : UInt64 → UInt64) : Except WorkloadSetupError (List Nat) :=
  if count = 0 then .error .zeroCardinality
  else shuffle draw count 0 (List.range count)

/-! ### The steps of a cyclic order, as signed differences of addresses -/

open Queue (Setup)

/-- `std::numeric_limits<std::int64_t>::max()` as a `std::size_t`. -/
def int64Max : UInt64 := 0x7fffffffffffffff

def checkedMultiply (left right : UInt64) : Setup UInt64 :=
  if left ≠ 0 ∧ right > 0xffffffffffffffff / left then throw "event arena size overflows size_t"
  else pure (left * right)

/-- The loop of `validate_permutation`; `seen` has one flag for each index. -/
def markSeen (size : Nat) : List Bool → List UInt64 → Setup Unit
  | _, [] => pure ()
  | seen, index :: rest =>
      if index.toNat ≥ size ∨ seen.getD index.toNat false = true then
        throw "ordered-index input must be a complete permutation"
      else markSeen size (seen.set index.toNat true) rest

def validatePermutation (order : List UInt64) : Setup Unit :=
  if order = [] then throw "ordered-index input must not be empty"
  else markSeen order.length (List.replicate order.length false) order

def signedDelta (source target stride : UInt64) : Setup Int64 := do
  let fromOffset ← checkedMultiply source stride
  let toOffset ← checkedMultiply target stride
  if toOffset ≥ fromOffset then
    let difference := toOffset - fromOffset
    if difference > int64Max then throw "positive address delta exceeds int64"
    else pure difference.toInt64
  else
    let magnitude := fromOffset - toOffset
    if magnitude > int64Max then throw "negative address delta exceeds int64"
    else pure (-magnitude.toInt64)

def makeCyclicAddressDeltas (order : List UInt64) (strideBytes : UInt64) : Setup (List Int64) := do
  validatePermutation order
  if strideBytes = 0 then throw "address-delta stride must be nonzero"
  else
    (List.range order.length).mapM fun index =>
      let next := if index + 1 = order.length then 0 else index + 1
      signedDelta (order.getD index 0) (order.getD next 0) strideBytes

end CpuPrefetch.Workload
