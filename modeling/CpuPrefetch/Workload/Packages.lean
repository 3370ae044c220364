/-
The packages a run can be made with: R0, R1 and R2 over a ring, L0 and L1 over a
linked queue.

A package passes its operations on to the queue it was given.  R1 and R2 emit a
prefetch of a later slot before each operation, and L1 one of the successor inside a
dequeue; a prefetch is a hint that changes no shared word, so a package is the
transition system of its queue.
-/
import CpuPrefetch.Protocol.Text
import CpuPrefetch.Queue.Linked
import CpuPrefetch.Queue.Ring

namespace CpuPrefetch.Workload

open Protocol (Text)
open Queue (Package RingSpscQueue LinkedSpscQueue Setup)

/-! ### Distances -/

structure RingGeometry where
  capacity : UInt64
  cacheLineBytes : UInt64
  slotBytes : UInt64
  deriving DecidableEq, Repr

structure RingDistance where
  slots : UInt64
  cacheLines : UInt64
  deriving DecidableEq, Repr

structure CalibratedRingDistance where
  distance : RingDistance
  calibrationEvidenceId : Text
  deriving DecidableEq

def RingDistance.isPowerOfTwo (value : UInt64) : Bool := value ≠ 0 && value &&& (value - 1) = 0

def RingDistance.checkedMultiply (left right : UInt64) : Setup UInt64 :=
  if left ≠ 0 && right > 0xffffffffffffffff / left then throw "ring distance overflows size_t"
  else pure (left * right)

def ringOneLineDistance (geometry : RingGeometry) : Setup RingDistance :=
  if !RingDistance.isPowerOfTwo geometry.capacity || geometry.cacheLineBytes = 0 ||
    geometry.slotBytes = 0 then
    throw "ring distance requires power-of-two capacity and explicit nonzero units"
  else
    let slots := geometry.cacheLineBytes / geometry.slotBytes +
      if geometry.cacheLineBytes % geometry.slotBytes = 0 then 0 else 1
    if slots = 0 || slots ≥ geometry.capacity then
      throw "one-line ring lookahead must name a distinct future slot line"
    else pure ⟨slots, 1⟩

def resolveCalibratedRingDistance (geometry : RingGeometry) (calibratedCacheLines : UInt64)
    (calibrationEvidenceId : Text) : Setup CalibratedRingDistance := do
  let oneLine ← ringOneLineDistance geometry
  if calibrationEvidenceId.isEmpty then
    throw "R2 distance requires calibration evidence identity"
  else if calibratedCacheLines < 2 then
    throw "R2 distance must be at least two cache lines"
  else do
    let slots ← RingDistance.checkedMultiply oneLine.slots calibratedCacheLines
    if slots > geometry.capacity / 4 then
      throw "R2 distance exceeds the one-quarter capacity cap"
    else if slots = oneLine.slots then
      throw "R2 cap collapses to R1; the cell is ineligible"
    else pure ⟨⟨slots, calibratedCacheLines⟩, calibrationEvidenceId⟩

/-! ### The packages of a ring -/

/-- What a prefetch of a slot does to the emitter, by the side that asks for it. -/
structure PrefetchEmitter (ω : Type) where
  ringProducerWrite : Nat → ω → ω
  ringConsumerRead : Nat → ω → ω

def r0Package (α : Type) : Package α := RingSpscQueue.package α

section Prefetching

variable {α ω : Type} (emitter : PrefetchEmitter ω) (distanceSlots : UInt64)

/-- The prefetch before an enqueue, emitted with its load. -/
def producerPrefetch (q : RingSpscQueue α) (call : RingSpscQueue.EnqueueCall α) (o : ω) : ω :=
  match call with
  | .slotLoad _ => emitter.ringProducerWrite (q.producerSlotTarget distanceSlots.toNat) o
  | _ => o

/-- The prefetch before a dequeue, emitted with its load. -/
def consumerPrefetch (q : RingSpscQueue α) (call : RingSpscQueue.DequeueCall α) (o : ω) : ω :=
  match call with
  | .slotLoad => emitter.ringConsumerRead (q.consumerSlotTarget distanceSlots.toNat) o
  | _ => o

/-- A ring whose operations are preceded by a prefetch at this distance.  The target is reckoned
from the side's own cursor, which only the side's own operations move, so the prefetch can be
emitted in the step that makes the operation's load. -/
def prefetchingPackage : Package α where
  toSpsc := (RingSpscQueue.package α).toSpsc.withGhost (producerPrefetch emitter distanceSlots)
    (consumerPrefetch emitter distanceSlots)
  pObserves := RingSpscQueue.EnqueueCall.observes
  cObserves := RingSpscQueue.DequeueCall.observes

end Prefetching

def r1Package (α : Type) {ω : Type} (emitter : PrefetchEmitter ω) (distance : RingDistance) :
    Package α :=
  prefetchingPackage emitter distance.slots

def r2Package (α : Type) {ω : Type} (emitter : PrefetchEmitter ω)
    (calibratedDistance : CalibratedRingDistance) : Package α :=
  prefetchingPackage emitter calibratedDistance.distance.slots

/-! ### Constructed packages -/

/-- A package over a queue that its constructor has accepted. -/
inductive PreparedPackage : (P : Package Nat) → P.State → Prop where
  | ring (capacity cacheLineBytes : Nat) (queue : RingSpscQueue Nat)
      (h : RingSpscQueue.make capacity cacheLineBytes = .ok queue) :
      PreparedPackage (RingSpscQueue.package Nat) queue
  | linked (capacity cacheLineBytes arenaAlignmentBytes : Nat) (nodeOrder : List Nat)
      (queue : LinkedSpscQueue Nat)
      (h : LinkedSpscQueue.make capacity cacheLineBytes arenaAlignmentBytes nodeOrder =
        .ok queue) :
      PreparedPackage (LinkedSpscQueue.package Nat) queue

end CpuPrefetch.Workload
