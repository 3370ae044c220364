/-
The demand trace of a ring's two workers and the calls that fill it.

A call makes one queue operation and reads the clock around the acquire load that decides it.
The clock is any object that can be read; a reading may fail, repeat or go backward.
-/
import CpuPrefetch.Queue.Ring
import CpuPrefetch.Timing.Capture

namespace CpuPrefetch.Calibration

open Queue (RingSpscQueue EnqueueResult DequeueStatus)
open Timing (ClockReadStatus ClockReadResult)

inductive RingWorker where
  | producer
  | consumer
  deriving DecidableEq, Repr

inductive RingAttemptOutcome where
  | advanced
  | full
  | empty
  | clockFailure
  | traceFailure
  deriving DecidableEq, Repr

/-! ### The trace -/

/-- The `RingDemandSeries` of a trace, with its counts. -/
structure RingTraceSeries where
  producerDemandTicks : List UInt64
  consumerDemandTicks : List UInt64
  producerIssueTicks : List UInt64
  consumerIssueTicks : List UInt64
  producerFullCount : UInt64
  consumerEmptyCount : UInt64
  deriving DecidableEq, Repr

structure RingDemandTrace where
  series : RingTraceSeries
  previousProducerAdvanceStart : Option UInt64
  previousConsumerAdvanceStart : Option UInt64
  maxAttemptsPerWorker : UInt64
  deriving DecidableEq, Repr

namespace RingDemandTrace

/-- The constructor. -/
def make (maxAttemptsPerWorker : UInt64) : Except String RingDemandTrace :=
  if maxAttemptsPerWorker = 0 then
    throw "ring demand trace requires an explicit nonzero attempt capacity"
  else pure ⟨⟨[], [], [], [], 0, 0⟩, none, none, maxAttemptsPerWorker⟩

variable (trace : RingDemandTrace)

def demand : RingWorker → List UInt64
  | .producer => trace.series.producerDemandTicks
  | .consumer => trace.series.consumerDemandTicks

def issue : RingWorker → List UInt64
  | .producer => trace.series.producerIssueTicks
  | .consumer => trace.series.consumerIssueTicks

def previous : RingWorker → Option UInt64
  | .producer => trace.previousProducerAdvanceStart
  | .consumer => trace.previousConsumerAdvanceStart

/-- The full count of the producer, the empty count of the consumer. -/
def stalls : RingWorker → UInt64
  | .producer => trace.series.producerFullCount
  | .consumer => trace.series.consumerEmptyCount

def pushDemand (worker : RingWorker) (ticks : UInt64) : RingDemandTrace :=
  match worker with
  | .producer =>
      { trace with series := { trace.series with
          producerDemandTicks := trace.series.producerDemandTicks ++ [ticks] } }
  | .consumer =>
      { trace with series := { trace.series with
          consumerDemandTicks := trace.series.consumerDemandTicks ++ [ticks] } }

def pushIssue (worker : RingWorker) (ticks : UInt64) : RingDemandTrace :=
  match worker with
  | .producer =>
      { trace with series := { trace.series with
          producerIssueTicks := trace.series.producerIssueTicks ++ [ticks] } }
  | .consumer =>
      { trace with series := { trace.series with
          consumerIssueTicks := trace.series.consumerIssueTicks ++ [ticks] } }

def setPrevious (worker : RingWorker) (start : UInt64) : RingDemandTrace :=
  match worker with
  | .producer => { trace with previousProducerAdvanceStart := some start }
  | .consumer => { trace with previousConsumerAdvanceStart := some start }

def countFull : RingDemandTrace :=
  { trace with series := { trace.series with
      producerFullCount := trace.series.producerFullCount + 1 } }

def countEmpty : RingDemandTrace :=
  { trace with series := { trace.series with
      consumerEmptyCount := trace.series.consumerEmptyCount + 1 } }

/-- The answer, and the trace that is left. -/
def record (worker : RingWorker) (demandStart demandEnd : UInt64) (outcome : RingAttemptOutcome) :
    Bool × RingDemandTrace :=
  if outcome = .clockFailure ∨ outcome = .traceFailure ∨ demandEnd < demandStart then (false, trace)
  else if (outcome = .full ∧ worker ≠ .producer) ∨ (outcome = .empty ∧ worker ≠ .consumer) then
    (false, trace)
  else if (trace.demand worker).length ≥ trace.maxAttemptsPerWorker.toNat ∨
      (outcome = .advanced ∧ (trace.previous worker).isSome ∧
        (trace.issue worker).length ≥ trace.maxAttemptsPerWorker.toNat) then
    (false, trace)
  else if outcome = .advanced ∧ ∃ start ∈ trace.previous worker, demandStart < start then
    (false, trace)
  else
    let noted := trace.pushDemand worker (demandEnd - demandStart)
    match outcome with
    | .full => (true, noted.countFull)
    | .empty => (true, noted.countEmpty)
    | _ =>
        match noted.previous worker with
        | some start =>
            (true, (noted.pushIssue worker (demandStart - start)).setPrevious worker demandStart)
        | none => (true, noted.setPrevious worker demandStart)

end RingDemandTrace

/-! ### The calls -/

structure RingCaptureResult where
  outcome : RingAttemptOutcome
  beforeStatus : ClockReadStatus
  afterStatus : ClockReadStatus
  deriving DecidableEq, Repr

/-- The observer of one call: the clock it was given and its two readings. -/
structure Observer (κ : Type) where
  clock : κ
  before : ClockReadResult
  after : ClockReadResult

/-- The clock, the ring and the trace that a sequence of calls is made on. -/
structure CaptureState (κ α : Type) where
  clock : κ
  queue : RingSpscQueue α
  trace : RingDemandTrace

variable {κ α : Type}

def Observer.fresh (clock : κ) : Observer κ := ⟨clock, .unread, .unread⟩

variable (read : κ → ClockReadResult × κ)

def slotObserver : RingSpscQueue.DemandObserver (Observer κ) where
  beforeSlotAcquire o := { o with before := (read o.clock).1, clock := (read o.clock).2 }
  afterSlotAcquire o := { o with after := (read o.clock).1, clock := (read o.clock).2 }

/-- What both calls do once the operation is over. -/
def recordDemand (worker : RingWorker) (outcome : RingAttemptOutcome) (observer : Observer κ)
    (trace : RingDemandTrace) : RingCaptureResult × RingDemandTrace :=
  if observer.before.status ≠ .ok ∨ observer.after.status ≠ .ok then
    (⟨.clockFailure, observer.before.status, observer.after.status⟩, trace)
  else
    match trace.record worker observer.before.sample.relativePicoseconds
        observer.after.sample.relativePicoseconds outcome with
    | (false, trace) => (⟨.traceFailure, observer.before.status, observer.after.status⟩, trace)
    | (true, trace) => (⟨outcome, observer.before.status, observer.after.status⟩, trace)

def captureProducerRingDemand (event : α) (s : CaptureState κ α) :
    RingCaptureResult × CaptureState κ α :=
  let (result, queue, observer) :=
    s.queue.tryEnqueueWithSlotDemandObserver event (slotObserver read) (.fresh s.clock)
  let outcome : RingAttemptOutcome := if result = .accepted then .advanced else .full
  let (answer, trace) := recordDemand .producer outcome observer s.trace
  (answer, ⟨observer.clock, queue, trace⟩)

def captureConsumerRingDemand (s : CaptureState κ α) : RingCaptureResult × CaptureState κ α :=
  let (result, queue, observer) :=
    s.queue.tryDequeueWithSlotDemandObserver (slotObserver read) (.fresh s.clock)
  let outcome : RingAttemptOutcome := if result.status = .item then .advanced else .empty
  let (answer, trace) := recordDemand .consumer outcome observer s.trace
  (answer, ⟨observer.clock, queue, trace⟩)

/-- A call of either worker. -/
inductive CaptureCall (α : Type) where
  | producer (event : α)
  | consumer
  deriving DecidableEq, Repr

def CaptureCall.worker : CaptureCall α → RingWorker
  | .producer _ => .producer
  | .consumer => .consumer

def capture (s : CaptureState κ α) : CaptureCall α → RingCaptureResult × CaptureState κ α
  | .producer event => captureProducerRingDemand read event s
  | .consumer => captureConsumerRingDemand read s

/-- The calls one after the other. -/
def captures (s : CaptureState κ α) (calls : List (CaptureCall α)) : CaptureState κ α :=
  calls.foldl (fun s call => (capture read s call).2) s

end CpuPrefetch.Calibration
