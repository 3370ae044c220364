/-
`capture_due_producer_attempt` and `capture_dequeue_poll`: a queue operation between
clock readings.

A capture is a call of several steps.  Each step is one clock read, or one step of
the package's operation, together with the private work up to the next of these; the
clock reading is the step's input.  The boundary observer of the operation is one
more clock read, made where the package says that its next step calls the observer,
and its answer is whether that reading is good.
-/
import CpuPrefetch.Protocol.Model
import CpuPrefetch.Workload.Records

namespace CpuPrefetch.Timing

/-! ### Clock readings, as the capture code sees them -/

inductive ClockReadStatus where
  | ok
  | callFailed
  | invalidTimespec
  | beforeOrigin
  | overflow
  deriving DecidableEq, Repr

structure ClockSample where
  absoluteNanoseconds : UInt64
  relativePicoseconds : UInt64
  deriving DecidableEq, Repr

structure ClockReadResult where
  status : ClockReadStatus
  sample : ClockSample
  deriving DecidableEq, Repr

namespace ClockReadResult

def isOk (r : ClockReadResult) : Bool := r.status = .ok

/-- What an observer holds before its boundary has been reached. -/
def unread : ClockReadResult := ⟨.callFailed, ⟨0, 0⟩⟩

end ClockReadResult

/-! ### Captures -/

open Protocol (ProducerOutcome RunId ProducerRecord ConsumerRecord)
open Queue (Package EnqueueResult DequeueStatus)
open Workload (EventArena EventSelection ConsumerState RecordAccessStatus eventPointerFrom)

inductive CaptureStatus where
  | complete
  | empty
  | clockFailure
  | queueFailure
  | recordFailure
  deriving DecidableEq, Repr

inductive TimestampBoundary where
  | producerHandleBegin
  | recordLookupCompletion
  | enqueueInvocation
  | enqueueLinearization
  | enqueueAttemptCompletion
  | dequeueInvocation
  | dequeueLinearization
  | dequeueCompletion
  | consumerActionCompletion
  deriving DecidableEq, Repr

structure ProducerObservation where
  logicalSequence : UInt64
  recordIndex : UInt64
  scheduledArrival : UInt64
  producerHandleBegin : ClockSample
  recordLookupCompletion : ClockSample
  enqueueInvocation : ClockSample
  enqueueLinearization : Option ClockSample
  enqueueAttemptCompletion : ClockSample
  outcome : ProducerOutcome
  acceptedOrdinal : Option UInt64
  deriving DecidableEq, Repr

structure ConsumerObservation where
  consumedOrdinal : UInt64
  observedRecordIndex : UInt64
  dequeueInvocation : ClockSample
  dequeueLinearization : ClockSample
  dequeueCompletion : ClockSample
  consumerActionCompletion : ClockSample
  deriving DecidableEq, Repr

structure ProducerCaptureResult where
  status : CaptureStatus
  failedBoundary : Option TimestampBoundary
  clockStatus : ClockReadStatus
  observation : Option ProducerObservation
  deriving DecidableEq, Repr

structure ConsumerCaptureResult where
  status : CaptureStatus
  failedBoundary : Option TimestampBoundary
  clockStatus : ClockReadStatus
  recordStatus : RecordAccessStatus
  observation : Option ConsumerObservation
  deriving DecidableEq, Repr

def producerClockFailure (boundary : TimestampBoundary) (status : ClockReadStatus) :
    ProducerCaptureResult :=
  ⟨.clockFailure, some boundary, status, none⟩

def consumerClockFailure (boundary : TimestampBoundary) (status : ClockReadStatus) :
    ConsumerCaptureResult :=
  ⟨.clockFailure, some boundary, status, .valid, none⟩

/-! ### The producer's capture -/

/-- The arguments of `capture_due_producer_attempt`. -/
structure DueArrival where
  logicalSequence : UInt64
  scheduledArrival : UInt64
  candidateAcceptedOrdinal : UInt64
  deriving DecidableEq, Repr

/-- Where a running `capture_due_producer_attempt` stands: what it reads or runs next. -/
inductive DueCapture (P : Package Nat) where
  | handleBegin (due : DueArrival)
  | recordLookup (due : DueArrival) (begun : ClockSample)
  | invocation (due : DueArrival) (begun lookup : ClockSample) (recordIndex : UInt64)
      (pointer : Nat)
  | enqueue (due : DueArrival) (begun lookup invoked : ClockSample)
      (recordIndex : UInt64) (pointer : Nat) (reading : ClockReadResult) (call : P.PCall)
  | completion (due : DueArrival) (begun lookup invoked : ClockSample)
      (recordIndex : UInt64) (reading : ClockReadResult) (result : EnqueueResult)

/-- The row of a complete attempt. -/
def producerObservation (due : DueArrival) (handleBegin lookup invocation : ClockSample)
    (recordIndex : UInt64) (reading : ClockReadResult) (result : EnqueueResult)
    (completion : ClockSample) : ProducerObservation where
  logicalSequence := due.logicalSequence
  recordIndex := recordIndex
  scheduledArrival := due.scheduledArrival
  producerHandleBegin := handleBegin
  recordLookupCompletion := lookup
  enqueueInvocation := invocation
  enqueueLinearization := if result = .accepted then some reading.sample else none
  enqueueAttemptCompletion := completion
  outcome := if result = .accepted then .accepted else .full
  acceptedOrdinal := if result = .accepted then some due.candidateAcceptedOrdinal else none

namespace DueCapture

variable {P : Package Nat} (arena : EventArena)

/-- One step of `capture_due_producer_attempt`. -/
def step (input : ClockReadResult) (s : P.State) :
    DueCapture P → P.State × Outcome (DueCapture P) ProducerCaptureResult
  | .handleBegin due =>
      if input.isOk then (s, .running (.recordLookup due input.sample))
      else (s, .returned (producerClockFailure .producerHandleBegin input.status))
  | .recordLookup due begun =>
      let selection := arena.select due.logicalSequence
      if input.isOk then
        match eventPointerFrom selection.record with
        | none => (s, .returned ⟨.recordFailure, none, .ok, none⟩)
        | some pointer =>
            (s, .running (.invocation due begun input.sample selection.recordIndex pointer))
      else (s, .returned (producerClockFailure .recordLookupCompletion input.status))
  | .invocation due begun lookup recordIndex pointer =>
      if input.isOk then
        (s, .running (.enqueue due begun lookup input.sample recordIndex pointer .unread
          (P.pBegin pointer)))
      else (s, .returned (producerClockFailure .enqueueInvocation input.status))
  | .enqueue due begun lookup invoked recordIndex pointer reading call =>
      let reading' := if P.pObserves call then input else reading
      match P.pStep input.isOk s call with
      | (s', .running call') =>
          (s', .running (.enqueue due begun lookup invoked recordIndex pointer reading'
            call'))
      | (s', .returned ⟨.captureFailed, _⟩) =>
          (s', .returned (producerClockFailure .enqueueLinearization reading'.status))
      | (s', .returned ⟨.complete, result⟩) =>
          (s', .running (.completion due begun lookup invoked recordIndex reading'
            result))
  | .completion due begun lookup invoked recordIndex reading result =>
      if input.isOk then
        (s, .returned ⟨.complete, none, .ok, some (producerObservation due begun lookup
          invoked recordIndex reading result input.sample)⟩)
      else (s, .returned (producerClockFailure .enqueueAttemptCompletion input.status))

/-- How many steps a capture may still take. -/
def rank : DueCapture P → Nat
  | .handleBegin due => P.pRank (P.pBegin (arena.select due.logicalSequence).record) + 4
  | .recordLookup due _ => P.pRank (P.pBegin (arena.select due.logicalSequence).record) + 3
  | .invocation _ _ _ _ pointer => P.pRank (P.pBegin pointer) + 2
  | .enqueue _ _ _ _ _ _ _ call => P.pRank call + 1
  | .completion .. => 0

/-- Everything one step can do; a selected record is never null. -/
inductive Step (arena : EventArena) (input : ClockReadResult) (s : P.State) :
    DueCapture P → P.State → Outcome (DueCapture P) ProducerCaptureResult → Prop where
  | begins (due : DueArrival) (hok : input.isOk = true) :
      Step arena input s (.handleBegin due) s (.running (.recordLookup due input.sample))
  | beginFails (due : DueArrival) (hok : input.isOk = false) :
      Step arena input s (.handleBegin due) s
        (.returned (producerClockFailure .producerHandleBegin input.status))
  | looksUp (due : DueArrival) (begun : ClockSample) (hok : input.isOk = true) :
      Step arena input s (.recordLookup due begun) s
        (.running (.invocation due begun input.sample (arena.select due.logicalSequence).recordIndex
          (arena.select due.logicalSequence).record))
  | lookupFails (due : DueArrival) (begun : ClockSample) (hok : input.isOk = false) :
      Step arena input s (.recordLookup due begun) s
        (.returned (producerClockFailure .recordLookupCompletion input.status))
  | invokes (due : DueArrival) (begun lookup : ClockSample) (recordIndex : UInt64) (pointer : Nat)
      (hok : input.isOk = true) :
      Step arena input s (.invocation due begun lookup recordIndex pointer) s
        (.running (.enqueue due begun lookup input.sample recordIndex pointer .unread
          (P.pBegin pointer)))
  | invocationFails (due : DueArrival) (begun lookup : ClockSample) (recordIndex : UInt64)
      (pointer : Nat) (hok : input.isOk = false) :
      Step arena input s (.invocation due begun lookup recordIndex pointer) s
        (.returned (producerClockFailure .enqueueInvocation input.status))
  | runs (due : DueArrival) (begun lookup invoked : ClockSample) (recordIndex : UInt64)
      (pointer : Nat) (reading : ClockReadResult) (call call' : P.PCall) (s' : P.State)
      (hs : P.pStep input.isOk s call = (s', .running call')) :
      Step arena input s
        (.enqueue due begun lookup invoked recordIndex pointer reading call) s'
        (.running (.enqueue due begun lookup invoked recordIndex pointer
          (if P.pObserves call then input else reading) call'))
  | boundaryFails (due : DueArrival) (begun lookup invoked : ClockSample) (recordIndex : UInt64)
      (pointer : Nat) (reading : ClockReadResult) (call : P.PCall) (s' : P.State)
      (result : EnqueueResult)
      (hs : P.pStep input.isOk s call = (s', .returned ⟨.captureFailed, result⟩)) :
      Step arena input s
        (.enqueue due begun lookup invoked recordIndex pointer reading call) s'
        (.returned (producerClockFailure .enqueueLinearization
          (if P.pObserves call then input else reading).status))
  | answered (due : DueArrival) (begun lookup invoked : ClockSample) (recordIndex : UInt64)
      (pointer : Nat) (reading : ClockReadResult) (call : P.PCall) (s' : P.State)
      (result : EnqueueResult)
      (hs : P.pStep input.isOk s call = (s', .returned ⟨.complete, result⟩)) :
      Step arena input s
        (.enqueue due begun lookup invoked recordIndex pointer reading call) s'
        (.running (.completion due begun lookup invoked recordIndex
          (if P.pObserves call then input else reading) result))
  | completes (due : DueArrival) (begun lookup invoked : ClockSample) (recordIndex : UInt64)
      (reading : ClockReadResult) (result : EnqueueResult) (hok : input.isOk = true) :
      Step arena input s (.completion due begun lookup invoked recordIndex reading result) s
        (.returned ⟨.complete, none, .ok, some (producerObservation due begun lookup invoked
          recordIndex reading result input.sample)⟩)
  | completionFails (due : DueArrival) (begun lookup invoked : ClockSample)
      (recordIndex : UInt64) (reading : ClockReadResult) (result : EnqueueResult)
      (hok : input.isOk = false) :
      Step arena input s (.completion due begun lookup invoked recordIndex reading result) s
        (.returned (producerClockFailure .enqueueAttemptCompletion input.status))

theorem step_cases {input : ClockReadResult} {s s' : P.State} {call : DueCapture P}
    {out : Outcome (DueCapture P) ProducerCaptureResult}
    (h : step arena input s call = (s', out)) : Step arena input s call s' out := by
  cases call with
  | handleBegin due =>
      simp only [step] at h
      split at h
      · rename_i hok
        obtain ⟨rfl, rfl⟩ := Prod.mk.inj h
        exact .begins due hok
      · rename_i hok
        obtain ⟨rfl, rfl⟩ := Prod.mk.inj h
        exact .beginFails due (by simpa using hok)
  | recordLookup due begun =>
      simp only [step, arena.eventPointerFrom_select] at h
      split at h
      · rename_i hok
        obtain ⟨rfl, rfl⟩ := Prod.mk.inj h
        exact .looksUp due begun hok
      · rename_i hok
        obtain ⟨rfl, rfl⟩ := Prod.mk.inj h
        exact .lookupFails due begun (by simpa using hok)
  | invocation due begun lookup recordIndex pointer =>
      simp only [step] at h
      split at h
      · rename_i hok
        obtain ⟨rfl, rfl⟩ := Prod.mk.inj h
        exact .invokes due begun lookup recordIndex pointer hok
      · rename_i hok
        obtain ⟨rfl, rfl⟩ := Prod.mk.inj h
        exact .invocationFails due begun lookup recordIndex pointer (by simpa using hok)
  | enqueue due begun lookup invoked recordIndex pointer reading call =>
      simp only [step] at h
      split at h
      · rename_i s'' call' hs
        obtain ⟨rfl, rfl⟩ := Prod.mk.inj h
        exact .runs due begun lookup invoked recordIndex pointer reading call call' s'' hs
      · rename_i s'' result hs
        obtain ⟨rfl, rfl⟩ := Prod.mk.inj h
        exact .boundaryFails due begun lookup invoked recordIndex pointer reading call s'' result hs
      · rename_i s'' result hs
        obtain ⟨rfl, rfl⟩ := Prod.mk.inj h
        exact .answered due begun lookup invoked recordIndex pointer reading call s'' result hs
  | completion due begun lookup invoked recordIndex reading result =>
      simp only [step] at h
      split at h
      · rename_i hok
        obtain ⟨rfl, rfl⟩ := Prod.mk.inj h
        exact .completes due begun lookup invoked recordIndex reading result hok
      · rename_i hok
        obtain ⟨rfl, rfl⟩ := Prod.mk.inj h
        exact .completionFails due begun lookup invoked recordIndex reading result
          (by simpa using hok)

theorem step_rank {input : ClockReadResult} {s s' : P.State} {call call' : DueCapture P}
    (h : step arena input s call = (s', .running call')) : call'.rank arena < call.rank arena := by
  cases step_cases arena h with
  | runs due begun lookup invoked recordIndex pointer reading call call' s' hs =>
      have hlt := P.pRank_lt _ _ _ _ _ hs
      simpa [rank] using hlt
  | _ => simp [rank]

end DueCapture

/-! ### The consumer's capture -/

/-- Where a running `capture_dequeue_poll` stands: what it reads or runs next. -/
inductive PollCapture (P : Package Nat) where
  | invocation (ordinal : UInt64)
  | dequeue (ordinal : UInt64) (invoked : ClockSample) (reading : ClockReadResult)
      (call : P.CCall)
  | completion (ordinal : UInt64) (invoked : ClockSample) (reading : ClockReadResult)
      (event : Option Nat)
  | action (ordinal : UInt64) (invoked : ClockSample) (reading : ClockReadResult)
      (completed : ClockSample) (event : Option Nat) (recordIndex : UInt64)

namespace PollCapture

variable {P : Package Nat} (arena : EventArena)

/-- One step of `capture_dequeue_poll`; a null event is the address zero. -/
def step (input : ClockReadResult) (s : P.State) (state : ConsumerState) :
    PollCapture P → (P.State × ConsumerState) × Outcome (PollCapture P) ConsumerCaptureResult
  | .invocation ordinal =>
      if input.isOk then
        ((s, state), .running (.dequeue ordinal input.sample .unread (P.cBegin ())))
      else ((s, state), .returned (consumerClockFailure .dequeueInvocation input.status))
  | .dequeue ordinal invoked reading call =>
      let reading' := if P.cObserves call then input else reading
      match P.cStep input.isOk s call with
      | (s', .running call') =>
          ((s', state), .running (.dequeue ordinal invoked reading' call'))
      | (s', .returned ⟨.captureFailed, _⟩) =>
          ((s', state),
            .returned (consumerClockFailure .dequeueLinearization reading'.status))
      | (s', .returned ⟨.complete, ⟨.empty, _⟩⟩) =>
          ((s', state), .returned ⟨.empty, none, .ok, .valid, none⟩)
      | (s', .returned ⟨.complete, ⟨.recyclerInvariantFailure, _⟩⟩) =>
          ((s', state), .returned ⟨.queueFailure, none, .ok, .valid, none⟩)
      | (s', .returned ⟨.complete, ⟨.item, event⟩⟩) =>
          ((s', state), .running (.completion ordinal invoked reading' event))
  | .completion ordinal invoked reading event =>
      if input.isOk then
        let access := arena.accessAndMix (event.getD 0) state
        if access.2.status = .valid then
          ((s, access.1),
            .running (.action ordinal invoked reading input.sample event
              access.2.recordIndex))
        else
          ((s, access.1), .returned ⟨.recordFailure, none, .ok, access.2.status, none⟩)
      else ((s, state), .returned (consumerClockFailure .dequeueCompletion input.status))
  | .action ordinal invoked reading completed _ recordIndex =>
      if input.isOk then
        ((s, state), .returned ⟨.complete, none, .ok, .valid,
          some ⟨ordinal, recordIndex, invoked, reading.sample, completed, input.sample⟩⟩)
      else
        ((s, state), .returned (consumerClockFailure .consumerActionCompletion input.status))

/-- How many steps a capture may still take. -/
def rank : PollCapture P → Nat
  | .invocation _ => P.cRank (P.cBegin ()) + 3
  | .dequeue _ _ _ call => P.cRank call + 2
  | .completion .. => 1
  | .action .. => 0

/-- Everything one step can do. -/
inductive Step (arena : EventArena) (input : ClockReadResult) (s : P.State)
    (state : ConsumerState) : PollCapture P → P.State × ConsumerState →
      Outcome (PollCapture P) ConsumerCaptureResult → Prop where
  | begins (ordinal : UInt64) (hok : input.isOk = true) :
      Step arena input s state (.invocation ordinal) (s, state)
        (.running (.dequeue ordinal input.sample .unread (P.cBegin ())))
  | beginFails (ordinal : UInt64) (hok : input.isOk = false) :
      Step arena input s state (.invocation ordinal) (s, state)
        (.returned (consumerClockFailure .dequeueInvocation input.status))
  | runs (ordinal : UInt64) (invoked : ClockSample) (reading : ClockReadResult)
      (call call' : P.CCall) (s' : P.State)
      (hs : P.cStep input.isOk s call = (s', .running call')) :
      Step arena input s state (.dequeue ordinal invoked reading call) (s', state)
        (.running (.dequeue ordinal invoked (if P.cObserves call then input else reading) call'))
  | boundaryFails (ordinal : UInt64) (invoked : ClockSample) (reading : ClockReadResult)
      (call : P.CCall) (s' : P.State) (result : Queue.DequeueResult Nat)
      (hs : P.cStep input.isOk s call = (s', .returned ⟨.captureFailed, result⟩)) :
      Step arena input s state (.dequeue ordinal invoked reading call) (s', state)
        (.returned (consumerClockFailure .dequeueLinearization
          (if P.cObserves call then input else reading).status))
  | foundEmpty (ordinal : UInt64) (invoked : ClockSample) (reading : ClockReadResult)
      (call : P.CCall) (s' : P.State) (event : Option Nat)
      (hs : P.cStep input.isOk s call = (s', .returned ⟨.complete, ⟨.empty, event⟩⟩)) :
      Step arena input s state (.dequeue ordinal invoked reading call) (s', state)
        (.returned ⟨.empty, none, .ok, .valid, none⟩)
  | broken (ordinal : UInt64) (invoked : ClockSample) (reading : ClockReadResult)
      (call : P.CCall) (s' : P.State) (event : Option Nat)
      (hs : P.cStep input.isOk s call =
        (s', .returned ⟨.complete, ⟨.recyclerInvariantFailure, event⟩⟩)) :
      Step arena input s state (.dequeue ordinal invoked reading call) (s', state)
        (.returned ⟨.queueFailure, none, .ok, .valid, none⟩)
  | took (ordinal : UInt64) (invoked : ClockSample) (reading : ClockReadResult)
      (call : P.CCall) (s' : P.State) (event : Option Nat)
      (hs : P.cStep input.isOk s call = (s', .returned ⟨.complete, ⟨.item, event⟩⟩)) :
      Step arena input s state (.dequeue ordinal invoked reading call) (s', state)
        (.running (.completion ordinal invoked (if P.cObserves call then input else reading)
          event))
  | accesses (ordinal : UInt64) (invoked : ClockSample) (reading : ClockReadResult)
      (event : Option Nat) (hok : input.isOk = true)
      (hvalid : (arena.accessAndMix (event.getD 0) state).2.status = .valid) :
      Step arena input s state (.completion ordinal invoked reading event)
        (s, (arena.accessAndMix (event.getD 0) state).1)
        (.running (.action ordinal invoked reading input.sample event
          (arena.accessAndMix (event.getD 0) state).2.recordIndex))
  | accessFails (ordinal : UInt64) (invoked : ClockSample) (reading : ClockReadResult)
      (event : Option Nat) (hok : input.isOk = true)
      (hvalid : (arena.accessAndMix (event.getD 0) state).2.status ≠ .valid) :
      Step arena input s state (.completion ordinal invoked reading event)
        (s, (arena.accessAndMix (event.getD 0) state).1)
        (.returned ⟨.recordFailure, none, .ok,
          (arena.accessAndMix (event.getD 0) state).2.status, none⟩)
  | completionFails (ordinal : UInt64) (invoked : ClockSample) (reading : ClockReadResult)
      (event : Option Nat) (hok : input.isOk = false) :
      Step arena input s state (.completion ordinal invoked reading event) (s, state)
        (.returned (consumerClockFailure .dequeueCompletion input.status))
  | acts (ordinal : UInt64) (invoked : ClockSample) (reading : ClockReadResult)
      (completed : ClockSample) (event : Option Nat) (recordIndex : UInt64)
      (hok : input.isOk = true) :
      Step arena input s state (.action ordinal invoked reading completed event recordIndex)
        (s, state)
        (.returned ⟨.complete, none, .ok, .valid,
          some ⟨ordinal, recordIndex, invoked, reading.sample, completed, input.sample⟩⟩)
  | actionFails (ordinal : UInt64) (invoked : ClockSample) (reading : ClockReadResult)
      (completed : ClockSample) (event : Option Nat) (recordIndex : UInt64)
      (hok : input.isOk = false) :
      Step arena input s state (.action ordinal invoked reading completed event recordIndex)
        (s, state)
        (.returned (consumerClockFailure .consumerActionCompletion input.status))

theorem step_cases {input : ClockReadResult} {s : P.State} {state : ConsumerState}
    {x : P.State × ConsumerState} {call : PollCapture P}
    {out : Outcome (PollCapture P) ConsumerCaptureResult}
    (h : step arena input s state call = (x, out)) : Step arena input s state call x out := by
  cases call with
  | invocation ordinal =>
      simp only [step] at h
      split at h
      · rename_i hok
        obtain ⟨rfl, rfl⟩ := Prod.mk.inj h
        exact .begins ordinal hok
      · rename_i hok
        obtain ⟨rfl, rfl⟩ := Prod.mk.inj h
        exact .beginFails ordinal (by simpa using hok)
  | dequeue ordinal invoked reading call =>
      simp only [step] at h
      split at h
      · rename_i s' call' hs
        obtain ⟨rfl, rfl⟩ := Prod.mk.inj h
        exact .runs ordinal invoked reading call call' s' hs
      · rename_i s' result hs
        obtain ⟨rfl, rfl⟩ := Prod.mk.inj h
        exact .boundaryFails ordinal invoked reading call s' result hs
      · rename_i s' event hs
        obtain ⟨rfl, rfl⟩ := Prod.mk.inj h
        exact .foundEmpty ordinal invoked reading call s' event hs
      · rename_i s' event hs
        obtain ⟨rfl, rfl⟩ := Prod.mk.inj h
        exact .broken ordinal invoked reading call s' event hs
      · rename_i s' event hs
        obtain ⟨rfl, rfl⟩ := Prod.mk.inj h
        exact .took ordinal invoked reading call s' event hs
  | completion ordinal invoked reading event =>
      simp only [step] at h
      split at h
      · rename_i hok
        split at h
        · rename_i hvalid
          obtain ⟨rfl, rfl⟩ := Prod.mk.inj h
          exact .accesses ordinal invoked reading event hok hvalid
        · rename_i hvalid
          obtain ⟨rfl, rfl⟩ := Prod.mk.inj h
          exact .accessFails ordinal invoked reading event hok hvalid
      · rename_i hok
        obtain ⟨rfl, rfl⟩ := Prod.mk.inj h
        exact .completionFails ordinal invoked reading event (by simpa using hok)
  | action ordinal invoked reading completed event recordIndex =>
      simp only [step] at h
      split at h
      · rename_i hok
        obtain ⟨rfl, rfl⟩ := Prod.mk.inj h
        exact .acts ordinal invoked reading completed event recordIndex hok
      · rename_i hok
        obtain ⟨rfl, rfl⟩ := Prod.mk.inj h
        exact .actionFails ordinal invoked reading completed event recordIndex (by simpa using hok)

theorem step_rank {input : ClockReadResult} {s : P.State} {state : ConsumerState}
    {x : P.State × ConsumerState} {call call' : PollCapture P}
    (h : step arena input s state call = (x, .running call')) : call'.rank < call.rank := by
  cases step_cases arena h with
  | runs ordinal invoked reading call call' s' hs =>
      have hlt := P.cRank_lt _ _ _ _ _ hs
      simpa [rank] using hlt
  | _ => simp [rank]

end PollCapture

/-! ### Logical rows -/

def makeProducerRecord (runId : RunId) (observation : ProducerObservation) : ProducerRecord where
  runId := runId
  logicalSequence := observation.logicalSequence
  recordIndex := observation.recordIndex
  scheduledArrival := observation.scheduledArrival
  producerHandleBegin := observation.producerHandleBegin.relativePicoseconds
  recordLookupCompletion := observation.recordLookupCompletion.relativePicoseconds
  enqueueInvocation := observation.enqueueInvocation.relativePicoseconds
  enqueueLinearization := observation.enqueueLinearization.map (·.relativePicoseconds)
  enqueueAttemptCompletion := observation.enqueueAttemptCompletion.relativePicoseconds
  outcome := observation.outcome
  acceptedOrdinal := observation.acceptedOrdinal

def makeConsumerRecord (runId : RunId) (observation : ConsumerObservation) : ConsumerRecord where
  runId := runId
  consumedOrdinal := observation.consumedOrdinal
  observedRecordIndex := observation.observedRecordIndex
  dequeueInvocation := observation.dequeueInvocation.relativePicoseconds
  dequeueLinearization := observation.dequeueLinearization.relativePicoseconds
  dequeueCompletion := observation.dequeueCompletion.relativePicoseconds
  consumerActionCompletion := observation.consumerActionCompletion.relativePicoseconds

end CpuPrefetch.Timing
