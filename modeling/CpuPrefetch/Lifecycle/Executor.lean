/-
`execute_measurement`: the controller, the producer and the consumer.

The three threads share the start barrier, the termination word and two flags, and
the two workers share the backend.  A step of a thread is one access of a shared
word, one clock read, or one step of a backend call, together with the private work
that follows it up to the next such access; `point` says which access comes next.
What a clock read or a backend step returns is an input of the step, so that every
clock and every backend behaviour is covered by quantifying over inputs.

The backend is an `Spsc` object, and its state sits in a `Spsc.Client` together with
the calls in progress and those that have returned.
-/
import CpuPrefetch.Lifecycle.Runtime
import CpuPrefetch.Queue.Common

namespace CpuPrefetch.Lifecycle

open Queue (EnqueueResult)

structure TickRead where
  ok : Bool
  ticks : UInt64
  deriving DecidableEq, Repr

inductive AttemptStatus where
  | complete
  | failure
  deriving DecidableEq, Repr

structure ProducerAttemptResult where
  status : AttemptStatus
  outcome : EnqueueResult
  deriving DecidableEq, Repr

structure ProducerAttempt where
  logicalSequence : UInt64
  scheduledDeadline : UInt64
  candidateAcceptedOrdinal : UInt64
  deriving DecidableEq, Repr

inductive ConsumerPollStatus where
  | item
  | empty
  | failure
  deriving DecidableEq, Repr

structure ConsumerPollResult where
  status : ConsumerPollStatus
  deriving DecidableEq, Repr

structure ExecutionLimits where
  controllerStartPollLimit : UInt64
  workerStartPollLimit : UInt64
  producerDuePollLimitPerArrival : UInt64
  consumerEmptyPollLimitBeforeFinish : UInt64
  drainPollLimit : UInt64
  deriving DecidableEq, Repr

inductive ExecutionFailurePhase where
  | none
  | preRun
  | startBarrier
  | measurement
  | drain
  deriving DecidableEq, Repr

inductive ExecutionFailureReason where
  | none
  | invalidSchedule
  | invalidLimits
  | terminationReset
  | startWatchdog
  | clockRead
  | deadlineOverflow
  | producerWaitWatchdog
  | producerAttempt
  | consumerPoll
  | consumerWaitWatchdog
  | drainWatchdog
  | cancelled
  deriving DecidableEq, Repr

structure MeasurementExecutionReport where
  failurePhase : ExecutionFailurePhase := .none
  failureReason : ExecutionFailureReason := .none
  measurementOriginTicks : UInt64 := 0
  offered : UInt64 := 0
  attempted : UInt64 := 0
  accepted : UInt64 := 0
  full : UInt64 := 0
  consumed : UInt64 := 0
  producerWaitPolls : UInt64 := 0
  consumerEmptyPolls : UInt64 := 0
  drainPolls : UInt64 := 0
  producerCompleted : Bool := false
  consumerDrained : Bool := false
  arrivalsFinishedPublished : Bool := false
  cancellationRequested : Bool := false
  deriving DecidableEq, Repr

structure ProducerWorkerState where
  failure : ExecutionFailureReason := .none
  attempted : UInt64 := 0
  accepted : UInt64 := 0
  full : UInt64 := 0
  waitPolls : UInt64 := 0
  completed : Bool := false
  arrivalsFinishedPublished : Bool := false
  deriving DecidableEq, Repr

structure ConsumerWorkerState where
  failure : ExecutionFailureReason := .none
  failurePhase : ExecutionFailurePhase := .none
  consumed : UInt64 := 0
  emptyPolls : UInt64 := 0
  drainPolls : UInt64 := 0
  drained : Bool := false
  deriving DecidableEq, Repr

def failureReport (phase : ExecutionFailurePhase) (reason : ExecutionFailureReason)
    (offered : UInt64) : MeasurementExecutionReport :=
  { failurePhase := phase, failureReason := reason, offered := offered }

/-- `checked_measurement_deadline`: the target tick, unless it overflows. -/
def checkedMeasurementDeadline (measurementOrigin scheduleOrigin scheduleDeadline : UInt64) :
    Option UInt64 :=
  let offset := scheduleDeadline - scheduleOrigin
  if offset.toNat > 2 ^ 64 - 1 - measurementOrigin.toNat then none
  else some (measurementOrigin + offset)

/-! ### The producer's private state -/

/-- The access a producer makes next. -/
inductive ProducerPoint where
  | arrive
  | cancelBarrier
  | pollCancelled (poll : UInt64)
  | pollReleased (poll : UInt64)
  | storeStartFailed
  | loadOrigin
  | loadCancellation (deadline : UInt64)
  | pollCancellation (deadline target poll : UInt64)
  | readClock (deadline target poll : UInt64)
  | attempt (attempt : ProducerAttempt)
  | storeProducerFailed
  | storeCancellation
  | publish
  | returned
  deriving DecidableEq, Repr

structure ProducerThread where
  point : ProducerPoint := .arrive
  state : ProducerWorkerState := {}
  measurementOrigin : UInt64 := 0
  /-- The deadlines whose arrivals have not begun. -/
  remaining : List UInt64 := []
  logicalSequence : UInt64 := 0
  acceptedOrdinal : UInt64 := 0
  deriving DecidableEq, Repr

namespace ProducerThread

variable (schedule : PreparedScheduleView) (limits : ExecutionLimits)

variable (t : ProducerThread)

/-- The worker returns before the loop, once it has stored `producer_failed`. -/
def startFail (reason : ExecutionFailureReason) : ProducerThread :=
  { t with state := { t.state with failure := reason }, point := .storeStartFailed }

/-- `worker_wait` at this poll of its loop. -/
def workerWait (poll : UInt64) : ProducerThread :=
  if poll < limits.workerStartPollLimit then { t with point := .pollCancelled poll }
  else t.startFail .startWatchdog

/-- The loop breaks with a failure. -/
def fail (reason : ExecutionFailureReason) : ProducerThread :=
  { t with state := { t.state with failure := reason }, point := .storeProducerFailed }

/-- The loop goes to its next deadline, or ends. -/
def nextArrival : ProducerThread :=
  match t.remaining with
  | [] => { t with state := { t.state with completed := true }, point := .publish }
  | deadline :: rest => { t with remaining := rest, point := .loadCancellation deadline }

/-- The due loop at this poll. -/
def awaitDue (deadline target poll : UInt64) : ProducerThread :=
  if poll < limits.producerDuePollLimitPerArrival then
    { t with point := .pollCancellation deadline target poll }
  else t.fail .producerWaitWatchdog

/-- The arrival's target is computed once cancellation has been ruled out. -/
def beginArrival (deadline : UInt64) : ProducerThread :=
  match checkedMeasurementDeadline t.measurementOrigin schedule.originTicks deadline with
  | none => t.fail .deadlineOverflow
  | some target => t.awaitDue limits deadline target 0

/-- What the due loop does with a clock reading. -/
def afterRead (deadline target poll : UInt64) (reading : TickRead) : ProducerThread :=
  if !reading.ok then t.fail .clockRead
  else if reading.ticks ≥ target then
    { t with point := .attempt ⟨t.logicalSequence, deadline, t.acceptedOrdinal⟩ }
  else
    { t with state := { t.state with waitPolls := t.state.waitPolls + 1 } }.awaitDue limits
      deadline target (poll + 1)

/-- The accounting of one attempt. -/
def afterAttempt (r : ProducerAttemptResult) : ProducerThread :=
  let attempted := t.state.attempted + 1
  match r with
  | ⟨.failure, _⟩ =>
      { t with state := { t.state with attempted := attempted } }.fail .producerAttempt
  | ⟨.complete, .accepted⟩ =>
      { t with
        state := { t.state with attempted := attempted, accepted := t.state.accepted + 1 }
        acceptedOrdinal := t.acceptedOrdinal + 1
        logicalSequence := t.logicalSequence + 1 }.nextArrival
  | ⟨.complete, .full⟩ =>
      { t with
        state := { t.state with attempted := attempted, full := t.state.full + 1 }
        logicalSequence := t.logicalSequence + 1 }.nextArrival

end ProducerThread

/-! ### The consumer's private state -/

/-- The access a consumer makes next. -/
inductive ConsumerPoint where
  | arrive
  | cancelBarrier
  | pollCancelled (poll : UInt64)
  | pollReleased (poll : UInt64)
  | storeStartCancellation
  | loadFinished
  | loadProducerFailed
  | poll (finished : Bool)
  | reloadFinished
  | storeCancellation
  | returned
  deriving DecidableEq, Repr

structure ConsumerThread where
  point : ConsumerPoint := .arrive
  state : ConsumerWorkerState := {}
  candidateConsumedOrdinal : UInt64 := 0
  emptyBeforeFinish : UInt64 := 0
  deriving DecidableEq, Repr

namespace ConsumerThread

variable (limits : ExecutionLimits)

/-- The worker returns before the loop, once it has stored `cancellation`. -/
def startFail (t : ConsumerThread) (reason : ExecutionFailureReason) : ConsumerThread :=
  { t with
    state := { t.state with failure := reason, failurePhase := .startBarrier }
    point := .storeStartCancellation }

/-- `worker_wait` at this poll of its loop. -/
def workerWait (t : ConsumerThread) (poll : UInt64) : ConsumerThread :=
  if poll < limits.workerStartPollLimit then { t with point := .pollCancelled poll }
  else t.startFail .startWatchdog

/-- The loop breaks with a failure attributed to this phase. -/
def fail (t : ConsumerThread) (reason : ExecutionFailureReason) (phase : ExecutionFailurePhase) :
    ConsumerThread :=
  { t with
    state := { t.state with failure := reason, failurePhase := phase }
    point := .storeCancellation }

/-- What the loop does with a poll once the drain watchdog has let it pass. -/
def classify (t : ConsumerThread) (finished : Bool) (r : ConsumerPollResult) : ConsumerThread :=
  match r.status with
  | .item =>
      { t with
        state := { t.state with consumed := t.state.consumed + 1 }
        candidateConsumedOrdinal := t.candidateConsumedOrdinal + 1
        emptyBeforeFinish := 0
        point := .loadFinished }
  | .failure =>
      -- `finished || termination.arrivals_finished()`: the second load only if needed.
      if finished then t.fail .consumerPoll .drain
      else
        { t with state := { t.state with failure := .consumerPoll }, point := .reloadFinished }
  | .empty =>
      if finished then
        { t with state := { t.state with drained := true }, point := .returned }
      else
        let t' :=
          { t with
            state := { t.state with emptyPolls := t.state.emptyPolls + 1 }
            emptyBeforeFinish := t.emptyBeforeFinish + 1 }
        if t'.emptyBeforeFinish ≥ limits.consumerEmptyPollLimitBeforeFinish then
          t'.fail .consumerWaitWatchdog .measurement
        else { t' with point := .loadFinished }

/-- What the loop does with a poll. -/
def afterPoll (t : ConsumerThread) (finished : Bool) (r : ConsumerPollResult) : ConsumerThread :=
  if finished then
    let t' := { t with state := { t.state with drainPolls := t.state.drainPolls + 1 } }
    if t'.state.drainPolls > limits.drainPollLimit then t'.fail .drainWatchdog .drain
    else t'.classify limits finished r
  else t.classify limits finished r

end ConsumerThread

/-! ### The controller -/

/-- The access the controller makes next. -/
inductive ControllerPoint where
  | waitCancelled (poll : UInt64)
  | waitReady (poll : UInt64)
  | readOrigin
  | releaseCancelled (origin : UInt64)
  | releaseReady (origin : UInt64)
  | storeOrigin (origin : UInt64)
  | storeReleased (origin : UInt64)
  | joinProducer (origin : UInt64)
  | joinConsumer (origin : UInt64)
  | loadCancellation (origin : UInt64)
  | returned (report : MeasurementExecutionReport)
  | abortCancellation (reason : ExecutionFailureReason)
  | abortBarrier (reason : ExecutionFailureReason)
  | abortJoinProducer (reason : ExecutionFailureReason)
  | abortJoinConsumer (reason : ExecutionFailureReason)
  | aborted (report : MeasurementExecutionReport)
  deriving DecidableEq, Repr

/-- `controller_wait` at this poll of its loop. -/
def ControllerPoint.controllerWait (limits : ExecutionLimits) (poll : UInt64) : ControllerPoint :=
  if poll < limits.controllerStartPollLimit then .waitCancelled poll
  else .abortCancellation .startWatchdog

/-- The report returned when the barrier was not released. -/
def abortReport (schedule : PreparedScheduleView) (reason : ExecutionFailureReason) :
    MeasurementExecutionReport :=
  { failurePhase := .startBarrier
    failureReason := reason
    offered := .ofNat schedule.deadlineTicks.length
    cancellationRequested := true }

/-- Which worker's failure the report names, and its phase. -/
def attribution (producer : ProducerWorkerState) (consumer : ConsumerWorkerState) :
    ExecutionFailurePhase × ExecutionFailureReason :=
  if producer.failure ≠ .none ∧
      ¬(producer.failure = .cancelled ∧ consumer.failure ≠ .none) then
    (if producer.failure = .startWatchdog then .startBarrier else .measurement,
      producer.failure)
  else if consumer.failure ≠ .none then (consumer.failurePhase, consumer.failure)
  else (.none, .none)

/-- The report assembled from the two workers' states. -/
def assembleReport (schedule : PreparedScheduleView) (origin : UInt64) (cancellation : Bool)
    (producer : ProducerWorkerState) (consumer : ConsumerWorkerState) :
    MeasurementExecutionReport :=
  let failure := attribution producer consumer
  { failurePhase := failure.1
    failureReason := failure.2
    measurementOriginTicks := origin
    offered := .ofNat schedule.deadlineTicks.length
    attempted := producer.attempted
    accepted := producer.accepted
    full := producer.full
    consumed := consumer.consumed
    producerWaitPolls := producer.waitPolls
    consumerEmptyPolls := consumer.emptyPolls
    drainPolls := consumer.drainPolls
    producerCompleted := producer.completed
    consumerDrained := consumer.drained
    arrivalsFinishedPublished := producer.arrivalsFinishedPublished
    cancellationRequested := cancellation }

/-! ### The three threads together -/

/-- `try_producer_attempt` and `try_consumer_poll`, as a shared object. -/
abbrev Backend (PIn CIn : Type) :=
  Spsc ProducerAttempt PIn ProducerAttemptResult UInt64 CIn ConsumerPollResult

variable {PIn CIn : Type}

structure Execution (B : Backend PIn CIn) where
  barrier : WorkerStartBarrier
  termination : TerminationControl
  cancellation : Bool
  producerFailed : Bool
  client : Spsc.Client B
  producer : ProducerThread
  consumer : ConsumerThread
  controller : ControllerPoint

/-- Which thread moves, with what its clock read and its backend step see. -/
inductive ThreadStep (PIn CIn : Type) where
  | producer (reading : TickRead) (input : PIn)
  | consumer (input : CIn)
  | controller (reading : TickRead)

namespace Execution

variable {B : Backend PIn CIn} (schedule : PreparedScheduleView) (limits : ExecutionLimits)

/-- A step of the backend call the producer is making. -/
def attemptStep (e : Execution B) (attempt : ProducerAttempt) (input : PIn) : Execution B :=
  let client := e.client.step (.producer attempt input)
  match e.client.pcall with
  | none => { e with client := client }
  | some (_, call) =>
      match (B.pStep input e.client.state call).2 with
      | .running _ => { e with client := client }
      | .returned r => { e with client := client, producer := e.producer.afterAttempt r }

/-- A step of the backend call the consumer is making. -/
def pollStep (e : Execution B) (finished : Bool) (input : CIn) : Execution B :=
  let client := e.client.step (.consumer e.consumer.candidateConsumedOrdinal input)
  match e.client.ccall with
  | none => { e with client := client }
  | some call =>
      match (B.cStep input e.client.state call).2 with
      | .running _ => { e with client := client }
      | .returned r =>
          { e with client := client, consumer := e.consumer.afterPoll limits finished r }

def producerStep (reading : TickRead) (input : PIn) (e : Execution B) : Option (Execution B) :=
  let t := e.producer
  match t.point with
  | .arrive =>
      let arrival := e.barrier.arrive .producer
      some { e with
        barrier := arrival.1
        producer := if arrival.2 then { t with point := .cancelBarrier }
          else t.workerWait limits 0 }
  | .cancelBarrier =>
      some { e with barrier := e.barrier.cancel, producer := t.startFail .cancelled }
  | .pollCancelled poll =>
      some { e with producer :=
        if e.barrier.cancelled then t.startFail .startWatchdog
        else { t with point := .pollReleased poll } }
  | .pollReleased poll =>
      some { e with producer :=
        if e.barrier.released then { t with point := .loadOrigin }
        else t.workerWait limits (poll + 1) }
  | .storeStartFailed =>
      some { e with producerFailed := true, producer := { t with point := .returned } }
  | .loadOrigin =>
      some { e with producer :=
        { t with
          measurementOrigin := e.barrier.measurementOriginTicks
          remaining := schedule.deadlineTicks }.nextArrival }
  | .loadCancellation deadline =>
      some { e with producer :=
        if e.cancellation then t.fail .cancelled
        else t.beginArrival schedule limits deadline }
  | .pollCancellation deadline target poll =>
      some { e with producer :=
        if e.cancellation then t.fail .cancelled
        else { t with point := .readClock deadline target poll } }
  | .readClock deadline target poll =>
      some { e with producer := t.afterRead limits deadline target poll reading }
  | .attempt attempt => some (e.attemptStep attempt input)
  | .storeProducerFailed =>
      some { e with producerFailed := true, producer := { t with point := .storeCancellation } }
  | .storeCancellation =>
      some { e with cancellation := true, producer := { t with point := .publish } }
  | .publish =>
      some { e with
        termination := e.termination.publishArrivalsFinished
        producer := { t with
          state := { t.state with arrivalsFinishedPublished := true }
          point := .returned } }
  | .returned => none

def consumerStep (input : CIn) (e : Execution B) : Option (Execution B) :=
  let t := e.consumer
  match t.point with
  | .arrive =>
      let arrival := e.barrier.arrive .consumer
      some { e with
        barrier := arrival.1
        consumer := if arrival.2 then { t with point := .cancelBarrier }
          else t.workerWait limits 0 }
  | .cancelBarrier =>
      some { e with barrier := e.barrier.cancel, consumer := t.startFail .cancelled }
  | .pollCancelled poll =>
      some { e with consumer :=
        if e.barrier.cancelled then t.startFail .startWatchdog
        else { t with point := .pollReleased poll } }
  | .pollReleased poll =>
      some { e with consumer :=
        if e.barrier.released then { t with point := .loadFinished }
        else t.workerWait limits (poll + 1) }
  | .storeStartCancellation =>
      some { e with cancellation := true, consumer := { t with point := .returned } }
  | .loadFinished =>
      some { e with consumer :=
        if e.termination.arrivalsFinished then { t with point := .loadProducerFailed }
        else { t with point := .poll false } }
  | .loadProducerFailed =>
      some { e with consumer :=
        if e.producerFailed then { t with point := .returned }
        else { t with point := .poll true } }
  | .poll finished => some (e.pollStep limits finished input)
  | .reloadFinished =>
      some { e with consumer :=
        { t with
          state := { t.state with failurePhase :=
            if e.termination.arrivalsFinished then .drain else .measurement }
          point := .storeCancellation } }
  | .storeCancellation =>
      some { e with cancellation := true, consumer := { t with point := .returned } }
  | .returned => none

def controllerStep (reading : TickRead) (e : Execution B) : Option (Execution B) :=
  match e.controller with
  | .waitCancelled poll =>
      some { e with controller :=
        if e.barrier.cancelled then .abortCancellation .startWatchdog else .waitReady poll }
  | .waitReady poll =>
      some { e with controller :=
        if e.barrier.allWorkersReady then .readOrigin
        else .controllerWait limits (poll + 1) }
  | .readOrigin =>
      some { e with controller :=
        if reading.ok then .releaseCancelled reading.ticks else .abortCancellation .clockRead }
  | .releaseCancelled origin =>
      some { e with controller :=
        if e.barrier.cancelled then .abortCancellation .startWatchdog else .releaseReady origin }
  | .releaseReady origin =>
      some { e with controller :=
        if e.barrier.allWorkersReady then .storeOrigin origin
        else .abortCancellation .startWatchdog }
  | .storeOrigin origin =>
      some { e with barrier := e.barrier.storeOrigin origin, controller := .storeReleased origin }
  | .storeReleased origin =>
      some { e with barrier := e.barrier.release, controller := .joinProducer origin }
  | .joinProducer origin =>
      if e.producer.point = .returned then some { e with controller := .joinConsumer origin }
      else none
  | .joinConsumer origin =>
      if e.consumer.point = .returned then some { e with controller := .loadCancellation origin }
      else none
  | .loadCancellation origin =>
      let report :=
        assembleReport schedule origin e.cancellation e.producer.state e.consumer.state
      some { e with controller := .returned report }
  | .abortCancellation reason =>
      some { e with cancellation := true, controller := .abortBarrier reason }
  | .abortBarrier reason =>
      some { e with barrier := e.barrier.cancel, controller := .abortJoinProducer reason }
  | .abortJoinProducer reason =>
      if e.producer.point = .returned then some { e with controller := .abortJoinConsumer reason }
      else none
  | .abortJoinConsumer reason =>
      if e.consumer.point = .returned then
        some { e with controller := .aborted (abortReport schedule reason) }
      else none
  | .returned _ | .aborted _ => none

/-- One step of one thread, unless that thread is blocked in a join or has returned. -/
def step (e : Execution B) : ThreadStep PIn CIn → Option (Execution B)
  | .producer reading input => e.producerStep schedule limits reading input
  | .consumer input => e.consumerStep limits input
  | .controller reading => e.controllerStep schedule limits reading

/-- The steps one after another, unless one of them is not possible. -/
def run? (e : Execution B) : List (ThreadStep PIn CIn) → Option (Execution B)
  | [] => some e
  | a :: rest => (e.step schedule limits a).bind (run? · rest)

/-- The same, for as long as the steps satisfy `ok`. -/
def runWhen? (ok : Execution B → ThreadStep PIn CIn → Bool) (e : Execution B) :
    List (ThreadStep PIn CIn) → Option (Execution B)
  | [] => some e
  | a :: rest =>
      if ok e a then (e.step schedule limits a).bind (runWhen? ok · rest) else none

/-- Some thread takes a step that satisfies `ok`. -/
def NextWhen (ok : Execution B → ThreadStep PIn CIn → Bool) (e e' : Execution B) : Prop :=
  ∃ a, ok e a = true ∧ e.step schedule limits a = some e'

/-- A finite interleaving all of whose steps satisfy `ok` leads from `e` to `e'`. -/
def ReachesWhen (ok : Execution B → ThreadStep PIn CIn → Bool) (e e' : Execution B) : Prop :=
  Relation.ReflTransGen (NextWhen schedule limits ok) e e'

/-- Some thread takes a step. -/
def Next (e e' : Execution B) : Prop := ∃ a, e.step schedule limits a = some e'

/-- A finite interleaving leads from `e` to `e'`. -/
def Reaches (e e' : Execution B) : Prop := Relation.ReflTransGen (Next schedule limits) e e'

/-- The report, once the controller has returned it. -/
def report? (e : Execution B) : Option MeasurementExecutionReport :=
  match e.controller with
  | .returned report | .aborted report => some report
  | _ => none

/-- The three threads at the points where they start. -/
def start (termination : TerminationControl) (init : B.State) : Execution B where
  barrier := {}
  termination := termination
  cancellation := false
  producerFailed := false
  client := .start init
  producer := {}
  consumer := {}
  controller := .controllerWait limits 0

end Execution

/-- Some limit is zero. -/
def ExecutionLimits.invalid (limits : ExecutionLimits) : Bool :=
  limits.controllerStartPollLimit == 0 || limits.workerStartPollLimit == 0 ||
    limits.producerDuePollLimitPerArrival == 0 ||
    limits.consumerEmptyPollLimitBeforeFinish == 0 || limits.drainPollLimit == 0

/-- `execute_measurement` up to the start of its threads: a report, or the threads. -/
def executeMeasurement (B : Backend PIn CIn) (schedule : PreparedScheduleView)
    (limits : ExecutionLimits) (termination : TerminationControl) (init : B.State) :
    Except MeasurementExecutionReport (Execution B) :=
  let offered := UInt64.ofNat schedule.deadlineTicks.length
  if !schedule.validatePreparedSchedule.isEmpty then
    throw (failureReport .preRun .invalidSchedule offered)
  else if limits.invalid then throw (failureReport .preRun .invalidLimits offered)
  else
    let reset := termination.resetQuiescent true
    if !reset.2 then throw (failureReport .startBarrier .terminationReset offered)
    else pure (.start limits reset.1 init)

/-! ### The plainest backend the executor can run over: a bounded queue of attempts, each

call one atomic step, with a flag by which the environment makes a call fail.
-/

namespace Bounded

/-- One attempt: refused by its environment, turned away when full, or queued. -/
def attemptStep (capacity : Nat) (works : Bool) (queue : List ProducerAttempt)
    (attempt : ProducerAttempt) :
    List ProducerAttempt × Outcome ProducerAttempt ProducerAttemptResult :=
  if !works then (queue, .returned ⟨.failure, .full⟩)
  else if queue.length < capacity then (queue ++ [attempt], .returned ⟨.complete, .accepted⟩)
  else (queue, .returned ⟨.complete, .full⟩)

/-- One poll: refused by its environment, or the head of the queue. -/
def pollStep (works : Bool) (queue : List ProducerAttempt) (_ordinal : UInt64) :
    List ProducerAttempt × Outcome UInt64 ConsumerPollResult :=
  if !works then (queue, .returned ⟨.failure⟩)
  else
    match queue with
    | [] => ([], .returned ⟨.empty⟩)
    | _ :: rest => (rest, .returned ⟨.item⟩)

theorem attemptStep_returns (capacity : Nat) (works : Bool) (queue queue' : List ProducerAttempt)
    (attempt call : ProducerAttempt) :
    attemptStep capacity works queue attempt ≠ (queue', .running call) := by
  unfold attemptStep
  split
  · simp
  · split <;> simp

theorem pollStep_returns (works : Bool) (queue queue' : List ProducerAttempt)
    (ordinal call : UInt64) : pollStep works queue ordinal ≠ (queue', .running call) := by
  unfold pollStep
  split
  · simp
  · split <;> simp

end Bounded

/-- A bounded queue behind the backend's two calls. -/
def bounded (capacity : Nat) : Backend Bool Bool where
  State := List ProducerAttempt
  PCall := ProducerAttempt
  CCall := UInt64
  pBegin := id
  pStep := Bounded.attemptStep capacity
  cBegin := id
  cStep := Bounded.pollStep
  pRank _ := 0
  cRank _ := 0
  pRank_lt _ _ _ _ _ h := (Bounded.attemptStep_returns _ _ _ _ _ _ h).elim
  cRank_lt _ _ _ _ _ h := (Bounded.pollStep_returns _ _ _ _ _ h).elim

end CpuPrefetch.Lifecycle
