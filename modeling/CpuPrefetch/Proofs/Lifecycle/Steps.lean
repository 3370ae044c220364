/-
What one step of each thread can do.

One constructor for each transition, with the guard it was taken under and the
execution it leaves.  Every invariant of the executor is proved by cases on these
relations and never unfolds the step functions.  The private work after an access
is kept as the source's own helper (`workerWait`, `nextArrival`, `awaitDue`), and
what each helper can leave is said once, below.
-/
import CpuPrefetch.Lifecycle.Executor

namespace CpuPrefetch.Lifecycle

variable {PIn CIn : Type} {B : Backend PIn CIn} {schedule : PreparedScheduleView}
  {limits : ExecutionLimits}

/-! ### The helpers -/

namespace ProducerThread

theorem workerWait_cases (limits : ExecutionLimits) (t : ProducerThread) (poll : UInt64) :
    (poll < limits.workerStartPollLimit ∧
        t.workerWait limits poll = { t with point := .pollCancelled poll }) ∨
      (¬poll < limits.workerStartPollLimit ∧
        t.workerWait limits poll = t.startFail .startWatchdog) := by
  unfold workerWait
  by_cases h : poll < limits.workerStartPollLimit <;> simp [h]

theorem nextArrival_cases (t : ProducerThread) :
    (t.remaining = [] ∧ t.nextArrival =
        { t with state := { t.state with completed := true }, point := .publish }) ∨
      ∃ deadline rest, t.remaining = deadline :: rest ∧ t.nextArrival =
        { t with remaining := rest, point := .loadCancellation deadline } := by
  unfold nextArrival
  cases h : t.remaining with
  | nil => exact Or.inl ⟨rfl, rfl⟩
  | cons deadline rest => exact Or.inr ⟨deadline, rest, rfl, rfl⟩

theorem awaitDue_cases (limits : ExecutionLimits) (t : ProducerThread)
    (deadline target poll : UInt64) :
    (poll < limits.producerDuePollLimitPerArrival ∧ t.awaitDue limits deadline target poll =
        { t with point := .pollCancellation deadline target poll }) ∨
      (¬poll < limits.producerDuePollLimitPerArrival ∧
        t.awaitDue limits deadline target poll = t.fail .producerWaitWatchdog) := by
  unfold awaitDue
  by_cases h : poll < limits.producerDuePollLimitPerArrival <;> simp [h]

theorem beginArrival_cases (schedule : PreparedScheduleView) (limits : ExecutionLimits)
    (t : ProducerThread) (deadline : UInt64) :
    t.beginArrival schedule limits deadline = t.fail .deadlineOverflow ∨
      ∃ target, checkedMeasurementDeadline t.measurementOrigin schedule.originTicks deadline =
          some target ∧
        t.beginArrival schedule limits deadline = t.awaitDue limits deadline target 0 := by
  unfold beginArrival
  split
  · exact Or.inl rfl
  · rename_i target htarget
    exact Or.inr ⟨target, htarget, rfl⟩

theorem afterRead_cases (limits : ExecutionLimits) (t : ProducerThread)
    (deadline target poll : UInt64) (reading : TickRead) :
    (reading.ok = false ∧
        t.afterRead limits deadline target poll reading = t.fail .clockRead) ∨
      (reading.ok = true ∧ target ≤ reading.ticks ∧
        t.afterRead limits deadline target poll reading =
          { t with point := .attempt ⟨t.logicalSequence, deadline, t.acceptedOrdinal⟩ }) ∨
      (reading.ok = true ∧ ¬target ≤ reading.ticks ∧
        t.afterRead limits deadline target poll reading =
          { t with state := { t.state with waitPolls := t.state.waitPolls + 1 } }.awaitDue
            limits deadline target (poll + 1)) := by
  unfold afterRead
  cases hok : reading.ok with
  | false => exact Or.inl ⟨rfl, rfl⟩
  | true =>
      by_cases hdue : target ≤ reading.ticks
      · exact Or.inr (Or.inl ⟨rfl, hdue, by simp [hdue]⟩)
      · exact Or.inr (Or.inr ⟨rfl, hdue, by simp [hdue]⟩)

end ProducerThread

namespace ConsumerThread

theorem workerWait_cases (limits : ExecutionLimits) (t : ConsumerThread) (poll : UInt64) :
    (poll < limits.workerStartPollLimit ∧
        t.workerWait limits poll = { t with point := .pollCancelled poll }) ∨
      (¬poll < limits.workerStartPollLimit ∧
        t.workerWait limits poll = t.startFail .startWatchdog) := by
  unfold workerWait
  by_cases h : poll < limits.workerStartPollLimit <;> simp [h]

/-- The consumer with a drain poll counted, if this poll is one. -/
def counted (t : ConsumerThread) (finished : Bool) : ConsumerThread :=
  if finished then { t with state := { t.state with drainPolls := t.state.drainPolls + 1 } }
  else t

@[simp] theorem counted_false (t : ConsumerThread) : t.counted false = t := rfl

/-- Everything the loop can do with the result of a poll. -/
inductive Polled (limits : ExecutionLimits) (t : ConsumerThread) :
    Bool → ConsumerPollResult → ConsumerThread → Prop where
  | expired (r : ConsumerPollResult)
      (hlimit : t.state.drainPolls + 1 > limits.drainPollLimit) :
      Polled limits t true r ((t.counted true).fail .drainWatchdog .drain)
  | item (finished : Bool)
      (hlimit : finished = true → ¬t.state.drainPolls + 1 > limits.drainPollLimit) :
      Polled limits t finished ⟨.item⟩
        { t.counted finished with
          state := { (t.counted finished).state with consumed := t.state.consumed + 1 }
          candidateConsumedOrdinal := t.candidateConsumedOrdinal + 1
          emptyBeforeFinish := 0
          point := .loadFinished }
  | failedDraining (hlimit : ¬t.state.drainPolls + 1 > limits.drainPollLimit) :
      Polled limits t true ⟨.failure⟩ ((t.counted true).fail .consumerPoll .drain)
  | failed :
      Polled limits t false ⟨.failure⟩
        { t with state := { t.state with failure := .consumerPoll }, point := .reloadFinished }
  | drained (hlimit : ¬t.state.drainPolls + 1 > limits.drainPollLimit) :
      Polled limits t true ⟨.empty⟩
        { t.counted true with
          state := { (t.counted true).state with drained := true }
          point := .returned }
  | starved
      (hempty : t.emptyBeforeFinish + 1 ≥ limits.consumerEmptyPollLimitBeforeFinish) :
      Polled limits t false ⟨.empty⟩
        ({ t with
          state := { t.state with emptyPolls := t.state.emptyPolls + 1 }
          emptyBeforeFinish := t.emptyBeforeFinish + 1 }.fail .consumerWaitWatchdog .measurement)
  | empty
      (hempty : ¬t.emptyBeforeFinish + 1 ≥ limits.consumerEmptyPollLimitBeforeFinish) :
      Polled limits t false ⟨.empty⟩
        { t with
          state := { t.state with emptyPolls := t.state.emptyPolls + 1 }
          emptyBeforeFinish := t.emptyBeforeFinish + 1
          point := .loadFinished }

theorem afterPoll_cases (limits : ExecutionLimits) (t : ConsumerThread) (finished : Bool)
    (r : ConsumerPollResult) : Polled limits t finished r (t.afterPoll limits finished r) := by
  obtain ⟨status⟩ := r
  cases finished with
  | true =>
      by_cases hlimit : t.state.drainPolls + 1 > limits.drainPollLimit
      · rw [show t.afterPoll limits true ⟨status⟩ =
          (t.counted true).fail .drainWatchdog .drain from if_pos hlimit]
        exact .expired _ hlimit
      · rw [show t.afterPoll limits true ⟨status⟩ =
          (t.counted true).classify limits true ⟨status⟩ from if_neg hlimit]
        cases status with
        | item => exact .item true fun _ => hlimit
        | empty => exact .drained hlimit
        | failure => exact .failedDraining hlimit
  | false =>
      rw [show t.afterPoll limits false ⟨status⟩ = t.classify limits false ⟨status⟩ from rfl]
      cases status with
      | item => exact .item false nofun
      | empty =>
          by_cases hempty : t.emptyBeforeFinish + 1 ≥ limits.consumerEmptyPollLimitBeforeFinish
          · rw [classify, if_neg (by decide)]
            simp only [hempty, if_true]
            exact .starved hempty
          · rw [classify, if_neg (by decide)]
            simp only [hempty, if_false]
            exact .empty hempty
      | failure => exact .failed

end ConsumerThread

theorem ControllerPoint.controllerWait_cases (limits : ExecutionLimits) (poll : UInt64) :
    (poll < limits.controllerStartPollLimit ∧
        ControllerPoint.controllerWait limits poll = .waitCancelled poll) ∨
      (¬poll < limits.controllerStartPollLimit ∧
        ControllerPoint.controllerWait limits poll = .abortCancellation .startWatchdog) := by
  unfold controllerWait
  by_cases h : poll < limits.controllerStartPollLimit <;> simp [h]

/-! ### The transitions of the producer -/

namespace Execution

section

variable (schedule : PreparedScheduleView) (limits : ExecutionLimits) (reading : TickRead)
  (input : PIn) (e : Execution B)

inductive ProducerStep : Execution B → Prop where
  | arrived (hpoint : e.producer.point = .arrive)
      (hnew : (e.barrier.arrive .producer).2 = false) :
      ProducerStep { e with
          barrier := (e.barrier.arrive .producer).1
          producer := e.producer.workerWait limits 0 }
  | duplicate (hpoint : e.producer.point = .arrive)
      (hold : (e.barrier.arrive .producer).2 = true) :
      ProducerStep { e with
          barrier := (e.barrier.arrive .producer).1
          producer := { e.producer with point := .cancelBarrier } }
  | cancelledBarrier (hpoint : e.producer.point = .cancelBarrier) :
      ProducerStep { e with
          barrier := e.barrier.cancel
          producer := e.producer.startFail .cancelled }
  | sawCancelled (poll : UInt64) (hpoint : e.producer.point = .pollCancelled poll)
      (hcancelled : e.barrier.cancelled = true) :
      ProducerStep { e with producer := e.producer.startFail .startWatchdog }
  | notCancelled (poll : UInt64) (hpoint : e.producer.point = .pollCancelled poll)
      (hcancelled : e.barrier.cancelled = false) :
      ProducerStep { e with producer := { e.producer with point := .pollReleased poll } }
  | sawReleased (poll : UInt64) (hpoint : e.producer.point = .pollReleased poll)
      (hreleased : e.barrier.released = true) :
      ProducerStep { e with producer := { e.producer with point := .loadOrigin } }
  | notReleased (poll : UInt64) (hpoint : e.producer.point = .pollReleased poll)
      (hreleased : e.barrier.released = false) :
      ProducerStep { e with producer := e.producer.workerWait limits (poll + 1) }
  | startFailed (hpoint : e.producer.point = .storeStartFailed) :
      ProducerStep { e with
          producerFailed := true
          producer := { e.producer with point := .returned } }
  | began (hpoint : e.producer.point = .loadOrigin) :
      ProducerStep { e with
          producer := { e.producer with
            measurementOrigin := e.barrier.measurementOriginTicks
            remaining := schedule.deadlineTicks }.nextArrival }
  | arrivalCancelled (deadline : UInt64)
      (hpoint : e.producer.point = .loadCancellation deadline)
      (hcancelled : e.cancellation = true) :
      ProducerStep { e with producer := e.producer.fail .cancelled }
  | arrival (deadline : UInt64) (hpoint : e.producer.point = .loadCancellation deadline)
      (hcancelled : e.cancellation = false) :
      ProducerStep { e with producer := e.producer.beginArrival schedule limits deadline }
  | waitCancelled (deadline target poll : UInt64)
      (hpoint : e.producer.point = .pollCancellation deadline target poll)
      (hcancelled : e.cancellation = true) :
      ProducerStep { e with producer := e.producer.fail .cancelled }
  | waits (deadline target poll : UInt64)
      (hpoint : e.producer.point = .pollCancellation deadline target poll)
      (hcancelled : e.cancellation = false) :
      ProducerStep { e with producer :=
        { e.producer with point := .readClock deadline target poll } }
  | reads (deadline target poll : UInt64)
      (hpoint : e.producer.point = .readClock deadline target poll) :
      ProducerStep { e with producer := e.producer.afterRead limits deadline target poll reading }
  | callBegun (attempt : ProducerAttempt) (hpoint : e.producer.point = .attempt attempt)
      (hcall : e.client.pcall = none) :
      ProducerStep { e with client := { e.client with pcall := some (attempt, B.pBegin attempt) } }
  | callRuns (attempt attempt' : ProducerAttempt) (call call' : B.PCall) (s : B.State)
      (hpoint : e.producer.point = .attempt attempt)
      (hcall : e.client.pcall = some (attempt', call))
      (hstep : B.pStep input e.client.state call = (s, .running call')) :
      ProducerStep { e with
          client := { e.client with state := s, pcall := some (attempt', call') } }
  | callReturned (attempt attempt' : ProducerAttempt) (call : B.PCall) (s : B.State)
      (r : ProducerAttemptResult) (hpoint : e.producer.point = .attempt attempt)
      (hcall : e.client.pcall = some (attempt', call))
      (hstep : B.pStep input e.client.state call = (s, .returned r)) :
      ProducerStep { e with
          client := { e.client with
            state := s, pcall := none, enqueued := e.client.enqueued ++ [(attempt', r)] }
          producer := e.producer.afterAttempt r }
  | storedFailed (hpoint : e.producer.point = .storeProducerFailed) :
      ProducerStep { e with
          producerFailed := true
          producer := { e.producer with point := .storeCancellation } }
  | storedCancellation (hpoint : e.producer.point = .storeCancellation) :
      ProducerStep { e with
          cancellation := true
          producer := { e.producer with point := .publish } }
  | published (hpoint : e.producer.point = .publish) :
      ProducerStep { e with
          termination := e.termination.publishArrivalsFinished
          producer := { e.producer with
            state := { e.producer.state with arrivalsFinishedPublished := true }
            point := .returned } }

end

theorem producerStep_cases {reading : TickRead} {input : PIn} {e e' : Execution B}
    (h : e.producerStep schedule limits reading input = some e') :
    ProducerStep schedule limits reading input e e' := by
  obtain ⟨barrier, termination, cancellation, producerFailed, client,
    ⟨point, state, origin, remaining, sequence, ordinal⟩, consumer, controller⟩ := e
  cases point with
  | arrive =>
      obtain rfl := Option.some.inj h
      cases hbit : (barrier.arrive .producer).2 with
      | false => exact .arrived rfl hbit
      | true => exact .duplicate rfl hbit
  | cancelBarrier => obtain rfl := Option.some.inj h; exact .cancelledBarrier rfl
  | pollCancelled poll =>
      obtain rfl := Option.some.inj h
      cases hc : barrier.cancelled with
      | false => exact .notCancelled poll rfl hc
      | true => exact .sawCancelled poll rfl hc
  | pollReleased poll =>
      obtain rfl := Option.some.inj h
      cases hr : barrier.released with
      | false => exact .notReleased poll rfl hr
      | true => exact .sawReleased poll rfl hr
  | storeStartFailed => obtain rfl := Option.some.inj h; exact .startFailed rfl
  | loadOrigin => obtain rfl := Option.some.inj h; exact .began rfl
  | loadCancellation deadline =>
      obtain rfl := Option.some.inj h
      cases cancellation with
      | false => exact .arrival deadline rfl rfl
      | true => exact .arrivalCancelled deadline rfl rfl
  | pollCancellation deadline target poll =>
      obtain rfl := Option.some.inj h
      cases cancellation with
      | false => exact .waits deadline target poll rfl rfl
      | true => exact .waitCancelled deadline target poll rfl rfl
  | readClock deadline target poll =>
      obtain rfl := Option.some.inj h; exact .reads deadline target poll rfl
  | attempt attempt => 
      have h' := Option.some.inj h
      simp only [attemptStep] at h'
      cases hcall : client.pcall with
      | none =>
          rw [Spsc.Client.step_pBegin hcall] at h'
          simp only [hcall] at h'
          subst h'
          exact .callBegun attempt rfl hcall
      | some pc =>
          obtain ⟨attempt', call⟩ := pc
          rcases hs : B.pStep input client.state call with ⟨s, call' | r⟩
          · rw [Spsc.Client.step_pRunning hcall hs] at h'
            simp only [hcall, hs] at h'
            subst h'
            exact .callRuns attempt attempt' call call' s rfl hcall hs
          · rw [Spsc.Client.step_pReturned hcall hs] at h'
            simp only [hcall, hs] at h'
            subst h'
            exact .callReturned attempt attempt' call s r rfl hcall hs
  | storeProducerFailed => obtain rfl := Option.some.inj h; exact .storedFailed rfl
  | storeCancellation => obtain rfl := Option.some.inj h; exact .storedCancellation rfl
  | publish => obtain rfl := Option.some.inj h; exact .published rfl
  | returned => cases h

/-! ### The transitions of the consumer -/

section

variable (limits : ExecutionLimits) (input : CIn) (e : Execution B)

inductive ConsumerStep : Execution B → Prop where
  | arrived (hpoint : e.consumer.point = .arrive)
      (hnew : (e.barrier.arrive .consumer).2 = false) :
      ConsumerStep { e with
          barrier := (e.barrier.arrive .consumer).1
          consumer := e.consumer.workerWait limits 0 }
  | duplicate (hpoint : e.consumer.point = .arrive)
      (hold : (e.barrier.arrive .consumer).2 = true) :
      ConsumerStep { e with
          barrier := (e.barrier.arrive .consumer).1
          consumer := { e.consumer with point := .cancelBarrier } }
  | cancelledBarrier (hpoint : e.consumer.point = .cancelBarrier) :
      ConsumerStep { e with
          barrier := e.barrier.cancel
          consumer := e.consumer.startFail .cancelled }
  | sawCancelled (poll : UInt64) (hpoint : e.consumer.point = .pollCancelled poll)
      (hcancelled : e.barrier.cancelled = true) :
      ConsumerStep { e with consumer := e.consumer.startFail .startWatchdog }
  | notCancelled (poll : UInt64) (hpoint : e.consumer.point = .pollCancelled poll)
      (hcancelled : e.barrier.cancelled = false) :
      ConsumerStep { e with consumer := { e.consumer with point := .pollReleased poll } }
  | sawReleased (poll : UInt64) (hpoint : e.consumer.point = .pollReleased poll)
      (hreleased : e.barrier.released = true) :
      ConsumerStep { e with consumer := { e.consumer with point := .loadFinished } }
  | notReleased (poll : UInt64) (hpoint : e.consumer.point = .pollReleased poll)
      (hreleased : e.barrier.released = false) :
      ConsumerStep { e with consumer := e.consumer.workerWait limits (poll + 1) }
  | startFailed (hpoint : e.consumer.point = .storeStartCancellation) :
      ConsumerStep { e with
          cancellation := true
          consumer := { e.consumer with point := .returned } }
  | sawFinished (hpoint : e.consumer.point = .loadFinished)
      (hfinished : e.termination.arrivalsFinished = true) :
      ConsumerStep { e with consumer := { e.consumer with point := .loadProducerFailed } }
  | notFinished (hpoint : e.consumer.point = .loadFinished)
      (hfinished : e.termination.arrivalsFinished = false) :
      ConsumerStep { e with consumer := { e.consumer with point := .poll false } }
  | sawProducerFailed (hpoint : e.consumer.point = .loadProducerFailed)
      (hfailed : e.producerFailed = true) :
      ConsumerStep { e with consumer := { e.consumer with point := .returned } }
  | producerFine (hpoint : e.consumer.point = .loadProducerFailed)
      (hfailed : e.producerFailed = false) :
      ConsumerStep { e with consumer := { e.consumer with point := .poll true } }
  | callBegun (finished : Bool) (hpoint : e.consumer.point = .poll finished)
      (hcall : e.client.ccall = none) :
      ConsumerStep { e with client :=
          { e.client with ccall := some (B.cBegin e.consumer.candidateConsumedOrdinal) } }
  | callRuns (finished : Bool) (call call' : B.CCall) (s : B.State)
      (hpoint : e.consumer.point = .poll finished) (hcall : e.client.ccall = some call)
      (hstep : B.cStep input e.client.state call = (s, .running call')) :
      ConsumerStep { e with client := { e.client with state := s, ccall := some call' } }
  | callReturned (finished : Bool) (call : B.CCall) (s : B.State) (r : ConsumerPollResult)
      (t : ConsumerThread) (hpoint : e.consumer.point = .poll finished)
      (hcall : e.client.ccall = some call)
      (hstep : B.cStep input e.client.state call = (s, .returned r))
      (hpolled : e.consumer.Polled limits finished r t) :
      ConsumerStep { e with
          client := { e.client with
            state := s, ccall := none, dequeued := e.client.dequeued ++ [r] }
          consumer := t }
  | reloaded (hpoint : e.consumer.point = .reloadFinished) :
      ConsumerStep { e with consumer :=
          { e.consumer with
            state := { e.consumer.state with failurePhase :=
              if e.termination.arrivalsFinished then .drain else .measurement }
            point := .storeCancellation } }
  | storedCancellation (hpoint : e.consumer.point = .storeCancellation) :
      ConsumerStep { e with
          cancellation := true
          consumer := { e.consumer with point := .returned } }

end

theorem consumerStep_cases {input : CIn} {e e' : Execution B}
    (h : e.consumerStep limits input = some e') : ConsumerStep limits input e e' := by
  obtain ⟨barrier, termination, cancellation, producerFailed, client, producer,
    ⟨point, state, ordinal, empties⟩, controller⟩ := e
  cases point with
  | arrive =>
      obtain rfl := Option.some.inj h
      cases hbit : (barrier.arrive .consumer).2 with
      | false => exact .arrived rfl hbit
      | true => exact .duplicate rfl hbit
  | cancelBarrier => obtain rfl := Option.some.inj h; exact .cancelledBarrier rfl
  | pollCancelled poll =>
      obtain rfl := Option.some.inj h
      cases hc : barrier.cancelled with
      | false => exact .notCancelled poll rfl hc
      | true => exact .sawCancelled poll rfl hc
  | pollReleased poll =>
      obtain rfl := Option.some.inj h
      cases hr : barrier.released with
      | false => exact .notReleased poll rfl hr
      | true => exact .sawReleased poll rfl hr
  | storeStartCancellation => obtain rfl := Option.some.inj h; exact .startFailed rfl
  | loadFinished =>
      obtain rfl := Option.some.inj h
      cases hf : termination.arrivalsFinished with
      | false => exact .notFinished rfl hf
      | true => exact .sawFinished rfl hf
  | loadProducerFailed =>
      obtain rfl := Option.some.inj h
      cases producerFailed with
      | false => exact .producerFine rfl rfl
      | true => exact .sawProducerFailed rfl rfl
  | poll finished =>
      have h' := Option.some.inj h
      simp only [pollStep] at h'
      cases hcall : client.ccall with
      | none =>
          rw [Spsc.Client.step_cBegin hcall] at h'
          simp only [hcall] at h'
          subst h'
          exact .callBegun finished rfl hcall
      | some call =>
          rcases hs : B.cStep input client.state call with ⟨s, call' | r⟩
          · rw [Spsc.Client.step_cRunning hcall hs] at h'
            simp only [hcall, hs] at h'
            subst h'
            exact .callRuns finished call call' s rfl hcall hs
          · rw [Spsc.Client.step_cReturned hcall hs] at h'
            simp only [hcall, hs] at h'
            subst h'
            exact .callReturned finished call s r _ rfl hcall hs
              (ConsumerThread.afterPoll_cases limits _ finished r)
  | reloadFinished => obtain rfl := Option.some.inj h; exact .reloaded rfl
  | storeCancellation => obtain rfl := Option.some.inj h; exact .storedCancellation rfl
  | returned => cases h

/-! ### The transitions of the controller -/

section

variable (schedule : PreparedScheduleView) (limits : ExecutionLimits) (reading : TickRead)
  (e : Execution B)

inductive ControllerStep : Execution B → Prop where
  | sawCancelled (poll : UInt64) (hpoint : e.controller = .waitCancelled poll)
      (hcancelled : e.barrier.cancelled = true) :
      ControllerStep { e with controller := .abortCancellation .startWatchdog }
  | notCancelled (poll : UInt64) (hpoint : e.controller = .waitCancelled poll)
      (hcancelled : e.barrier.cancelled = false) :
      ControllerStep { e with controller := .waitReady poll }
  | ready (poll : UInt64) (hpoint : e.controller = .waitReady poll)
      (hready : e.barrier.allWorkersReady = true) :
      ControllerStep { e with controller := .readOrigin }
  | notReady (poll : UInt64) (hpoint : e.controller = .waitReady poll)
      (hready : e.barrier.allWorkersReady = false) :
      ControllerStep { e with controller := .controllerWait limits (poll + 1) }
  | readOrigin (hpoint : e.controller = .readOrigin) (hok : reading.ok = true) :
      ControllerStep { e with controller := .releaseCancelled reading.ticks }
  | clockFailed (hpoint : e.controller = .readOrigin) (hok : reading.ok = false) :
      ControllerStep { e with controller := .abortCancellation .clockRead }
  | releaseCancelled (origin : UInt64) (hpoint : e.controller = .releaseCancelled origin)
      (hcancelled : e.barrier.cancelled = true) :
      ControllerStep { e with controller := .abortCancellation .startWatchdog }
  | releaseNotCancelled (origin : UInt64) (hpoint : e.controller = .releaseCancelled origin)
      (hcancelled : e.barrier.cancelled = false) :
      ControllerStep { e with controller := .releaseReady origin }
  | releaseReady (origin : UInt64) (hpoint : e.controller = .releaseReady origin)
      (hready : e.barrier.allWorkersReady = true) :
      ControllerStep { e with controller := .storeOrigin origin }
  | releaseNotReady (origin : UInt64) (hpoint : e.controller = .releaseReady origin)
      (hready : e.barrier.allWorkersReady = false) :
      ControllerStep { e with controller := .abortCancellation .startWatchdog }
  | storedOrigin (origin : UInt64) (hpoint : e.controller = .storeOrigin origin) :
      ControllerStep { e with
          barrier := e.barrier.storeOrigin origin
          controller := .storeReleased origin }
  | released (origin : UInt64) (hpoint : e.controller = .storeReleased origin) :
      ControllerStep { e with barrier := e.barrier.release, controller := .joinProducer origin }
  | joinedProducer (origin : UInt64) (hpoint : e.controller = .joinProducer origin)
      (hreturned : e.producer.point = .returned) :
      ControllerStep { e with controller := .joinConsumer origin }
  | joinedConsumer (origin : UInt64) (hpoint : e.controller = .joinConsumer origin)
      (hreturned : e.consumer.point = .returned) :
      ControllerStep { e with controller := .loadCancellation origin }
  | reported (origin : UInt64) (hpoint : e.controller = .loadCancellation origin) :
      ControllerStep { e with
          controller := .returned <|
            assembleReport schedule origin e.cancellation e.producer.state e.consumer.state }
  | abortedCancellation (reason : ExecutionFailureReason)
      (hpoint : e.controller = .abortCancellation reason) :
      ControllerStep { e with cancellation := true, controller := .abortBarrier reason }
  | abortedBarrier (reason : ExecutionFailureReason)
      (hpoint : e.controller = .abortBarrier reason) :
      ControllerStep { e with barrier := e.barrier.cancel, controller := .abortJoinProducer reason }
  | abortJoinedProducer (reason : ExecutionFailureReason)
      (hpoint : e.controller = .abortJoinProducer reason)
      (hreturned : e.producer.point = .returned) :
      ControllerStep { e with controller := .abortJoinConsumer reason }
  | abortJoinedConsumer (reason : ExecutionFailureReason)
      (hpoint : e.controller = .abortJoinConsumer reason)
      (hreturned : e.consumer.point = .returned) :
      ControllerStep { e with controller := .aborted (abortReport schedule reason) }

end

theorem controllerStep_cases {reading : TickRead} {e e' : Execution B}
    (h : e.controllerStep schedule limits reading = some e') :
    ControllerStep schedule limits reading e e' := by
  obtain ⟨barrier, termination, cancellation, producerFailed, client, producer, consumer,
    controller⟩ := e
  cases controller with
  | waitCancelled poll =>
      obtain rfl := Option.some.inj h
      cases hc : barrier.cancelled with
      | false => exact .notCancelled poll rfl hc
      | true => exact .sawCancelled poll rfl hc
  | waitReady poll =>
      obtain rfl := Option.some.inj h
      cases hr : barrier.allWorkersReady with
      | false => exact .notReady poll rfl hr
      | true => exact .ready poll rfl hr
  | readOrigin =>
      obtain rfl := Option.some.inj h
      cases hok : reading.ok with
      | false => exact .clockFailed rfl hok
      | true => exact .readOrigin rfl hok
  | releaseCancelled origin =>
      obtain rfl := Option.some.inj h
      cases hc : barrier.cancelled with
      | false => exact .releaseNotCancelled origin rfl hc
      | true => exact .releaseCancelled origin rfl hc
  | releaseReady origin =>
      obtain rfl := Option.some.inj h
      cases hr : barrier.allWorkersReady with
      | false => exact .releaseNotReady origin rfl hr
      | true => exact .releaseReady origin rfl hr
  | storeOrigin origin => obtain rfl := Option.some.inj h; exact .storedOrigin origin rfl
  | storeReleased origin => obtain rfl := Option.some.inj h; exact .released origin rfl
  | joinProducer origin =>
      by_cases hr : producer.point = .returned
      · obtain rfl := Option.some.inj (h.symm.trans (if_pos hr))
        exact .joinedProducer origin rfl hr
      · cases h.symm.trans (if_neg hr)
  | joinConsumer origin =>
      by_cases hr : consumer.point = .returned
      · obtain rfl := Option.some.inj (h.symm.trans (if_pos hr))
        exact .joinedConsumer origin rfl hr
      · cases h.symm.trans (if_neg hr)
  | loadCancellation origin => obtain rfl := Option.some.inj h; exact .reported origin rfl
  | returned report => cases h
  | abortCancellation reason =>
      obtain rfl := Option.some.inj h; exact .abortedCancellation reason rfl
  | abortBarrier reason => obtain rfl := Option.some.inj h; exact .abortedBarrier reason rfl
  | abortJoinProducer reason =>
      by_cases hr : producer.point = .returned
      · obtain rfl := Option.some.inj (h.symm.trans (if_pos hr))
        exact .abortJoinedProducer reason rfl hr
      · cases h.symm.trans (if_neg hr)
  | abortJoinConsumer reason =>
      by_cases hr : consumer.point = .returned
      · obtain rfl := Option.some.inj (h.symm.trans (if_pos hr))
        exact .abortJoinedConsumer reason rfl hr
      · cases h.symm.trans (if_neg hr)
  | aborted report => cases h

end Execution

end CpuPrefetch.Lifecycle
