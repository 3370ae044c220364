/-
The control invariant of a measurement.

Each thread's private state is tied to the point it has reached (`Coherent`), and
the shared words are tied to those points: the arrival mask to who has arrived, the
release flag to the controller, the termination word and `producer_failed` to the
producer.  The last two fields are about causes.  Whoever sees `cancellation` set
can name a failed worker or an aborting controller, and a producer that stopped
because of it always has a failed consumer to blame.
-/
import CpuPrefetch.Proofs.Lifecycle.Steps

namespace CpuPrefetch.Lifecycle

variable {PIn CIn : Type} {B : Backend PIn CIn} {schedule : PreparedScheduleView}
  {limits : ExecutionLimits}

/-! ### The producer's state at each point -/

namespace ProducerThread

/-- Nothing has gone wrong and nothing is finished. -/
def Fresh (t : ProducerThread) : Prop :=
  t.state.failure = .none ∧ t.state.completed = false ∧
    t.state.arrivalsFinishedPublished = false

/-- The loop has broken with a failure of its own. -/
def Broke (t : ProducerThread) : Prop :=
  t.state.failure ≠ .none ∧ t.state.failure ≠ .startWatchdog ∧ t.state.completed = false

/-- The loop is over, one way or the other. -/
def Ended (t : ProducerThread) : Prop :=
  (t.state.failure = .none ∧ t.state.completed = true) ∨ t.Broke

/-- The worker gave up waiting for the release. -/
def NeverStarted (t : ProducerThread) : Prop :=
  t.state.failure = .startWatchdog ∧ t.state.completed = false ∧
    t.state.arrivalsFinishedPublished = false

def Coherent (released : Bool) (t : ProducerThread) : Prop :=
  match t.point with
  | .arrive | .pollCancelled _ | .pollReleased _ => t.Fresh
  | .cancelBarrier => False
  | .storeStartFailed => t.NeverStarted
  | .loadOrigin | .loadCancellation _ | .pollCancellation _ _ _ | .readClock _ _ _
  | .attempt _ => released = true ∧ t.Fresh
  | .storeProducerFailed | .storeCancellation =>
      released = true ∧ t.Broke ∧ t.state.arrivalsFinishedPublished = false
  | .publish => released = true ∧ t.Ended ∧ t.state.arrivalsFinishedPublished = false
  | .returned =>
      (released = true ∧ t.Ended ∧ t.state.arrivalsFinishedPublished = true) ∨ t.NeverStarted

/-- The producer has made no attempt: it has not entered its loop. -/
def Unstarted (t : ProducerThread) : Prop :=
  match t.point with
  | .arrive | .cancelBarrier | .pollCancelled _ | .pollReleased _ | .storeStartFailed
  | .loadOrigin => True
  | .returned => t.state.failure = .startWatchdog
  | _ => False

/-- The producer has stored `producer_failed`. -/
def failureStored (t : ProducerThread) : Bool :=
  match t.point with
  | .storeCancellation => true
  | .publish | .returned => t.state.failure != .none
  | _ => false

variable {t : ProducerThread} {released : Bool}

/-- A coherent producer stays so when the barrier is released. -/
theorem Coherent.release (h : t.Coherent released) : t.Coherent true := by
  unfold Coherent at h ⊢
  split at h
  · exact h
  · exact h
  · exact h
  · exact h
  · exact h
  · exact ⟨rfl, h.2⟩
  · exact ⟨rfl, h.2⟩
  · exact ⟨rfl, h.2⟩
  · exact ⟨rfl, h.2⟩
  · exact ⟨rfl, h.2⟩
  · exact ⟨rfl, h.2⟩
  · exact ⟨rfl, h.2⟩
  · exact ⟨rfl, h.2⟩
  · rcases h with ⟨-, hended⟩ | hnever
    · exact Or.inl ⟨rfl, hended⟩
    · exact Or.inr hnever

/-- A producer that is still waiting, or has just given up. -/
structure Waited (released : Bool) (t : ProducerThread) : Prop where
  coherent : t.Coherent released
  arrived : t.point ≠ .arrive
  unstored : t.failureStored = false
  unpublished : t.state.arrivalsFinishedPublished = false
  firsthand : t.state.failure ≠ .cancelled

theorem Fresh.workerWait_waited (h : t.Fresh) (limits : ExecutionLimits) (poll : UInt64) :
    (t.workerWait limits poll).Waited released := by
  rcases t.workerWait_cases limits poll with ⟨-, heq⟩ | ⟨-, heq⟩
  · rw [heq]
    exact ⟨h, nofun, rfl, h.2.2, by simp [h.1]⟩
  · rw [heq]
    exact ⟨⟨rfl, h.2⟩, nofun, rfl, h.2.2, nofun⟩

/-- A producer that has just moved inside its loop, or out of it. -/
structure Moved (t : ProducerThread) : Prop where
  coherent : t.Coherent true
  arrived : t.point ≠ .arrive
  unstored : t.failureStored = false
  unpublished : t.state.arrivalsFinishedPublished = false
  started : ¬t.Unstarted

/-- A producer that has moved for a reason of its own. -/
structure MovedFirsthand (t : ProducerThread) : Prop extends Moved t where
  firsthand : t.state.failure ≠ .cancelled

theorem Fresh.fail_moved (h : t.Fresh) {reason : ExecutionFailureReason} (hnone : reason ≠ .none)
    (hstart : reason ≠ .startWatchdog) : (t.fail reason).Moved :=
  ⟨⟨rfl, ⟨hnone, hstart, h.2.1⟩, h.2.2⟩, nofun, rfl, h.2.2, id⟩

theorem Fresh.fail_firsthand (h : t.Fresh) {reason : ExecutionFailureReason}
    (hnone : reason ≠ .none) (hstart : reason ≠ .startWatchdog) (hown : reason ≠ .cancelled) :
    (t.fail reason).MovedFirsthand :=
  ⟨h.fail_moved hnone hstart, hown⟩

theorem Fresh.nextArrival_moved (h : t.Fresh) : t.nextArrival.MovedFirsthand := by
  rcases t.nextArrival_cases with ⟨-, heq⟩ | ⟨deadline, rest, -, heq⟩
  · rw [heq]
    refine ⟨⟨⟨rfl, Or.inl ⟨h.1, rfl⟩, h.2.2⟩, nofun, ?_, h.2.2, id⟩, ?_⟩
    · simp [failureStored, h.1]
    · simp [h.1]
  · rw [heq]
    exact ⟨⟨⟨rfl, h⟩, nofun, rfl, h.2.2, id⟩, by simp [h.1]⟩

theorem Fresh.awaitDue_moved (h : t.Fresh) (limits : ExecutionLimits)
    (deadline target poll : UInt64) :
    (t.awaitDue limits deadline target poll).MovedFirsthand := by
  rcases t.awaitDue_cases limits deadline target poll with ⟨-, heq⟩ | ⟨-, heq⟩
  · rw [heq]
    exact ⟨⟨⟨rfl, h⟩, nofun, rfl, h.2.2, id⟩, by simp [h.1]⟩
  · rw [heq]
    exact h.fail_firsthand nofun nofun nofun

theorem Fresh.beginArrival_moved (h : t.Fresh) (schedule : PreparedScheduleView)
    (limits : ExecutionLimits) (deadline : UInt64) :
    (t.beginArrival schedule limits deadline).MovedFirsthand := by
  rcases t.beginArrival_cases schedule limits deadline with heq | ⟨target, -, heq⟩
  · rw [heq]
    exact h.fail_firsthand nofun nofun nofun
  · rw [heq]
    exact h.awaitDue_moved limits deadline target 0

theorem Fresh.afterRead_moved (h : t.Fresh) (limits : ExecutionLimits)
    (deadline target poll : UInt64) (reading : TickRead) :
    (t.afterRead limits deadline target poll reading).MovedFirsthand := by
  rcases t.afterRead_cases limits deadline target poll reading with
    ⟨-, heq⟩ | ⟨-, -, heq⟩ | ⟨-, -, heq⟩
  · rw [heq]
    exact h.fail_firsthand nofun nofun nofun
  · rw [heq]
    exact ⟨⟨⟨rfl, h⟩, nofun, rfl, h.2.2, id⟩, by simp [h.1]⟩
  · rw [heq]
    apply Fresh.awaitDue_moved
    exact h

theorem Fresh.afterAttempt_moved (h : t.Fresh) (r : ProducerAttemptResult) :
    (t.afterAttempt r).MovedFirsthand := by
  match r with
  | ⟨.failure, _⟩ =>
      apply Fresh.fail_firsthand
      · exact h
      · nofun
      · nofun
      · nofun
  | ⟨.complete, .accepted⟩ =>
      apply Fresh.nextArrival_moved
      exact h
  | ⟨.complete, .full⟩ =>
      apply Fresh.nextArrival_moved
      exact h

end ProducerThread

/-! ### The consumer's state at each point -/

namespace ConsumerThread

/-- Nothing has gone wrong and nothing is finished. -/
def Fresh (t : ConsumerThread) : Prop :=
  t.state.failure = .none ∧ t.state.failurePhase = .none ∧ t.state.drained = false

/-- The worker gave up waiting for the release. -/
def NeverStarted (t : ConsumerThread) : Prop :=
  t.state.failure = .startWatchdog ∧ t.state.failurePhase = .startBarrier ∧
    t.state.drained = false

/-- The loop has broken with one of its three failures. -/
def Broke (t : ConsumerThread) : Prop :=
  (t.state.failure = .consumerPoll ∨ t.state.failure = .consumerWaitWatchdog ∨
      t.state.failure = .drainWatchdog) ∧
    (t.state.failurePhase = .measurement ∨ t.state.failurePhase = .drain) ∧
    t.state.drained = false

/-- `published` and `failed` are what the producer has stored by now. -/
def Coherent (released published failed : Bool) (t : ConsumerThread) : Prop :=
  match t.point with
  | .arrive | .pollCancelled _ | .pollReleased _ => t.Fresh
  | .cancelBarrier => False
  | .storeStartCancellation => t.NeverStarted
  | .loadFinished | .poll false => released = true ∧ t.Fresh
  | .loadProducerFailed => released = true ∧ published = true ∧ t.Fresh
  | .poll true => released = true ∧ published = true ∧ failed = false ∧ t.Fresh
  | .reloadFinished =>
      released = true ∧ t.state.failure = .consumerPoll ∧ t.state.drained = false
  | .storeCancellation => released = true ∧ t.Broke
  | .returned =>
      t.NeverStarted ∨ (released = true ∧ t.Broke) ∨
        (released = true ∧ published = true ∧ t.state.failure = .none ∧
          (t.state.drained = true ∧ failed = false ∨ t.state.drained = false ∧ failed = true))

/-- The consumer has made no poll: it has not entered its loop. -/
def Unstarted (t : ConsumerThread) : Prop :=
  match t.point with
  | .arrive | .cancelBarrier | .pollCancelled _ | .pollReleased _
  | .storeStartCancellation => True
  | .returned => t.state.failure = .startWatchdog
  | _ => False

variable {t t' : ConsumerThread} {released published failed : Bool}

theorem Fresh.workerWait_coherent (h : t.Fresh) (limits : ExecutionLimits) (poll : UInt64) :
    (t.workerWait limits poll).Coherent released published failed := by
  rcases t.workerWait_cases limits poll with ⟨-, heq⟩ | ⟨-, heq⟩
  · rw [heq]
    exact h
  · rw [heq]
    exact ⟨rfl, rfl, h.2.2⟩

theorem workerWait_arrived (t : ConsumerThread) (limits : ExecutionLimits) (poll : UInt64) :
    (t.workerWait limits poll).point ≠ .arrive := by
  rcases t.workerWait_cases limits poll with ⟨-, heq⟩ | ⟨-, heq⟩
  · rw [heq]
    nofun
  · rw [heq]
    nofun

variable {finished : Bool}

theorem Polled.coherent {r : ConsumerPollResult} (hpolled : t.Polled limits finished r t')
    (hpoint : t.point = .poll finished) (h : t.Coherent released published failed) :
    t'.Coherent released published failed := by
  cases hpolled with
  | expired r hlimit =>
      simp only [Coherent, hpoint] at h
      obtain ⟨hr, -, -, hfresh⟩ := h
      exact ⟨hr, Or.inr (Or.inr rfl), Or.inr rfl, hfresh.2.2⟩
  | item _ hlimit =>
      cases finished with
      | false =>
          simp only [Coherent, hpoint] at h
          exact h
      | true =>
          simp only [Coherent, hpoint] at h
          exact ⟨h.1, h.2.2.2⟩
  | failedDraining hlimit =>
      simp only [Coherent, hpoint] at h
      exact ⟨h.1, Or.inl rfl, Or.inr rfl, h.2.2.2.2.2⟩
  | failed =>
      simp only [Coherent, hpoint] at h
      exact ⟨h.1, rfl, h.2.2.2⟩
  | drained hlimit =>
      simp only [Coherent, hpoint] at h
      obtain ⟨hr, hpub, hfailed, hfresh⟩ := h
      exact Or.inr (Or.inr ⟨hr, hpub, hfresh.1, Or.inl ⟨rfl, hfailed⟩⟩)
  | starved hempty =>
      simp only [Coherent, hpoint] at h
      exact ⟨h.1, Or.inr (Or.inl rfl), Or.inl rfl, h.2.2.2⟩
  | empty hempty =>
      simp only [Coherent, hpoint] at h
      exact h

/-- A consumer that has polled has arrived and has entered its loop. -/
theorem Polled.started {r : ConsumerPollResult} (hpolled : t.Polled limits finished r t')
    (hfresh : t.state.failure = .none) : t'.point ≠ .arrive ∧ ¬t'.Unstarted := by
  cases hpolled with
  | expired r hlimit => exact ⟨nofun, id⟩
  | item _ hlimit => exact ⟨nofun, id⟩
  | failedDraining hlimit => exact ⟨nofun, id⟩
  | failed => exact ⟨nofun, id⟩
  | drained hlimit =>
      refine ⟨nofun, fun hun => ?_⟩
      have hstart : t.state.failure = .startWatchdog := hun
      rw [hfresh] at hstart
      cases hstart
  | starved hempty => exact ⟨nofun, id⟩
  | empty hempty => exact ⟨nofun, id⟩

/-- A consumer that is polling has not failed. -/
theorem Coherent.fresh_of_poll (h : t.Coherent released published failed)
    (hpoint : t.point = .poll finished) : t.Fresh := by
  cases finished with
  | false =>
      simp only [Coherent, hpoint] at h
      exact h.2
  | true =>
      simp only [Coherent, hpoint] at h
      exact h.2.2.2

/-- What the consumer relies on is stored once and for all. -/
theorem Coherent.mono {released' published' failed' : Bool}
    (h : t.Coherent released published failed) (hr : released = true → released' = true)
    (hp : published = true → published' = true)
    (hf : published = true → failed' = failed) :
    t.Coherent released' published' failed' := by
  unfold Coherent at h ⊢
  split at h
  · exact h
  · exact h
  · exact h
  · exact h
  · exact h
  · exact ⟨hr h.1, h.2⟩
  · exact ⟨hr h.1, h.2⟩
  · exact ⟨hr h.1, hp h.2.1, h.2.2⟩
  · exact ⟨hr h.1, hp h.2.1, by rw [hf h.2.1, h.2.2.1], h.2.2.2⟩
  · exact ⟨hr h.1, h.2⟩
  · exact ⟨hr h.1, h.2⟩
  · rcases h with h | ⟨h, hb⟩ | ⟨h, hpub, hnone, hend⟩
    · exact Or.inl h
    · exact Or.inr (Or.inl ⟨hr h, hb⟩)
    · exact Or.inr (Or.inr ⟨hr h, hp hpub, hnone, by rw [hf hpub]; exact hend⟩)

end ConsumerThread

/-! ### The controller's progress -/

namespace ControllerPoint

/-- The controller has released the barrier. -/
def hasReleased : ControllerPoint → Bool
  | .joinProducer _ | .joinConsumer _ | .loadCancellation _ | .returned _ => true
  | _ => false

/-- The controller has cancelled the barrier. -/
def hasCancelled : ControllerPoint → Bool
  | .abortJoinProducer _ | .abortJoinConsumer _ | .aborted _ => true
  | _ => false

/-- The controller has set `cancellation`. -/
def hasAborted : ControllerPoint → Bool
  | .abortBarrier _ | .abortJoinProducer _ | .abortJoinConsumer _ | .aborted _ => true
  | _ => false

/-- The two reasons the controller itself reports. -/
def OwnReason (reason : ExecutionFailureReason) : Prop :=
  reason = .startWatchdog ∨ reason = .clockRead

end ControllerPoint

variable {e e' : Execution B}

namespace Execution

/-- Whom the controller has joined, and what it reports once it has joined both. -/
def Joined (schedule : PreparedScheduleView) (e : Execution B) : Prop :=
  match e.controller with
  | .joinConsumer _ => e.producer.point = .returned
  | .loadCancellation _ => e.producer.point = .returned ∧ e.consumer.point = .returned
  | .returned report => e.producer.point = .returned ∧ e.consumer.point = .returned ∧
      ∃ origin, report =
        assembleReport schedule origin e.cancellation e.producer.state e.consumer.state
  | .abortCancellation reason | .abortBarrier reason | .abortJoinProducer reason =>
      ControllerPoint.OwnReason reason
  | .abortJoinConsumer reason =>
      e.producer.point = .returned ∧ ControllerPoint.OwnReason reason
  | .aborted report => e.producer.point = .returned ∧ e.consumer.point = .returned ∧
      ∃ reason, ControllerPoint.OwnReason reason ∧ report = abortReport schedule reason
  | _ => True

/-- The bits of the arrival mask that are set. -/
def arrivedBits (producer : ProducerPoint) (consumer : ConsumerPoint) : UInt32 :=
  (if producer = .arrive then 0 else WorkerRole.producer.bit) |||
    (if consumer = .arrive then 0 else WorkerRole.consumer.bit)

/-- Arriving sets the producer's bit, which was clear. -/
theorem arrivedBits_producer (p : ProducerPoint) (hp : p ≠ .arrive) (c : ConsumerPoint) :
    arrivedBits .arrive c ||| WorkerRole.producer.bit = arrivedBits p c ∧
      arrivedBits .arrive c &&& WorkerRole.producer.bit = 0 := by
  by_cases hc : c = .arrive
  · simp only [arrivedBits, hc, hp, if_true, if_false]
    decide
  · simp only [arrivedBits, hc, hp, if_true, if_false]
    decide

/-- Arriving sets the consumer's bit, which was clear. -/
theorem arrivedBits_consumer (p : ProducerPoint) (c : ConsumerPoint) (hc : c ≠ .arrive) :
    arrivedBits p .arrive ||| WorkerRole.consumer.bit = arrivedBits p c ∧
      arrivedBits p .arrive &&& WorkerRole.consumer.bit = 0 := by
  by_cases hp : p = .arrive
  · simp only [arrivedBits, hc, hp, if_true, if_false]
    decide
  · simp only [arrivedBits, hc, hp, if_true, if_false]
    decide

/-- The shared words and the three threads agree. -/
structure Consistent (schedule : PreparedScheduleView) (e : Execution B) : Prop where
  mask : e.barrier.arrivedMask = arrivedBits e.producer.point e.consumer.point
  released : e.barrier.released = e.controller.hasReleased
  cancelled : e.barrier.cancelled = e.controller.hasCancelled
  producer : e.producer.Coherent e.barrier.released
  consumer : e.consumer.Coherent e.barrier.released e.producer.state.arrivalsFinishedPublished
    e.producerFailed
  joined : e.Joined schedule
  flag : e.producerFailed = e.producer.failureStored
  word : e.termination.arrivalsFinished = e.producer.state.arrivalsFinishedPublished
  /-- Somebody is to blame for a cancellation. -/
  cause : e.cancellation = true → e.consumer.state.failure ≠ .none ∨
    e.producer.state.failure ≠ .none ∨ e.controller.hasAborted = true
  /-- A producer that only saw the cancellation has a failed consumer to blame. -/
  secondhand : e.producer.state.failure = .cancelled → e.consumer.state.failure ≠ .none
  pcall : e.client.pcall = none ∨
    ∃ attempt call, e.client.pcall = some (attempt, call) ∧ e.producer.point = .attempt attempt
  ccall : e.client.ccall = none ∨ ∃ finished, e.consumer.point = .poll finished
  attempts : e.producer.Unstarted → e.client.enqueued = []
  polls : e.consumer.Unstarted → e.client.dequeued = []

namespace Consistent

variable {e : Execution B}

theorem start (limits : ExecutionLimits) (termination : TerminationControl) (init : B.State)
    (hreset : termination.arrivalsFinished = false) :
    Consistent schedule (Execution.start (B := B) limits termination init) := by
  refine ⟨by simp [Execution.start, arrivedBits], ?_, ?_, ⟨rfl, rfl, rfl⟩, ⟨rfl, rfl, rfl⟩, ?_, rfl,
    hreset, nofun, nofun, Or.inl rfl, Or.inl rfl, fun _ => rfl, fun _ => rfl⟩
  all_goals
    rcases ControllerPoint.controllerWait_cases limits 0 with ⟨-, heq⟩ | ⟨-, heq⟩
  · simp [Execution.start, heq, ControllerPoint.hasReleased]
  · simp [Execution.start, heq, ControllerPoint.hasReleased]
  · simp [Execution.start, heq, ControllerPoint.hasCancelled]
  · simp [Execution.start, heq, ControllerPoint.hasCancelled]
  · simp [Execution.start, heq, Joined]
  · simp [Execution.start, heq, Joined, ControllerPoint.OwnReason]

/-- A producer call is running only while the producer is in one. -/
theorem pcall_none (h : Consistent schedule e)
    (hpoint : ∀ attempt, e.producer.point ≠ .attempt attempt) : e.client.pcall = none := by
  rcases h.pcall with hnone | ⟨attempt, call, -, hat⟩
  · exact hnone
  · exact absurd hat (hpoint attempt)

/-- The call in progress is the one the producer is making. -/
theorem attempt_eq (h : Consistent schedule e) {attempt attempt' : ProducerAttempt}
    {call : B.PCall} (hpoint : e.producer.point = .attempt attempt)
    (hcall : e.client.pcall = some (attempt', call)) : attempt' = attempt := by
  rcases h.pcall with hnone | ⟨a, c, hsome, hat⟩
  · rw [hcall] at hnone
    cases hnone
  · rw [hcall, Option.some.injEq, Prod.mk.injEq] at hsome
    rw [hpoint, ProducerPoint.attempt.injEq] at hat
    rw [hat, hsome.1]

theorem ccall_none (h : Consistent schedule e)
    (hpoint : ∀ finished, e.consumer.point ≠ .poll finished) : e.client.ccall = none := by
  rcases h.ccall with hnone | ⟨finished, hat⟩
  · exact hnone
  · exact absurd hat (hpoint finished)

/-- Nobody has joined a producer that is still running. -/
theorem joined_producer (h : Consistent schedule e) (hpoint : e.producer.point ≠ .returned)
    (hcontroller : e'.controller = e.controller) : e'.Joined schedule := by
  have hj := h.joined
  unfold Joined at hj ⊢
  rw [hcontroller]
  cases hc : e.controller <;> simp_all

/-- Nobody has joined a consumer that is still running. -/
theorem joined_consumer (h : Consistent schedule e) (hpoint : e.consumer.point ≠ .returned)
    (hcontroller : e'.controller = e.controller)
    (hproducer : e'.producer.point = e.producer.point) : e'.Joined schedule := by
  have hj := h.joined
  unfold Joined at hj ⊢
  rw [hcontroller]
  cases hc : e.controller <;> simp_all

variable {client : Spsc.Client B} {t : ProducerThread}

/-- A fresh producer may go on to any coherent state that has stored no more than it has. -/
theorem replace_producer (h : Consistent schedule e) (hrunning : e.producer.point ≠ .returned)
    (hfresh : e.producer.state.failure = .none) {barrier : WorkerStartBarrier}
    (hmask : barrier.arrivedMask = arrivedBits t.point e.consumer.point)
    (hreleased : barrier.released = e.barrier.released)
    (hcancelled : barrier.cancelled = e.barrier.cancelled)
    (hcoherent : t.Coherent e.barrier.released)
    (hstored : t.failureStored = e.producer.failureStored)
    (hpublished : t.state.arrivalsFinishedPublished = e.producer.state.arrivalsFinishedPublished)
    (hsecond : t.state.failure = .cancelled → e.consumer.state.failure ≠ .none)
    (hpcall : client.pcall = none) (hccall : client.ccall = e.client.ccall)
    (hdequeued : client.dequeued = e.client.dequeued)
    (hattempts : t.Unstarted → client.enqueued = []) :
    Consistent schedule { e with barrier := barrier, client := client, producer := t } where
  mask := hmask
  released := by rw [hreleased, h.released]
  cancelled := by rw [hcancelled, h.cancelled]
  producer := by rw [hreleased]; exact hcoherent
  consumer := by rw [hreleased, hpublished]; exact h.consumer
  joined := h.joined_producer hrunning rfl
  flag := by rw [h.flag, hstored]
  word := by rw [h.word, hpublished]
  cause := by
    intro hc
    rcases h.cause hc with hconsumer | hproducer | haborted
    · exact Or.inl hconsumer
    · exact absurd hfresh hproducer
    · exact Or.inr (Or.inr haborted)
  secondhand := hsecond
  pcall := Or.inl hpcall
  ccall := by rw [hccall]; exact h.ccall
  attempts := hattempts
  polls := by rw [hdequeued]; exact h.polls

/-- The mask stays as it is once a producer has arrived. -/
theorem mask_producer (h : Consistent schedule e) (harrived : e.producer.point ≠ .arrive)
    {point : ProducerPoint} (harrived' : point ≠ .arrive) :
    e.barrier.arrivedMask = arrivedBits point e.consumer.point := by
  rw [h.mask]
  simp [arrivedBits, harrived, harrived']

/-- A producer that waits for the release keeps waiting, or gives up. -/
theorem wait_producer (h : Consistent schedule e) (harrived : e.producer.point ≠ .arrive)
    (hrunning : e.producer.point ≠ .returned) (hfresh : e.producer.Fresh)
    (hstored : e.producer.failureStored = false) (hunstarted : e.producer.Unstarted)
    (hwaited : t.Waited e.barrier.released) (hpcall : e.client.pcall = none) :
    Consistent schedule { e with producer := t } :=
  h.replace_producer hrunning hfresh.1 (h.mask_producer harrived hwaited.arrived) rfl rfl
    hwaited.coherent (by rw [hwaited.unstored, hstored])
    (by rw [hwaited.unpublished, hfresh.2.2]) (fun hc => absurd hc hwaited.firsthand) hpcall rfl
    rfl fun _ => h.attempts hunstarted

/-- A producer inside its loop moves on. -/
theorem move_producer (h : Consistent schedule e) (harrived : e.producer.point ≠ .arrive)
    (hrunning : e.producer.point ≠ .returned) (hfresh : e.producer.Fresh)
    (hstored : e.producer.failureStored = false) (hreleased : e.barrier.released = true)
    (hmoved : t.Moved) (hsecond : t.state.failure = .cancelled → e.consumer.state.failure ≠ .none)
    (hpcall : client.pcall = none) (hccall : client.ccall = e.client.ccall)
    (hdequeued : client.dequeued = e.client.dequeued) :
    Consistent schedule { e with client := client, producer := t } :=
  h.replace_producer hrunning hfresh.1 (h.mask_producer harrived hmoved.arrived) rfl rfl
    (by rw [hreleased]; exact hmoved.coherent) (by rw [hmoved.unstored, hstored])
    (by rw [hmoved.unpublished, hfresh.2.2]) hsecond hpcall hccall hdequeued
    fun hun => absurd hun hmoved.started

/-- A producer in its loop sees a cancellation only after the consumer has failed. -/
theorem consumer_failed (h : Consistent schedule e) (hreleased : e.barrier.released = true)
    (hfresh : e.producer.state.failure = .none) (hcancelled : e.cancellation = true) :
    e.consumer.state.failure ≠ .none := by
  rcases h.cause hcancelled with hconsumer | hproducer | haborted
  · exact hconsumer
  · exact absurd hfresh hproducer
  · rw [h.released] at hreleased
    cases hc : e.controller <;>
      simp [hc, ControllerPoint.hasReleased, ControllerPoint.hasAborted] at hreleased haborted

theorem producer_step (h : Consistent schedule e) {reading : TickRead} {input : PIn}
    (hstep : ProducerStep schedule limits reading input e e') : Consistent schedule e' := by
  have hp := h.producer
  cases hstep with
  | arrived hpoint hnew =>
      simp only [ProducerThread.Coherent, hpoint] at hp
      have hwaited : (e.producer.workerWait limits 0).Waited e.barrier.released :=
        ProducerThread.Fresh.workerWait_waited hp limits 0
      refine h.replace_producer (by simp [hpoint]) hp.1 ?_ rfl rfl hwaited.coherent ?_ ?_
        (fun hc => absurd hc hwaited.firsthand) (h.pcall_none (by simp [hpoint])) rfl rfl
        fun _ => h.attempts ?_
      · have hmask := h.mask
        rw [hpoint] at hmask
        show e.barrier.arrivedMask ||| WorkerRole.producer.bit = _
        rw [hmask]
        exact (arrivedBits_producer _ hwaited.arrived _).1
      · rw [hwaited.unstored]
        simp [ProducerThread.failureStored, hpoint]
      · rw [hwaited.unpublished, hp.2.2]
      · simp [ProducerThread.Unstarted, hpoint]
  | duplicate hpoint hold =>
      have hclear := (arrivedBits_producer .returned nofun e.consumer.point).2
      rw [← hpoint, ← h.mask] at hclear
      simp [WorkerStartBarrier.arrive, hclear] at hold
  | cancelledBarrier hpoint =>
      simp only [ProducerThread.Coherent, hpoint] at hp
  | sawCancelled poll hpoint hcancelled =>
      simp only [ProducerThread.Coherent, hpoint] at hp
      exact h.wait_producer (by simp [hpoint]) (by simp [hpoint]) hp
        (by simp [ProducerThread.failureStored, hpoint])
        (by simp [ProducerThread.Unstarted, hpoint]) ⟨⟨rfl, hp.2⟩, nofun, rfl, hp.2.2, nofun⟩
        (h.pcall_none (by simp [hpoint]))
  | notCancelled poll hpoint hcancelled =>
      simp only [ProducerThread.Coherent, hpoint] at hp
      exact h.wait_producer (by simp [hpoint]) (by simp [hpoint]) hp
        (by simp [ProducerThread.failureStored, hpoint])
        (by simp [ProducerThread.Unstarted, hpoint]) ⟨hp, nofun, rfl, hp.2.2, by simp [hp.1]⟩
        (h.pcall_none (by simp [hpoint]))
  | sawReleased poll hpoint hreleased =>
      simp only [ProducerThread.Coherent, hpoint] at hp
      exact h.wait_producer (by simp [hpoint]) (by simp [hpoint]) hp
        (by simp [ProducerThread.failureStored, hpoint])
        (by simp [ProducerThread.Unstarted, hpoint])
        ⟨⟨hreleased, hp⟩, nofun, rfl, hp.2.2, by simp [hp.1]⟩ (h.pcall_none (by simp [hpoint]))
  | notReleased poll hpoint hreleased =>
      simp only [ProducerThread.Coherent, hpoint] at hp
      exact h.wait_producer (by simp [hpoint]) (by simp [hpoint]) hp
        (by simp [ProducerThread.failureStored, hpoint])
        (by simp [ProducerThread.Unstarted, hpoint])
        (ProducerThread.Fresh.workerWait_waited hp limits (poll + 1))
        (h.pcall_none (by simp [hpoint]))
  | startFailed hpoint =>
      simp only [ProducerThread.Coherent, hpoint] at hp
      refine { h with
        mask := h.mask_producer (by simp [hpoint]) nofun
        producer := Or.inr hp
        consumer := h.consumer.mono id id fun hpub => ?_
        joined := h.joined_producer (by simp [hpoint]) rfl
        flag := ?_
        pcall := Or.inl (h.pcall_none (by simp [hpoint]))
        attempts := fun _ => h.attempts ?_ }
      · rw [hp.2.2] at hpub
        cases hpub
      · simp [ProducerThread.failureStored, hp.1]
      · simp [ProducerThread.Unstarted, hpoint]
  | began hpoint =>
      simp only [ProducerThread.Coherent, hpoint] at hp
      have hmoved := ProducerThread.Fresh.nextArrival_moved (t :=
        { e.producer with
          measurementOrigin := e.barrier.measurementOriginTicks
          remaining := schedule.deadlineTicks }) hp.2
      exact h.move_producer (by simp [hpoint]) (by simp [hpoint]) hp.2
        (by simp [ProducerThread.failureStored, hpoint]) hp.1 hmoved.toMoved
        (fun hc => absurd hc hmoved.firsthand) (h.pcall_none (by simp [hpoint])) rfl rfl
  | arrivalCancelled deadline hpoint hcancelled =>
      simp only [ProducerThread.Coherent, hpoint] at hp
      exact h.move_producer (by simp [hpoint]) (by simp [hpoint]) hp.2
        (by simp [ProducerThread.failureStored, hpoint]) hp.1 (hp.2.fail_moved nofun nofun)
        (fun _ => h.consumer_failed hp.1 hp.2.1 hcancelled) (h.pcall_none (by simp [hpoint])) rfl
        rfl
  | arrival deadline hpoint hcancelled =>
      simp only [ProducerThread.Coherent, hpoint] at hp
      have hmoved := hp.2.beginArrival_moved schedule limits deadline
      exact h.move_producer (by simp [hpoint]) (by simp [hpoint]) hp.2
        (by simp [ProducerThread.failureStored, hpoint]) hp.1 hmoved.toMoved
        (fun hc => absurd hc hmoved.firsthand) (h.pcall_none (by simp [hpoint])) rfl rfl
  | waitCancelled deadline target poll hpoint hcancelled =>
      simp only [ProducerThread.Coherent, hpoint] at hp
      exact h.move_producer (by simp [hpoint]) (by simp [hpoint]) hp.2
        (by simp [ProducerThread.failureStored, hpoint]) hp.1 (hp.2.fail_moved nofun nofun)
        (fun _ => h.consumer_failed hp.1 hp.2.1 hcancelled) (h.pcall_none (by simp [hpoint])) rfl
        rfl
  | waits deadline target poll hpoint hcancelled =>
      simp only [ProducerThread.Coherent, hpoint] at hp
      exact h.move_producer (by simp [hpoint]) (by simp [hpoint]) hp.2
        (by simp [ProducerThread.failureStored, hpoint]) hp.1 ⟨⟨rfl, hp.2⟩, nofun, rfl,
          hp.2.2.2, id⟩
        h.secondhand (h.pcall_none (by simp [hpoint])) rfl rfl
  | reads deadline target poll hpoint =>
      simp only [ProducerThread.Coherent, hpoint] at hp
      have hmoved := hp.2.afterRead_moved limits deadline target poll reading
      exact h.move_producer (by simp [hpoint]) (by simp [hpoint]) hp.2
        (by simp [ProducerThread.failureStored, hpoint]) hp.1 hmoved.toMoved
        (fun hc => absurd hc hmoved.firsthand) (h.pcall_none (by simp [hpoint])) rfl rfl
  | callBegun attempt hpoint hcall =>
      exact { h with
        pcall := Or.inr ⟨attempt, B.pBegin attempt, rfl, hpoint⟩ }
  | callRuns attempt attempt' call call' s hpoint hcall hs =>
      rw [← h.attempt_eq hpoint hcall] at hpoint
      exact { h with pcall := Or.inr ⟨attempt', call', rfl, hpoint⟩ }
  | callReturned attempt attempt' call s r hpoint hcall hs =>
      simp only [ProducerThread.Coherent, hpoint] at hp
      have hmoved := hp.2.afterAttempt_moved r
      exact h.move_producer (by simp [hpoint]) (by simp [hpoint]) hp.2
        (by simp [ProducerThread.failureStored, hpoint]) hp.1 hmoved.toMoved
        (fun hc => absurd hc hmoved.firsthand) rfl rfl rfl
  | storedFailed hpoint =>
      simp only [ProducerThread.Coherent, hpoint] at hp
      refine { h with
        mask := h.mask_producer (by simp [hpoint]) nofun
        producer := hp
        consumer := h.consumer.mono id id fun hpub => ?_
        joined := h.joined_producer (by simp [hpoint]) rfl
        flag := rfl
        pcall := Or.inl (h.pcall_none (by simp [hpoint]))
        attempts := nofun }
      rw [hp.2.2] at hpub
      cases hpub
  | storedCancellation hpoint =>
      simp only [ProducerThread.Coherent, hpoint] at hp
      refine { h with
        mask := h.mask_producer (by simp [hpoint]) nofun
        producer := ⟨hp.1, Or.inr hp.2.1, hp.2.2⟩
        joined := h.joined_producer (by simp [hpoint]) rfl
        flag := ?_
        cause := fun _ => Or.inr (Or.inl hp.2.1.1)
        pcall := Or.inl (h.pcall_none (by simp [hpoint]))
        attempts := nofun }
      rw [h.flag]
      simp [ProducerThread.failureStored, hpoint, hp.2.1.1]
  | published hpoint =>
      simp only [ProducerThread.Coherent, hpoint] at hp
      refine { h with
        mask := h.mask_producer (by simp [hpoint]) nofun
        producer := Or.inl ⟨hp.1, hp.2.1, rfl⟩
        consumer := h.consumer.mono id (fun _ => rfl) fun _ => rfl
        joined := h.joined_producer (by simp [hpoint]) rfl
        flag := ?_
        word := rfl
        pcall := Or.inl (h.pcall_none (by simp [hpoint]))
        attempts := fun hun => ?_ }
      · rw [h.flag]
        simp [ProducerThread.failureStored, hpoint]
      · have hstart : e.producer.state.failure = .startWatchdog := hun
        rcases hp.2.1 with ⟨hnone, -⟩ | ⟨-, hne, -⟩
        · rw [hnone] at hstart
          cases hstart
        · exact absurd hstart hne

/-- A running consumer may go on to any coherent state that keeps its failure. -/
theorem replace_consumer (h : Consistent schedule e) (hrunning : e.consumer.point ≠ .returned)
    {barrier : WorkerStartBarrier} {cancellation : Bool} {t : ConsumerThread}
    (hmask : barrier.arrivedMask = arrivedBits e.producer.point t.point)
    (hreleased : barrier.released = e.barrier.released)
    (hcancelled : barrier.cancelled = e.barrier.cancelled)
    (hcoherent : t.Coherent e.barrier.released e.producer.state.arrivalsFinishedPublished
      e.producerFailed)
    (hkeeps : e.consumer.state.failure ≠ .none → t.state.failure ≠ .none)
    (hcause : cancellation = true → e.cancellation = true ∨ t.state.failure ≠ .none)
    (hpcall : client.pcall = e.client.pcall) (henqueued : client.enqueued = e.client.enqueued)
    (hccall : client.ccall = none ∨ ∃ finished, t.point = .poll finished)
    (hpolls : t.Unstarted → client.dequeued = []) :
    Consistent schedule
      { e with
        barrier := barrier
        cancellation := cancellation
        client := client
        consumer := t } where
  mask := hmask
  released := by rw [hreleased, h.released]
  cancelled := by rw [hcancelled, h.cancelled]
  producer := by rw [hreleased]; exact h.producer
  consumer := by rw [hreleased]; exact hcoherent
  joined := h.joined_consumer hrunning rfl rfl
  flag := h.flag
  word := h.word
  cause := by
    intro hc
    rcases hcause hc with hold | hnew
    · rcases h.cause hold with hconsumer | hrest
      · exact Or.inl (hkeeps hconsumer)
      · exact Or.inr hrest
    · exact Or.inl hnew
  secondhand := fun hc => hkeeps (h.secondhand hc)
  pcall := by rw [hpcall]; exact h.pcall
  ccall := hccall
  attempts := by rw [henqueued]; exact h.attempts
  polls := hpolls

/-- The mask stays as it is once a consumer has arrived. -/
theorem mask_consumer (h : Consistent schedule e) (harrived : e.consumer.point ≠ .arrive)
    {point : ConsumerPoint} (harrived' : point ≠ .arrive) :
    e.barrier.arrivedMask = arrivedBits e.producer.point point := by
  rw [h.mask]
  simp [arrivedBits, harrived, harrived']

/-- A consumer moves on without touching a shared word. -/
theorem move_consumer (h : Consistent schedule e) (harrived : e.consumer.point ≠ .arrive)
    (hrunning : e.consumer.point ≠ .returned) {t : ConsumerThread} (harrived' : t.point ≠ .arrive)
    (hcoherent : t.Coherent e.barrier.released e.producer.state.arrivalsFinishedPublished
      e.producerFailed)
    (hkeeps : e.consumer.state.failure ≠ .none → t.state.failure ≠ .none)
    (hccall : e.client.ccall = none) (hpolls : t.Unstarted → e.client.dequeued = []) :
    Consistent schedule { e with consumer := t } :=
  h.replace_consumer hrunning (h.mask_consumer harrived harrived') rfl rfl hcoherent hkeeps Or.inl
    rfl rfl (Or.inl hccall) hpolls

theorem consumer_step (h : Consistent schedule e) {input : CIn}
    (hstep : ConsumerStep limits input e e') : Consistent schedule e' := by
  have hc := h.consumer
  cases hstep with
  | arrived hpoint hnew =>
      simp only [ConsumerThread.Coherent, hpoint] at hc
      refine h.replace_consumer (by simp [hpoint]) ?_ rfl rfl (hc.workerWait_coherent limits 0)
        (fun hne => absurd hc.1 hne) Or.inl rfl rfl (Or.inl (h.ccall_none (by simp [hpoint])))
        fun _ => h.polls (by simp [ConsumerThread.Unstarted, hpoint])
      have hmask := h.mask
      rw [hpoint] at hmask
      show e.barrier.arrivedMask ||| WorkerRole.consumer.bit = _
      rw [hmask]
      exact (arrivedBits_consumer _ _ (e.consumer.workerWait_arrived limits 0)).1
  | duplicate hpoint hold =>
      have hclear := (arrivedBits_consumer e.producer.point .returned nofun).2
      rw [← hpoint, ← h.mask] at hclear
      simp [WorkerStartBarrier.arrive, hclear] at hold
  | cancelledBarrier hpoint => simp only [ConsumerThread.Coherent, hpoint] at hc
  | sawCancelled poll hpoint hcancelled =>
      simp only [ConsumerThread.Coherent, hpoint] at hc
      exact h.move_consumer (by simp [hpoint]) (by simp [hpoint]) nofun ⟨rfl, rfl, hc.2.2⟩
        (fun hne => absurd hc.1 hne) (h.ccall_none (by simp [hpoint]))
        fun _ => h.polls (by simp [ConsumerThread.Unstarted, hpoint])
  | notCancelled poll hpoint hcancelled =>
      simp only [ConsumerThread.Coherent, hpoint] at hc
      exact h.move_consumer (by simp [hpoint]) (by simp [hpoint]) nofun hc id
        (h.ccall_none (by simp [hpoint]))
        fun _ => h.polls (by simp [ConsumerThread.Unstarted, hpoint])
  | sawReleased poll hpoint hreleased =>
      simp only [ConsumerThread.Coherent, hpoint] at hc
      exact h.move_consumer (by simp [hpoint]) (by simp [hpoint]) nofun ⟨hreleased, hc⟩ id
        (h.ccall_none (by simp [hpoint])) nofun
  | notReleased poll hpoint hreleased =>
      simp only [ConsumerThread.Coherent, hpoint] at hc
      exact h.move_consumer (by simp [hpoint]) (by simp [hpoint])
        (e.consumer.workerWait_arrived limits (poll + 1)) (hc.workerWait_coherent limits (poll + 1))
        (fun hne => absurd hc.1 hne) (h.ccall_none (by simp [hpoint]))
        fun _ => h.polls (by simp [ConsumerThread.Unstarted, hpoint])
  | startFailed hpoint =>
      simp only [ConsumerThread.Coherent, hpoint] at hc
      exact h.replace_consumer (by simp [hpoint]) (h.mask_consumer (by simp [hpoint]) nofun) rfl rfl
        (Or.inl hc) id (fun _ => Or.inr (by simp [hc.1])) rfl rfl
        (Or.inl (h.ccall_none (by simp [hpoint])))
        fun _ => h.polls (by simp [ConsumerThread.Unstarted, hpoint])
  | sawFinished hpoint hfinished =>
      simp only [ConsumerThread.Coherent, hpoint] at hc
      rw [h.word] at hfinished
      exact h.move_consumer (by simp [hpoint]) (by simp [hpoint]) nofun ⟨hc.1, hfinished, hc.2⟩ id
        (h.ccall_none (by simp [hpoint])) nofun
  | notFinished hpoint hfinished =>
      simp only [ConsumerThread.Coherent, hpoint] at hc
      exact h.move_consumer (by simp [hpoint]) (by simp [hpoint]) nofun hc id
        (h.ccall_none (by simp [hpoint])) nofun
  | sawProducerFailed hpoint hfailed =>
      simp only [ConsumerThread.Coherent, hpoint] at hc
      refine h.move_consumer (by simp [hpoint]) (by simp [hpoint]) nofun
        (Or.inr (Or.inr ⟨hc.1, hc.2.1, hc.2.2.1, Or.inr ⟨hc.2.2.2.2, hfailed⟩⟩)) id
        (h.ccall_none (by simp [hpoint])) fun hun => ?_
      have hstart : e.consumer.state.failure = .startWatchdog := hun
      rw [hc.2.2.1] at hstart
      cases hstart
  | producerFine hpoint hfailed =>
      simp only [ConsumerThread.Coherent, hpoint] at hc
      exact h.move_consumer (by simp [hpoint]) (by simp [hpoint]) nofun
        ⟨hc.1, hc.2.1, hfailed, hc.2.2⟩ id (h.ccall_none (by simp [hpoint])) nofun
  | callBegun finished hpoint hcall => exact { h with ccall := Or.inr ⟨finished, hpoint⟩ }
  | callRuns finished call call' s hpoint hcall hs =>
      exact { h with
        ccall := Or.inr ⟨finished, hpoint⟩
        polls := fun hun => by simp [ConsumerThread.Unstarted, hpoint] at hun }
  | callReturned finished call s r t hpoint hcall hs hpolled =>
      have hfresh := hc.fresh_of_poll hpoint
      obtain ⟨harrived, hstarted⟩ := hpolled.started hfresh.1
      exact h.replace_consumer (by simp [hpoint]) (h.mask_consumer (by simp [hpoint]) harrived) rfl
        rfl (hpolled.coherent hpoint hc) (fun hne => absurd hfresh.1 hne) Or.inl rfl rfl
        (Or.inl rfl) fun hun => absurd hun hstarted
  | reloaded hpoint =>
      simp only [ConsumerThread.Coherent, hpoint] at hc
      refine h.move_consumer (by simp [hpoint]) (by simp [hpoint]) nofun
        ⟨hc.1, Or.inl hc.2.1, ?_, hc.2.2⟩ id (h.ccall_none (by simp [hpoint])) nofun
      cases e.termination.arrivalsFinished with
      | false => exact Or.inl rfl
      | true => exact Or.inr rfl
  | storedCancellation hpoint =>
      simp only [ConsumerThread.Coherent, hpoint] at hc
      have hne : e.consumer.state.failure ≠ .none := by
        rcases hc.2.1 with hf | hf | hf <;> simp [hf]
      refine h.replace_consumer (by simp [hpoint]) (h.mask_consumer (by simp [hpoint]) nofun) rfl
        rfl
        (Or.inr (Or.inl hc)) id (fun _ => Or.inr hne) rfl rfl
        (Or.inl (h.ccall_none (by simp [hpoint]))) fun hun => ?_
      have hstart : e.consumer.state.failure = .startWatchdog := hun
      rcases hc.2.1 with hf | hf | hf <;> simp [hf] at hstart

/-- The controller moves on without touching a shared word. -/
theorem move_controller (h : Consistent schedule e) {old point : ControllerPoint}
    (hpoint : e.controller = old) (hreleased : point.hasReleased = old.hasReleased)
    (hcancelled : point.hasCancelled = old.hasCancelled)
    (haborted : old.hasAborted = true → point.hasAborted = true)
    (hjoined : ({ e with controller := point } : Execution B).Joined schedule) :
    Consistent schedule { e with controller := point } :=
  { h with
    released := by rw [h.released, hpoint, hreleased]
    cancelled := by rw [h.cancelled, hpoint, hcancelled]
    joined := hjoined
    cause := fun hc => by
      rcases h.cause hc with hconsumer | hproducer | hold
      · exact Or.inl hconsumer
      · exact Or.inr (Or.inl hproducer)
      · exact Or.inr (Or.inr (haborted (hpoint ▸ hold))) }

theorem controller_step (h : Consistent schedule e) {reading : TickRead}
    (hstep : ControllerStep schedule limits reading e e') : Consistent schedule e' := by
  have hj := h.joined
  cases hstep with
  | sawCancelled poll hpoint hcancelled =>
      exact h.move_controller hpoint rfl rfl nofun (Or.inl rfl)
  | notCancelled poll hpoint hcancelled =>
      exact h.move_controller hpoint rfl rfl nofun trivial
  | ready poll hpoint hready =>
      exact h.move_controller hpoint rfl rfl nofun trivial
  | notReady poll hpoint hready =>
      rcases ControllerPoint.controllerWait_cases limits (poll + 1) with ⟨-, heq⟩ | ⟨-, heq⟩
      · rw [heq]
        exact h.move_controller hpoint rfl rfl nofun trivial
      · rw [heq]
        exact h.move_controller hpoint rfl rfl nofun (Or.inl rfl)
  | readOrigin hpoint hok =>
      exact h.move_controller hpoint rfl rfl nofun trivial
  | clockFailed hpoint hok =>
      exact h.move_controller hpoint rfl rfl nofun (Or.inr rfl)
  | releaseCancelled origin hpoint hcancelled =>
      exact h.move_controller hpoint rfl rfl nofun (Or.inl rfl)
  | releaseNotCancelled origin hpoint hcancelled =>
      exact h.move_controller hpoint rfl rfl nofun trivial
  | releaseReady origin hpoint hready =>
      exact h.move_controller hpoint rfl rfl nofun trivial
  | releaseNotReady origin hpoint hready =>
      exact h.move_controller hpoint rfl rfl nofun (Or.inl rfl)
  | storedOrigin origin hpoint =>
      have hmoved : Consistent schedule { e with controller := .storeReleased origin } :=
        h.move_controller hpoint rfl rfl nofun trivial
      exact { hmoved with }
  | released origin hpoint =>
      exact { h with
        released := rfl
        cancelled := by show e.barrier.cancelled = _; rw [h.cancelled, hpoint]; rfl
        producer := h.producer.release
        consumer := h.consumer.mono (fun _ => rfl) id fun _ => rfl
        joined := trivial
        cause := fun hc => by
          rcases h.cause hc with hconsumer | hproducer | haborted
          · exact Or.inl hconsumer
          · exact Or.inr (Or.inl hproducer)
          · rw [hpoint] at haborted
            cases haborted }
  | joinedProducer origin hpoint hreturned =>
      exact h.move_controller hpoint rfl rfl nofun hreturned
  | joinedConsumer origin hpoint hreturned =>
      simp only [Joined, hpoint] at hj
      exact h.move_controller hpoint rfl rfl nofun ⟨hj, hreturned⟩
  | reported origin hpoint =>
      simp only [Joined, hpoint] at hj
      exact h.move_controller hpoint rfl rfl nofun ⟨hj.1, hj.2, origin, rfl⟩
  | abortedCancellation reason hpoint =>
      simp only [Joined, hpoint] at hj
      exact { h with
        released := by rw [h.released, hpoint]; rfl
        cancelled := by rw [h.cancelled, hpoint]; rfl
        joined := hj
        cause := fun _ => Or.inr (Or.inr rfl) }
  | abortedBarrier reason hpoint =>
      simp only [Joined, hpoint] at hj
      exact { h with
        released := by show e.barrier.released = _; rw [h.released, hpoint]; rfl
        cancelled := rfl
        joined := hj
        cause := fun _ => Or.inr (Or.inr rfl) }
  | abortJoinedProducer reason hpoint hreturned =>
      simp only [Joined, hpoint] at hj
      exact h.move_controller hpoint rfl rfl (fun _ => rfl) ⟨hreturned, hj⟩
  | abortJoinedConsumer reason hpoint hreturned =>
      simp only [Joined, hpoint] at hj
      exact h.move_controller hpoint rfl rfl (fun _ => rfl) ⟨hj.1, hreturned, reason, hj.2, rfl⟩

theorem step (h : Consistent schedule e) {a : ThreadStep PIn CIn}
    (hstep : e.step schedule limits a = some e') : Consistent schedule e' := by
  cases a with
  | producer reading input => exact h.producer_step (producerStep_cases hstep)
  | consumer input => exact h.consumer_step (consumerStep_cases hstep)
  | controller reading => exact h.controller_step (controllerStep_cases hstep)

end Consistent

/-- **Invariant rule.** What the start satisfies and every step keeps holds of every
reached state. -/
theorem Reaches.induction {I : Execution B → Prop} (hreach : Reaches schedule limits e e')
    (hstart : I e) (hstep : ∀ e a e', I e → e.step schedule limits a = some e' → I e') : I e' := by
  induction hreach with
  | refl => exact hstart
  | tail _ hnext ih =>
      obtain ⟨a, ha⟩ := hnext
      exact hstep _ a _ ih ha

/-- The invariant rule for what the steps of the backend keep of its state. -/
theorem Reaches.state_induction {I : B.State → Prop} (hreach : Reaches schedule limits e e')
    (hstart : I e.client.state)
    (hp : ∀ input s call s' out, I s → B.pStep input s call = (s', out) → I s')
    (hc : ∀ input s call s' out, I s → B.cStep input s call = (s', out) → I s') :
    I e'.client.state := by
  refine hreach.induction (I := fun e => I e.client.state) hstart ?_
  intro e a e' h hstep
  cases a with
  | producer reading input =>
      cases producerStep_cases hstep with
      | callRuns attempt attempt' call call' s hpoint hcall hs => exact hp _ _ _ _ _ h hs
      | callReturned attempt attempt' call s r hpoint hcall hs => exact hp _ _ _ _ _ h hs
      | _ => exact h
  | consumer input =>
      cases consumerStep_cases hstep with
      | callRuns finished call call' s hpoint hcall hs => exact hc _ _ _ _ _ h hs
      | callReturned finished call s r t hpoint hcall hs hpolled => exact hc _ _ _ _ _ h hs
      | _ => exact h
  | controller reading => cases controllerStep_cases hstep <;> exact h

theorem Reaches.consistent (hreach : Reaches schedule limits e e') (h : Consistent schedule e) :
    Consistent schedule e' :=
  hreach.induction h fun _ _ _ hc hs => hc.step hs

theorem Reaches.of_run? {acts : List (ThreadStep PIn CIn)}
    (h : e.run? schedule limits acts = some e') : Reaches schedule limits e e' := by
  induction acts generalizing e with
  | nil =>
      obtain rfl := Option.some.inj h
      exact .refl
  | cons a rest ih =>
      obtain ⟨e₁, hstep, hrest⟩ := Option.bind_eq_some_iff.mp h
      exact Relation.ReflTransGen.head ⟨a, hstep⟩ (ih hrest)

variable {ok : Execution B → ThreadStep PIn CIn → Bool}

/-- A run that keeps to a condition is a run. -/
theorem ReachesWhen.reaches (hreach : ReachesWhen schedule limits ok e e') :
    Reaches schedule limits e e' := by
  induction hreach with
  | refl => exact .refl
  | tail _ hnext ih =>
      obtain ⟨a, -, ha⟩ := hnext
      exact ih.tail ⟨a, ha⟩

/-- The invariant rule for runs that keep to a condition. -/
theorem ReachesWhen.induction {I : Execution B → Prop}
    (hreach : ReachesWhen schedule limits ok e e') (hstart : I e)
    (hstep : ∀ e a e', I e → ok e a = true → e.step schedule limits a = some e' → I e') : I e' := by
  induction hreach with
  | refl => exact hstart
  | tail _ hnext ih =>
      obtain ⟨a, hok, ha⟩ := hnext
      exact hstep _ a _ ih hok ha

theorem ReachesWhen.of_runWhen? {acts : List (ThreadStep PIn CIn)}
    (h : e.runWhen? schedule limits ok acts = some e') : ReachesWhen schedule limits ok e e' := by
  induction acts generalizing e with
  | nil =>
      obtain rfl := Option.some.inj h
      exact .refl
  | cons a rest ih =>
      unfold runWhen? at h
      split at h
      · rename_i hok
        obtain ⟨e₁, hstep, hrest⟩ := Option.bind_eq_some_iff.mp h
        exact Relation.ReflTransGen.head ⟨a, hok, hstep⟩ (ih hrest)
      · cases h

end Execution

variable {init : B.State} {termination : TerminationControl}

/-- Threads are started only on a valid schedule, with nonzero limits and a cleared word. -/
theorem executeMeasurement_ok (h : executeMeasurement B schedule limits termination init = .ok e) :
    schedule.validatePreparedSchedule = [] ∧ limits.invalid = false ∧
      e = .start limits ⟨0⟩ init := by
  unfold executeMeasurement at h
  simp only [TerminationControl.resetQuiescent] at h
  split at h
  · cases h
  · rename_i hvalid
    split at h
    · cases h
    · rename_i hlimits
      exact ⟨by simpa using hvalid, by simpa using hlimits, (Except.ok.inj h).symm⟩

/-- A report before the threads start is a pre-run report of the controller's own. -/
theorem executeMeasurement_error {report : MeasurementExecutionReport}
    (h : executeMeasurement B schedule limits termination init = .error report) :
    ∃ reason, (reason = .invalidSchedule ∨ reason = .invalidLimits) ∧
      report = failureReport .preRun reason (.ofNat schedule.deadlineTicks.length) := by
  unfold executeMeasurement at h
  simp only [TerminationControl.resetQuiescent] at h
  split at h
  · exact ⟨_, Or.inl rfl, (Except.error.inj h).symm⟩
  · split at h
    · exact ⟨_, Or.inr rfl, (Except.error.inj h).symm⟩
    · cases h

theorem executeMeasurement_consistent
    (h : executeMeasurement B schedule limits termination init = .ok e)
    (hreach : e.Reaches schedule limits e') : Execution.Consistent schedule e' := by
  obtain ⟨-, -, rfl⟩ := executeMeasurement_ok h
  exact hreach.consistent (.start limits _ init rfl)

end CpuPrefetch.Lifecycle
