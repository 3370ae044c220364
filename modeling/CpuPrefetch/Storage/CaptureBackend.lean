/-
`CapturingObservationBackend`: captures whose rows are committed before they count.

A call of the backend is a capture, and the step that ends the capture also appends
its row: the two streams are private to their workers, so the append is the private
work that follows the capture's last clock read.
-/
import CpuPrefetch.Lifecycle.Executor
import CpuPrefetch.Storage.RawObservations

namespace CpuPrefetch.Storage

open Lifecycle (Backend ProducerAttempt ProducerAttemptResult ConsumerPollResult)
open Queue (Package EnqueueResult)
open Timing (ClockReadResult DueArrival DueCapture PollCapture ProducerCaptureResult
  ConsumerCaptureResult ProducerObservation ConsumerObservation)
open Workload (EventArena ConsumerState)

namespace CapturingObservationBackend

/-- What the two workers' calls touch. -/
structure State (P : Package Nat) where
  package : P.State
  consumerState : ConsumerState
  producerStream : ProducerObservationStream
  consumerStream : ConsumerObservationStream

/-- The queue outcome a row stands for. -/
def outcomeOf (observation : ProducerObservation) : EnqueueResult :=
  if observation.outcome = .accepted then .accepted else .full

/-- `try_producer_attempt`, once its capture has returned. -/
def attemptResult (stream : ProducerObservationStream) (captured : ProducerCaptureResult) :
    ProducerObservationStream × ProducerAttemptResult :=
  match captured.status, captured.observation with
  | .complete, some observation =>
      let appended := stream.append observation
      if appended.2 ≠ .appended then (appended.1, ⟨.failure, outcomeOf observation⟩)
      else (appended.1, ⟨.complete, outcomeOf observation⟩)
  | _, _ => (stream, ⟨.failure, .full⟩)

/-- `try_consumer_poll`, once its capture has returned. -/
def pollResult (stream : ConsumerObservationStream) (captured : ConsumerCaptureResult) :
    ConsumerObservationStream × ConsumerPollResult :=
  match captured.status, captured.observation with
  | .empty, _ => (stream, ⟨.empty⟩)
  | .complete, some observation =>
      let appended := stream.append observation
      if appended.2 ≠ .appended then (appended.1, ⟨.failure⟩) else (appended.1, ⟨.item⟩)
  | _, _ => (stream, ⟨.failure⟩)

/-- The arguments `try_producer_attempt` passes on. -/
def dueArrival (attempt : ProducerAttempt) : DueArrival :=
  ⟨attempt.logicalSequence, attempt.scheduledDeadline, attempt.candidateAcceptedOrdinal⟩

variable {P : Package Nat} (arena : EventArena)

/-- One step of `try_producer_attempt`. -/
def attemptStep (input : ClockReadResult) (s : State P) (call : DueCapture P) :
    State P × Outcome (DueCapture P) ProducerAttemptResult :=
  match call.step arena input s.package with
  | (package, .running call') => ({ s with package := package }, .running call')
  | (package, .returned captured) =>
      let result := attemptResult s.producerStream captured
      ({ s with package := package, producerStream := result.1 }, .returned result.2)

/-- One step of `try_consumer_poll`. -/
def pollStep (input : ClockReadResult) (s : State P) (call : PollCapture P) :
    State P × Outcome (PollCapture P) ConsumerPollResult :=
  match call.step arena input s.package s.consumerState with
  | ((package, consumerState), .running call') =>
      ({ s with package := package, consumerState := consumerState }, .running call')
  | ((package, consumerState), .returned captured) =>
      let result := pollResult s.consumerStream captured
      ({ s with
          package := package, consumerState := consumerState, consumerStream := result.1 },
        .returned result.2)

/-! ### What a step can do -/

variable {input : ClockReadResult} {s s' : State P}

/-- A step of an attempt is a step of its capture; the last one commits the row. -/
theorem attemptStep_cases {call : DueCapture P}
    {out : Outcome (DueCapture P) ProducerAttemptResult}
    (h : attemptStep arena input s call = (s', out)) :
    (∃ package call', DueCapture.Step arena input s.package call package (.running call') ∧
        s' = { s with package := package } ∧ out = .running call') ∨
      (∃ package captured,
        DueCapture.Step arena input s.package call package (.returned captured) ∧
        s' = { s with
          package := package, producerStream := (attemptResult s.producerStream captured).1 } ∧
        out = .returned (attemptResult s.producerStream captured).2) := by
  unfold attemptStep at h
  split at h
  · rename_i package call' hs
    obtain ⟨rfl, rfl⟩ := Prod.mk.inj h
    exact .inl ⟨package, call', DueCapture.step_cases arena hs, rfl, rfl⟩
  · rename_i package captured hs
    obtain ⟨rfl, rfl⟩ := Prod.mk.inj h
    exact .inr ⟨package, captured, DueCapture.step_cases arena hs, rfl, rfl⟩

/-- A step of a poll is a step of its capture; the last one commits the row. -/
theorem pollStep_cases {call : PollCapture P} {out : Outcome (PollCapture P) ConsumerPollResult}
    (h : pollStep arena input s call = (s', out)) :
    (∃ x call', PollCapture.Step arena input s.package s.consumerState call x (.running call') ∧
        s' = { s with package := x.1, consumerState := x.2 } ∧ out = .running call') ∨
      (∃ x captured,
        PollCapture.Step arena input s.package s.consumerState call x (.returned captured) ∧
        s' = { s with
          package := x.1, consumerState := x.2
          consumerStream := (pollResult s.consumerStream captured).1 } ∧
        out = .returned (pollResult s.consumerStream captured).2) := by
  unfold pollStep at h
  split at h
  · rename_i package consumerState call' hs
    obtain ⟨rfl, rfl⟩ := Prod.mk.inj h
    exact .inl ⟨(package, consumerState), call', PollCapture.step_cases arena hs, rfl, rfl⟩
  · rename_i package consumerState captured hs
    obtain ⟨rfl, rfl⟩ := Prod.mk.inj h
    exact .inr ⟨(package, consumerState), captured, PollCapture.step_cases arena hs, rfl, rfl⟩

theorem attemptStep_rank {call call' : DueCapture P}
    (h : attemptStep arena input s call = (s', .running call')) :
    call'.rank arena < call.rank arena := by
  unfold attemptStep at h
  split at h
  · rename_i package call'' hs
    obtain ⟨-, heq⟩ := Prod.mk.inj h
    obtain rfl := Outcome.running.inj heq
    exact DueCapture.step_rank arena hs
  · cases h

theorem pollStep_rank {call call' : PollCapture P}
    (h : pollStep arena input s call = (s', .running call')) : call'.rank < call.rank := by
  unfold pollStep at h
  split at h
  · rename_i package consumerState call'' hs
    obtain ⟨-, heq⟩ := Prod.mk.inj h
    obtain rfl := Outcome.running.inj heq
    exact PollCapture.step_rank arena hs
  · cases h

end CapturingObservationBackend

/-- The backend over this package and arena; each step may read the capture clock. -/
def capturingObservationBackend (P : Package Nat) (arena : EventArena) :
    Backend ClockReadResult ClockReadResult where
  State := CapturingObservationBackend.State P
  PCall := DueCapture P
  CCall := PollCapture P
  pBegin attempt := .handleBegin (CapturingObservationBackend.dueArrival attempt)
  pStep := CapturingObservationBackend.attemptStep arena
  cBegin ordinal := .invocation ordinal
  cStep := CapturingObservationBackend.pollStep arena
  pRank := DueCapture.rank arena
  cRank := PollCapture.rank
  pRank_lt _ _ _ _ _ h := CapturingObservationBackend.attemptStep_rank arena h
  cRank_lt _ _ _ _ _ h := CapturingObservationBackend.pollStep_rank arena h

end CpuPrefetch.Storage
