/-
The rows a run commits.

An attempt that is answered as complete has committed one producer row and a poll
that returned an item one consumer row; nothing else commits any.  So at every moment
of a run the producer stream holds one row for each complete attempt, in order, and
the consumer stream one row for each item.  The rows are canonical: the executor
numbers its attempts, and its polls, by what has been committed before them.
-/
import CpuPrefetch.Proofs.Storage.CaptureFifo
import CpuPrefetch.Proofs.Storage.Codec

namespace CpuPrefetch.Storage

open List
open Lifecycle (Answered ProducerAttempt ProducerAttemptResult ConsumerPollResult Execution
  PreparedScheduleView ExecutionLimits ThreadStep)
open Queue (Package EnqueueResult)
open Timing (ClockReadResult ClockSample DueArrival DueCapture PollCapture ProducerObservation
  ConsumerObservation producerObservation)
open Workload (EventArena)

variable {P : Package Nat} {arena : EventArena}

variable {call call' : PollCapture P}

namespace CapturingObservationBackend

variable {s s' : State P} {input : ClockReadResult} {rows : List (List UInt64)}

/-! ### The last step of a call -/

theorem attemptStep_running {call call' : DueCapture P}
    (h : attemptStep arena input s call = (s', .running call')) :
    DueCapture.Step arena input s.package call s'.package (.running call') ∧
      s'.producerStream = s.producerStream ∧ s'.consumerStream = s.consumerStream := by
  rcases attemptStep_cases arena h with ⟨package, call'', hcapture, rfl, heq⟩ | ⟨_, _, _, _, heq⟩
  · obtain rfl := Outcome.running.inj heq
    exact ⟨hcapture, rfl, rfl⟩
  · cases heq

theorem pollStep_running (h : pollStep arena input s call = (s', .running call')) :
    PollCapture.Step arena input s.package s.consumerState call (s'.package, s'.consumerState)
        (.running call') ∧
      s'.producerStream = s.producerStream ∧ s'.consumerStream = s.consumerStream := by
  rcases pollStep_cases arena h with ⟨x, call'', hcapture, rfl, heq⟩ | ⟨_, _, _, _, heq⟩
  · obtain rfl := Outcome.running.inj heq
    exact ⟨hcapture, rfl, rfl⟩
  · cases heq

/-- A finished attempt has failed and committed nothing, or is complete and its row is in. -/
inductive AttemptEnds (s s' : State P) (input : ClockReadResult) (rows : List (List UInt64)) :
    DueCapture P → ProducerAttemptResult → Prop where
  | failed {call : DueCapture P} (outcome : EnqueueResult)
      (hrows : s'.producerStream.Holds rows) :
      AttemptEnds s s' input rows call ⟨.failure, outcome⟩
  | complete (due : DueArrival) (begun lookup invoked : ClockSample) (recordIndex : UInt64)
      (reading : ClockReadResult) (result : EnqueueResult) (hok : input.isOk = true)
      (hrows : s'.producerStream.Holds (rows ++ [producerWords (producerObservation due begun
        lookup invoked recordIndex reading result input.sample)])) :
      AttemptEnds s s' input rows
        (.completion due begun lookup invoked recordIndex reading result) ⟨.complete, result⟩

theorem outcomeOf_producerObservation (due : DueArrival) (begun lookup invoked : ClockSample)
    (recordIndex : UInt64) (reading : ClockReadResult) (result : EnqueueResult)
    (completed : ClockSample) :
    outcomeOf (producerObservation due begun lookup invoked recordIndex reading result completed) =
      result := by
  cases result <;> rfl

theorem attemptStep_returned {call : DueCapture P} {r : ProducerAttemptResult}
    (hrows : s.producerStream.Holds rows)
    (h : attemptStep arena input s call = (s', .returned r)) :
    AttemptEnds s s' input rows call r ∧ s'.consumerStream = s.consumerStream := by
  rcases attemptStep_cases arena h with ⟨_, _, _, _, heq⟩ | ⟨package, captured, hcapture, rfl, heq⟩
  · cases heq
  · obtain rfl := Outcome.returned.inj heq
    refine ⟨?_, rfl⟩
    cases hcapture with
    | completes due begun lookup invoked recordIndex reading result hok =>
        have happend := ProducerObservationStream.append_committed hrows
          (producerObservation due begun lookup invoked recordIndex reading result input.sample)
        rcases happend with ⟨happended, hholds⟩ | ⟨hnot, hholds⟩
        · simp only [attemptResult, happended, ne_eq, not_true_eq_false, if_false,
            outcomeOf_producerObservation]
          exact .complete due begun lookup invoked recordIndex reading result hok hholds
        · simp only [attemptResult, ne_eq, hnot, not_false_eq_true, if_true]
          exact .failed _ hholds
    | _ => exact .failed _ hrows

/-- A finished poll has committed nothing, or has returned an item and its row is in. -/
inductive PollEnds (s s' : State P) (input : ClockReadResult) (rows : List (List UInt64)) :
    PollCapture P → ConsumerPollResult → Prop where
  | nothing {call : PollCapture P} {r : ConsumerPollResult} (hr : r.status ≠ .item)
      (hrows : s'.consumerStream.Holds rows) : PollEnds s s' input rows call r
  | item (ordinal : UInt64) (invoked : ClockSample) (reading : ClockReadResult)
      (completed : ClockSample) (event : Option Nat) (recordIndex : UInt64)
      (hok : input.isOk = true)
      (hrows : s'.consumerStream.Holds (rows ++ [consumerWords ⟨ordinal, recordIndex, invoked,
        reading.sample, completed, input.sample⟩])) :
      PollEnds s s' input rows (.action ordinal invoked reading completed event recordIndex)
        ⟨.item⟩

theorem pollStep_returned {r : ConsumerPollResult} (hrows : s.consumerStream.Holds rows)
    (h : pollStep arena input s call = (s', .returned r)) :
    PollEnds s s' input rows call r ∧ s'.producerStream = s.producerStream := by
  rcases pollStep_cases arena h with ⟨_, _, _, _, heq⟩ | ⟨x, captured, hcapture, rfl, heq⟩
  · cases heq
  · obtain rfl := Outcome.returned.inj heq
    refine ⟨?_, rfl⟩
    cases hcapture with
    | acts ordinal invoked reading completed event recordIndex hok =>
        have happend := ConsumerObservationStream.append_committed hrows
          ⟨ordinal, recordIndex, invoked, reading.sample, completed, input.sample⟩
        rcases happend with ⟨happended, hholds⟩ | ⟨hnot, hholds⟩
        · simp only [pollResult, happended, ne_eq, not_true_eq_false, if_false]
          exact .item ordinal invoked reading completed event recordIndex hok hholds
        · simp only [pollResult, ne_eq, hnot, not_false_eq_true, if_true]
          exact .nothing nofun hholds
    | _ => exact .nothing nofun hrows

/-- The ordinal a poll was begun with. -/
def ordinalOf : PollCapture P → UInt64
  | .invocation ordinal | .dequeue ordinal _ _ _ | .completion ordinal _ _ _
  | .action ordinal _ _ _ _ _ => ordinal

theorem ordinalOf_step {s : P.State} {state : Workload.ConsumerState}
    {x : P.State × Workload.ConsumerState}
    (h : PollCapture.Step arena input s state call x (.running call')) :
    ordinalOf call' = ordinalOf call := by
  cases h <;> rfl

end CapturingObservationBackend

open CapturingObservationBackend

/-! ### Rows and answers -/

/-- The attempts answered as complete. -/
def completed (answered : Answered) : Answered := answered.filter (·.2.status = .complete)

theorem completed_eq {answered : Answered} (h : ∀ x ∈ answered, x.2.status = .complete) :
    completed answered = answered := by
  refine List.filter_eq_self.mpr fun x hx => ?_
  simpa using h x hx

theorem completed_append_complete (answered : Answered) (attempt : ProducerAttempt)
    (result : EnqueueResult) : completed (answered ++ [(attempt, ⟨.complete, result⟩)]) =
      completed answered ++ [(attempt, ⟨.complete, result⟩)] := by
  simp [completed]

theorem completed_append_failure (answered : Answered) (attempt : ProducerAttempt)
    (outcome : EnqueueResult) :
    completed (answered ++ [(attempt, ⟨.failure, outcome⟩)]) = completed answered := by
  simp [completed]

/-- The row is the one of this attempt, which was answered as the row says. -/
structure RowOf (arena : EventArena) (x : ProducerAttempt × ProducerAttemptResult)
    (row : ProducerObservation) : Prop where
  sequence : row.logicalSequence = x.1.logicalSequence
  recordIndex : row.recordIndex = (arena.select x.1.logicalSequence).recordIndex
  arrival : row.scheduledArrival = x.1.scheduledDeadline
  answer : x.2 = ⟨.complete, outcomeOf row⟩

/-- The accepted rows. -/
def acceptedRows (rows : List ProducerObservation) : List ProducerObservation :=
  rows.filter (·.outcome = .accepted)

theorem outcomeOf_accepted_iff (row : ProducerObservation) :
    outcomeOf row = .accepted ↔ row.outcome = .accepted := by
  unfold outcomeOf
  split <;> simp_all

/-- As many rows were accepted as attempts. -/
theorem length_acceptedRows {answered : Answered} {rows : List ProducerObservation}
    (h : List.Forall₂ (RowOf arena) answered rows) :
    (acceptedRows rows).length = answered.accepted := by
  induction h with
  | nil => rfl
  | @cons x row answered rows hrow _ ih =>
      obtain ⟨attempt, r⟩ := x
      obtain rfl : r = ⟨.complete, outcomeOf row⟩ := hrow.answer
      have hiff := outcomeOf_accepted_iff row
      simp only [acceptedRows, Answered.accepted, Lifecycle.ProducerAttemptResult.isAccepted]
        at ih ⊢
      by_cases haccepted : row.outcome = .accepted
      · rw [filter_cons_of_pos (by simpa using haccepted), length_cons, ih]
        simp [hiff.mpr haccepted]
      · rw [filter_cons_of_neg (by simpa using haccepted), ih]
        simp [mt hiff.mp haccepted]

/-- A result that is complete is counted among the completed ones just as among all. -/
theorem countP_completed {result : ProducerAttemptResult} (h : result.status = .complete)
    (answered : Answered) :
    (completed answered).countP (·.2 = result) = answered.countP (·.2 = result) := by
  rw [completed, countP_filter]
  refine countP_congr fun x _ => ?_
  simp only [Bool.and_eq_true, decide_eq_true_eq]
  exact ⟨fun hx => hx.1, fun hx => ⟨hx, by rw [hx, h]⟩⟩

/-- The decoder's counter after these rows is the number of accepted ones. -/
theorem foldl_nextAccepted (rows : List ProducerObservation) (n : Nat) :
    rows.foldl nextAccepted (.ofNat n) = .ofNat (n + (acceptedRows rows).length) := by
  induction rows generalizing n with
  | nil => rfl
  | cons row rest ih =>
      rw [foldl_cons, nextAccepted]
      by_cases haccepted : row.outcome = .accepted
      · rw [if_pos haccepted, Lifecycle.ofNat_succ, ih, acceptedRows, acceptedRows,
          filter_cons_of_pos (by simpa using haccepted), length_cons]
        congr 1
        omega
      · rw [if_neg haccepted, UInt64.add_zero, ih, acceptedRows, acceptedRows,
          filter_cons_of_neg (by simpa using haccepted)]

/-! ### The invariant -/

/-- One producer and one consumer of the capturing backend. -/
abbrev CaptureClient (P : Package Nat) (arena : EventArena) :=
  Spsc.Client (capturingObservationBackend P arena)

def CaptureClient.backend (c : CaptureClient P arena) : State P := c.state

/-- The streams hold these rows, and these rows are what has been answered. -/
structure Recorded (arena : EventArena) (c : CaptureClient P arena)
    (prows : List ProducerObservation) (crows : List ConsumerObservation) : Prop where
  producer : c.backend.producerStream.Holds (prows.map producerWords)
  consumer : c.backend.consumerStream.Holds (crows.map consumerWords)
  producers : CanonicalProducers 0 0 prows
  consumers : CanonicalConsumers 0 0 crows
  attempts : List.Forall₂ (RowOf arena) (completed c.enqueued) prows
  items : crows.length = c.dequeued.countP (·.isItem)
  handles : ∀ attempt call, c.pcall = some (attempt, call) → Handles arena attempt call
  polling : ∀ call, c.ccall = some call → ordinalOf call = .ofNat crows.length

namespace Recorded

variable {c : CaptureClient P arena} {prows : List ProducerObservation}
  {crows : List ConsumerObservation} {attempt : ProducerAttempt} {input : ClockReadResult}
  {s : State P}

theorem start (s : State P) (hproducer : s.producerStream.Holds [])
    (hconsumer : s.consumerStream.Holds []) :
    Recorded arena (Spsc.Client.start s : CaptureClient P arena) [] [] where
  producer := hproducer
  consumer := hconsumer
  producers := trivial
  consumers := trivial
  attempts := .nil
  items := rfl
  handles := nofun
  polling := nofun

theorem pBegin (h : Recorded arena c prows crows) (attempt : ProducerAttempt) :
    Recorded arena { c with
      pcall := some (attempt, (capturingObservationBackend P arena).pBegin attempt) } prows crows :=
  { h with
    handles := by
      intro attempt' call heq
      obtain ⟨rfl, rfl⟩ := Prod.mk.inj (Option.some.inj heq)
      rfl }

theorem pRunning (h : Recorded arena c prows crows) {call call' : DueCapture P}
    (hcall : c.pcall = some (attempt, call))
    (hs : attemptStep arena input c.backend call = (s, .running call')) :
    Recorded arena { c with state := s, pcall := some (attempt, call') } prows crows := by
  obtain ⟨hcapture, hp, hc⟩ := attemptStep_running hs
  refine { h with producer := ?_, consumer := ?_, handles := ?_ }
  · show s.producerStream.Holds _
    rw [hp]
    exact h.producer
  · show s.consumerStream.Holds _
    rw [hc]
    exact h.consumer
  · intro attempt' call'' heq
    obtain ⟨rfl, rfl⟩ := Prod.mk.inj (Option.some.inj heq)
    exact (h.handles _ _ hcall).step hcapture

/-- A failed attempt leaves the rows as they are. -/
theorem pFailed (h : Recorded arena c prows crows) {outcome : EnqueueResult}
    (hholds : s.producerStream.Holds (prows.map producerWords))
    (hc : s.consumerStream = c.backend.consumerStream) :
    Recorded arena { c with
      state := s, pcall := none, enqueued := c.enqueued ++ [(attempt, ⟨.failure, outcome⟩)] }
      prows crows := by
  refine { h with producer := hholds, consumer := ?_, attempts := ?_, handles := nofun }
  · show s.consumerStream.Holds _
    rw [hc]
    exact h.consumer
  · show List.Forall₂ _ (completed (c.enqueued ++ _)) _
    rw [completed_append_failure]
    exact h.attempts

/-- A complete attempt adds its row. -/
theorem pComplete (h : Recorded arena c prows crows)
    (hall : ∀ x ∈ c.enqueued, x.2.status = .complete)
    (hsequence : attempt.logicalSequence = .ofNat c.enqueued.length)
    (hordinal : attempt.candidateAcceptedOrdinal = .ofNat (Answered.accepted c.enqueued))
    {due : DueArrival} {begun lookup invoked completion : ClockSample} {recordIndex : UInt64}
    {reading : ClockReadResult} {result : EnqueueResult}
    (hcall : c.pcall = some (attempt,
      .completion due begun lookup invoked recordIndex reading result))
    (hholds : s.producerStream.Holds (prows.map producerWords ++
      [producerWords (producerObservation due begun lookup invoked recordIndex reading result
        completion)]))
    (hc : s.consumerStream = c.backend.consumerStream) :
    Recorded arena { c with
      state := s, pcall := none, enqueued := c.enqueued ++ [(attempt, ⟨.complete, result⟩)] }
      (prows ++ [producerObservation due begun lookup invoked recordIndex reading result
        completion]) crows := by
  obtain ⟨rfl, rfl⟩ := h.handles _ _ hcall
  have hattempts := h.attempts
  rw [completed_eq hall] at hattempts
  have hlength : c.enqueued.length = prows.length := hattempts.length_eq
  have hlt : prows.length < UInt64.size := by
    have hle := Nat.le_trans hholds.capacity hholds.capacityLe
    rw [length_append, length_map] at hle
    exact Nat.lt_of_lt_of_le hle (by decide)
  have hcounter : prows.foldl nextAccepted 0 = attempt.candidateAcceptedOrdinal := by
    rw [hordinal, ← length_acceptedRows hattempts]
    have hfold := foldl_nextAccepted prows 0
    rwa [Nat.zero_add] at hfold
  refine { h with
    producer := ?_, consumer := ?_, producers := h.producers.append ?_, attempts := ?_
    handles := nofun }
  · show s.producerStream.Holds _
    rwa [map_append]
  · show s.consumerStream.Holds _
    rw [hc]
    exact h.consumer
  · rw [Nat.zero_add, hcounter]
    refine ⟨?_, ?_, ?_⟩
    · show attempt.logicalSequence.toNat = prows.length
      rw [hsequence, hlength]
      exact UInt64.toNat_ofNat_of_lt' hlt
    · cases result <;> rfl
    · cases result <;> rfl
  · show List.Forall₂ _ (completed (c.enqueued ++ _)) _
    rw [completed_append_complete]
    refine rel_append h.attempts (.cons ⟨rfl, rfl, rfl, ?_⟩ .nil)
    rw [outcomeOf_producerObservation]

theorem cBegin (h : Recorded arena c prows crows) {ordinal : UInt64}
    (hordinal : ordinal = .ofNat crows.length) :
    Recorded arena { c with
      ccall := some ((capturingObservationBackend P arena).cBegin ordinal) } prows crows :=
  { h with
    polling := by
      intro call heq
      obtain rfl := Option.some.inj heq
      exact hordinal }

theorem cRunning (h : Recorded arena c prows crows) (hcall : c.ccall = some call)
    (hs : pollStep arena input c.backend call = (s, .running call')) :
    Recorded arena { c with state := s, ccall := some call' } prows crows := by
  obtain ⟨hcapture, hp, hc⟩ := pollStep_running hs
  refine { h with producer := ?_, consumer := ?_, polling := ?_ }
  · show s.producerStream.Holds _
    rw [hp]
    exact h.producer
  · show s.consumerStream.Holds _
    rw [hc]
    exact h.consumer
  · intro call'' heq
    obtain rfl := Option.some.inj heq
    rw [ordinalOf_step hcapture]
    exact h.polling _ hcall

/-- A poll that returns no item leaves the rows as they are. -/
theorem cNothing (h : Recorded arena c prows crows) {r : ConsumerPollResult}
    (hr : r.status ≠ .item) (hholds : s.consumerStream.Holds (crows.map consumerWords))
    (hp : s.producerStream = c.backend.producerStream) :
    Recorded arena { c with state := s, ccall := none, dequeued := c.dequeued ++ [r] }
      prows crows := by
  refine { h with producer := ?_, consumer := hholds, items := ?_, polling := nofun }
  · show s.producerStream.Holds _
    rw [hp]
    exact h.producer
  · rw [countP_append, ← h.items]
    simp [Lifecycle.ConsumerPollResult.isItem, hr]

/-- A poll that returns an item adds its row. -/
theorem cItem (h : Recorded arena c prows crows) {ordinal recordIndex : UInt64}
    {invoked completed action : ClockSample} {reading : ClockReadResult} {event : Option Nat}
    (hcall : c.ccall = some (.action ordinal invoked reading completed event recordIndex))
    (hholds : s.consumerStream.Holds (crows.map consumerWords ++
      [consumerWords ⟨ordinal, recordIndex, invoked, reading.sample, completed, action⟩]))
    (hp : s.producerStream = c.backend.producerStream) :
    Recorded arena { c with state := s, ccall := none, dequeued := c.dequeued ++ [⟨.item⟩] }
      prows (crows ++ [⟨ordinal, recordIndex, invoked, reading.sample, completed, action⟩]) := by
  have hordinal : ordinal = .ofNat crows.length := h.polling _ hcall
  have hlt : crows.length < UInt64.size := by
    have hle := Nat.le_trans hholds.capacity hholds.capacityLe
    rw [length_append, length_map] at hle
    exact Nat.lt_of_lt_of_le hle (by decide)
  refine { h with
    producer := ?_, consumer := ?_, consumers := h.consumers.append ?_, items := ?_
    polling := nofun }
  · show s.producerStream.Holds _
    rw [hp]
    exact h.producer
  · show s.consumerStream.Holds _
    rwa [map_append]
  · show ordinal.toNat = 0 + crows.length
    rw [hordinal, Nat.zero_add]
    exact UInt64.toNat_ofNat_of_lt' hlt
  · rw [countP_append, ← h.items, length_append]
    rfl

end Recorded

/-! ### Over a whole run -/

section Run

variable {schedule : PreparedScheduleView} {limits : ExecutionLimits}
  {e e' : Execution (capturingObservationBackend P arena)} {prows : List ProducerObservation}
  {crows : List ConsumerObservation}

/-- The consumer's next poll is numbered by the items before it. -/
theorem Recorded.candidate (h : Recorded arena e.client prows crows)
    (hc : e.Consistent schedule) (ht : e.Tallied schedule) {finished : Bool}
    (hpoint : e.consumer.point = .poll finished) :
    e.consumer.candidateConsumedOrdinal = .ofNat crows.length := by
  have hfresh := (hc.consumer.fresh_of_poll hpoint).1
  rw [ht.polls.candidate, ht.polls.consumed, Lifecycle.ConsumerThread.countedPolls, hfresh,
    if_neg (by decide), h.items]

theorem Recorded.producer_step (h : Recorded arena e.client prows crows)
    (hc : e.Consistent schedule) (ht : e.Tallied schedule) {reading : Lifecycle.TickRead}
    {input : ClockReadResult}
    (hstep : Execution.ProducerStep schedule limits reading input e e') :
    ∃ prows', Recorded arena e'.client prows' crows := by
  cases hstep with
  | callBegun attempt hpoint hcall => exact ⟨prows, h.pBegin attempt⟩
  | callRuns attempt attempt' call call' s hpoint hcall hs => exact ⟨prows, h.pRunning hcall hs⟩
  | callReturned attempt attempt' call s r hpoint hcall hs =>
      have hsame : attempt' = attempt := hc.attempt_eq hpoint hcall
      have hprogress := ht.progress
      simp only [Lifecycle.ProducerThread.Progress, hpoint] at hprogress
      obtain ⟨hin, -, hsequence, hordinal⟩ := hprogress
      subst hsame
      obtain ⟨hends, hconsumer⟩ := attemptStep_returned h.producer hs
      cases hends with
      | failed outcome hholds => exact ⟨prows, h.pFailed hholds hconsumer⟩
      | complete due begun lookup invoked recordIndex boundary result hok hholds =>
          exact ⟨_, h.pComplete hin.complete hsequence hordinal hcall hholds hconsumer⟩
  | _ => exact ⟨prows, h⟩

theorem Recorded.consumer_step (h : Recorded arena e.client prows crows)
    (hc : e.Consistent schedule) (ht : e.Tallied schedule) {input : ClockReadResult}
    (hstep : Execution.ConsumerStep limits input e e') :
    ∃ crows', Recorded arena e'.client prows crows' := by
  cases hstep with
  | callBegun finished hpoint hcall => exact ⟨crows, h.cBegin (h.candidate hc ht hpoint)⟩
  | callRuns finished call call' s hpoint hcall hs => exact ⟨crows, h.cRunning hcall hs⟩
  | callReturned finished call s r t hpoint hcall hs hpolled =>
      obtain ⟨hends, hproducer⟩ := pollStep_returned h.consumer hs
      cases hends with
      | nothing hr hholds => exact ⟨crows, h.cNothing hr hholds hproducer⟩
      | item ordinal invoked reading completed event recordIndex hok hholds =>
          exact ⟨_, h.cItem hcall hholds hproducer⟩
  | _ => exact ⟨crows, h⟩

theorem Recorded.step (h : Recorded arena e.client prows crows) (hc : e.Consistent schedule)
    (ht : e.Tallied schedule) {a : ThreadStep ClockReadResult ClockReadResult}
    (hstep : e.step schedule limits a = some e') :
    ∃ prows' crows', Recorded arena e'.client prows' crows' := by
  cases a with
  | producer reading input =>
      obtain ⟨prows', h'⟩ := h.producer_step hc ht (Execution.producerStep_cases hstep)
      exact ⟨prows', crows, h'⟩
  | consumer input =>
      obtain ⟨crows', h'⟩ := h.consumer_step hc ht (Execution.consumerStep_cases hstep)
      exact ⟨prows, crows', h'⟩
  | controller reading =>
      refine ⟨prows, crows, ?_⟩
      cases Execution.controllerStep_cases hstep <;> exact h

/-- **Every run has its rows.** -/
theorem reaches_recorded {s : State P} (hproducer : s.producerStream.Holds [])
    (hconsumer : s.consumerStream.Holds [])
    (hreach : (Execution.start limits ⟨0⟩ s).Reaches schedule limits e) :
    ∃ prows crows, Recorded arena e.client prows crows := by
  have hc : Execution.Consistent schedule
      (Execution.start (B := capturingObservationBackend P arena) limits ⟨0⟩ s) :=
    .start (B := capturingObservationBackend P arena) limits ⟨0⟩ s rfl
  have ht : Execution.Tallied schedule
      (Execution.start (B := capturingObservationBackend P arena) limits ⟨0⟩ s) :=
    .start (B := capturingObservationBackend P arena) limits ⟨0⟩ s
  refine (hreach.induction (I := fun e => (e.Consistent schedule ∧ e.Tallied schedule) ∧
    ∃ prows crows, Recorded arena e.client prows crows) ⟨⟨hc, ht⟩, [], [], ?_⟩ ?_).2
  · exact Recorded.start s hproducer hconsumer
  · intro e a e' ⟨⟨hc, ht⟩, prows, crows, h⟩ hstep
    exact ⟨⟨hc.step hstep, ht.step hc hstep⟩, h.step hc ht hstep⟩

end Run

end CpuPrefetch.Storage
