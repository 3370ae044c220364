/-
The time base of a scheduled arrival.

The due check counts a deadline from the schedule's origin and adds the measurement
origin, so an attempt begins no earlier than `deadline - origin` in measurement time.
The row the attempt commits has the deadline itself as its scheduled arrival: the
schedule's origin is not taken off on the way to the stream.  The two time bases agree
only where the origin is zero.
-/
import CpuPrefetch.Proofs.Storage.EndToEnd

namespace CpuPrefetch.Storage

open Lifecycle (Answered PreparedScheduleView ExecutionLimits TerminationControl Execution
  MeasurementExecutionReport ThreadStep executeMeasurement executeMeasurement_ok
  executeMeasurement_consistent executeMeasurement_tallied)
open Queue (Package PackageSim RingSpscQueue)
open Timing (ProducerObservation ClockReadResult)
open Workload (EventArena ConsumerState PreparedPackage)
open Protocol (RunId)

/-- The scheduled arrival of a committed row, as the stream's bytes have it. -/
def ProducerObservationStream.scheduledArrival (s : ProducerObservationStream) (index : Nat) :
    UInt64 := wordAt (s.body index) 2

/-- When the handling of a committed row began, in measurement time. -/
def ProducerObservationStream.producerHandleBegin (s : ProducerObservationStream) (index : Nat) :
    UInt64 := wordAt (s.body index) 4

/-- Every committed row is handled no earlier than it was scheduled, and is scheduled where
its deadline is, counted from the schedule's origin. -/
def InMeasurementTime (schedule : PreparedScheduleView) (s : ProducerObservationStream) : Prop :=
  ∀ index < s.snapshot.rowCount,
    s.scheduledArrival index ≤ s.producerHandleBegin index ∧
      ∃ deadline, schedule.deadlineTicks[index]? = some deadline ∧
        s.scheduledArrival index = deadline - schedule.originTicks

variable {P : Package Nat} {arena : EventArena} {schedule : PreparedScheduleView}

variable {rows : List ProducerObservation}

/-- A row is scheduled at the deadline of its attempt. -/
theorem arrivals_are_deadlines {answered : Answered}
    (hrows : List.Forall₂ (RowOf arena) answered rows) :
    rows.map (·.scheduledArrival) = answered.deadlines := by
  induction hrows with
  | nil => rfl
  | cons hrow _ ih =>
    rw [List.map_cons, ih, hrow.arrival]
    rfl

variable {s : ProducerObservationStream}

/-- The words of the k-th row that the stream's bytes are read for. -/
theorem ObservationStream.Holds.arrival (h : s.Holds (rows.map producerWords)) {index : Nat}
    {row : ProducerObservation} (hrow : rows[index]? = some row) :
    s.scheduledArrival index = row.scheduledArrival ∧
      s.producerHandleBegin index = row.producerHandleBegin.relativePicoseconds := by
  have hwords : (rows.map producerWords)[index]? = some (producerWords row) := by simp [hrow]
  exact ⟨h.wordAt_body hwords rfl, h.wordAt_body hwords rfl⟩

/-- Where each row is scheduled at its deadline, the rows are in measurement time only if the
schedule starts at zero or there is no row. -/
theorem origin_of_inMeasurementTime (h : s.Holds (rows.map producerWords))
    (harrivals : rows.map (·.scheduledArrival) = schedule.deadlineTicks)
    (htime : InMeasurementTime schedule s) :
    schedule.originTicks = 0 ∨ schedule.deadlineTicks = [] := by
  cases rows with
  | nil => exact .inr harrivals.symm
  | cons row rest =>
    left
    have hcount : 0 < s.snapshot.rowCount := by
      show 0 < s.control.rowCount
      rw [h.count]
      simp
    obtain ⟨-, deadline, hdeadline, heq⟩ := htime 0 hcount
    have hfirst : deadline = row.scheduledArrival := by
      rw [← harrivals] at hdeadline
      exact (Option.some.inj hdeadline).symm
    rw [(h.arrival rfl).1, hfirst] at heq
    simpa using (UInt64.sub_eq_iff_eq_add.mp heq.symm).symm

/-- Rows that are in order are in measurement time if the schedule starts at zero. -/
theorem inMeasurementTime_of_origin (h : s.Holds (rows.map producerWords))
    (harrivals : rows.map (·.scheduledArrival) = schedule.deadlineTicks)
    (horder : ∀ row ∈ rows, ProducerOrder row) (horigin : schedule.originTicks = 0) :
    InMeasurementTime schedule s := by
  intro index hindex
  have hlt : index < rows.length := by
    have hcount : s.snapshot.rowCount = (rows.map producerWords).length := h.count
    rw [hcount, List.length_map] at hindex
    exact hindex
  have hrow : rows[index]? = some rows[index] := List.getElem?_eq_getElem hlt
  obtain ⟨harrival, hbegin⟩ := h.arrival hrow
  refine ⟨?_, rows[index].scheduledArrival, ?_, ?_⟩
  · rw [harrival, hbegin]
    exact (horder _ (List.getElem_mem hlt)).due
  · rw [← harrivals, List.getElem?_map, hrow]
    rfl
  · rw [harrival, horigin, UInt64.sub_zero]

/--
**A scheduled arrival is in measurement time exactly where the schedule starts at zero.**
In every run without a failure, under clocks that never go back, the committed rows are
handled after they are scheduled and scheduled at their deadline counted from the
schedule's origin if and only if that origin is zero, or the schedule has no arrival.
-/
theorem arrivals_in_measurement_time (P : Package Nat) (init : P.State)
    (hpackage : PreparedPackage P init) (arena : EventArena) (schedule : PreparedScheduleView)
    (limits : ExecutionLimits) (termination : TerminationControl) (consumerState : ConsumerState)
    (producerRunId consumerRunId : RunId) (producerCapacity consumerCapacity : UInt64)
    (ps : ProducerObservationStream) (cs : ConsumerObservationStream)
    (hps : ProducerObservationStream.construct producerRunId producerCapacity = .ok ps)
    (hcs : ConsumerObservationStream.construct consumerRunId consumerCapacity = .ok cs)
    (e e' : CaptureExecution P arena) (start now : UInt64) (report : MeasurementExecutionReport)
    (hok : executeMeasurement (capturingObservationBackend P arena) schedule limits termination
      ⟨init, consumerState, ps.prepareForOwner.1, cs.prepareForOwner.1⟩ = .ok e)
    (hreach : TimedExecution.Reaches schedule limits (e, start) (e', now))
    (hreport : e'.report? = some report) (hnone : report.failureReason = .none) :
    InMeasurementTime schedule e'.producerStream ↔
      schedule.originTicks = 0 ∨ schedule.deadlineTicks = [] := by
  obtain ⟨capacity, ⟨S⟩⟩ := hpackage.packageSim
  have hc := executeMeasurement_consistent hok hreach.reaches
  have ht := executeMeasurement_tallied hok hreach.reaches
  obtain ⟨-, -, rfl⟩ := executeMeasurement_ok hok
  have hproducer := (ObservationStream.prepared_holds hps).1
  have hconsumer := (ObservationStream.prepared_holds hcs).1
  obtain ⟨pv, cv, queue, room, hdelivers⟩ := hreach.reaches.delivers
    (capturingFifo S arena consumerState ps.prepareForOwner.1 cs.prepareForOwner.1)
  have hconserved := hdelivers.conserved hc ht hreport hnone
  have hclean := clean_of_report hc ht hreport hnone
  -- Whatever rows the streams hold, they are the rows of the deadlines.
  have hscheduled : ∀ {prows crows}, Recorded arena e'.client prows crows →
      prows.map (·.scheduledArrival) = schedule.deadlineTicks := by
    intro prows crows h
    have hattempts := h.attempts
    rw [completed_eq hclean.attempts] at hattempts
    rw [arrivals_are_deadlines hattempts, hconserved.deadlines]
  constructor
  · intro htime
    obtain ⟨prows, crows, h⟩ := reaches_recorded hproducer hconsumer hreach.reaches
    exact origin_of_inMeasurementTime h.producer (hscheduled h) htime
  · rintro (horigin | hempty)
    · obtain ⟨prows, crows, htimeline⟩ := (hreach.kept S horigin hproducer hconsumer).timeline
      exact inMeasurementTime_of_origin htimeline.recorded.producer
        (hscheduled htimeline.recorded) htimeline.producers horigin
    · obtain ⟨prows, crows, h⟩ := reaches_recorded hproducer hconsumer hreach.reaches
      intro index hindex
      have hcount : e'.producerStream.snapshot.rowCount = (prows.map producerWords).length :=
        h.producer.count
      have hnil : prows = [] := List.map_eq_nil_iff.mp ((hscheduled h).trans hempty)
      rw [hcount, hnil] at hindex
      cases hindex

namespace Captured

/-- One arrival, at the origin of a schedule that does not start at zero. -/
def lateOrigin : PreparedScheduleView := ⟨[1000], 1000, 2000, by decide⟩

end Captured

open Captured

/-- One arrival of a schedule that starts at zero: its row is in measurement time. -/
theorem arrivals_in_measurement_time_one :
    ∃ e report, TimedExecution.Reaches oneArrival onePoll (start, 7)
        (e, 100) ∧
      e.report? = some report ∧ report.failureReason = .none ∧
      (CaptureExecution.producerStream e).snapshot.rowCount = 1 ∧
      InMeasurementTime oneArrival (CaptureExecution.producerStream e) := by
  have hrun : ∃ e report, TimedExecution.run? oneArrival onePoll
        (start, 7) oneArrivalSteps = some (e, 100) ∧
      e.report? = some report ∧ report.failureReason = .none ∧
      (CaptureExecution.producerStream e).snapshot.rowCount = 1 :=
    ⟨_, _, rfl, rfl, rfl, rfl⟩
  obtain ⟨e, report, hsteps, hreport, hnone, hcount⟩ := hrun
  have hreach := TimedExecution.Reaches.of_run? hsteps
  refine ⟨e, report, hreach, hreport, hnone, hcount, ?_⟩
  have hiff := arrivals_in_measurement_time (RingSpscQueue.package Nat) (RingSpscQueue.initial 2)
    (.ring 2 64 _ rfl) oneRecord oneArrival onePoll ⟨0⟩ ⟨0⟩
    runId runId 2 2 (producerStream 2) (consumerStream 2) rfl rfl
    start e 7 100 report rfl hreach hreport hnone
  exact hiff.mpr (.inl rfl)

/-- A schedule whose only deadline is its own origin, 1000: the row is scheduled at 1000 and
handled at 93. -/
theorem arrival_keeps_origin :
    ∃ e report, lateOrigin.validatePreparedSchedule = [] ∧
      TimedExecution.Reaches lateOrigin onePoll (start, 7) (e, 100) ∧
      e.report? = some report ∧ report.failureReason = .none ∧
      (CaptureExecution.producerStream e).snapshot.rowCount = 1 ∧
      ProducerObservationStream.scheduledArrival (CaptureExecution.producerStream e) 0 = 1000 ∧
      ProducerObservationStream.producerHandleBegin (CaptureExecution.producerStream e) 0 = 93 ∧
      ¬ InMeasurementTime lateOrigin (CaptureExecution.producerStream e) := by
  have hrun : ∃ e report, TimedExecution.run? lateOrigin onePoll
        (start, 7) oneArrivalSteps = some (e, 100) ∧
      e.report? = some report ∧ report.failureReason = .none ∧
      (CaptureExecution.producerStream e).snapshot.rowCount = 1 ∧
      ProducerObservationStream.scheduledArrival (CaptureExecution.producerStream e) 0 = 1000 ∧
      ProducerObservationStream.producerHandleBegin (CaptureExecution.producerStream e) 0 = 93 :=
    ⟨_, _, rfl, rfl, rfl, rfl, rfl, rfl⟩
  obtain ⟨e, report, hsteps, hreport, hnone, hcount, harrival, hbegin⟩ := hrun
  have hreach := TimedExecution.Reaches.of_run? hsteps
  refine ⟨e, report, by decide, hreach, hreport, hnone, hcount, harrival, hbegin, ?_⟩
  intro htime
  have hle := (htime 0 (by rw [hcount]; decide)).1
  rw [harrival, hbegin] at hle
  exact absurd hle (by decide)

end CpuPrefetch.Storage
