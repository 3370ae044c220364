/-
Which failure a report names, and in which phase.

The report never names a cancellation: a producer that stopped because of one always
has a failed consumer, whose failure is reported instead.  The phases are less exact.
A consumer whose start wait expires while the controller releases the barrier leaves
a report that says the measurement never began, although the producer may have made
attempts; and a consumer that starves on its last empty poll attributes the failure
to the measurement even when the producer has published its end by then.  Both are
shown on a concrete run, and both are ruled out for runs that avoid the one step that
goes wrong.
-/
import CpuPrefetch.Lifecycle.Executor
import CpuPrefetch.Proofs.Lifecycle.Tally

namespace CpuPrefetch.Lifecycle

variable {PIn CIn : Type} {B : Backend PIn CIn} {schedule : PreparedScheduleView}
  {limits : ExecutionLimits} {e : Execution B} {report : MeasurementExecutionReport}

/-! ### Where a report comes from -/

/-- A report is the controller's own, or is assembled from two workers that have returned. -/
theorem Execution.Consistent.report_cases (h : e.Consistent schedule)
    (hreport : e.report? = some report) :
    e.producer.point = .returned ∧ e.consumer.point = .returned ∧
      ((e.barrier.released = false ∧ ∃ reason, ControllerPoint.OwnReason reason ∧
          report = abortReport schedule reason) ∨
        (e.barrier.released = true ∧ ∃ origin, report =
          assembleReport schedule origin e.cancellation e.producer.state e.consumer.state)) := by
  have hjoined := h.joined
  have hreleased := h.released
  unfold Execution.report? at hreport
  unfold Execution.Joined at hjoined
  cases hpoint : e.controller with
  | returned r =>
      simp only [hpoint, Option.some.injEq] at hreport hjoined
      obtain ⟨hp, hc, origin, heq⟩ := hjoined
      refine ⟨hp, hc, Or.inr ⟨?_, origin, by rw [← hreport, heq]⟩⟩
      rw [hreleased, hpoint]
      rfl
  | aborted r =>
      simp only [hpoint, Option.some.injEq] at hreport hjoined
      obtain ⟨hp, hc, reason, hown, heq⟩ := hjoined
      refine ⟨hp, hc, Or.inl ⟨?_, reason, hown, by rw [← hreport, heq]⟩⟩
      rw [hreleased, hpoint]
      rfl
  | _ => simp [hpoint] at hreport

/-- The failure the report takes over, if there is one, is never a cancellation. -/
theorem attribution_cases {producer : ProducerWorkerState} {consumer : ConsumerWorkerState}
    (hsecond : producer.failure = .cancelled → consumer.failure ≠ .none) :
    (producer.failure = .none ∧ consumer.failure = .none ∧
        attribution producer consumer = (.none, .none)) ∨
      (producer.failure ≠ .none ∧ producer.failure ≠ .cancelled ∧
        attribution producer consumer =
          (if producer.failure = .startWatchdog then .startBarrier else .measurement,
            producer.failure)) ∨
      ((producer.failure = .none ∨ producer.failure = .cancelled) ∧ consumer.failure ≠ .none ∧
        attribution producer consumer = (consumer.failurePhase, consumer.failure)) := by
  by_cases hnone : producer.failure = .none
  · by_cases hcnone : consumer.failure = .none
    · exact Or.inl ⟨hnone, hcnone, by simp [attribution, hnone, hcnone]⟩
    · exact Or.inr (Or.inr ⟨Or.inl hnone, hcnone, by simp [attribution, hnone, hcnone]⟩)
  · by_cases hcancelled : producer.failure = .cancelled
    · have hcne := hsecond hcancelled
      exact Or.inr (Or.inr ⟨Or.inr hcancelled, hcne, by simp [attribution, hcancelled, hcne]⟩)
    · exact Or.inr (Or.inl ⟨hnone, hcancelled, by simp [attribution, hnone, hcancelled]⟩)

/-- A consumer never stops only because of a cancellation. -/
theorem ConsumerThread.Coherent.not_cancelled {released published failed : Bool}
    {t : ConsumerThread} (h : t.Coherent released published failed)
    (hpoint : t.point = .returned) : t.state.failure ≠ .cancelled := by
  simp only [ConsumerThread.Coherent, hpoint] at h
  rcases h with hnever | ⟨-, hbroke⟩ | ⟨-, -, hnone, -⟩
  · simp [hnever.1]
  · rcases hbroke.1 with hf | hf | hf <;> simp [hf]
  · simp [hnone]

/-! ### Root causes -/

/-- Somebody recorded this reason from what it saw itself. -/
def Execution.Recorded (e : Execution B) (reason : ExecutionFailureReason) : Prop :=
  (e.barrier.released = false ∧ ControllerPoint.OwnReason reason) ∨
    ((e.producer.state.failure = reason ∨ e.consumer.state.failure = reason) ∧
      reason ≠ .cancelled)

/-- The report names the cause of the run's failure. -/
structure RootCause (e : Execution B) (report : MeasurementExecutionReport) : Prop where
  notCancelled : report.failureReason ≠ .cancelled
  none_iff : report.failureReason = .none ↔
    e.barrier.released = true ∧
      (e.producer.point = .returned ∧ e.producer.state.failure = .none) ∧
      (e.consumer.point = .returned ∧ e.consumer.state.failure = .none)
  recorded : report.failureReason ≠ .none → e.Recorded report.failureReason
  /-- A producer that stopped on the flag does not mask the consumer that set it. -/
  unmasked : e.producer.state.failure = .cancelled →
    e.consumer.state.failure ≠ .none ∧ report.failureReason = e.consumer.state.failure

theorem Execution.Consistent.rootCause_abort (h : e.Consistent schedule)
    (hp : e.producer.point = .returned) (hreleased : e.barrier.released = false)
    {reason : ExecutionFailureReason} (hown : ControllerPoint.OwnReason reason) :
    RootCause e (abortReport schedule reason) := by
  have hne : reason ≠ .none ∧ reason ≠ .cancelled := by
    rcases hown with rfl | rfl
    · exact ⟨nofun, nofun⟩
    · exact ⟨nofun, nofun⟩
  refine ⟨hne.2, ?_, fun _ => Or.inl ⟨hreleased, hown⟩, fun hcancelled => ?_⟩
  · rw [hreleased]
    exact ⟨fun hnone => absurd hnone hne.1, nofun⟩
  · have hcoherent := h.producer
    simp only [ProducerThread.Coherent, hp, hreleased] at hcoherent
    rcases hcoherent with ⟨hfalse, -⟩ | hnever
    · cases hfalse
    · rw [hnever.1] at hcancelled
      cases hcancelled

theorem Execution.Consistent.rootCause (h : e.Consistent schedule)
    (hreport : e.report? = some report) : RootCause e report := by
  obtain ⟨hp, hc, ⟨hreleased, reason, hown, rfl⟩ | ⟨hreleased, origin, rfl⟩⟩ :=
    h.report_cases hreport
  · exact h.rootCause_abort hp hreleased hown
  · have hconsumer := h.consumer.not_cancelled hc
    have hreason : (assembleReport schedule origin e.cancellation e.producer.state
        e.consumer.state).failureReason =
          (attribution e.producer.state e.consumer.state).2 := rfl
    rcases attribution_cases h.secondhand with ⟨hpnone, hcnone, heq⟩ | ⟨hpne, hown, heq⟩ |
      ⟨hstop, hcne, heq⟩
    · rw [heq] at hreason
      refine ⟨by rw [hreason]; nofun, ?_, fun hne => absurd hreason hne, fun hcancelled => ?_⟩
      · exact ⟨fun _ => ⟨hreleased, ⟨hp, hpnone⟩, hc, hcnone⟩, fun _ => hreason⟩
      · rw [hpnone] at hcancelled
        cases hcancelled
    · rw [heq] at hreason
      refine ⟨by rw [hreason]; exact hown, ?_, fun _ => ?_, fun hcancelled => absurd
        hcancelled hown⟩
      · rw [hreason]
        exact ⟨fun hpn => absurd hpn hpne, fun hall => absurd hall.2.1.2 hpne⟩
      · exact Or.inr ⟨Or.inl hreason.symm, by rw [hreason]; exact hown⟩
    · rw [heq] at hreason
      refine ⟨by rw [hreason]; exact hconsumer, ?_, fun _ => ?_, fun _ => ⟨hcne, hreason⟩⟩
      · rw [hreason]
        exact ⟨fun hcn => absurd hcn hcne, fun hall => absurd hall.2.2.2 hcne⟩
      · exact Or.inr ⟨Or.inr hreason.symm, by rw [hreason]; exact hconsumer⟩

/--
**A report names a root cause.**  Before the threads start it is the controller's own
rejection; afterwards it is what the controller or a worker recorded first-hand.
-/
theorem report_names_root_cause (B : Backend PIn CIn) (schedule : PreparedScheduleView)
    (limits : ExecutionLimits) (termination : TerminationControl) (init : B.State) :
    (∀ report, executeMeasurement B schedule limits termination init = .error report →
      report.failureReason = .invalidSchedule ∨ report.failureReason = .invalidLimits) ∧
    ∀ e e' report, executeMeasurement B schedule limits termination init = .ok e →
      e.Reaches schedule limits e' → e'.report? = some report → RootCause e' report := by
  refine ⟨fun report herror => ?_, fun e e' report hok hreach hreport => ?_⟩
  · obtain ⟨reason, hreason, rfl⟩ := executeMeasurement_error herror
    exact hreason
  · exact (executeMeasurement_consistent hok hreach).rootCause hreport

/-! ### Runs over the bounded queue -/

namespace Bounded

/-- Every wait is one poll long. -/
def onePoll : ExecutionLimits := ⟨1, 1, 1, 1, 1⟩

def oneArrival : PreparedScheduleView := ⟨[5], 0, 10, by decide⟩

def noArrival : PreparedScheduleView := ⟨[], 0, 10, by decide⟩

def startOf (capacity : Nat) : Execution (bounded capacity) := .start onePoll ⟨0⟩ []

def p : ThreadStep Bool Bool := .producer ⟨true, 100⟩ true

def c (works : Bool) : ThreadStep Bool Bool := .consumer works

def k : ThreadStep Bool Bool := .controller ⟨true, 7⟩

/-- Both workers arrive and the controller releases them. -/
def release : List (ThreadStep Bool Bool) := [p, c true] ++ List.replicate 7 k

end Bounded

open Bounded

/-- The consumer's poll fails and the producer, with an arrival to make, sees the cancellation. -/
theorem report_names_root_cause_poll :
    ∃ e, (startOf 2).Reaches oneArrival onePoll e ∧
      e.producer.state.failure = .cancelled ∧
      ∃ report, e.report? = some report ∧ report.failureReason = .consumerPoll ∧
        RootCause e report := by
  have hrun : ∃ e, (startOf 2).run? oneArrival onePoll
      (release ++ List.replicate 4 (c true) ++ List.replicate 3 (c false) ++
        List.replicate 7 p ++ List.replicate 3 k) = some e ∧
      e.producer.state.failure = .cancelled ∧
      ∃ report, e.report? = some report ∧ report.failureReason = .consumerPoll :=
    ⟨_, rfl, rfl, _, rfl, rfl⟩
  obtain ⟨e, hsteps, hcancelled, report, hreport, hreason⟩ := hrun
  have hreach := Execution.Reaches.of_run? hsteps
  exact ⟨e, hreach, hcancelled, report, hreport, hreason,
    (report_names_root_cause (bounded 2) oneArrival onePoll ⟨0⟩ []).2
      (startOf 2) e report rfl hreach hreport⟩

/-! ### Barrier failures -/

/-- A consumer in its loop does not fail with the watchdog of its start. -/
theorem ConsumerThread.Polled.failure_ne {t t' : ConsumerThread} {finished : Bool}
    {r : ConsumerPollResult} (hpolled : t.Polled limits finished r t')
    (hfresh : t.state.failure = .none) : t'.state.failure ≠ .startWatchdog := by
  cases hpolled with
  | expired r hlimit => intro h; cases h
  | item _ hlimit => cases finished <;> simp [ConsumerThread.counted, hfresh]
  | failedDraining hlimit => intro h; cases h
  | failed => intro h; cases h
  | drained hlimit => simp [ConsumerThread.counted, hfresh]
  | starved hempty => intro h; cases h
  | empty hempty => simp [hfresh]

/-- A worker's wait does not expire on arrival. -/
theorem ConsumerThread.workerWait_zero (hlimits : limits.invalid = false) (t : ConsumerThread) :
    t.workerWait limits 0 = { t with point := .pollCancelled 0 } := by
  have hpos : 0 < limits.workerStartPollLimit := by
    have hne : limits.workerStartPollLimit ≠ 0 := by
      intro hzero
      simp [ExecutionLimits.invalid, hzero] at hlimits
    exact UInt64.pos_iff_ne_zero.mpr hne
  exact if_pos hpos

variable {a : ThreadStep PIn CIn}

namespace Execution

/-- The attempts the producer has begun. -/
def begun (e : Execution B) : Nat := e.client.enqueued.length + e.client.pcall.toList.length

/-- The items the consumer has polled. -/
def items (e : Execution B) : Nat := e.client.dequeued.countP (·.isItem)

/-- The step begins an attempt although the consumer has given up at the barrier. -/
def attemptsAbandoned (e : Execution B) : ThreadStep PIn CIn → Bool
  | .producer _ _ =>
      match e.producer.point with
      | .attempt _ => e.client.pcall.isNone && e.consumer.state.failure == .startWatchdog
      | _ => false
  | _ => false

/-- A cancelled barrier is never released. -/
theorem Consistent.unreleased (h : e.Consistent schedule)
    (hcancelled : e.barrier.cancelled = true) : e.barrier.released = false := by
  rw [h.cancelled] at hcancelled
  rw [h.released]
  cases hk : e.controller <;>
    simp [hk, ControllerPoint.hasCancelled, ControllerPoint.hasReleased] at hcancelled ⊢

/-- The producer does not begin its loop before the release. -/
theorem Consistent.unstarted (h : e.Consistent schedule) (hreleased : e.barrier.released = false) :
    e.producer.Unstarted := by
  have hp := h.producer
  rw [hreleased] at hp
  unfold ProducerThread.Coherent at hp
  unfold ProducerThread.Unstarted
  cases hpoint : e.producer.point with
  | returned =>
      simp only [hpoint] at hp
      rcases hp with ⟨hfalse, -⟩ | hnever
      · cases hfalse
      · exact hnever.1
  | _ => simp [hpoint] at hp ⊢

/-- The consumer does not begin its loop before the release. -/
theorem Consistent.consumer_unstarted (h : e.Consistent schedule)
    (hreleased : e.barrier.released = false) : e.consumer.Unstarted := by
  have hc := h.consumer
  rw [hreleased] at hc
  unfold ConsumerThread.Coherent at hc
  unfold ConsumerThread.Unstarted
  cases hpoint : e.consumer.point with
  | returned =>
      simp only [hpoint] at hc
      rcases hc with hnever | ⟨hfalse, -⟩ | ⟨hfalse, -⟩
      · exact hnever.1
      · cases hfalse
      · cases hfalse
  | poll finished => cases finished <;> simp [hpoint] at hc
  | _ => simp [hpoint] at hc ⊢

/-- A producer that has not begun its loop has begun no attempt. -/
theorem Consistent.begun_zero (h : e.Consistent schedule) (hun : e.producer.Unstarted) :
    e.begun = 0 := by
  have hpcall : e.client.pcall = none := by
    apply h.pcall_none
    intro attempt hpoint
    simp [ProducerThread.Unstarted, hpoint] at hun
  simp [begun, h.attempts hun, hpcall]

/-- Nothing has been attempted if the consumer has given up at the barrier. -/
def Abandoned (e : Execution B) : Prop := e.consumer.state.failure = .startWatchdog → e.begun = 0

namespace Abandoned

variable {e' : Execution B}

theorem producer_step (h : e.Abandoned) {reading : TickRead} {input : PIn}
    (hok : e.attemptsAbandoned (.producer reading input) = false)
    (hstep : ProducerStep schedule limits reading input e e') : e'.Abandoned := by
  intro hfailure
  cases hstep with
  | callBegun attempt hpoint hcall =>
      have hconsumer : e.consumer.state.failure = .startWatchdog := hfailure
      simp [attemptsAbandoned, hpoint, hcall, hconsumer] at hok
  | callRuns attempt attempt' call call' s hpoint hcall hs =>
      have hzero := h hfailure
      simp [begun, hcall] at hzero
  | callReturned attempt attempt' call s r hpoint hcall hs =>
      have hzero := h hfailure
      simp [begun, hcall] at hzero
  | _ => exact h hfailure

/-- The consumer gives up only before the release, when the producer has not begun. -/
theorem consumer_step (h : e.Abandoned) (hc : e.Consistent schedule)
    (hlimits : limits.invalid = false) {input : CIn} (hstep : ConsumerStep limits input e e') :
    e'.Abandoned := by
  intro hfailure
  cases hstep with
  | arrived hpoint hnew =>
      simp only [ConsumerThread.workerWait_zero hlimits] at hfailure
      exact h hfailure
  | sawCancelled poll hpoint hcancelled =>
      exact hc.begun_zero (hc.unstarted (hc.unreleased hcancelled))
  | notReleased poll hpoint hreleased => exact hc.begun_zero (hc.unstarted hreleased)
  | callReturned finished call s r t hpoint hcall hs hpolled =>
      exact absurd hfailure (hpolled.failure_ne (hc.consumer.fresh_of_poll hpoint).1)
  | cancelledBarrier hpoint => cases hfailure
  | _ => exact h hfailure

theorem controller_step (h : e.Abandoned) {reading : TickRead}
    (hstep : ControllerStep schedule limits reading e e') : e'.Abandoned := by
  cases hstep <;> exact h

theorem step (h : e.Abandoned) (hc : e.Consistent schedule) (hlimits : limits.invalid = false)
    (hok : e.attemptsAbandoned a = false) (hstep : e.step schedule limits a = some e') :
    e'.Abandoned := by
  cases a with
  | producer reading input => exact h.producer_step hok (producerStep_cases hstep)
  | consumer input => exact h.consumer_step hc hlimits (consumerStep_cases hstep)
  | controller reading => exact h.controller_step (controllerStep_cases hstep)

end Abandoned

/-- A report of a barrier failure comes from an execution without attempts. -/
theorem Abandoned.begun_zero (h : e.Abandoned) (hc : e.Consistent schedule)
    (hreport : e.report? = some report) (hphase : report.failurePhase = .startBarrier) :
    e.begun = 0 := by
  obtain ⟨hp, hcr, ⟨hreleased, reason, -, rfl⟩ | ⟨hreleased, origin, rfl⟩⟩ :=
    hc.report_cases hreport
  · exact hc.begun_zero (hc.unstarted hreleased)
  · have hfailure : (attribution e.producer.state e.consumer.state).1 = .startBarrier := hphase
    rcases attribution_cases hc.secondhand with ⟨-, -, heq⟩ | ⟨-, -, heq⟩ | ⟨-, hne, heq⟩
    · rw [heq] at hfailure
      cases hfailure
    · rw [heq] at hfailure
      refine hc.begun_zero ?_
      unfold ProducerThread.Unstarted
      rw [hp]
      by_contra hstart
      simp [hstart] at hfailure
    · rw [heq] at hfailure
      have hcoherent := hc.consumer
      simp only [ConsumerThread.Coherent, hcr] at hcoherent
      rcases hcoherent with hnever | ⟨-, -, hbroke, -⟩ | ⟨-, -, hnone, -⟩
      · exact h hnever.1
      · rcases hbroke with hphase' | hphase' <;> simp [hphase'] at hfailure
      · exact absurd hnone hne

end Execution

/-- No attempt was made, and no counter says otherwise. -/
structure Premeasurement (e : Execution B) (report : MeasurementExecutionReport) : Prop where
  never : e.client.pcall = none ∧ e.client.enqueued = []
  attempted : report.attempted = 0
  accepted : report.accepted = 0
  full : report.full = 0
  /-- A backend that hands out nothing it was not given leaves nothing to consume. -/
  consumed : e.items ≤ e.begun → report.consumed = 0

theorem Execution.Tallied.premeasurement (h : e.Tallied schedule) (hc : e.Consistent schedule)
    (hreport : e.report? = some report) (hzero : e.begun = 0) : Premeasurement e report := by
  obtain ⟨hlength, hcall⟩ := Nat.add_eq_zero_iff.mp hzero
  have hnil : e.client.enqueued = [] := List.length_eq_zero_iff.mp hlength
  have hnone : e.client.pcall = none := by simpa using hcall
  obtain ⟨-, -, ⟨-, reason, -, rfl⟩ | ⟨-, origin, rfl⟩⟩ := hc.report_cases hreport
  · exact ⟨⟨hnone, hnil⟩, rfl, rfl, rfl, fun _ => rfl⟩
  · obtain ⟨hattempted, haccepted, hfull⟩ := h.counts
    rw [hnil] at hattempted haccepted hfull
    refine ⟨⟨hnone, hnil⟩, hattempted, haccepted, hfull, fun hitems => ?_⟩
    have hnoItem : e.client.dequeued.countP (·.isItem) = 0 := by
      rw [hzero] at hitems
      exact Nat.le_zero.mp hitems
    have hcounted : (e.consumer.countedPolls e.client.dequeued).countP (·.isItem) = 0 := by
      have hle : (e.consumer.countedPolls e.client.dequeued).countP (·.isItem) ≤
          e.client.dequeued.countP (·.isItem) := by
        unfold ConsumerThread.countedPolls
        split
        · exact (List.dropLast_sublist _).countP_le
        · exact Nat.le_refl _
      omega
    show e.consumer.state.consumed = 0
    rw [h.polls.consumed, hcounted]
    rfl

/--
**A barrier failure is pre-measurement** in every run in which no attempt is begun
after the consumer has given up its wait for the release.
-/
theorem barrier_failure_premeasurement (B : Backend PIn CIn) (schedule : PreparedScheduleView)
    (limits : ExecutionLimits) (termination : TerminationControl) (init : B.State)
    (e e' : Execution B) (report : MeasurementExecutionReport)
    (hok : executeMeasurement B schedule limits termination init = .ok e)
    (hreach : e.ReachesWhen schedule limits (fun e a => !e.attemptsAbandoned a) e')
    (hreport : e'.report? = some report) (hphase : report.failurePhase = .startBarrier) :
    Premeasurement e' report := by
  have hc := executeMeasurement_consistent hok hreach.reaches
  have ht := executeMeasurement_tallied hok hreach.reaches
  obtain ⟨-, hlimits, rfl⟩ := executeMeasurement_ok hok
  have habandoned : e'.Consistent schedule ∧ e'.Abandoned := by
    refine hreach.induction (I := fun e => e.Consistent schedule ∧ e.Abandoned)
      ⟨.start limits _ init rfl, fun _ => rfl⟩ fun e a e' h hstepOk hstep => ?_
    exact ⟨h.1.step hstep, h.2.step h.1 hlimits (by simpa using hstepOk) hstep⟩
  exact ht.premeasurement hc hreport (habandoned.2.begun_zero hc hreport hphase)

/-- The controller finds nobody ready and aborts before the workers arrive. -/
theorem barrier_failure_premeasurement_abort :
    ∃ e report, (startOf 2).ReachesWhen oneArrival onePoll
        (fun e a => !e.attemptsAbandoned a) e ∧
      e.report? = some report ∧ report.failurePhase = .startBarrier ∧
      Premeasurement e report := by
  have hrun : ∃ e, (startOf 2).runWhen? oneArrival onePoll
      (fun e a => !e.attemptsAbandoned a)
      (List.replicate 4 k ++ List.replicate 3 p ++
        List.replicate 3 (c true) ++ List.replicate 2 k) = some e ∧
      ∃ report, e.report? = some report ∧ report.failurePhase = .startBarrier :=
    ⟨_, rfl, _, rfl, rfl⟩
  obtain ⟨e, hsteps, report, hreport, hphase⟩ := hrun
  have hreach := Execution.ReachesWhen.of_runWhen? hsteps
  exact ⟨e, report, hreach, hreport, hphase,
    barrier_failure_premeasurement (bounded 2) oneArrival onePoll ⟨0⟩ []
      (startOf 2) e report rfl hreach hreport hphase⟩

/--
The consumer's only poll of the release flag comes before the release; it gives up, and
the producer makes and completes its attempt before the consumer has set `cancellation`.
-/
theorem barrier_failure_after_attempt :
    executeMeasurement (bounded 2) oneArrival onePoll ⟨0⟩ [] =
        .ok (startOf 2) ∧
      ∃ e report, (startOf 2).Reaches oneArrival onePoll e ∧
        e.report? = some report ∧ report.failurePhase = .startBarrier ∧
        report.failureReason = .startWatchdog ∧ report.attempted = 1 ∧ report.accepted = 1 ∧
        e.client.enqueued = [(⟨0, 5, 0⟩, ⟨.complete, .accepted⟩)] ∧
        ¬Premeasurement e report := by
  have hrun : ∃ e, (startOf 2).run? oneArrival onePoll
      ([p, c true] ++ List.replicate 6 k ++
        [c true, c true, k] ++ List.replicate 9 p ++
        [c true] ++ List.replicate 3 k) = some e ∧
      ∃ report, e.report? = some report ∧ report.failurePhase = .startBarrier ∧
        report.failureReason = .startWatchdog ∧ report.attempted = 1 ∧ report.accepted = 1 ∧
        e.client.enqueued = [(⟨0, 5, 0⟩, ⟨.complete, .accepted⟩)] :=
    ⟨_, rfl, _, rfl, rfl, rfl, rfl, rfl, rfl⟩
  obtain ⟨e, hsteps, report, hreport, hphase, hreason, hattempted, haccepted, hcalls⟩ := hrun
  refine ⟨rfl, e, report, Execution.Reaches.of_run? hsteps, hreport, hphase, hreason, hattempted,
    haccepted, hcalls, fun hnone => ?_⟩
  rw [hnone.never.2] at hcalls
  cases hcalls

/-! ### Failures after publication -/

namespace Execution

/-- The step ends the empty poll on which the consumer gives up waiting for arrivals. -/
def starves (limits : ExecutionLimits) (e : Execution B) : ThreadStep PIn CIn → Bool
  | .consumer input =>
      match e.consumer.point, e.client.ccall with
      | .poll false, some call =>
          match (B.cStep input e.client.state call).2 with
          | .returned ⟨.empty⟩ =>
              e.consumer.emptyBeforeFinish + 1 ≥ limits.consumerEmptyPollLimitBeforeFinish
          | _ => false
      | _, _ => false
  | _ => false

/-- The consumer has failed in this phase, or will once it has read the word again. -/
def Settled (phase : ExecutionFailurePhase) (e : Execution B) : Prop :=
  e.consumer.state.failure ≠ .none ∧
    ((e.consumer.state.failurePhase = phase ∧
        (e.consumer.point = .storeCancellation ∨ e.consumer.point = .returned)) ∨
      (phase = .drain ∧ e.consumer.point = .reloadFinished ∧
        e.termination.arrivalsFinished = true))

variable {e' : Execution B} {phase : ExecutionFailurePhase}

/-- Once the consumer has failed, its phase is settled for good. -/
theorem Settled.step (h : e.Settled phase) (hstep : e.step schedule limits a = some e') :
    e'.Settled phase := by
  obtain ⟨hfailed, hwhere⟩ := h
  cases a with
  | producer reading input =>
      cases producerStep_cases hstep with
      | published hpoint =>
          refine ⟨hfailed, ?_⟩
          rcases hwhere with hdone | ⟨hphase, hreload, -⟩
          · exact Or.inl hdone
          · exact Or.inr ⟨hphase, hreload, rfl⟩
      | _ => exact ⟨hfailed, hwhere⟩
  | controller reading => cases controllerStep_cases hstep <;> exact ⟨hfailed, hwhere⟩
  | consumer input =>
      cases consumerStep_cases hstep with
      | reloaded hpoint =>
          rcases hwhere with ⟨-, hstore | hreturned⟩ | ⟨rfl, -, hword⟩
          · rw [hpoint] at hstore
            cases hstore
          · rw [hpoint] at hreturned
            cases hreturned
          · exact ⟨hfailed, Or.inl ⟨if_pos hword, Or.inl rfl⟩⟩
      | storedCancellation hpoint =>
          rcases hwhere with ⟨hphase, -⟩ | ⟨-, hreload, -⟩
          · exact ⟨hfailed, Or.inl ⟨hphase, Or.inr rfl⟩⟩
          · rw [hpoint] at hreload
            cases hreload
      -- Every other step is taken from a point that a settled consumer has left behind.
      | _ => simp_all

theorem Settled.reaches (hreach : e.Reaches schedule limits e') (h : e.Settled phase) :
    e'.Settled phase :=
  hreach.induction (I := Settled phase) h fun _ _ _ hs hstep => hs.step hstep

/-- The report takes over the phase of a consumer that failed on its own. -/
theorem Settled.failurePhase (h : e.Settled phase) (hbarrier : phase ≠ .startBarrier)
    (hc : e.Consistent schedule) (hnone : e.producer.state.failure = .none)
    (hreport : e.report? = some report) : report.failurePhase = phase := by
  obtain ⟨hfailed, hwhere⟩ := h
  obtain ⟨-, hreturned, hcases⟩ := hc.report_cases hreport
  have hphase : e.consumer.state.failurePhase = phase := by
    rcases hwhere with ⟨hphase, -⟩ | ⟨-, hreload, -⟩
    · exact hphase
    · rw [hreturned] at hreload
      cases hreload
  rcases hcases with ⟨hreleased, -⟩ | ⟨-, origin, rfl⟩
  · have hcoherent := hc.consumer
    simp only [ConsumerThread.Coherent, hreturned, hreleased] at hcoherent
    rcases hcoherent with hnever | ⟨hfalse, -⟩ | ⟨hfalse, -⟩
    · rw [hnever.2.1] at hphase
      exact absurd hphase.symm hbarrier
    · cases hfalse
    · cases hfalse
  · show (attribution e.producer.state e.consumer.state).1 = phase
    simp [attribution, hnone, hfailed, hphase]

/-- The producer publishes its end only after the release. -/
theorem Consistent.released_of_published (hc : e.Consistent schedule)
    (hpublished : e.termination.arrivalsFinished = true) : e.barrier.released = true := by
  by_contra hnot
  have hp := hc.producer
  have hun := hc.unstarted (by simpa using hnot)
  rw [hc.word] at hpublished
  unfold ProducerThread.Unstarted at hun
  unfold ProducerThread.Coherent at hp
  cases hpoint : e.producer.point <;>
    simp_all [ProducerThread.Fresh, ProducerThread.NeverStarted]

/-- The step that records a failure after publication settles the phase. -/
theorem Consistent.settles (hc : e.Consistent schedule) (hlimits : limits.invalid = false)
    (hstep : e.step schedule limits a = some e')
    (hpublished : e.termination.arrivalsFinished = true)
    (hbefore : e.consumer.state.failure = .none) (hafter : e'.consumer.state.failure ≠ .none) :
    e'.Settled (if e.starves limits a then .measurement else .drain) := by
  have hreleased := hc.released_of_published hpublished
  cases a with
  | producer reading input =>
      cases producerStep_cases hstep <;> exact absurd hbefore hafter
  | controller reading =>
      cases controllerStep_cases hstep <;> exact absurd hbefore hafter
  | consumer input =>
      cases consumerStep_cases hstep with
      | arrived hpoint hnew =>
          simp only [ConsumerThread.workerWait_zero hlimits] at hafter
          exact absurd hbefore hafter
      | cancelledBarrier hpoint =>
          have hcoherent := hc.consumer
          simp only [ConsumerThread.Coherent, hpoint] at hcoherent
      | sawCancelled poll hpoint hcancelled =>
          rw [hc.unreleased hcancelled] at hreleased
          cases hreleased
      | notReleased poll hpoint hnot =>
          rw [hreleased] at hnot
          cases hnot
      | callReturned finished call s r t hpoint hcall hs hpolled =>
          have hstarves : e.starves limits (.consumer input) = (!finished && r.status = .empty &&
              e.consumer.emptyBeforeFinish + 1 ≥ limits.consumerEmptyPollLimitBeforeFinish) := by
            obtain ⟨status⟩ := r
            cases finished <;> cases status <;> simp [starves, hpoint, hcall, hs]
          rw [hstarves]
          refine ⟨hafter, ?_⟩
          cases hpolled with
          | expired r hlimit => exact Or.inl ⟨rfl, Or.inl rfl⟩
          | item _ hlimit => cases finished <;> exact absurd hbefore hafter
          | failedDraining hlimit => exact Or.inl ⟨rfl, Or.inl rfl⟩
          | failed => exact Or.inr ⟨rfl, rfl, hpublished⟩
          | drained hlimit => exact absurd hbefore hafter
          | starved hempty =>
              refine Or.inl ⟨?_, Or.inl rfl⟩
              simp [hempty, ConsumerThread.fail]
          | empty hempty => exact absurd hbefore hafter
      | _ => exact absurd hbefore hafter

end Execution

/-- A completed producer has not failed. -/
theorem Execution.Consistent.completed (hc : e.Consistent schedule)
    (hreport : e.report? = some report) (hproducer : report.producerCompleted = true) :
    e.producer.state.failure = .none := by
  obtain ⟨hreturned, -, ⟨-, reason, -, rfl⟩ | ⟨-, origin, rfl⟩⟩ := hc.report_cases hreport
  · cases hproducer
  · have hp := hc.producer
    have hdone : e.producer.state.completed = true := hproducer
    simp only [ProducerThread.Coherent, hreturned] at hp
    rcases hp with ⟨-, ⟨hnone, -⟩ | ⟨-, -, hnot⟩, -⟩ | ⟨-, hnot, -⟩
    · exact hnone
    · rw [hdone] at hnot
      cases hnot
    · rw [hdone] at hnot
      cases hnot

/--
**A failure recorded after publication is a drain failure**, unless the consumer records
it on the empty poll that exhausts its wait for arrivals: the word is not read again there.
-/
theorem failure_after_publication (B : Backend PIn CIn) (schedule : PreparedScheduleView)
    (limits : ExecutionLimits) (termination : TerminationControl) (init : B.State)
    (e₀ e₁ e₂ e₃ : Execution B) (a : ThreadStep PIn CIn) (report : MeasurementExecutionReport)
    (hok : executeMeasurement B schedule limits termination init = .ok e₀)
    (hbefore : e₀.Reaches schedule limits e₁) (hpublished : e₁.termination.arrivalsFinished = true)
    (hrecords : e₁.step schedule limits a = some e₂ ∧ e₁.consumer.state.failure = .none ∧
      e₂.consumer.state.failure ≠ .none)
    (hafter : e₂.Reaches schedule limits e₃) (hreport : e₃.report? = some report)
    (hproducer : report.producerCompleted = true) :
    report.failurePhase = .drain ↔ e₁.starves limits a = false := by
  obtain ⟨hstep, hnone, hsome⟩ := hrecords
  have hlimits := (executeMeasurement_ok hok).2.1
  have hc₁ := executeMeasurement_consistent hok hbefore
  have hc₃ := executeMeasurement_consistent hok ((hbefore.tail ⟨a, hstep⟩).trans hafter)
  have hsettled := (hc₁.settles hlimits hstep hpublished hnone hsome).reaches hafter
  have hphase := hsettled.failurePhase (by split <;> nofun) hc₃
    (hc₃.completed hreport hproducer) hreport
  rw [hphase]
  cases e₁.starves limits a with
  | false => simp
  | true => simp

/-- A poll fails after the word was read as unset; the second read finds it set. -/
theorem failure_after_publication_poll :
    ∃ e₁ e₂ e₃ report, (startOf 2).Reaches noArrival onePoll e₁ ∧
      e₁.termination.arrivalsFinished = true ∧
      (e₁.step noArrival onePoll (c false) = some e₂ ∧
        e₁.consumer.state.failure = .none ∧ e₂.consumer.state.failure ≠ .none) ∧
      e₂.Reaches noArrival onePoll e₃ ∧ e₃.report? = some report ∧
      report.producerCompleted = true ∧ report.failurePhase = .drain := by
  have hrun : ∃ e₁ e₂ e₃ report, (startOf 2).run? noArrival onePoll
        (release ++ List.replicate 4 (c true) ++ List.replicate 4 p) =
          some e₁ ∧
      e₁.termination.arrivalsFinished = true ∧
      (e₁.step noArrival onePoll (c false) = some e₂ ∧
        e₁.consumer.state.failure = .none ∧ e₂.consumer.state.failure ≠ .none) ∧
      e₂.run? noArrival onePoll
        (List.replicate 2 (c true) ++ List.replicate 3 k) = some e₃ ∧
      e₃.report? = some report ∧ report.producerCompleted = true ∧
      e₁.starves onePoll (c false) = false :=
    ⟨_, _, _, _, rfl, rfl, ⟨rfl, rfl, nofun⟩, rfl, rfl, rfl, rfl⟩
  obtain ⟨e₁, e₂, e₃, report, hsteps, hpublished, hrecords, hrest, hreport, hproducer, hfed⟩ := hrun
  have hbefore := Execution.Reaches.of_run? hsteps
  have hafter := Execution.Reaches.of_run? hrest
  exact ⟨e₁, e₂, e₃, report, hbefore, hpublished, hrecords, hafter, hreport, hproducer,
    (failure_after_publication (bounded 2) noArrival onePoll ⟨0⟩ []
      (startOf 2) e₁ e₂ e₃ (c false) report rfl hbefore hpublished hrecords hafter
      hreport hproducer).mpr hfed⟩

/-- The producer publishes between the consumer's read of the word and its last empty poll. -/
theorem failure_after_publication_starved :
    ∃ e₁ e₂ e₃ report, (startOf 2).Reaches noArrival onePoll e₁ ∧
      e₁.termination.arrivalsFinished = true ∧
      (e₁.step noArrival onePoll (c true) = some e₂ ∧
        e₁.consumer.state.failure = .none ∧ e₂.consumer.state.failure ≠ .none) ∧
      e₂.Reaches noArrival onePoll e₃ ∧ e₃.report? = some report ∧
      report.producerCompleted = true ∧ report.failureReason = .consumerWaitWatchdog ∧
      report.failurePhase = .measurement := by
  have hrun : ∃ e₁ e₂ e₃ report, (startOf 2).run? noArrival onePoll
        (release ++ List.replicate 4 (c true) ++ List.replicate 4 p) =
          some e₁ ∧
      e₁.termination.arrivalsFinished = true ∧
      (e₁.step noArrival onePoll (c true) = some e₂ ∧
        e₁.consumer.state.failure = .none ∧ e₂.consumer.state.failure ≠ .none) ∧
      e₂.run? noArrival onePoll
        ([c true] ++ List.replicate 3 k) = some e₃ ∧
      e₃.report? = some report ∧ report.producerCompleted = true ∧
      report.failureReason = .consumerWaitWatchdog ∧ report.failurePhase = .measurement :=
    ⟨_, _, _, _, rfl, rfl, ⟨rfl, rfl, nofun⟩, rfl, rfl, rfl, rfl, rfl⟩
  obtain ⟨e₁, e₂, e₃, report, hsteps, hpublished, hrecords, hrest, hend⟩ := hrun
  exact ⟨e₁, e₂, e₃, report, Execution.Reaches.of_run? hsteps, hpublished, hrecords,
    Execution.Reaches.of_run? hrest, hend⟩

end CpuPrefetch.Lifecycle
