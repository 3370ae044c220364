/-
What a run that may have failed leaves in its report and in its streams.

The report's counts are the numbers of committed rows, whatever ended the run, with
one exception that the source makes: the drain watchdog is tested before a poll's
result is counted, so a poll that took an item on the last step of the drain budget
has committed a row that no counter shows.  In the other direction the streams agree
as far as an abandoned attempt lets them: a record is in the queue before its attempt
has committed anything, so the last consumer row may have no producer row.
-/
import CpuPrefetch.Proofs.Storage.CaptureFifo
import CpuPrefetch.Proofs.Storage.Rows
import CpuPrefetch.Proofs.Queue.Ring

variable {report : MeasurementExecutionReport}

namespace CpuPrefetch.Lifecycle

variable {PIn CIn : Type} {B : Backend PIn CIn} {schedule : PreparedScheduleView}
  {limits : ExecutionLimits} {e e' : Execution B}

/-! ### The poll the drain watchdog expires on -/

namespace Execution

/-- The step ends a drain poll that took an item, and the drain watchdog expires on it. -/
def losesItem (limits : ExecutionLimits) (e : Execution B) : ThreadStep PIn CIn → Bool
  | .consumer input =>
      match e.consumer.point, e.client.ccall with
      | .poll true, some call =>
          match (B.cStep input e.client.state call).2 with
          | .returned ⟨.item⟩ => e.consumer.state.drainPolls + 1 > limits.drainPollLimit
          | _ => false
      | _, _ => false
  | _ => false

/-- The poll the drain watchdog has expired on took nothing. -/
def Retains (e : Execution B) : Prop :=
  e.consumer.state.failure = .drainWatchdog →
    e.client.dequeued.dropLast.countP (·.isItem) = e.client.dequeued.countP (·.isItem)

theorem Retains.consumer_step (h : e.Retains) (hc : e.Consistent schedule) {input : CIn}
    (hkeeps : e.losesItem limits (.consumer input) = false)
    (hstep : ConsumerStep limits input e e') : e'.Retains := by
  cases hstep with
  | callReturned finished call s r t hpoint hcall hs hpolled =>
      intro hfailure
      have hfresh := (hc.consumer.fresh_of_poll hpoint).1
      cases hpolled with
      | expired r hlimit =>
          have hr : r.isItem = false := by
            obtain ⟨status⟩ := r
            cases status with
            | item => simp [losesItem, hpoint, hcall, hs, hlimit] at hkeeps
            | empty | failure => rfl
          simp [List.countP_append, hr]
      | item finished hlimit =>
          cases finished <;> simp [ConsumerThread.counted, hfresh] at hfailure
      | _ => simp [ConsumerThread.counted, ConsumerThread.fail, hfresh] at hfailure
  | arrived hpoint hnew =>
      rcases e.consumer.workerWait_cases limits 0 with ⟨-, heq⟩ | ⟨-, heq⟩
      · simp only [Retains, heq]
        exact h
      · intro hfailure
        simp [heq, ConsumerThread.startFail] at hfailure
  | notReleased poll hpoint hreleased =>
      rcases e.consumer.workerWait_cases limits (poll + 1) with ⟨-, heq⟩ | ⟨-, heq⟩
      · simp only [Retains, heq]
        exact h
      · intro hfailure
        simp [heq, ConsumerThread.startFail] at hfailure
  | cancelledBarrier | sawCancelled =>
      intro hfailure
      simp [ConsumerThread.startFail] at hfailure
  | _ => exact h

theorem Retains.producer_step (h : e.Retains) {reading : TickRead} {input : PIn}
    (hstep : ProducerStep schedule limits reading input e e') : e'.Retains := by
  cases hstep <;> exact h

theorem Retains.step (h : e.Retains) (hc : e.Consistent schedule) {a : ThreadStep PIn CIn}
    (hkeeps : e.losesItem limits a = false) (hstep : e.step schedule limits a = some e') :
    e'.Retains := by
  cases a with
  | producer reading input => exact h.producer_step (producerStep_cases hstep)
  | consumer input => exact h.consumer_step hc hkeeps (consumerStep_cases hstep)
  | controller reading => cases controllerStep_cases hstep <;> exact h

/-- The consumer's count is the number of items. -/
theorem Retains.consumed (h : e.Retains) (ht : e.Tallied schedule) :
    e.consumer.state.consumed = .ofNat e.items := by
  rw [ht.polls.consumed, ConsumerThread.countedPolls]
  split
  · rename_i hfailure
    rw [h hfailure]
    rfl
  · rfl

/-! ### The attempt the producer gives up on -/

/-- Only the last attempt can have failed, and the producer then says so. -/
structure Abandons (e : Execution B) : Prop where
  earlier : ∀ x ∈ e.client.enqueued.dropLast, x.2.status = .complete
  failed : e.producer.state.failure ≠ .producerAttempt →
    ∀ x ∈ e.client.enqueued, x.2.status = .complete

/-- A producer that is still in its loop has had no failed attempt. -/
theorem Abandons.complete (h : e.Abandons) (hfresh : e.producer.state.failure = .none) :
    ∀ x ∈ e.client.enqueued, x.2.status = .complete := by
  refine h.failed ?_
  rw [hfresh]
  nofun

theorem Abandons.producer_step (h : e.Abandons) (hc : e.Consistent schedule)
    {reading : TickRead} {input : PIn}
    (hstep : ProducerStep schedule limits reading input e e') : e'.Abandons := by
  have hcoherent := hc.producer
  cases hstep with
  | callReturned attempt attempt' call s r hpoint hcall hs =>
      simp only [ProducerThread.Coherent, hpoint] at hcoherent
      have hold := h.complete hcoherent.2.1
      refine ⟨?_, fun hfailure => ?_⟩
      · show ∀ x ∈ (e.client.enqueued ++ [(attempt', r)]).dropLast, _
        rw [List.dropLast_concat]
        exact hold
      · intro x hx
        rcases List.mem_append.mp hx with hmem | hnew
        · exact hold x hmem
        · rw [List.mem_singleton.mp hnew]
          obtain ⟨status, outcome⟩ := r
          cases status with
          | complete => rfl
          | failure => exact absurd rfl hfailure
  | storedFailed | storedCancellation | published | startFailed | callBegun | callRuns | duplicate
  | notCancelled | sawReleased | waits => exact ⟨h.earlier, h.failed⟩
  | cancelledBarrier hpoint => simp only [ProducerThread.Coherent, hpoint] at hcoherent
  | arrived hpoint | notReleased poll hpoint | sawCancelled poll hpoint | began hpoint
  | arrivalCancelled deadline hpoint | arrival deadline hpoint
  | waitCancelled deadline target poll hpoint | reads deadline target poll hpoint =>
      refine ⟨h.earlier, fun _ => ?_⟩
      simp only [ProducerThread.Coherent, hpoint] at hcoherent
      exact h.complete (by simp_all [ProducerThread.Fresh])

theorem Abandons.step (h : e.Abandons) (hc : e.Consistent schedule) {a : ThreadStep PIn CIn}
    (hstep : e.step schedule limits a = some e') : e'.Abandons := by
  cases a with
  | producer reading input => exact h.producer_step hc (producerStep_cases hstep)
  | consumer input => cases consumerStep_cases hstep <;> exact ⟨h.earlier, h.failed⟩
  | controller reading => cases controllerStep_cases hstep <;> exact ⟨h.earlier, h.failed⟩

/-- A report that names no failed attempt comes after attempts that were all complete. -/
theorem Abandons.complete_of_report (h : e.Abandons) (hc : e.Consistent schedule)
    (hreport : e.report? = some report) (hreason : report.failureReason ≠ .producerAttempt) :
    ∀ x ∈ e.client.enqueued, x.2.status = .complete := by
  obtain ⟨-, -, ⟨hreleased, -⟩ | ⟨-, origin, rfl⟩⟩ := hc.report_cases hreport
  · have hzero := hc.begun_zero (hc.unstarted hreleased)
    have hnil : e.client.enqueued = [] :=
      List.length_eq_zero_iff.mp (Nat.add_eq_zero_iff.mp hzero).1
    rw [hnil]
    nofun
  · refine h.failed fun hfailure => hreason ?_
    show (attribution e.producer.state e.consumer.state).2 = .producerAttempt
    rcases attribution_cases hc.secondhand with ⟨hnone, -⟩ | ⟨-, -, heq⟩ | ⟨hor, -⟩
    · rw [hfailure] at hnone
      cases hnone
    · rw [heq, hfailure]
    · rw [hfailure] at hor
      rcases hor with hor | hor <;> cases hor

/-- At most one attempt has failed. -/
theorem Abandons.failures_le (h : e.Abandons) :
    e.client.enqueued.countP (·.2.status = .failure) ≤ 1 := by
  rcases List.eq_nil_or_concat e.client.enqueued with hnil | ⟨earlier, last, heq⟩
  · simp [hnil]
  · have hearlier := h.earlier
    rw [heq, List.concat_eq_append, List.dropLast_concat] at hearlier
    have hzero : earlier.countP (·.2.status = .failure) = 0 := by
      rw [List.countP_eq_zero]
      intro x hx
      simp [hearlier x hx]
    rw [heq, List.concat_eq_append, List.countP_append, hzero, Nat.zero_add]
    exact List.countP_le_length

end Execution

variable {Item : Type} {capacity : Nat} {init : B.State} {F : B.Fifo Item capacity init}

/-- What has been placed was accepted, or placed by an attempt that then failed. -/
theorem placedAll_length_le_accepted {answered : Answered} {pv : List (Option Bool)}
    (h : List.Forall₂ (fun x v => attemptAgrees x.2 v) answered pv) :
    (F.placedAll answered pv).length ≤
      answered.accepted + answered.countP (·.2.status = .failure) := by
  induction h with
  | nil => exact Nat.le_refl _
  | @cons x v rest pv hagree _ ih =>
      obtain ⟨attempt, status, outcome⟩ := x
      have hcons : F.placedAll ((attempt, ⟨status, outcome⟩) :: rest) (v :: pv) =
          Spsc.FifoSim.placedBy (F.item attempt) v ++ F.placedAll rest pv := rfl
      have hone := Spsc.FifoSim.placedBy_length_le (F.item attempt) v
      unfold Answered.accepted at ih ⊢
      rw [hcons, List.length_append, List.countP_cons, List.countP_cons]
      cases status with
      | failure =>
          simp only [decide_true, if_true]
          omega
      | complete =>
          cases outcome with
          | accepted =>
              have haccepted : (⟨.complete, .accepted⟩ : ProducerAttemptResult).isAccepted = true :=
                rfl
              simp only [haccepted, if_true]
              omega
          | full =>
              have hnone : v = some false := hagree
              have hplaced : (Spsc.FifoSim.placedBy (F.item attempt) v).length =
                0 := by rw [hnone]; rfl
              omega

/-- A bounded FIFO hands out no more items than were accepted, but for a failed attempt's. -/
theorem Execution.Delivers.items_le_accepted {pv : List (Option Bool)}
    {cv : List (Option (Option Item))} {queue : List Item} {room : Nat}
    (h : e.Delivers F pv cv queue room) (hidle : e.client.pcall = none) :
    e.items ≤ Answered.accepted e.client.enqueued +
      e.client.enqueued.countP (·.2.status = .failure) := by
  have hitems := items_le_takenAll h.history.dequeues
  have hplaced := placedAll_length_le_accepted (F := F) h.history.enqueues
  have hbalance := congrArg List.length h.history.balance
  rw [hidle] at hbalance
  simp only [List.length_append, Spsc.FifoSim.pending, List.length_nil] at hbalance
  unfold Execution.items
  omega

end CpuPrefetch.Lifecycle

namespace CpuPrefetch.Storage

open Lifecycle (Answered Execution PreparedScheduleView ExecutionLimits TerminationControl
  ThreadStep TickRead MeasurementExecutionReport executeMeasurement executeMeasurement_ok
  executeMeasurement_consistent executeMeasurement_tallied)
open Protocol (RunId)
open Queue (Package PackageSim RingSpscQueue)
open Timing (ClockReadResult ProducerObservation ConsumerObservation)
open Workload (EventArena ConsumerState)
open CapturingObservationBackend (State)

variable {P : Package Nat} {arena : EventArena}

/-- `execute_measurement` over the capturing backend. -/
abbrev CaptureExecution (P : Package Nat) (arena : EventArena) :=
  Execution (capturingObservationBackend P arena)

def CaptureExecution.producerStream (e : CaptureExecution P arena) : ProducerObservationStream :=
  (CaptureClient.backend e.client).producerStream

def CaptureExecution.consumerStream (e : CaptureExecution P arena) : ConsumerObservationStream :=
  (CaptureClient.backend e.client).consumerStream

/-! ### Reported counts -/

/-- The report's counts are the numbers of rows in the streams, and of items returned. -/
structure RetainedCounts (e : CaptureExecution P arena) (report : MeasurementExecutionReport) :
    Prop where
  produced : report.accepted.toNat + report.full.toNat = e.producerStream.snapshot.rowCount
  consumed : report.consumed.toNat = e.consumerStream.snapshot.rowCount
  items : report.consumed.toNat = e.items

theorem Recorded.retainedCounts {e : CaptureExecution P arena} {prows : List ProducerObservation}
    {crows : List ConsumerObservation} {schedule : PreparedScheduleView}
    (h : Recorded arena e.client prows crows) (hc : e.Consistent schedule)
    (ht : e.Tallied schedule) (hretains : e.Retains) (hreport : e.report? = some report)
    (hreleased : e.barrier.released = true) : RetainedCounts e report := by
  obtain ⟨-, -, ⟨hfalse, -⟩ | ⟨-, origin, rfl⟩⟩ := hc.report_cases hreport
  · rw [hreleased] at hfalse
    cases hfalse
  have hmax : u64Max < UInt64.size := by decide
  have hcomplete : ∀ x ∈ completed e.client.enqueued, x.2.status = .complete := by
    intro x hx
    simpa using (List.mem_filter.mp hx).2
  have haccepted : Answered.accepted (completed e.client.enqueued) =
      Answered.accepted e.client.enqueued := countP_completed rfl _
  have hfull : Answered.full (completed e.client.enqueued) =
      Answered.full e.client.enqueued := countP_completed rfl _
  have hsplit := Answered.accepted_add_full hcomplete
  rw [haccepted, hfull, h.attempts.length_eq] at hsplit
  have hprows : e.producerStream.snapshot.rowCount = prows.length := by
    rw [← List.length_map producerWords]
    exact h.producer.count
  have hcrows : e.consumerStream.snapshot.rowCount = crows.length := by
    rw [← List.length_map consumerWords]
    exact h.consumer.count
  have hplt : prows.length < UInt64.size := by
    have hle := Nat.le_trans h.producer.capacity h.producer.capacityLe
    rw [List.length_map] at hle
    exact Nat.lt_of_le_of_lt hle hmax
  have hclt : crows.length < UInt64.size := by
    have hle := Nat.le_trans h.consumer.capacity h.consumer.capacityLe
    rw [List.length_map] at hle
    exact Nat.lt_of_le_of_lt hle hmax
  have hitems : e.items = crows.length := h.items.symm
  have hconsumed : e.consumer.state.consumed.toNat = crows.length := by
    rw [hretains.consumed ht, hitems]
    exact UInt64.toNat_ofNat_of_lt' hclt
  refine ⟨?_, hconsumed.trans hcrows.symm, hconsumed.trans hitems.symm⟩
  show e.producer.state.accepted.toNat + e.producer.state.full.toNat = _
  rw [ht.counts.accepted, ht.counts.full, UInt64.toNat_ofNat_of_lt' (by omega),
    UInt64.toNat_ofNat_of_lt' (by omega), hprows, hsplit]

/-! ### Runs over a ring of two slots -/

namespace Captured

def runId : RunId := ⟨[0x72], by decide⟩

/-- An arena of one record, at address 4096. -/
def oneRecord : EventArena :=
  ⟨1, 64, 4096, [0], [7], by decide, by decide, by decide, by decide, rfl, by decide, rfl⟩

/-- The layout of rows whose run identifier is one byte. -/
def layout : RowLayout := ⟨1, 8, 128, 88, 200⟩

def producerStream (rows : Nat) : ProducerObservationStream :=
  ⟨runId, layout, [], rows * 128, { rowCapacity := rows, rowBytes := 128 }⟩

def consumerStream (rows : Nat) : ConsumerObservationStream :=
  ⟨runId, layout, [], rows * 88, { rowCapacity := rows, rowBytes := 88 }⟩

/-- A fresh ring of two slots and prepared streams of two rows. -/
def initial : State (RingSpscQueue.package Nat) :=
  ⟨RingSpscQueue.initial 2, ⟨0⟩, (producerStream 2).prepareForOwner.1,
    (consumerStream 2).prepareForOwner.1⟩

/-- Every wait is one poll long. -/
def onePoll : ExecutionLimits := ⟨1, 1, 1, 1, 1⟩

theorem oneArrival_size : ([5] : List UInt64).length < 2 ^ 64 := by decide

def oneArrival : PreparedScheduleView := ⟨[5], 0, 10, oneArrival_size⟩

def twoArrivals : PreparedScheduleView := ⟨[5, 6], 0, 10, by decide⟩

def start : CaptureExecution (RingSpscQueue.package Nat) oneRecord := .start onePoll ⟨0⟩ initial

/-- A good reading of the capture clock. -/
def reads : ClockReadResult := ⟨.ok, ⟨0, 93⟩⟩

def fails : ClockReadResult := ⟨.callFailed, ⟨0, 0⟩⟩

def p : ThreadStep ClockReadResult ClockReadResult := .producer ⟨true, 100⟩ reads

def c : ThreadStep ClockReadResult ClockReadResult := .consumer reads

def k : ThreadStep ClockReadResult ClockReadResult := .controller ⟨true, 7⟩

/-- Both workers arrive and the controller releases them. -/
def release : List (ThreadStep ClockReadResult ClockReadResult) := [p, c] ++ List.replicate 7 k

end Captured

open Captured

/--
**Reported counts are committed rows**, in every run in which the drain watchdog does not
expire on a poll that took an item: the barrier once released, whatever ends the run,
accepted and full attempts are the producer rows and consumed events the consumer rows.
-/
theorem reported_counts_are_rows (P : Package Nat) (init : P.State) (arena : EventArena)
    (schedule : PreparedScheduleView) (limits : ExecutionLimits)
    (termination : TerminationControl) (consumerState : ConsumerState)
    (producerRunId consumerRunId : RunId) (producerCapacity consumerCapacity : UInt64)
    (ps : ProducerObservationStream) (cs : ConsumerObservationStream)
    (hps : ProducerObservationStream.construct producerRunId producerCapacity = .ok ps)
    (hcs : ConsumerObservationStream.construct consumerRunId consumerCapacity = .ok cs)
    (e e' : CaptureExecution P arena) (report : MeasurementExecutionReport)
    (hok : executeMeasurement (capturingObservationBackend P arena) schedule limits termination
      ⟨init, consumerState, ps.prepareForOwner.1, cs.prepareForOwner.1⟩ = .ok e)
    (hreach : e.ReachesWhen schedule limits (fun e a => !e.losesItem limits a) e')
    (hreport : e'.report? = some report) (hreleased : e'.barrier.released = true) :
    RetainedCounts e' report := by
  have hc := executeMeasurement_consistent hok hreach.reaches
  have ht := executeMeasurement_tallied hok hreach.reaches
  obtain ⟨-, -, rfl⟩ := executeMeasurement_ok hok
  have hproducer := (ObservationStream.prepared_holds hps).1
  have hconsumer := (ObservationStream.prepared_holds hcs).1
  obtain ⟨prows, crows, h⟩ := reaches_recorded hproducer hconsumer hreach.reaches
  have hretains : e'.Retains := by
    refine (hreach.induction (I := fun e => e.Consistent schedule ∧ e.Retains)
      ⟨.start limits _ _ rfl, nofun⟩ ?_).2
    intro e a e' ⟨hc, hr⟩ hkeeps hstep
    exact ⟨hc.step hstep, hr.step hc (by simpa using hkeeps) hstep⟩
  exact h.retainedCounts hc ht hretains hreport hreleased

/-- One arrival is consumed before the drain, whose only poll is empty. -/
theorem reported_counts_are_rows_one :
    ∃ e report, start.ReachesWhen oneArrival onePoll
        (fun e a => !e.losesItem onePoll a) e ∧ e.report? = some report ∧
      e.barrier.released = true ∧ RetainedCounts e report := by
  have hrun : ∃ e report, start.runWhen? oneArrival onePoll
        (fun e a => !e.losesItem onePoll a)
        (release ++ List.replicate 14 p ++ List.replicate 10 c ++
          [p] ++ List.replicate 5 c ++ List.replicate 3 k) = some e ∧
      e.report? = some report ∧ e.barrier.released = true :=
    ⟨_, _, rfl, rfl, rfl⟩
  obtain ⟨e, report, hsteps, hreport, hreleased⟩ := hrun
  have hreach := Execution.ReachesWhen.of_runWhen? hsteps
  exact ⟨e, report, hreach, hreport, hreleased,
    reported_counts_are_rows (RingSpscQueue.package Nat) (RingSpscQueue.initial 2)
      oneRecord oneArrival onePoll ⟨0⟩ ⟨0⟩ runId runId
      2 2 (producerStream 2) (consumerStream 2) rfl rfl start e report
      rfl hreach hreport hreleased⟩

/-- Both arrivals are taken after publication, but the second poll exceeds the drain budget. -/
theorem reported_counts_lose_item :
    ∃ e report, start.Reaches twoArrivals onePoll e ∧
      e.report? = some report ∧ e.barrier.released = true ∧
      report.failureReason = .drainWatchdog ∧ report.consumed.toNat = 1 ∧
      (CaptureExecution.consumerStream e).snapshot.rowCount = 2 ∧ e.items = 2 := by
  have hrun : ∃ e report, start.run? twoArrivals onePoll
        (release ++ List.replicate 26 p ++ List.replicate 21 c ++
          List.replicate 3 k) = some e ∧
      e.report? = some report ∧ e.barrier.released = true ∧
      report.failureReason = .drainWatchdog ∧ report.consumed.toNat = 1 ∧
      (CaptureExecution.consumerStream e).snapshot.rowCount = 2 ∧ e.items = 2 :=
    ⟨_, _, rfl, rfl, rfl, rfl, rfl, rfl, rfl⟩
  obtain ⟨e, report, hsteps, hrest⟩ := hrun
  exact ⟨e, report, Execution.Reaches.of_run? hsteps, hrest⟩

/-! ### Ordinals in the streams -/

/-- The ordinals of the accepted rows, as the stream's bytes have them. -/
def ProducerObservationStream.acceptedOrdinals (s : ProducerObservationStream) : List UInt64 :=
  (List.range s.snapshot.rowCount).filterMap fun index =>
    if wordAt (s.body index) 14 = kProducerAcceptedFlags then some (wordAt (s.body index) 13)
    else none

/-- The ordinals of the rows, as the stream's bytes have them. -/
def ConsumerObservationStream.consumedOrdinals (s : ConsumerObservationStream) : List UInt64 :=
  (List.range s.snapshot.rowCount).filterMap fun index => some (wordAt (s.body index) 0)

theorem CanonicalProducers.ordinals {rows : List ProducerObservation} {index n : Nat}
    (h : CanonicalProducers index (.ofNat n) rows) :
    rows.filterMap (·.acceptedOrdinal) =
      (List.range' n (acceptedRows rows).length).map UInt64.ofNat := by
  induction rows generalizing index n with
  | nil => rfl
  | cons row rest ih =>
      obtain ⟨hfit, hrest⟩ := h
      by_cases haccepted : row.outcome = .accepted
      · have hordinal : row.acceptedOrdinal = some (.ofNat n) := by
          rw [hfit.ordinal, if_pos haccepted]
        rw [nextAccepted, if_pos haccepted, Lifecycle.ofNat_succ] at hrest
        rw [List.filterMap_cons_some hordinal, ih hrest, acceptedRows, acceptedRows,
          List.filter_cons_of_pos (by simpa using haccepted), List.length_cons, List.range'_succ,
          List.map_cons]
      · have hordinal : row.acceptedOrdinal = none := by rw [hfit.ordinal, if_neg haccepted]
        rw [nextAccepted, if_neg haccepted, UInt64.add_zero] at hrest
        rw [List.filterMap_cons_none hordinal, ih hrest, acceptedRows, acceptedRows,
          List.filter_cons_of_neg (by simpa using haccepted)]

theorem CanonicalConsumers.ordinals {rows : List ConsumerObservation} {index : Nat}
    {counter : UInt64} (h : CanonicalConsumers index counter rows) :
    rows.map (·.consumedOrdinal) = (List.range' index rows.length).map UInt64.ofNat := by
  induction rows generalizing index with
  | nil => rfl
  | cons row rest ih =>
      obtain ⟨hfit, hrest⟩ := h
      have hordinal : row.consumedOrdinal = .ofNat index := by
        rw [← show row.consumedOrdinal.toNat = index from hfit, UInt64.ofNat_toNat]
      rw [List.map_cons, ih hrest, hordinal, List.length_cons, List.range'_succ, List.map_cons]

/-- A stream of canonical rows has the accepted ordinals in order, from zero on. -/
theorem ProducerObservationStream.acceptedOrdinals_eq {s : ProducerObservationStream}
    {rows : List ProducerObservation} (h : s.Holds (rows.map producerWords))
    (hcanonical : CanonicalProducers 0 0 rows) :
    s.acceptedOrdinals = (List.range (acceptedRows rows).length).map UInt64.ofNat := by
  have hcount : s.snapshot.rowCount = rows.length := by
    rw [← List.length_map producerWords]
    exact h.count
  rw [acceptedOrdinals, hcount, Blocks.filterMap_range (g := fun row => row.acceptedOrdinal),
    List.range_eq_range']
  · exact CanonicalProducers.ordinals hcanonical
  · intro index row hrow
    have hwords : (rows.map producerWords)[index]? = some (producerWords row) := by simp [hrow]
    obtain ⟨counter, hfit⟩ := hcanonical.getElem? hrow
    have hordinal : wordAt (s.body index) 13 =
        if row.outcome = .accepted then row.acceptedOrdinal.getD 0 else 0 :=
      h.wordAt_body hwords rfl
    have hflags : wordAt (s.body index) 14 =
        if row.outcome = .accepted then kProducerAcceptedFlags else kProducerFullFlags :=
      h.wordAt_body hwords rfl
    rw [hflags, hordinal, hfit.ordinal]
    by_cases haccepted : row.outcome = .accepted
    · simp [haccepted]
    · simp [haccepted, kProducerAcceptedFlags, kProducerFullFlags]

/-- A stream of canonical rows has the consumed ordinals in order, from zero on. -/
theorem ConsumerObservationStream.consumedOrdinals_eq {s : ConsumerObservationStream}
    {rows : List ConsumerObservation} (h : s.Holds (rows.map consumerWords))
    (hcanonical : CanonicalConsumers 0 0 rows) :
    s.consumedOrdinals = (List.range rows.length).map UInt64.ofNat := by
  have hcount : s.snapshot.rowCount = rows.length := by
    rw [← List.length_map consumerWords]
    exact h.count
  rw [consumedOrdinals, hcount, Blocks.filterMap_range (g := fun row => some row.consumedOrdinal),
    List.range_eq_range', List.filterMap_eq_map']
  · exact CanonicalConsumers.ordinals hcanonical
  · intro index row hrow
    have hwords : (rows.map consumerWords)[index]? = some (consumerWords row) := by simp [hrow]
    exact congrArg some (h.wordAt_body hwords rfl)

/-! ### Consumed and accepted ordinals -/

/-- What the two streams of a finished run say of one another. -/
structure Accounted (e : CaptureExecution P arena) (report : MeasurementExecutionReport) :
    Prop where
  /-- Both streams number their rows from zero on. -/
  contiguous : e.producerStream.acceptedOrdinals =
      (List.range e.producerStream.acceptedOrdinals.length).map UInt64.ofNat ∧
    e.consumerStream.consumedOrdinals =
      (List.range e.consumerStream.snapshot.rowCount).map UInt64.ofNat
  surplus : e.consumerStream.snapshot.rowCount ≤ e.producerStream.acceptedOrdinals.length + 1
  earlier : ∀ ordinal ∈ e.consumerStream.consumedOrdinals.dropLast,
    ordinal ∈ e.producerStream.acceptedOrdinals
  /-- Only an attempt that failed leaves a consumer row without a producer row. -/
  matched : report.failureReason ≠ .producerAttempt →
    e.consumerStream.snapshot.rowCount ≤ e.producerStream.acceptedOrdinals.length ∧
      ∀ ordinal ∈ e.consumerStream.consumedOrdinals,
        ordinal ∈ e.producerStream.acceptedOrdinals

theorem mem_ofNat_range_mono {m n : Nat} (hle : m ≤ n) {ordinal : UInt64}
    (h : ordinal ∈ (List.range m).map UInt64.ofNat) :
    ordinal ∈ (List.range n).map UInt64.ofNat := by
  obtain ⟨k, hk, rfl⟩ := List.mem_map.mp h
  refine List.mem_map_of_mem (List.mem_range.mpr ?_)
  exact Nat.lt_of_lt_of_le (List.mem_range.mp hk) hle

theorem Recorded.accounted {e : CaptureExecution P arena} {prows : List ProducerObservation}
    {crows : List ConsumerObservation} (h : Recorded arena e.client prows crows)
    (hsurplus : e.items ≤ Answered.accepted e.client.enqueued + 1)
    (hmatched : report.failureReason ≠ .producerAttempt →
      e.items ≤ Answered.accepted e.client.enqueued) :
    Accounted e report := by
  have haccepted : (acceptedRows prows).length = Answered.accepted e.client.enqueued := by
    exact (length_acceptedRows h.attempts).trans (countP_completed rfl _)
  have hitems : crows.length = e.items := h.items
  have hrows : e.consumerStream.snapshot.rowCount = crows.length := by
    rw [← List.length_map consumerWords]
    exact h.consumer.count
  have hproduced : e.producerStream.acceptedOrdinals = _ :=
    ProducerObservationStream.acceptedOrdinals_eq h.producer h.producers
  have hconsumed : e.consumerStream.consumedOrdinals = _ :=
    ConsumerObservationStream.consumedOrdinals_eq h.consumer h.consumers
  have hlength : e.producerStream.acceptedOrdinals.length = (acceptedRows prows).length := by
    rw [hproduced, List.length_map, List.length_range]
  refine ⟨⟨?_, ?_⟩, ?_, ?_, ?_⟩
  · rw [hlength]
    exact hproduced
  · rw [hrows]
    exact hconsumed
  · omega
  · intro ordinal hmem
    rw [hproduced]
    rw [hconsumed, ← List.map_dropLast, List.dropLast_eq_take, List.take_range,
      List.length_range] at hmem
    exact mem_ofNat_range_mono (by omega) hmem
  · intro hreason
    have hle := hmatched hreason
    refine ⟨by omega, fun ordinal hmem => ?_⟩
    rw [hproduced]
    rw [hconsumed] at hmem
    exact mem_ofNat_range_mono (by omega) hmem

/--
**Consumed ordinals are accepted ordinals**, but for the last one of a run whose last
attempt failed: its record was in the queue before the attempt could commit its row.
-/
theorem consumed_ordinals_accepted (P : Package Nat) (capacity : Nat) (init : P.State)
    (S : PackageSim P capacity init) (arena : EventArena) (schedule : PreparedScheduleView)
    (limits : ExecutionLimits) (termination : TerminationControl) (consumerState : ConsumerState)
    (producerRunId consumerRunId : RunId) (producerCapacity consumerCapacity : UInt64)
    (ps : ProducerObservationStream) (cs : ConsumerObservationStream)
    (hps : ProducerObservationStream.construct producerRunId producerCapacity = .ok ps)
    (hcs : ConsumerObservationStream.construct consumerRunId consumerCapacity = .ok cs)
    (e e' : CaptureExecution P arena) (report : MeasurementExecutionReport)
    (hok : executeMeasurement (capturingObservationBackend P arena) schedule limits termination
      ⟨init, consumerState, ps.prepareForOwner.1, cs.prepareForOwner.1⟩ = .ok e)
    (hreach : e.Reaches schedule limits e') (hreport : e'.report? = some report) :
    Accounted e' report := by
  have hc := executeMeasurement_consistent hok hreach
  obtain ⟨-, -, rfl⟩ := executeMeasurement_ok hok
  have hproducer := (ObservationStream.prepared_holds hps).1
  have hconsumer := (ObservationStream.prepared_holds hcs).1
  obtain ⟨prows, crows, h⟩ := reaches_recorded hproducer hconsumer hreach
  obtain ⟨pv, cv, queue, room, hdelivers⟩ := hreach.delivers
    (capturingFifo S arena consumerState ps.prepareForOwner.1 cs.prepareForOwner.1)
  have habandons : e'.Abandons := by
    refine (hreach.induction (I := fun e => e.Consistent schedule ∧ e.Abandons)
      ⟨.start limits _ _ rfl, nofun, nofun⟩ ?_).2
    intro e a e' ⟨hc, hr⟩ hstep
    exact ⟨hc.step hstep, hr.step hc hstep⟩
  obtain ⟨hreturned, -, hcases⟩ := hc.report_cases hreport
  have hitems := hdelivers.items_le_accepted (hc.pcall_none (by simp [hreturned]))
  refine h.accounted ?_ fun hreason => ?_
  · exact Nat.le_trans hitems (Nat.add_le_add_left habandons.failures_le _)
  · have hcomplete : ∀ x ∈ e'.client.enqueued, x.2.status = .complete :=
      habandons.complete_of_report hc hreport hreason
    rw [List.countP_eq_zero.mpr fun x hx => by simp [hcomplete x hx]] at hitems
    exact hitems

/-- The run of one arrival that is accepted and consumed. -/
theorem consumed_ordinals_accepted_one :
    ∃ e report, start.Reaches oneArrival onePoll e ∧
      e.report? = some report ∧ report.failureReason ≠ .producerAttempt ∧
      (CaptureExecution.consumerStream e).consumedOrdinals = [0] ∧ Accounted e report := by
  have hrun : ∃ e report, start.run? oneArrival onePoll
        (release ++ List.replicate 14 p ++ List.replicate 10 c ++
          [p] ++ List.replicate 5 c ++ List.replicate 3 k) = some e ∧
      e.report? = some report ∧ report.failureReason = .none ∧
      (CaptureExecution.consumerStream e).consumedOrdinals = [0] :=
    ⟨_, _, rfl, rfl, rfl, rfl⟩
  obtain ⟨e, report, hsteps, hreport, hnone, hordinals⟩ := hrun
  have hreach := Execution.Reaches.of_run? hsteps
  exact ⟨e, report, hreach, hreport, by rw [hnone]; nofun, hordinals,
    consumed_ordinals_accepted (RingSpscQueue.package Nat) 2 (RingSpscQueue.initial 2)
      (RingSpscQueue.packageSim (by decide)) oneRecord oneArrival
      onePoll ⟨0⟩ ⟨0⟩ runId runId 2 2 (producerStream 2)
      (consumerStream 2) rfl rfl start e report rfl hreach hreport⟩

/-- The record is taken while the clock fails its producer, which then commits no row. -/
theorem consumed_ordinal_orphan :
    ∃ e report, start.Reaches oneArrival onePoll e ∧
      e.report? = some report ∧
      (CaptureExecution.producerStream e).acceptedOrdinals = [] ∧
      (CaptureExecution.consumerStream e).snapshot.rowCount = 1 ∧
      (CaptureExecution.consumerStream e).consumedOrdinals = [0] := by
  have hrun : ∃ e report, start.run? oneArrival onePoll
        (release ++ List.replicate 13 p ++ List.replicate 10 c ++
          [.producer ⟨true, 100⟩ fails] ++ List.replicate 3 p ++
          List.replicate 2 c ++ List.replicate 3 k) = some e ∧
      e.report? = some report ∧
      (CaptureExecution.producerStream e).acceptedOrdinals = [] ∧
      (CaptureExecution.consumerStream e).snapshot.rowCount = 1 ∧
      (CaptureExecution.consumerStream e).consumedOrdinals = [0] :=
    ⟨_, _, rfl, rfl, rfl, rfl, rfl⟩
  obtain ⟨e, report, hsteps, hrest⟩ := hrun
  exact ⟨e, report, Execution.Reaches.of_run? hsteps, hrest⟩

end CpuPrefetch.Storage
