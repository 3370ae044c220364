/-
From a run to its joined rows.

A run without a failure, under clocks that never go back, leaves two streams whose
snapshots decode to the rows that were committed, and those rows reconcile: the k-th
accepted attempt and the k-th poll that took an item are joined.
-/
import CpuPrefetch.Proofs.Reconciliation.Reconcile
import CpuPrefetch.Proofs.Storage.Retention
import CpuPrefetch.Proofs.Storage.TimedRuns
import CpuPrefetch.Proofs.Workload.Packages

namespace CpuPrefetch.Storage

open List ObservationStream
open Lifecycle (Answered Execution PreparedScheduleView ExecutionLimits TerminationControl
  ThreadStep MeasurementExecutionReport executeMeasurement executeMeasurement_ok)
open Protocol (RunId StreamKind ProducerRecord ConsumerRecord validateProducer validateConsumer)
open Queue (Package PackageSim RingSpscQueue)
open Reconciliation (FitRow nextOrdinal acceptedFrom acceptedFrom_rows acceptedFrom_position
  Matches Joins reconcile reconcile_passes)
open Timing (ClockReadResult ProducerObservation ConsumerObservation makeProducerRecord
  makeConsumerRecord nondecreasing nondecreasing_cons)
open Workload (EventArena ConsumerState PreparedPackage)
open CapturingObservationBackend

variable {P : Package Nat} {arena : EventArena}

/-! ### Rows in order break no rule -/

variable {counter : UInt64} {index : Nat}

theorem ProducerOrder.validate {row : ProducerObservation} (h : ProducerOrder row)
    (hfit : FitProducer index counter row) (runId : RunId) (path : String) :
    validateProducer (makeProducerRecord runId row) runId path = [] := by
  have hfields : Protocol.acceptedFieldErrors (makeProducerRecord runId row) path = [] := by
    have hordinal := hfit.ordinal
    have hlinearization := hfit.linearization
    unfold Protocol.acceptedFieldErrors makeProducerRecord
    cases houtcome : row.outcome with
    | accepted =>
        rw [houtcome, if_pos rfl] at hordinal
        obtain ⟨sample, hsample⟩ : ∃ sample, row.enqueueLinearization = some sample := by
          simpa [houtcome, Option.isSome_iff_exists] using hlinearization
        obtain ⟨hafter, hbefore⟩ := h.linearized sample hsample
        simp [hordinal, hsample, UInt64.not_lt.mpr hafter, UInt64.not_lt.mpr hbefore]
    | full =>
        rw [houtcome, if_neg nofun] at hordinal
        have hnone : row.enqueueLinearization = none := by simpa [houtcome] using hlinearization
        simp [hordinal, hnone]
  rw [validateProducer, hfields]
  simp [makeProducerRecord, h.due, h.lookup, h.invoked, h.completed]

theorem ConsumerOrder.validate {row : ConsumerObservation} (h : ConsumerOrder row) (runId : RunId)
    (path : String) : validateConsumer (makeConsumerRecord runId row) runId path = [] := by
  simp [validateConsumer, makeConsumerRecord, h.linearized, h.completed, h.acted]

/-! ### Committed rows reconcile -/

/-- The record index of every arrival, whatever becomes of it. -/
def expectedRecordIndices (arena : EventArena) (count : Nat) : List UInt64 :=
  (List.range count).map fun sequence => (arena.select (.ofNat sequence)).recordIndex

/-- The accepted row and the consumer row are of one record, placed before it was observed. -/
structure OneEvent (row : ProducerObservation) (crow : ConsumerObservation) : Prop where
  record : crow.observedRecordIndex = row.recordIndex
  ordered : ∀ linearization ∈ row.enqueueLinearization,
    linearization.relativePicoseconds ≤ crow.dequeueLinearization.relativePicoseconds

variable {prows : List ProducerObservation}

/-- Canonical rows of the selected records fit the audit. -/
theorem fitRows (h : CanonicalProducers 0 0 prows)
    (hrecords : ∀ row ∈ prows, row.recordIndex = (arena.select row.logicalSequence).recordIndex)
    (runId : RunId) :
    Chained (FitRow runId (expectedRecordIndices arena prows.length)) nextOrdinal 0 0
      (prows.map (makeProducerRecord runId)) := by
  refine h.map ?_ fun _ _ => rfl
  intro k counter row hrow hfit
  rw [Nat.zero_add] at hfit ⊢
  obtain ⟨hlt, -⟩ := List.getElem?_eq_some_iff.mp hrow
  refine ⟨rfl, hfit.sequence, ?_, hfit.ordinal, ?_⟩
  · have hsequence : UInt64.ofNat k = row.logicalSequence := by
      rw [← hfit.sequence, UInt64.ofNat_toNat]
    show ((List.range prows.length).map _)[k]? = some row.recordIndex
    rw [getElem?_map, getElem?_range hlt, Option.map_some, hsequence,
      hrecords row (mem_of_getElem? hrow)]
  · show (row.enqueueLinearization.map _).isSome = _
    rw [Option.isSome_map, hfit.linearization]
    rfl

theorem matches_of_event {row : ProducerObservation} {crow : ConsumerObservation} {k : Nat}
    (hfit : FitProducer index (.ofNat k) row) (hcfit : FitConsumer k counter crow)
    (haccepted : row.outcome = .accepted) (horder : ProducerOrder row)
    (hcorder : ConsumerOrder crow) (hevent : OneEvent row crow) (runId : RunId) :
    ∃ linearization, Matches runId k (makeProducerRecord runId row)
      (makeConsumerRecord runId crow) linearization := by
  have hlinearization := hfit.linearization
  have hordinal := hfit.ordinal
  rw [if_pos haccepted] at hordinal
  obtain ⟨sample, hsample⟩ : ∃ sample, row.enqueueLinearization = some sample := by
    simpa [haccepted, Option.isSome_iff_exists] using hlinearization
  have hconsumed : crow.consumedOrdinal = .ofNat k := by
    rw [← show crow.consumedOrdinal.toNat = k from hcfit, UInt64.ofNat_toNat]
  obtain ⟨hafter, hbefore⟩ := horder.linearized sample hsample
  refine ⟨sample.relativePicoseconds, ?_⟩
  exact
    { accepted := haccepted
      linearized := by simp [makeProducerRecord, hsample]
      producerRun := rfl
      consumerRun := rfl
      position := hcfit
      ordinal := by simp [makeProducerRecord, makeConsumerRecord, hordinal, hconsumed]
      record := hevent.record
      producerOrder := by
        simp only [nondecreasing_cons]
        exact ⟨horder.due, horder.lookup, horder.invoked, hafter, hbefore, rfl⟩
      consumerOrder := by
        simp only [nondecreasing_cons]
        exact ⟨hcorder.linearized, hcorder.completed, hcorder.acted, rfl⟩
      queueOrder := hevent.ordered sample hsample }

variable {crows : List ConsumerObservation}

/-- The accepted rows and the consumer rows, pair by pair. -/
theorem joins_rows {k : Nat} (h : CanonicalProducers index (.ofNat k) prows)
    (hc : CanonicalConsumers k counter crows) (horder : ∀ row ∈ prows, ProducerOrder row)
    (hcorder : ∀ row ∈ crows, ConsumerOrder row)
    (hevents : List.Forall₂ OneEvent (acceptedRows prows) crows) (runId : RunId) :
    ∃ joined, Joins runId k (acceptedFrom index (prows.map (makeProducerRecord runId)))
      (crows.map (makeConsumerRecord runId)) joined := by
  induction prows generalizing index k crows with
  | nil =>
      obtain rfl := List.forall₂_nil_left_iff.mp hevents
      exact ⟨[], .nil k⟩
  | cons row rest ih =>
      obtain ⟨hfit, hrest⟩ := h
      have hrestOrder : ∀ x ∈ rest, ProducerOrder x :=
        fun x hx => horder x (mem_cons_of_mem row hx)
      rw [map_cons, acceptedFrom]
      by_cases haccepted : row.outcome = .accepted
      · rw [acceptedRows, filter_cons_of_pos (by simpa using haccepted)] at hevents
        obtain ⟨crow, crest, hevent, hevents', rfl⟩ := List.forall₂_cons_left_iff.mp hevents
        rw [nextAccepted, if_pos haccepted, Lifecycle.ofNat_succ] at hrest
        obtain ⟨joined, hjoined⟩ := ih hrest hc.2 hrestOrder
          (fun x hx => hcorder x (mem_cons_of_mem crow hx)) hevents'
        obtain ⟨linearization, hmatch⟩ := matches_of_event hfit hc.1 haccepted
          (horder row mem_cons_self) (hcorder crow mem_cons_self) hevent runId
        rw [if_pos (show (makeProducerRecord runId row).outcome = .accepted from haccepted)]
        exact ⟨_, .cons hmatch hjoined⟩
      · rw [acceptedRows, filter_cons_of_neg (by simpa using haccepted)] at hevents
        rw [nextAccepted, if_neg haccepted, UInt64.add_zero] at hrest
        rw [if_neg (show ¬(makeProducerRecord runId row).outcome = .accepted from haccepted)]
        exact ih hrest hc hrestOrder hcorder hevents

/-! ### The run the streams belong to -/

/-- The streams are those of this run. -/
def OfRun (runId : RunId) (s : State P) : Prop :=
  s.producerStream.runId = runId ∧ s.consumerStream.runId = runId

variable {kind : StreamKind}

theorem ObservationStream.commitRow_runId (s : ObservationStream kind) (words : List UInt64) :
    (s.commitRow words).1.runId = s.runId := by
  unfold commitRow
  split <;> rfl

theorem ObservationStream.sealComplete_runId (s : ObservationStream kind) :
    s.sealComplete.1.runId = s.runId := by
  unfold sealComplete
  split <;> rfl

variable {runId : RunId}

theorem ObservationStream.prepared_runId {s : ObservationStream kind} {overflowMessage : String}
    {rowCapacity : UInt64} (h : construct kind overflowMessage runId rowCapacity = .ok s) :
    s.prepareForOwner.1.runId = runId := by
  have hrun : s.runId = runId := by
    unfold construct at h
    obtain ⟨layout, -, h⟩ := Fallible.bind_ok h
    split at h
    · cases h
    · obtain rfl := Except.ok.inj h
      rfl
  unfold prepareForOwner
  split <;> exact hrun

theorem ProducerObservationStream.append_runId (s : ProducerObservationStream)
    (observation : ProducerObservation) : (s.append observation).1.runId = s.runId := by
  unfold ProducerObservationStream.append
  split
  · rfl
  · split
    · rfl
    · simp only
      split
      · rfl
      · exact s.commitRow_runId _

theorem ConsumerObservationStream.append_runId (s : ConsumerObservationStream)
    (observation : ConsumerObservation) : (s.append observation).1.runId = s.runId := by
  unfold ConsumerObservationStream.append
  split
  · rfl
  · split
    · rfl
    · exact s.commitRow_runId _

theorem attemptResult_runId (s : ProducerObservationStream)
    (captured : Timing.ProducerCaptureResult) : (attemptResult s captured).1.runId = s.runId := by
  unfold attemptResult
  split
  · simp only
    split <;> exact s.append_runId _
  · rfl

theorem pollResult_runId (s : ConsumerObservationStream)
    (captured : Timing.ConsumerCaptureResult) : (pollResult s captured).1.runId = s.runId := by
  unfold pollResult
  split
  · rfl
  · simp only
    split <;> exact s.append_runId _
  · rfl

theorem OfRun.attempt_step {s s' : State P} (h : OfRun runId s) {input : ClockReadResult}
    {call : Timing.DueCapture P}
    {out : Outcome (Timing.DueCapture P) Lifecycle.ProducerAttemptResult}
    (hstep : attemptStep arena input s call = (s', out)) : OfRun runId s' := by
  rcases attemptStep_cases arena hstep with ⟨_, _, _, rfl, _⟩ | ⟨_, captured, _, rfl, _⟩
  · exact h
  · exact ⟨(attemptResult_runId _ captured).trans h.1, h.2⟩

theorem OfRun.poll_step {s s' : State P} (h : OfRun runId s) {input : ClockReadResult}
    {call : Timing.PollCapture P}
    {out : Outcome (Timing.PollCapture P) Lifecycle.ConsumerPollResult}
    (hstep : pollStep arena input s call = (s', out)) : OfRun runId s' := by
  rcases pollStep_cases arena hstep with ⟨_, _, _, rfl, _⟩ | ⟨_, captured, _, rfl, _⟩
  · exact h
  · exact ⟨h.1, (pollResult_runId _ captured).trans h.2⟩

theorem reaches_ofRun {schedule : PreparedScheduleView} {limits : ExecutionLimits}
    {e e' : CaptureExecution P arena} (hreach : e.Reaches schedule limits e')
    (h : OfRun runId (CaptureClient.backend e.client)) :
    OfRun runId (CaptureClient.backend e'.client) :=
  hreach.state_induction (I := OfRun runId) h
    (fun _ _ _ _ _ hs hstep => hs.attempt_step hstep)
    (fun _ _ _ _ _ hs hstep => hs.poll_step hstep)

/-! ### The whole way -/

/-- The decoded producer rows, as `reconcile` takes them. -/
def logicalProducers (runId : RunId) (rows : List DecodedProducerRow) : List ProducerRecord :=
  rows.map fun row => makeProducerRecord runId row.observation

/-- The decoded consumer rows, as `reconcile` takes them. -/
def logicalConsumers (runId : RunId) (rows : List DecodedConsumerRow) : List ConsumerRecord :=
  rows.map fun row => makeConsumerRecord runId row.observation

/-- The joined row is of the k-th accepted producer row and the k-th consumer row. -/
structure JoinsKth (producers : List ProducerRecord) (consumers : List ConsumerRecord) (k : Nat)
    (row : Protocol.JoinedRecord) (producer : ProducerRecord) (consumer : ConsumerRecord) :
    Prop where
  accepted : (producers.filter (·.outcome = .accepted))[k]? = some producer
  consumed : consumers[k]? = some consumer
  ordinal : row.acceptedOrdinal.toNat = k
  producerRow : producers[row.producerRowOrdinal.toNat]? = some producer
  consumerRow : row.consumerRowOrdinal.toNat = k
  sequence : row.logicalSequence = producer.logicalSequence
  record : row.recordIndex = producer.recordIndex ∧ row.recordIndex = consumer.observedRecordIndex

/-- The two snapshots decode, and what they decode to reconciles event by event. -/
structure Reconciled (sha256 : List UInt8 → String) (runId : RunId) (arena : EventArena)
    (offered : Nat) (producer consumer : RawStreamSnapshot)
    (report : MeasurementExecutionReport) (rows : List DecodedProducerRow)
    (crows : List DecodedConsumerRow) : Prop where
  decodedProducer : decodeExternalRaw sha256 (externalRawEnvelope sha256 producer)
    producer.bytes = .ok ⟨.producer, .producer rows⟩
  decodedConsumer : decodeExternalRaw sha256 (externalRawEnvelope sha256 consumer)
    consumer.bytes = .ok ⟨.consumer, .consumer crows⟩
  passed : (reconcile runId (logicalProducers runId rows) (logicalConsumers runId crows)
    (expectedRecordIndices arena offered)).status = .passed
  issues : (reconcile runId (logicalProducers runId rows) (logicalConsumers runId crows)
    (expectedRecordIndices arena offered)).issues = []
  count : (reconcile runId (logicalProducers runId rows) (logicalConsumers runId crows)
    (expectedRecordIndices arena offered)).joinedRows.length = report.accepted.toNat
  pairs : ∀ k < report.accepted.toNat, ∃ row producer consumer,
    (reconcile runId (logicalProducers runId rows) (logicalConsumers runId crows)
      (expectedRecordIndices arena offered)).joinedRows[k]? = some row ∧
    JoinsKth (logicalProducers runId rows) (logicalConsumers runId crows) k row producer consumer

/-- What a joined row says of the rows it was made from. -/
theorem joinsKth {producers : List ProducerRecord} {consumers : List ConsumerRecord}
    {joined : List Protocol.JoinedRecord}
    (h : Joins runId 0 (acceptedFrom 0 producers) consumers joined)
    (hsize : producers.length < UInt64.size) {k : Nat} {row : Protocol.JoinedRecord}
    (hrow : joined[k]? = some row) :
    ∃ producer consumer, JoinsKth producers consumers k row producer consumer := by
  obtain ⟨position, producer, consumer, linearization, haccepted, hconsumer, hmatch, rfl⟩ :=
    h.getElem? hrow
  rw [Nat.zero_add] at hmatch
  obtain ⟨index, hposition, hat⟩ := acceptedFrom_position (mem_of_getElem? haccepted)
  rw [Nat.zero_add] at hposition
  subst hposition
  have hlt : position < UInt64.size :=
    Nat.lt_trans (List.getElem?_eq_some_iff.mp hat).1 hsize
  have hkth : (producers.filter (·.outcome = .accepted))[k]? = some producer := by
    rw [← acceptedFrom_rows producers 0, getElem?_map, haccepted]
    rfl
  have hk : k < UInt64.size := by
    have hle := (List.getElem?_eq_some_iff.mp hkth).1
    have hfilter := length_filter_le (fun r : ProducerRecord => r.outcome = .accepted) producers
    omega
  refine ⟨producer, consumer, hkth, hconsumer, hmatch.position, ?_, ?_, rfl, rfl, ?_⟩
  · show producers[(UInt64.ofNat position).toNat]? = some producer
    rw [UInt64.toNat_ofNat_of_lt' hlt]
    exact hat
  · show (UInt64.ofNat (0 + k)).toNat = k
    rw [Nat.zero_add]
    exact UInt64.toNat_ofNat_of_lt' hk
  · exact hmatch.record.symm

/-- A committed row carries the record selected for its logical sequence. -/
theorem rows_records {answered : Answered} (h : List.Forall₂ (RowOf arena) answered prows) :
    ∀ row ∈ prows, row.recordIndex = (arena.select row.logicalSequence).recordIndex := by
  induction h with
  | nil => nofun
  | @cons x row answered rows hrow _ ih =>
      intro row' hmem
      rcases List.mem_cons.mp hmem with rfl | hrest
      · rw [hrow.recordIndex, hrow.sequence]
      · exact ih row' hrest

/-- Everything placed has been taken: the rows are paired. -/
theorem Timeline.events {capacity : Nat} {init : P.State} {S : PackageSim P capacity init}
    {c : CaptureClient P arena} {now : UInt64} (h : Timeline S c prows crows now)
    (hclean : Clean c) (hidle : c.pcall = none)
    (hcount : (acceptedRows prows).length = crows.length) :
    List.Forall₂ OneEvent (acceptedRows prows) crows := by
  obtain ⟨taken, hand, queue, room, hpaired⟩ := h.paired hclean
  have hbalance : (acceptedRows prows).map entryOf ++ pendingOf c.pcall = taken ++ hand ++ queue :=
    hpaired.balance
  have hpending : pendingOf c.pcall = [] := by
    rw [hidle]
    rfl
  rw [hpending, append_nil] at hbalance
  have hlength := congrArg List.length hbalance
  rw [length_map, hcount, ← hpaired.made.length_eq, length_append,
    length_append] at hlength
  have hhand : hand = [] := List.length_eq_zero_iff.mp (by omega)
  have hqueue : queue = [] := List.length_eq_zero_iff.mp (by omega)
  rw [hhand, hqueue, append_nil, append_nil] at hbalance
  have hmade := hpaired.made
  rw [← hbalance, forall₂_map_left_iff] at hmade
  have hrecords : ∀ row ∈ acceptedRows prows,
      row.recordIndex = (arena.select row.logicalSequence).recordIndex :=
    fun row hrow => rows_records h.recorded.attempts row (List.mem_filter.mp hrow).1
  refine ((forall₂_and_left _ _).mpr ⟨hrecords, hmade⟩).imp ?_
  intro row crow ⟨hrecord, hfrom⟩
  refine ⟨hfrom.recordIndex.trans hrecord.symm, ?_⟩
  intro linearization hlinearization
  have hle := hfrom.ordered
  rwa [entryOf, show row.enqueueLinearization = some linearization from hlinearization] at hle

/-- Rows that are in order and paired reconcile once their streams are sealed. -/
theorem Timeline.reconciled {capacity : Nat} {init : P.State} {S : PackageSim P capacity init}
    {c : CaptureClient P arena} {now : UInt64} (h : Timeline S c prows crows now)
    (hclean : Clean c) (hidle : c.pcall = none) (hrun : OfRun runId c.backend)
    {report : MeasurementExecutionReport}
    (haccepted : report.accepted.toNat = (acceptedRows prows).length)
    (hconsumed : report.accepted.toNat = crows.length) (sha256 : List UInt8 → String)
    {sp : ProducerObservationStream} {sc : ConsumerObservationStream}
    (hsp : c.backend.producerStream.sealComplete = (sp, true))
    (hsc : c.backend.consumerStream.sealComplete = (sc, true)) :
    ∃ rows crows, Reconciled sha256 runId arena prows.length sp.snapshot sc.snapshot report rows
      crows := by
  have hproducer := h.recorded.producer.sealComplete
  have hconsumer := h.recorded.consumer.sealComplete
  have hprun : sp.runId = runId := by
    rw [← hrun.1, ← c.backend.producerStream.sealComplete_runId, hsp]
  have hcrun : sc.runId = runId := by
    rw [← hrun.2, ← c.backend.consumerStream.sealComplete_runId, hsc]
  rw [hsp] at hproducer
  rw [hsc] at hconsumer
  have hdecoded := decode_producer_snapshot sha256 hproducer h.recorded.producers (by
    intro row hrow path
    obtain ⟨k, hk⟩ := getElem?_of_mem hrow
    obtain ⟨counter, hfit⟩ := h.recorded.producers.getElem? hk
    exact (h.producers row hrow).validate hfit _ path)
  have hcdecoded := decode_consumer_snapshot sha256 hconsumer h.recorded.consumers
    fun row hrow path => (h.consumers row hrow).validate _ path
  have hevents := h.events hclean hidle (haccepted.symm.trans hconsumed)
  obtain ⟨joined, hjoins⟩ := joins_rows (k := 0) h.recorded.producers h.recorded.consumers
    h.producers h.consumers hevents runId
  have hfit := fitRows h.recorded.producers (rows_records h.recorded.attempts) runId
  have hcount : (prows.map (makeProducerRecord runId)).length =
      (expectedRecordIndices arena prows.length).length := by
    simp [expectedRecordIndices]
  obtain ⟨hpassed, hissues, hjoined⟩ := reconcile_passes hfit hcount hjoins
  have hlength : joined.length = report.accepted.toNat := by
    rw [hjoins.lengths.2, ← hjoins.lengths.1, length_map, hconsumed]
  have hsize : (prows.map (makeProducerRecord runId)).length < UInt64.size := by
    have hle := Nat.le_trans h.recorded.producer.capacity h.recorded.producer.capacityLe
    rw [length_map] at hle ⊢
    exact Nat.lt_of_le_of_lt hle (by decide)
  have hproducers : logicalProducers runId (prows.map fun row => ⟨sp.runId.value, row⟩) =
      prows.map (makeProducerRecord runId) := by
    simp [logicalProducers]
  have hconsumers : logicalConsumers runId (crows.map fun row => ⟨sc.runId.value, row⟩) =
      crows.map (makeConsumerRecord runId) := by
    simp [logicalConsumers]
  refine ⟨_, _, hdecoded, hcdecoded, ?_, ?_, ?_, ?_⟩
  · rw [hproducers, hconsumers]
    exact hpassed
  · rw [hproducers, hconsumers]
    exact hissues
  · rw [hproducers, hconsumers, hjoined]
    exact hlength
  · intro k hk
    rw [hproducers, hconsumers, hjoined]
    rw [← hlength] at hk
    obtain ⟨producer, consumer, hkth⟩ := joinsKth hjoins hsize (getElem?_eq_getElem hk)
    exact ⟨joined[k], producer, consumer, getElem?_eq_getElem hk, hkth⟩

/-- In a run that reports no failure every attempt is complete and no poll has failed. -/
theorem clean_of_report {schedule : PreparedScheduleView} {e : CaptureExecution P arena}
    {report : MeasurementExecutionReport} (hc : e.Consistent schedule) (ht : e.Tallied schedule)
    (hreport : e.report? = some report) (hnone : report.failureReason = .none) :
    Clean e.client := by
  obtain ⟨-, hdone, hcnone, -⟩ := hc.succeeded hreport hnone
  have hreturned : e.producer.point = .returned := (hc.report_cases hreport).1
  have hprogress : e.producer.Progress schedule e.client.enqueued := ht.progress
  simp only [Lifecycle.ProducerThread.Progress, hreturned] at hprogress
  exact ⟨(hprogress hdone).2, ht.polls.failed hcnone⟩

/--
**A run without a failure reconciles.** Over any package a constructor has accepted and
under clocks that never go back, both sealed snapshots decode, the decoded rows are
joined without an issue, and the k-th joined row is that of the k-th accepted producer
row and the k-th consumer row.
-/
theorem measurement_reconciles (P : Package Nat) (init : P.State)
    (hpackage : PreparedPackage P init) (arena : EventArena) (schedule : PreparedScheduleView)
    (horigin : schedule.originTicks = 0) (limits : ExecutionLimits)
    (termination : TerminationControl) (consumerState : ConsumerState) (runId : RunId)
    (producerCapacity consumerCapacity : UInt64) (ps : ProducerObservationStream)
    (cs : ConsumerObservationStream)
    (hps : ProducerObservationStream.construct runId producerCapacity = .ok ps)
    (hcs : ConsumerObservationStream.construct runId consumerCapacity = .ok cs)
    (e e' : CaptureExecution P arena) (start now : UInt64) (report : MeasurementExecutionReport)
    (hok : executeMeasurement (capturingObservationBackend P arena) schedule limits termination
      ⟨init, consumerState, ps.prepareForOwner.1, cs.prepareForOwner.1⟩ = .ok e)
    (hreach : TimedExecution.Reaches schedule limits (e, start) (e', now))
    (hreport : e'.report? = some report) (hnone : report.failureReason = .none)
    (sp : ProducerObservationStream) (sc : ConsumerObservationStream)
    (hsp : e'.producerStream.sealComplete = (sp, true))
    (hsc : e'.consumerStream.sealComplete = (sc, true)) (sha256 : List UInt8 → String) :
    ∃ rows crows, Reconciled sha256 runId arena schedule.deadlineTicks.length sp.snapshot
      sc.snapshot report rows crows := by
  obtain ⟨capacity, ⟨S⟩⟩ := hpackage.packageSim
  obtain ⟨-, -, rfl⟩ := executeMeasurement_ok hok
  have hproducer := (prepared_holds hps).1
  have hconsumer := (prepared_holds hcs).1
  have hkept := hreach.kept S horigin hproducer hconsumer
  obtain ⟨prows, crows, htimeline⟩ := hkept.timeline
  obtain ⟨pv, cv, queue, room, hdelivers⟩ := hreach.reaches.delivers
    (capturingFifo S arena consumerState ps.prepareForOwner.1 cs.prepareForOwner.1)
  have hconserved := hdelivers.conserved hkept.consistent hkept.tallied hreport hnone
  have hrun : OfRun runId (CaptureClient.backend e'.client) :=
    reaches_ofRun hreach.reaches ⟨prepared_runId hps,
      prepared_runId hcs⟩
  -- Nothing failed, so every attempt has its row.
  have hclean := clean_of_report hkept.consistent hkept.tallied hreport hnone
  have hattempts := htimeline.recorded.attempts
  rw [completed_eq hclean.attempts] at hattempts
  have haccepted : report.accepted.toNat = (acceptedRows prows).length := by
    rw [length_acceptedRows hattempts]
    exact hconserved.accepted
  have hitems : report.accepted.toNat = crows.length := by
    rw [← hconserved.consumed, hconserved.items]
    exact htimeline.recorded.items.symm
  have hoffered : schedule.deadlineTicks.length = prows.length := by
    rw [← hconserved.deadlines, Answered.deadlines, length_map]
    exact hattempts.length_eq
  rw [hoffered]
  exact htimeline.reconciled hclean hconserved.empty.1 hrun haccepted hitems sha256 hsp hsc

namespace Captured

/-- The run of one arrival: released at tick 7, everything else is at tick 100. -/
def oneArrivalSteps : List (ThreadStep ClockReadResult ClockReadResult × UInt64) :=
  ([ThreadStep.producer ⟨false, 0⟩ fails, .consumer fails] ++ List.replicate 7 k).map (·, 7) ++
    (List.replicate 14 p ++ List.replicate 10 c ++ [p] ++ List.replicate 5 c).map (·, 100) ++
    (List.replicate 3 (ThreadStep.controller ⟨false, 0⟩)).map (·, 100)

end Captured

/-- One arrival is accepted and consumed. -/
theorem measurement_reconciles_one :
    ∃ e report sp sc, TimedExecution.Reaches Captured.oneArrival Captured.onePoll
        (Captured.start, 7) (e, 100) ∧
      e.report? = some report ∧ report.failureReason = .none ∧ report.accepted = 1 ∧
      (CaptureExecution.producerStream e).sealComplete = (sp, true) ∧
      (CaptureExecution.consumerStream e).sealComplete = (sc, true) ∧
      ∀ sha256, ∃ rows crows, Reconciled sha256 Captured.runId Captured.oneRecord 1 sp.snapshot
        sc.snapshot report rows crows := by
  have hrun : ∃ e report sp sc, TimedExecution.run? Captured.oneArrival Captured.onePoll
        (Captured.start, 7) Captured.oneArrivalSteps = some (e, 100) ∧
      e.report? = some report ∧ report.failureReason = .none ∧ report.accepted = 1 ∧
      (CaptureExecution.producerStream e).sealComplete = (sp, true) ∧
      (CaptureExecution.consumerStream e).sealComplete = (sc, true) :=
    ⟨_, _, _, _, rfl, rfl, rfl, rfl, rfl, rfl⟩
  obtain ⟨e, report, sp, sc, hsteps, hreport, hnone, haccepted, hsp, hsc⟩ := hrun
  have hreach := TimedExecution.Reaches.of_run? hsteps
  refine ⟨e, report, sp, sc, hreach, hreport, hnone, haccepted, hsp, hsc, fun sha256 => ?_⟩
  exact measurement_reconciles (RingSpscQueue.package Nat) (RingSpscQueue.initial 2)
    (.ring 2 64 _ rfl) Captured.oneRecord Captured.oneArrival rfl Captured.onePoll ⟨0⟩ ⟨0⟩
    Captured.runId 2 2 (Captured.producerStream 2) (Captured.consumerStream 2) rfl rfl
    Captured.start e 7 100 report rfl hreach hreport hnone sp sc hsp hsc sha256

end CpuPrefetch.Storage
