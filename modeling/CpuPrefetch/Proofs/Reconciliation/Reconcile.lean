/-
Rows that belong together are joined.

The audit walks the producer rows with their index and the next accepted ordinal, so
rows that fit those leave no issue, and what it collects are the accepted rows with
their positions.  A pair of an accepted row and a consumer row that carries the same
ordinal and record, with its timestamps in order, passes every check made of it.
-/
import CpuPrefetch.Lib.Chained
import CpuPrefetch.Reconciliation.Reconcile

namespace CpuPrefetch.Reconciliation

open Protocol (RunId ProducerRecord ConsumerRecord JoinedRecord)
open Timing (deriveJoinedRecord joinedRecord nondecreasing nondecreasing_cons additive_joinedRecord)

/-! ### The producer rows -/

/-- A producer row at this position, with the ordinal it must have if it was accepted. -/
structure FitRow (runId : RunId) (expectedRecordIndices : List UInt64) (index : Nat)
    (counter : UInt64) (row : ProducerRecord) : Prop where
  run : row.runId = runId
  sequence : row.logicalSequence.toNat = index
  mapping : expectedRecordIndices[index]? = some row.recordIndex
  ordinal : row.acceptedOrdinal = if row.outcome = .accepted then some counter else none
  linearization : row.enqueueLinearization.isSome = (row.outcome = .accepted : Bool)

/-- The next ordinal after a producer row. -/
def nextOrdinal (counter : UInt64) (row : ProducerRecord) : UInt64 :=
  counter + if row.outcome = .accepted then 1 else 0

/-- The accepted rows, each with its position, counted from this one on. -/
def acceptedFrom : Nat → List ProducerRecord → List (Nat × ProducerRecord)
  | _, [] => []
  | index, row :: rest =>
      (if row.outcome = .accepted then [(index, row)] else []) ++ acceptedFrom (index + 1) rest

/-- The collected rows are the accepted ones, in order. -/
theorem acceptedFrom_rows (rows : List ProducerRecord) (index : Nat) :
    (acceptedFrom index rows).map (·.2) = rows.filter (·.outcome = .accepted) := by
  induction rows generalizing index with
  | nil => rfl
  | cons row rest ih =>
      rw [acceptedFrom, List.map_append, ih, List.filter_cons]
      by_cases haccepted : row.outcome = .accepted
      · simp [haccepted]
      · simp [haccepted]

/-- Every collected row stands at its position. -/
theorem acceptedFrom_position {rows : List ProducerRecord} {index position : Nat}
    {row : ProducerRecord} (h : (position, row) ∈ acceptedFrom index rows) :
    ∃ k, position = index + k ∧ rows[k]? = some row := by
  induction rows generalizing index with
  | nil => cases h
  | cons first rest ih =>
      rw [acceptedFrom] at h
      rcases List.mem_append.mp h with hfirst | hrest
      · split at hfirst
        · obtain ⟨rfl, rfl⟩ := Prod.mk.inj (List.mem_singleton.mp hfirst)
          exact ⟨0, rfl, rfl⟩
        · cases hfirst
      · obtain ⟨k, hposition, hrow⟩ := ih hrest
        exact ⟨k + 1, by omega, hrow⟩

/-- A row that fits is collected if it was accepted, and leaves no issue. -/
theorem FitRow.audit {runId : RunId} {expectedRecordIndices : List UInt64} {index : Nat}
    {audit : ProducerAudit} {row : ProducerRecord}
    (h : FitRow runId expectedRecordIndices index audit.nextAccepted row) :
    (audit.row runId expectedRecordIndices index row).accepted =
        audit.accepted ++ (if row.outcome = .accepted then [(index, row)] else []) ∧
      (audit.row runId expectedRecordIndices index row).nextAccepted =
        nextOrdinal audit.nextAccepted row ∧
      (audit.row runId expectedRecordIndices index row).issues = audit.issues := by
  have hidentity : producerIdentityIssues runId expectedRecordIndices index row = [] := by
    simp [producerIdentityIssues, h.run, h.sequence, h.mapping]
  have hordinal := h.ordinal
  have hlinearization := h.linearization
  unfold ProducerAudit.row
  cases houtcome : row.outcome with
  | accepted =>
      rw [houtcome, if_pos rfl] at hordinal
      obtain ⟨sample, hsample⟩ : ∃ sample, row.enqueueLinearization = some sample := by
        simpa [houtcome, Option.isSome_iff_exists] using hlinearization
      simp [hordinal, hsample, hidentity, issueIf, nextOrdinal, houtcome]
  | full =>
      rw [houtcome, if_neg nofun] at hordinal
      have hnone : row.enqueueLinearization = none := by simpa [houtcome] using hlinearization
      simp [hordinal, hnone, hidentity, issueIf, nextOrdinal, houtcome]

/-- The loop over rows that fit collects the accepted ones and reports nothing. -/
theorem auditProducers_fit {runId : RunId} {expectedRecordIndices : List UInt64}
    {rows : List ProducerRecord} {index : Nat} {audit : ProducerAudit}
    (h : Chained (FitRow runId expectedRecordIndices) nextOrdinal index audit.nextAccepted rows) :
    (auditProducers runId expectedRecordIndices index audit rows).accepted =
        audit.accepted ++ acceptedFrom index rows ∧
      (auditProducers runId expectedRecordIndices index audit rows).issues = audit.issues := by
  induction rows generalizing index audit with
  | nil => exact ⟨(List.append_nil _).symm, rfl⟩
  | cons row rest ih =>
      obtain ⟨hfit, hrest⟩ := h
      obtain ⟨haccepted, hnext, hissues⟩ := hfit.audit
      rw [← hnext] at hrest
      obtain ⟨hcollected, hnone⟩ := ih hrest
      refine ⟨?_, ?_⟩
      · rw [auditProducers, hcollected, haccepted, acceptedFrom, List.append_assoc]
      · rw [auditProducers, hnone, hissues]

/-! ### Pairs -/

/-- The k-th consumer row and the k-th accepted row are of one event, in order of time. -/
structure Matches (runId : RunId) (k : Nat) (producer : ProducerRecord)
    (consumer : ConsumerRecord) (linearization : UInt64) : Prop where
  accepted : producer.outcome = .accepted
  linearized : producer.enqueueLinearization = some linearization
  producerRun : producer.runId = runId
  consumerRun : consumer.runId = runId
  position : consumer.consumedOrdinal.toNat = k
  ordinal : producer.acceptedOrdinal = some consumer.consumedOrdinal
  record : consumer.observedRecordIndex = producer.recordIndex
  producerOrder : nondecreasing [producer.scheduledArrival, producer.producerHandleBegin,
    producer.recordLookupCompletion, producer.enqueueInvocation, linearization,
    producer.enqueueAttemptCompletion] = true
  consumerOrder : nondecreasing [consumer.dequeueInvocation, consumer.dequeueLinearization,
    consumer.dequeueCompletion, consumer.consumerActionCompletion] = true
  queueOrder : linearization ≤ consumer.dequeueLinearization

namespace Matches

variable {runId : RunId} {k : Nat} {producer : ProducerRecord} {consumer : ConsumerRecord}
  {linearization : UInt64}

theorem consumerIssues (h : Matches runId k producer consumer linearization) :
    Reconciliation.consumerIssues runId k consumer producer = [] := by
  simp [Reconciliation.consumerIssues, h.consumerRun, h.position, h.ordinal, h.record]

/-- The joined row of a pair. -/
theorem derive (h : Matches runId k producer consumer linearization)
    (producerRowOrdinal consumerRowOrdinal : UInt64) :
    deriveJoinedRecord producer producerRowOrdinal consumer consumerRowOrdinal =
      .ok (joinedRecord producer linearization consumer.consumedOrdinal producerRowOrdinal
        consumer consumerRowOrdinal) := by
  have hproducer := h.producerOrder
  have hconsumer := h.consumerOrder
  have harrival : producer.scheduledArrival ≤ linearization := by
    simp only [nondecreasing_cons] at hproducer
    exact UInt64.le_trans hproducer.1 (UInt64.le_trans hproducer.2.1
      (UInt64.le_trans hproducer.2.2.1 hproducer.2.2.2.1))
  have haction : consumer.dequeueLinearization ≤ consumer.consumerActionCompletion := by
    simp only [nondecreasing_cons] at hconsumer
    exact UInt64.le_trans hconsumer.2.1 hconsumer.2.2.1
  have hadditive := additive_joinedRecord producer linearization consumer.consumedOrdinal
    producerRowOrdinal consumer consumerRowOrdinal harrival h.queueOrder haction
  unfold deriveJoinedRecord
  rw [h.accepted, h.linearized, h.ordinal]
  simp [h.producerRun, h.consumerRun, h.record, hproducer, hconsumer,
    UInt64.not_lt.mpr h.queueOrder, hadditive]

end Matches

/-- The pairs from this position on, with the rows derived from them. -/
inductive Joins (runId : RunId) :
    Nat → List (Nat × ProducerRecord) → List ConsumerRecord → List JoinedRecord → Prop where
  | nil (k : Nat) : Joins runId k [] [] []
  | cons {k position : Nat} {producer : ProducerRecord} {consumer : ConsumerRecord}
      {linearization : UInt64} {accepted : List (Nat × ProducerRecord)}
      {consumers : List ConsumerRecord} {joined : List JoinedRecord}
      (h : Matches runId k producer consumer linearization)
      (hrest : Joins runId (k + 1) accepted consumers joined) :
      Joins runId k ((position, producer) :: accepted) (consumer :: consumers)
        (joinedRecord producer linearization consumer.consumedOrdinal (.ofNat position) consumer
          (.ofNat k) :: joined)

namespace Joins

variable {runId : RunId} {k : Nat} {accepted : List (Nat × ProducerRecord)}
  {consumers : List ConsumerRecord} {joined : List JoinedRecord}

theorem lengths (h : Joins runId k accepted consumers joined) :
    consumers.length = accepted.length ∧ joined.length = accepted.length := by
  induction h with
  | nil => exact ⟨rfl, rfl⟩
  | cons _ _ ih =>
      obtain ⟨hconsumers, hjoined⟩ := ih
      exact ⟨by rw [List.length_cons, List.length_cons, hconsumers],
        by rw [List.length_cons, List.length_cons, hjoined]⟩

theorem auditPairs (h : Joins runId k accepted consumers joined) :
    Reconciliation.auditPairs runId k consumers accepted = [] := by
  induction h with
  | nil => rfl
  | cons hpair _ ih => rw [Reconciliation.auditPairs, hpair.consumerIssues, ih, List.append_nil]

theorem deriveRows (h : Joins runId k accepted consumers joined) :
    Reconciliation.deriveRows k accepted consumers = (joined, []) := by
  induction h with
  | nil => rfl
  | cons hpair _ ih =>
      rw [Reconciliation.deriveRows, ih]
      simp only [hpair.derive]

/-- The rows at one place of the three lists belong together. -/
theorem getElem? (h : Joins runId k accepted consumers joined) {i : Nat} {row : JoinedRecord}
    (hrow : joined[i]? = some row) :
    ∃ position producer consumer linearization, accepted[i]? = some (position, producer) ∧
      consumers[i]? = some consumer ∧ Matches runId (k + i) producer consumer linearization ∧
      row = joinedRecord producer linearization consumer.consumedOrdinal (.ofNat position) consumer
        (.ofNat (k + i)) := by
  induction h generalizing i with
  | nil => cases hrow
  | @cons k position producer consumer linearization accepted consumers joined hpair _ ih =>
      cases i with
      | zero =>
          obtain rfl := Option.some.inj hrow
          exact ⟨position, producer, consumer, linearization, rfl, rfl, hpair, rfl⟩
      | succ i =>
          obtain ⟨position', producer', consumer', linearization', ha, hc, hm, hr⟩ := ih hrow
          have hindex : k + 1 + i = k + (i + 1) := by omega
          rw [hindex] at hm hr
          exact ⟨position', producer', consumer', linearization', ha, hc, hm, hr⟩

end Joins

/-- **Rows that fit and pairs that match are joined without an issue.** -/
theorem reconcile_passes {runId : RunId} {rows : List ProducerRecord}
    {consumers : List ConsumerRecord} {expectedRecordIndices : List UInt64}
    {joined : List JoinedRecord}
    (hrows : Chained (FitRow runId expectedRecordIndices) nextOrdinal 0 0 rows)
    (hcount : rows.length = expectedRecordIndices.length)
    (hjoins : Joins runId 0 (acceptedFrom 0 rows) consumers joined) :
    (reconcile runId rows consumers expectedRecordIndices).status = .passed ∧
      (reconcile runId rows consumers expectedRecordIndices).issues = [] ∧
      (reconcile runId rows consumers expectedRecordIndices).joinedRows = joined := by
  have hnone : issueIf (rows.length ≠ expectedRecordIndices.length : Bool) .producerCount
      .referenceMismatch "$reconciliation/producer_rows" "REC-PRODUCER-MAPPING-COUNT"
      "producer row count differs from the immutable record-index mapping" = [] := by
    simp [hcount]
  obtain ⟨haccepted, hissues⟩ :=
    @auditProducers_fit runId expectedRecordIndices rows 0 { issues := [] } hrows
  unfold reconcile
  simp only [hnone]
  simp only [haccepted, hissues, List.nil_append, hjoins.lengths.1, hjoins.auditPairs,
    hjoins.deriveRows]
  simp [issueIf]

end CpuPrefetch.Reconciliation
