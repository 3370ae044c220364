/-
`reconcile`: the exact join of a producer stream and a consumer stream.

The audit walks the producer rows, collects the accepted ones, and pairs the k-th of
them with the k-th consumer row.  Latency fields are derived only when the audit has
found nothing.
-/
import CpuPrefetch.Timing.Intervals

namespace CpuPrefetch.Reconciliation

open Protocol (RunId ProducerRecord ConsumerRecord JoinedRecord JoinStatus ErrorCategory
  ValidationError)
open Timing (deriveJoinedRecord)

inductive FailureClass where
  | producerCount
  | producerRunIdentity
  | producerLogicalSequence
  | producerRecordMapping
  | producerOutcomeShape
  | acceptedOrdinal
  | consumerCount
  | consumerRunIdentity
  | consumerOrdinal
  | consumerRecordIndex
  | timestampOrder
  deriving DecidableEq, Repr

structure Issue where
  failure : FailureClass
  error : ValidationError
  deriving DecidableEq, Repr

structure ReconciliationResult where
  status : JoinStatus := .notAttempted
  producerRows : UInt64 := 0
  acceptedRows : UInt64 := 0
  fullRows : UInt64 := 0
  consumerRows : UInt64 := 0
  joinedRows : List JoinedRecord := []
  issues : List Issue := []
  deriving DecidableEq

/-- `issue`: reported when the condition is met. -/
def issueIf (broken : Bool) (failure : FailureClass) (category : ErrorCategory)
    (path rule message : String) : List Issue :=
  if broken then [⟨failure, ⟨category, path, rule, message⟩⟩] else []

@[simp] theorem issueIf_eq_nil {broken : Bool} {failure : FailureClass} {category : ErrorCategory}
    {path rule message : String} :
    issueIf broken failure category path rule message = [] ↔ broken = false := by
  unfold issueIf
  split <;> simp_all

/-! ### The producer rows -/

def producerPath (index : Nat) : String := "$reconciliation/producer/" ++ toString index

/-- The loop over the producer rows: what it has collected, counted and reported. -/
structure ProducerAudit where
  /-- The accepted rows, each with its position in the stream. -/
  accepted : List (Nat × ProducerRecord) := []
  nextAccepted : UInt64 := 0
  fullRows : UInt64 := 0
  issues : List Issue := []
  deriving DecidableEq

/-- The identities every producer row must have. -/
def producerIdentityIssues (runId : RunId) (expectedRecordIndices : List UInt64) (index : Nat)
    (row : ProducerRecord) : List Issue :=
  issueIf (row.runId ≠ runId) .producerRunIdentity .referenceMismatch
    (producerPath index ++ "/run_id") "REC-PRODUCER-RUN-ID"
    "producer row run identity differs from the reconciled run" ++
  issueIf (row.logicalSequence.toNat ≠ index) .producerLogicalSequence .crossField
    (producerPath index ++ "/logical_sequence") "REC-LOGICAL-SEQUENCE"
    "producer logical sequence must be contiguous in stream order" ++
  issueIf (expectedRecordIndices[index]?.any (· ≠ row.recordIndex)) .producerRecordMapping
    .referenceMismatch (producerPath index ++ "/record_index") "REC-RECORD-MAPPING"
    "record index disagrees with the outcome-independent Stage 6 mapping"

/-- One producer row. -/
def ProducerAudit.row (runId : RunId) (expectedRecordIndices : List UInt64) (index : Nat)
    (audit : ProducerAudit) (row : ProducerRecord) : ProducerAudit :=
  let issues := audit.issues ++ producerIdentityIssues runId expectedRecordIndices index row
  match row.outcome, row.acceptedOrdinal, row.enqueueLinearization with
  | .accepted, some ordinal, some _ =>
      { audit with
        accepted := audit.accepted ++ [(index, row)]
        nextAccepted := audit.nextAccepted + 1
        issues := issues ++
          issueIf (ordinal ≠ audit.nextAccepted) .acceptedOrdinal .crossField
            (producerPath index ++ "/accepted_ordinal") "REC-ACCEPTED-ORDINAL"
            "accepted ordinals must be contiguous in producer logical order" }
  | .accepted, _, _ =>
      { audit with
        issues := issues ++
          [⟨.producerOutcomeShape, ⟨.missingField, producerPath index, "REC-ACCEPTED-SHAPE",
            "ACCEPTED requires accepted ordinal and enqueue linearization"⟩⟩] }
  | .full, ordinal, linearization =>
      { audit with
        fullRows := audit.fullRows + 1
        issues := issues ++
          issueIf (ordinal.isSome || linearization.isSome) .producerOutcomeShape .crossField
            (producerPath index) "REC-FULL-SHAPE"
            "FULL cannot contain accepted ordinal or enqueue linearization" }

/-- The loop over the producer rows from this index on. -/
def auditProducers (runId : RunId) (expectedRecordIndices : List UInt64) :
    Nat → ProducerAudit → List ProducerRecord → ProducerAudit
  | _, audit, [] => audit
  | index, audit, row :: rest =>
      auditProducers runId expectedRecordIndices (index + 1)
        (audit.row runId expectedRecordIndices index row) rest

/-! ### The consumer rows -/

def consumerPath (index : Nat) : String := "$reconciliation/consumer/" ++ toString index

/-- The k-th consumer row against the k-th accepted producer row. -/
def consumerIssues (runId : RunId) (index : Nat) (consumer : ConsumerRecord)
    (producer : ProducerRecord) : List Issue :=
  issueIf (consumer.runId ≠ runId) .consumerRunIdentity .referenceMismatch
    (consumerPath index ++ "/run_id") "REC-CONSUMER-RUN-ID"
    "consumer row run identity differs from the reconciled run" ++
  issueIf (consumer.consumedOrdinal.toNat ≠ index ||
      producer.acceptedOrdinal ≠ some consumer.consumedOrdinal) .consumerOrdinal .crossField
    (consumerPath index ++ "/consumed_ordinal") "REC-KTH-ORDINAL"
    "the k-th consumer row must match the k-th accepted producer row" ++
  issueIf (consumer.observedRecordIndex ≠ producer.recordIndex) .consumerRecordIndex
    .referenceMismatch (consumerPath index ++ "/observed_record_index") "REC-KTH-RECORD-INDEX"
    "consumer record index must match its accepted producer event"

/-- The loop over the pairs from this index on. -/
def auditPairs (runId : RunId) :
    Nat → List ConsumerRecord → List (Nat × ProducerRecord) → List Issue
  | index, consumer :: consumers, (_, producer) :: accepted =>
      consumerIssues runId index consumer producer ++
        auditPairs runId (index + 1) consumers accepted
  | _, _, _ => []

/-- The loop that derives the joined rows, with the issues it meets. -/
def deriveRows : Nat → List (Nat × ProducerRecord) → List ConsumerRecord →
    List JoinedRecord × List Issue
  | index, (ordinal, producer) :: accepted, consumer :: consumers =>
      let (joined, issues) := deriveRows (index + 1) accepted consumers
      match deriveJoinedRecord producer (.ofNat ordinal) consumer (.ofNat index) with
      | .ok row => (row :: joined, issues)
      | .error errors => (joined, errors.map (⟨.timestampOrder, ·⟩) ++ issues)
  | _, _, _ => ([], [])

/-! ### The join -/

def reconcile (runId : RunId) (producerRows : List ProducerRecord)
    (consumerRows : List ConsumerRecord) (expectedRecordIndices : List UInt64) :
    ReconciliationResult :=
  let audit := auditProducers runId expectedRecordIndices 0
    { issues := issueIf (producerRows.length ≠ expectedRecordIndices.length) .producerCount
        .referenceMismatch "$reconciliation/producer_rows" "REC-PRODUCER-MAPPING-COUNT"
        "producer row count differs from the immutable record-index mapping" }
    producerRows
  let issues := audit.issues ++
    issueIf (consumerRows.length ≠ audit.accepted.length) .consumerCount .crossField
      "$reconciliation/consumer_rows" "REC-CONSUMER-COUNT"
      "consumer count must equal the accepted producer count" ++
    auditPairs runId 0 consumerRows audit.accepted
  let result : ReconciliationResult :=
    { status := .failed
      producerRows := .ofNat producerRows.length
      acceptedRows := .ofNat audit.accepted.length
      fullRows := audit.fullRows
      consumerRows := .ofNat consumerRows.length
      issues := issues }
  if !issues.isEmpty then result
  else
    let (joined, orderIssues) := deriveRows 0 audit.accepted consumerRows
    if !orderIssues.isEmpty then { result with issues := orderIssues }
    else { result with status := .passed, joinedRows := joined }

end CpuPrefetch.Reconciliation
