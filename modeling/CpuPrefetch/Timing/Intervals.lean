/-
`derive_joined_record`: the latency fields of one accepted event.
-/
import CpuPrefetch.Protocol.Model

namespace CpuPrefetch.Timing

open Protocol (ProducerRecord ConsumerRecord JoinedRecord Result)

def deriveFailure (ruleId message : String) : Result JoinedRecord :=
  .error [⟨.crossField, "$joined", ruleId, message⟩]

/-- No value is below the one before it. -/
def nondecreasing : List UInt64 → Bool
  | [] => true
  | [_] => true
  | previous :: current :: rest =>
      if current < previous then false else nondecreasing (current :: rest)

theorem nondecreasing_cons {x y : UInt64} {rest : List UInt64} :
    nondecreasing (x :: y :: rest) = true ↔ x ≤ y ∧ nondecreasing (y :: rest) = true := by
  rw [nondecreasing]
  by_cases h : y < x
  · simp [h, UInt64.not_le.mpr h]
  · simp [h, UInt64.not_lt.mp h]

/-- The row, once its identities and the order of its timestamps have been checked. -/
def joinedRecord (producer : ProducerRecord) (enqueueLinearization acceptedOrdinal : UInt64)
    (producerRowOrdinal : UInt64) (consumer : ConsumerRecord) (consumerRowOrdinal : UInt64) :
    JoinedRecord where
  runId := producer.runId
  acceptedOrdinal := acceptedOrdinal
  logicalSequence := producer.logicalSequence
  recordIndex := producer.recordIndex
  producerRowOrdinal := producerRowOrdinal
  consumerRowOrdinal := consumerRowOrdinal
  scheduledArrival := producer.scheduledArrival
  producerHandleBegin := producer.producerHandleBegin
  recordLookupCompletion := producer.recordLookupCompletion
  enqueueInvocation := producer.enqueueInvocation
  enqueueLinearization := enqueueLinearization
  enqueueAttemptCompletion := producer.enqueueAttemptCompletion
  dequeueInvocation := consumer.dequeueInvocation
  dequeueLinearization := consumer.dequeueLinearization
  dequeueCompletion := consumer.dequeueCompletion
  consumerActionCompletion := consumer.consumerActionCompletion
  producerLateness := producer.producerHandleBegin - producer.scheduledArrival
  pointerLookupInterval := producer.recordLookupCompletion - producer.producerHandleBegin
  enqueueServiceTime := producer.enqueueAttemptCompletion - producer.enqueueInvocation
  admissionDelay := enqueueLinearization - producer.scheduledArrival
  queueResidence := consumer.dequeueLinearization - enqueueLinearization
  dequeueServiceTime := consumer.dequeueCompletion - consumer.dequeueInvocation
  postDequeueDeliveryInterval := consumer.consumerActionCompletion - consumer.dequeueLinearization
  consumerActionInterval := consumer.consumerActionCompletion - consumer.dequeueCompletion
  endToEndLatency := consumer.consumerActionCompletion - producer.scheduledArrival

/-- The additive components of a row make up its end-to-end latency. -/
def additive (row : JoinedRecord) : Bool :=
  !(row.admissionDelay > row.endToEndLatency ||
    row.queueResidence > row.endToEndLatency - row.admissionDelay ||
    row.postDequeueDeliveryInterval ≠
      row.endToEndLatency - row.admissionDelay - row.queueResidence)

def deriveJoinedRecord (producer : ProducerRecord) (producerRowOrdinal : UInt64)
    (consumer : ConsumerRecord) (consumerRowOrdinal : UInt64) : Result JoinedRecord :=
  match producer.outcome, producer.enqueueLinearization, producer.acceptedOrdinal with
  | .accepted, some enqueueLinearization, some acceptedOrdinal =>
      if producer.runId ≠ consumer.runId || acceptedOrdinal ≠ consumer.consumedOrdinal ||
          producer.recordIndex ≠ consumer.observedRecordIndex then
        deriveFailure "TIM-DERIVE-IDENTITY"
          "run identity, accepted ordinal, and record index must match"
      else if !nondecreasing [producer.scheduledArrival, producer.producerHandleBegin,
            producer.recordLookupCompletion, producer.enqueueInvocation, enqueueLinearization,
            producer.enqueueAttemptCompletion] ||
          !nondecreasing [consumer.dequeueInvocation, consumer.dequeueLinearization,
            consumer.dequeueCompletion, consumer.consumerActionCompletion] ||
          consumer.dequeueLinearization < enqueueLinearization then
        deriveFailure "TIM-DERIVE-ORDER"
          "timestamp boundaries violate their required partial order"
      else
        let joined := joinedRecord producer enqueueLinearization acceptedOrdinal
          producerRowOrdinal consumer consumerRowOrdinal
        if additive joined then .ok joined
        else
          deriveFailure "TIM-DERIVE-ADDITIVE"
            "additive end-to-end components do not reconcile exactly"
  | _, _, _ =>
      deriveFailure "TIM-DERIVE-ACCEPTED-ONLY"
        "only a complete ACCEPTED producer row has latency fields"

/-- Timestamps in order always add up: the additive check never fails. -/
theorem additive_joinedRecord (producer : ProducerRecord)
    (enqueueLinearization acceptedOrdinal : UInt64)
    (producerRowOrdinal : UInt64) (consumer : ConsumerRecord) (consumerRowOrdinal : UInt64)
    (harrival : producer.scheduledArrival ≤ enqueueLinearization)
    (hqueue : enqueueLinearization ≤ consumer.dequeueLinearization)
    (haction : consumer.dequeueLinearization ≤ consumer.consumerActionCompletion) :
    additive (joinedRecord producer enqueueLinearization acceptedOrdinal producerRowOrdinal consumer
      consumerRowOrdinal) = true := by
  have hdelivered := UInt64.le_trans hqueue haction
  have hlatency := UInt64.le_trans harrival hdelivered
  have hdequeued := UInt64.le_trans harrival hqueue
  rw [UInt64.le_iff_toNat_le] at *
  have hadmission := UInt64.toNat_sub_of_le _ _ (UInt64.le_iff_toNat_le.mpr harrival)
  have hresidence := UInt64.toNat_sub_of_le _ _ (UInt64.le_iff_toNat_le.mpr hqueue)
  have hdelivery := UInt64.toNat_sub_of_le _ _ (UInt64.le_iff_toNat_le.mpr haction)
  have htotal := UInt64.toNat_sub_of_le _ _ (UInt64.le_iff_toNat_le.mpr hlatency)
  have hfirst : enqueueLinearization - producer.scheduledArrival ≤
      consumer.consumerActionCompletion - producer.scheduledArrival := by
    rw [UInt64.le_iff_toNat_le, hadmission, htotal]
    omega
  have hrest := UInt64.toNat_sub_of_le _ _ hfirst
  have hsecond : consumer.dequeueLinearization - enqueueLinearization ≤
      consumer.consumerActionCompletion - producer.scheduledArrival -
        (enqueueLinearization - producer.scheduledArrival) := by
    rw [UInt64.le_iff_toNat_le, hrest, hresidence, hadmission, htotal]
    omega
  have hlast := UInt64.toNat_sub_of_le _ _ hsecond
  have hequal : consumer.consumerActionCompletion - consumer.dequeueLinearization =
      consumer.consumerActionCompletion - producer.scheduledArrival -
        (enqueueLinearization - producer.scheduledArrival) -
        (consumer.dequeueLinearization - enqueueLinearization) := by
    apply UInt64.toNat_inj.mp
    rw [hlast, hrest, hdelivery, hresidence, hadmission, htotal]
    omega
  simp only [additive, joinedRecord, hequal, gt_iff_lt, UInt64.not_lt.mpr hfirst, decide_false,
    UInt64.not_lt.mpr hsecond, Bool.or_self, ne_eq, not_true_eq_false, Bool.not_false]

end CpuPrefetch.Timing
