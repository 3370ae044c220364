/-
The intervals of a joined row, derived and validated.

`derive_joined_record` walks two lists of timestamps and compares neighbours;
`validate_joined` compares the fields of a row one pair at a time.  Both ask for the
same order of the same ten boundaries, and in that order an interval is the difference
of two integers.  So an interval is right exactly when it and the boundary it starts at
add up to the one it ends at, which is the form both are compared in here.
-/
import CpuPrefetch.Protocol.Semantic
import CpuPrefetch.Timing.Intervals

namespace CpuPrefetch.Timing

open Protocol
open Protocol (RunId ProducerRecord ConsumerRecord JoinedRecord validateJoined)

/-! ### Boundaries in order -/

/--
The order of the boundaries of one event: the producer's, the consumer's, and the one the
queue gives.  The end of the enqueue attempt may fall anywhere among the consumer's.
-/
structure BoundaryOrder (scheduledArrival producerHandleBegin recordLookupCompletion
    enqueueInvocation enqueueLinearization enqueueAttemptCompletion dequeueInvocation
    dequeueLinearization dequeueCompletion consumerActionCompletion : UInt64) : Prop where
  arrival : scheduledArrival ≤ producerHandleBegin
  handled : producerHandleBegin ≤ recordLookupCompletion
  lookedUp : recordLookupCompletion ≤ enqueueInvocation
  invoked : enqueueInvocation ≤ enqueueLinearization
  attempted : enqueueLinearization ≤ enqueueAttemptCompletion
  polled : dequeueInvocation ≤ dequeueLinearization
  dequeued : dequeueLinearization ≤ dequeueCompletion
  acted : dequeueCompletion ≤ consumerActionCompletion
  queued : enqueueLinearization ≤ dequeueLinearization

/-- The boundaries of a joined row are in order. -/
def InOrder (row : JoinedRecord) : Prop :=
  BoundaryOrder row.scheduledArrival row.producerHandleBegin row.recordLookupCompletion
    row.enqueueInvocation row.enqueueLinearization row.enqueueAttemptCompletion
    row.dequeueInvocation row.dequeueLinearization row.dequeueCompletion
    row.consumerActionCompletion

/-- Each of the nine intervals leads from its first boundary to its last one, as integers. -/
structure ExactIntervals (row : JoinedRecord) : Prop where
  lateness : row.scheduledArrival.toNat + row.producerLateness.toNat = row.producerHandleBegin.toNat
  lookup : row.producerHandleBegin.toNat + row.pointerLookupInterval.toNat =
    row.recordLookupCompletion.toNat
  enqueue : row.enqueueInvocation.toNat + row.enqueueServiceTime.toNat =
    row.enqueueAttemptCompletion.toNat
  admission : row.scheduledArrival.toNat + row.admissionDelay.toNat =
    row.enqueueLinearization.toNat
  residence : row.enqueueLinearization.toNat + row.queueResidence.toNat =
    row.dequeueLinearization.toNat
  dequeue : row.dequeueInvocation.toNat + row.dequeueServiceTime.toNat =
    row.dequeueCompletion.toNat
  delivery : row.dequeueLinearization.toNat + row.postDequeueDeliveryInterval.toNat =
    row.consumerActionCompletion.toNat
  action : row.dequeueCompletion.toNat + row.consumerActionInterval.toNat =
    row.consumerActionCompletion.toNat
  endToEnd : row.scheduledArrival.toNat + row.endToEndLatency.toNat =
    row.consumerActionCompletion.toNat

/-- A difference that does not wrap is the one number that leads from start to finish. -/
theorem eq_sub_iff {first last interval : UInt64} (h : first ≤ last) :
    interval = last - first ↔ first.toNat + interval.toNat = last.toNat := by
  have hle := UInt64.le_iff_toNat_le.mp h
  rw [← UInt64.toNat_inj, UInt64.toNat_sub_of_le _ _ h]
  omega

namespace BoundaryOrder

variable {a b c u p r v q d f : UInt64}

/-- The two lists and the one comparison of `derive_joined_record` are the nine pairs. -/
theorem of_lists (hproducer : nondecreasing [a, b, c, u, p, r] = true)
    (hconsumer : nondecreasing [v, q, d, f] = true) (hqueue : p ≤ q) :
    BoundaryOrder a b c u p r v q d f := by
  simp only [nondecreasing_cons] at hproducer hconsumer
  obtain ⟨hab, hbc, hcu, hup, hpr, -⟩ := hproducer
  obtain ⟨hvq, hqd, hdf, -⟩ := hconsumer
  exact ⟨hab, hbc, hcu, hup, hpr, hvq, hqd, hdf, hqueue⟩

theorem lists (h : BoundaryOrder a b c u p r v q d f) :
    nondecreasing [a, b, c, u, p, r] = true ∧ nondecreasing [v, q, d, f] = true := by
  simp only [nondecreasing_cons]
  exact ⟨⟨h.arrival, h.handled, h.lookedUp, h.invoked, h.attempted, rfl⟩,
    h.polled, h.dequeued, h.acted, rfl⟩

theorem admitted (h : BoundaryOrder a b c u p r v q d f) : a ≤ p :=
  UInt64.le_trans h.arrival (UInt64.le_trans h.handled (UInt64.le_trans h.lookedUp h.invoked))

theorem delivered (h : BoundaryOrder a b c u p r v q d f) : q ≤ f :=
  UInt64.le_trans h.dequeued h.acted

end BoundaryOrder

/-! ### Deriving -/

/-- What `derive_joined_record` asks of two rows; `linearization` is when the event was queued. -/
structure Derivable (producer : ProducerRecord) (consumer : ConsumerRecord)
    (linearization : UInt64) : Prop where
  accepted : producer.outcome = .accepted
  linearized : producer.enqueueLinearization = some linearization
  ordinal : producer.acceptedOrdinal = some consumer.consumedOrdinal
  run : producer.runId = consumer.runId
  record : producer.recordIndex = consumer.observedRecordIndex
  order : BoundaryOrder producer.scheduledArrival producer.producerHandleBegin
    producer.recordLookupCompletion producer.enqueueInvocation linearization
    producer.enqueueAttemptCompletion consumer.dequeueInvocation consumer.dequeueLinearization
    consumer.dequeueCompletion consumer.consumerActionCompletion

variable {row : JoinedRecord}

section Derive

variable {producer : ProducerRecord} {consumer : ConsumerRecord} {linearization : UInt64}
  (producerRowOrdinal consumerRowOrdinal : UInt64)

theorem Derivable.derive (h : Derivable producer consumer linearization) :
    deriveJoinedRecord producer producerRowOrdinal consumer consumerRowOrdinal =
      .ok (joinedRecord producer linearization consumer.consumedOrdinal producerRowOrdinal
        consumer consumerRowOrdinal) := by
  have hadditive := additive_joinedRecord producer linearization consumer.consumedOrdinal
    producerRowOrdinal consumer consumerRowOrdinal h.order.admitted h.order.queued
    h.order.delivered
  unfold deriveJoinedRecord
  rw [h.accepted, h.linearized, h.ordinal]
  simp [h.run, h.record, h.order.lists, UInt64.not_lt.mpr h.order.queued, hadditive]

/-- A derivation that is not possible fails before the components are added up. -/
theorem derive_error (h : ∀ linearization, ¬Derivable producer consumer linearization) :
    ∃ error, deriveJoinedRecord producer producerRowOrdinal consumer consumerRowOrdinal =
      .error [error] ∧ error.ruleId ≠ "TIM-DERIVE-ADDITIVE" := by
  unfold deriveJoinedRecord
  split
  · rename_i linearization ordinal haccepted hlinearized hordinal
    split
    · exact ⟨_, rfl, by decide⟩
    · rename_i hidentity
      split
      · exact ⟨_, rfl, by decide⟩
      · rename_i horder
        simp only [Bool.or_eq_true, decide_eq_true_eq, ne_eq, not_or, not_not,
          Bool.not_eq_true', Bool.not_eq_false, UInt64.not_lt] at hidentity horder
        obtain ⟨⟨hrun, rfl⟩, hrecord⟩ := hidentity
        obtain ⟨⟨hproducer, hconsumer⟩, hqueue⟩ := horder
        exact absurd ⟨haccepted, hlinearized, hordinal, hrun, hrecord,
          .of_lists hproducer hconsumer hqueue⟩ (h linearization)
  · exact ⟨_, rfl, by decide⟩

/-- A row is derived from two rows exactly when they are an event's, and it is their row. -/
theorem derive_ok_iff :
    deriveJoinedRecord producer producerRowOrdinal consumer consumerRowOrdinal = .ok row ↔
      ∃ linearization, Derivable producer consumer linearization ∧
        row = joinedRecord producer linearization consumer.consumedOrdinal producerRowOrdinal
          consumer consumerRowOrdinal := by
  constructor
  · intro h
    by_cases hpossible : ∃ linearization, Derivable producer consumer linearization
    · obtain ⟨linearization, hderivable⟩ := hpossible
      rw [hderivable.derive] at h
      exact ⟨linearization, hderivable, (Except.ok.inj h).symm⟩
    · obtain ⟨error, herror, -⟩ := derive_error producerRowOrdinal consumerRowOrdinal
        (not_exists.mp hpossible)
      rw [herror] at h
      cases h
  · rintro ⟨linearization, hderivable, rfl⟩
    exact hderivable.derive producerRowOrdinal consumerRowOrdinal

end Derive

/-! ### Validating -/

/-- The nine equations of `validate_joined`. -/
def Subtracted (row : JoinedRecord) : Prop :=
  row.producerLateness = row.producerHandleBegin - row.scheduledArrival ∧
  row.pointerLookupInterval = row.recordLookupCompletion - row.producerHandleBegin ∧
  row.enqueueServiceTime = row.enqueueAttemptCompletion - row.enqueueInvocation ∧
  row.admissionDelay = row.enqueueLinearization - row.scheduledArrival ∧
  row.queueResidence = row.dequeueLinearization - row.enqueueLinearization ∧
  row.dequeueServiceTime = row.dequeueCompletion - row.dequeueInvocation ∧
  row.postDequeueDeliveryInterval = row.consumerActionCompletion - row.dequeueLinearization ∧
  row.consumerActionInterval = row.consumerActionCompletion - row.dequeueCompletion ∧
  row.endToEndLatency = row.consumerActionCompletion - row.scheduledArrival

/-- In order, no difference wraps: the equations are exact. -/
theorem subtracted_iff (h : InOrder row) : Subtracted row ↔ ExactIntervals row := by
  have hlateness := @eq_sub_iff _ _ row.producerLateness h.arrival
  have hlookup := @eq_sub_iff _ _ row.pointerLookupInterval h.handled
  have henqueue := @eq_sub_iff _ _ row.enqueueServiceTime (UInt64.le_trans h.invoked h.attempted)
  have hadmission := @eq_sub_iff _ _ row.admissionDelay h.admitted
  have hresidence := @eq_sub_iff _ _ row.queueResidence h.queued
  have hdequeue := @eq_sub_iff _ _ row.dequeueServiceTime (UInt64.le_trans h.polled h.dequeued)
  have hdelivery := @eq_sub_iff _ _ row.postDequeueDeliveryInterval h.delivered
  have haction := @eq_sub_iff _ _ row.consumerActionInterval h.acted
  have htotal := @eq_sub_iff _ _ row.endToEndLatency
    (UInt64.le_trans h.admitted (UInt64.le_trans h.queued h.delivered))
  unfold Subtracted
  rw [hlateness, hlookup, henqueue, hadmission, hresidence, hdequeue, hdelivery, haction, htotal]
  constructor
  · rintro ⟨h1, h2, h3, h4, h5, h6, h7, h8, h9⟩
    exact ⟨h1, h2, h3, h4, h5, h6, h7, h8, h9⟩
  · intro h
    exact ⟨h.lateness, h.lookup, h.enqueue, h.admission, h.residence, h.dequeue, h.delivery,
      h.action, h.endToEnd⟩

theorem checkedAdd_eq {left right sum : UInt64} (h : left.toNat + right.toNat = sum.toNat) :
    checkedAdd left right = some sum := by
  have hsum := sum.toNat_lt
  rw [checkedAdd, if_neg (by omega), Option.some.injEq, ← UInt64.toNat_inj,
    UInt64.toNat_add, h, Nat.mod_eq_of_lt hsum]

/-- Exact intervals add up without overflow. -/
theorem ExactIntervals.additive (horder : InOrder row) (h : ExactIntervals row) :
    additiveLatency row = true := by
  have hwaited := UInt64.le_trans horder.admitted horder.queued
  have hadmission := h.admission
  have hresidence := h.residence
  have hdelivery := h.delivery
  have htotal := h.endToEnd
  have hpartial : row.admissionDelay.toNat + row.queueResidence.toNat =
      (row.dequeueLinearization - row.scheduledArrival).toNat := by
    rw [UInt64.toNat_sub_of_le _ _ hwaited]
    omega
  have hsum : (row.dequeueLinearization - row.scheduledArrival).toNat +
      row.postDequeueDeliveryInterval.toNat = row.endToEndLatency.toNat := by
    rw [← hpartial]
    omega
  rw [additiveLatency, checkedAdd_eq hpartial]
  simp only [checkedAdd_eq hsum, decide_true]

/-- **A joined row is accepted exactly when it is in order and its intervals are exact.** -/
theorem validateJoined_iff {runId : RunId} {path : String} :
    validateJoined row runId path = [] ↔ row.runId = runId ∧ InOrder row ∧ ExactIntervals row := by
  rw [validateJoined, List.append_eq_nil_iff, require_eq_nil, decide_eq_true_eq]
  refine and_congr_right fun _ => ?_
  split
  · rename_i horder
    simp only [Bool.and_eq_true, decide_eq_true_eq] at horder
    obtain ⟨⟨⟨⟨⟨⟨⟨⟨hab, hbc⟩, hcu⟩, hup⟩, hpr⟩, hvq⟩, hqd⟩, hdf⟩, hpq⟩ := horder
    have hin : InOrder row := ⟨hab, hbc, hcu, hup, hpr, hvq, hqd, hdf, hpq⟩
    have hequations : intervalErrors row path = [] ↔
        Subtracted row ∧ additiveLatency row = true := by
      simp only [intervalErrors, expectInterval, List.append_eq_nil_iff,
        require_eq_nil, decide_eq_true_eq, Subtracted, and_assoc]
    rw [hequations, subtracted_iff hin]
    exact ⟨fun h => ⟨hin, h.1⟩, fun h => ⟨h.2, h.2.additive hin⟩⟩
  · rename_i horder
    refine ⟨fun h => absurd h (by simp), fun h => absurd ?_ horder⟩
    simp only [Bool.and_eq_true, decide_eq_true_eq]
    exact ⟨⟨⟨⟨⟨⟨⟨⟨h.1.arrival, h.1.handled⟩, h.1.lookedUp⟩, h.1.invoked⟩, h.1.attempted⟩,
      h.1.polled⟩, h.1.dequeued⟩, h.1.acted⟩, h.1.queued⟩

/-! ### Agreement -/

/-- The producer's half of a joined row. -/
def producerHalf (row : JoinedRecord) : ProducerRecord where
  runId := row.runId
  logicalSequence := row.logicalSequence
  recordIndex := row.recordIndex
  scheduledArrival := row.scheduledArrival
  producerHandleBegin := row.producerHandleBegin
  recordLookupCompletion := row.recordLookupCompletion
  enqueueInvocation := row.enqueueInvocation
  enqueueLinearization := some row.enqueueLinearization
  enqueueAttemptCompletion := row.enqueueAttemptCompletion
  outcome := .accepted
  acceptedOrdinal := some row.acceptedOrdinal

/-- The consumer's half of a joined row. -/
def consumerHalf (row : JoinedRecord) : ConsumerRecord where
  runId := row.runId
  consumedOrdinal := row.acceptedOrdinal
  observedRecordIndex := row.recordIndex
  dequeueInvocation := row.dequeueInvocation
  dequeueLinearization := row.dequeueLinearization
  dequeueCompletion := row.dequeueCompletion
  consumerActionCompletion := row.consumerActionCompletion

theorem Derivable.exactIntervals {producer : ProducerRecord} {consumer : ConsumerRecord}
    {linearization : UInt64} (h : Derivable producer consumer linearization)
    (producerRowOrdinal consumerRowOrdinal : UInt64) :
    ExactIntervals (joinedRecord producer linearization consumer.consumedOrdinal
      producerRowOrdinal consumer consumerRowOrdinal) := by
  have horder : InOrder (joinedRecord producer linearization consumer.consumedOrdinal
      producerRowOrdinal consumer consumerRowOrdinal) := h.order
  exact (subtracted_iff horder).mp ⟨rfl, rfl, rfl, rfl, rfl, rfl, rfl, rfl, rfl⟩

/-- A row whose intervals are exact is the one that its own halves derive. -/
theorem derive_halves (horder : InOrder row) (h : ExactIntervals row) :
    deriveJoinedRecord (producerHalf row) row.producerRowOrdinal (consumerHalf row)
      row.consumerRowOrdinal = .ok row := by
  have hderivable : Derivable (producerHalf row) (consumerHalf row) row.enqueueLinearization :=
    ⟨rfl, rfl, rfl, rfl, rfl, horder⟩
  rw [hderivable.derive]
  obtain ⟨h1, h2, h3, h4, h5, h6, h7, h8, h9⟩ := (subtracted_iff horder).mpr h
  congr 1
  simp only [joinedRecord, producerHalf, consumerHalf, ← h1, ← h2, ← h3, ← h4, ← h5, ← h6, ← h7,
    ← h8, ← h9]

/--
**Derivation and validation agree.**  Two rows derive a joined row exactly when they are an
event's rows in order, never failing in the sum; what is derived is exact and accepted; and
an accepted row has the intervals that its own timestamps derive.
-/
theorem intervals_agree :
    (∀ (producer : ProducerRecord) (consumer : ConsumerRecord)
        (producerRowOrdinal consumerRowOrdinal : UInt64),
      ((∃ row, deriveJoinedRecord producer producerRowOrdinal consumer consumerRowOrdinal =
          .ok row) ↔ ∃ linearization, Derivable producer consumer linearization) ∧
      (∀ errors, deriveJoinedRecord producer producerRowOrdinal consumer consumerRowOrdinal =
        .error errors → ∀ error ∈ errors, error.ruleId ≠ "TIM-DERIVE-ADDITIVE") ∧
      ∀ row, deriveJoinedRecord producer producerRowOrdinal consumer consumerRowOrdinal =
        .ok row → ExactIntervals row ∧ ∀ path, validateJoined row producer.runId path = []) ∧
    ∀ (row : JoinedRecord) (runId : RunId) (path : String),
      validateJoined row runId path = [] →
        ExactIntervals row ∧
          deriveJoinedRecord (producerHalf row) row.producerRowOrdinal (consumerHalf row)
            row.consumerRowOrdinal = .ok row := by
  refine ⟨fun producer consumer producerRowOrdinal consumerRowOrdinal => ⟨?_, ?_, ?_⟩, ?_⟩
  · constructor
    · rintro ⟨row, h⟩
      obtain ⟨linearization, hderivable, -⟩ := (derive_ok_iff _ _).mp h
      exact ⟨linearization, hderivable⟩
    · rintro ⟨linearization, hderivable⟩
      exact ⟨_, hderivable.derive producerRowOrdinal consumerRowOrdinal⟩
  · intro errors h error herror
    have hnone : ∀ linearization, ¬Derivable producer consumer linearization := by
      intro linearization hderivable
      rw [hderivable.derive] at h
      cases h
    obtain ⟨only, honly, hrule⟩ := derive_error producerRowOrdinal consumerRowOrdinal hnone
    rw [honly] at h
    obtain rfl := Except.error.inj h
    rw [List.mem_singleton.mp herror]
    exact hrule
  · intro row h
    obtain ⟨linearization, hderivable, rfl⟩ := (derive_ok_iff _ _).mp h
    have hexact := hderivable.exactIntervals producerRowOrdinal consumerRowOrdinal
    exact ⟨hexact, fun path => validateJoined_iff.mpr ⟨rfl, hderivable.order, hexact⟩⟩
  · intro row runId path h
    obtain ⟨-, horder, hexact⟩ := validateJoined_iff.mp h
    exact ⟨hexact, derive_halves horder hexact⟩

def sampleProducer : ProducerRecord :=
  ⟨⟨[97], nofun⟩, 0, 3, 10, 11, 12, 13, some 14, 15, .accepted, some 0⟩

def sampleConsumer : ConsumerRecord := ⟨⟨[97], nofun⟩, 0, 3, 16, 17, 18, 19⟩

theorem intervals_agree_sample :
    ∃ row, deriveJoinedRecord sampleProducer 0 sampleConsumer 0 = .ok row ∧ ExactIntervals row ∧
      (∀ path, validateJoined row sampleProducer.runId path = []) ∧
      deriveJoinedRecord (producerHalf row) row.producerRowOrdinal (consumerHalf row)
        row.consumerRowOrdinal = .ok row := by
  obtain ⟨hforward, hback⟩ := intervals_agree
  obtain ⟨row, hrow⟩ : ∃ row, deriveJoinedRecord sampleProducer 0 sampleConsumer 0 = .ok row :=
    ⟨_, rfl⟩
  obtain ⟨hexact, hvalid⟩ := (hforward sampleProducer sampleConsumer 0 0).2.2 row hrow
  exact ⟨row, hrow, hexact, hvalid, (hback row _ "$" (hvalid "$")).2⟩

end CpuPrefetch.Timing
