/-
The row rules of `Stage4SemanticValidator`, for the rows of a raw-observation envelope.
-/
import CpuPrefetch.Protocol.Model

namespace CpuPrefetch.Protocol

/-- The rule is broken unless this holds. -/
def require (holds : Bool) (error : ValidationError) : List ValidationError :=
  if holds then [] else [error]

@[simp] theorem require_eq_nil {holds : Bool} {error : ValidationError} :
    require holds error = [] ↔ holds = true := by
  unfold require
  split <;> simp_all

def runIdMismatch (path : String) : ValidationError :=
  ⟨.referenceMismatch, path ++ "/run_id", "DAT-RUN-ID-MATCH",
    "row run_id must match its envelope"⟩

/-- The rules on the fields an accepted producer row has and a full one has not. -/
def acceptedFieldErrors (row : ProducerRecord) (path : String) : List ValidationError :=
  match row.outcome with
  | .accepted =>
      match row.enqueueLinearization, row.acceptedOrdinal with
      | some linearization, some _ =>
          require (!(linearization < row.enqueueInvocation ||
              linearization > row.enqueueAttemptCompletion))
            ⟨.crossField, path ++ "/enqueue_linearization", "TIM-ENQUEUE-LINEARIZATION",
              "enqueue linearization must lie between invocation and completion"⟩
      | _, _ =>
          [⟨.missingField, path, "RAW-ACCEPTED-FIELDS",
            "accepted row requires linearization and accepted ordinal"⟩]
  | .full =>
      require (!(row.enqueueLinearization.isSome || row.acceptedOrdinal.isSome))
        ⟨.crossField, path, "RAW-FULL-FIELDS", "FULL row must not have accepted-only fields"⟩

def validateProducer (row : ProducerRecord) (envelopeRunId : RunId) (path : String) :
    List ValidationError :=
  require (row.runId = envelopeRunId) (runIdMismatch path) ++
  require (row.scheduledArrival ≤ row.producerHandleBegin &&
      row.producerHandleBegin ≤ row.recordLookupCompletion &&
      row.recordLookupCompletion ≤ row.enqueueInvocation &&
      row.enqueueInvocation ≤ row.enqueueAttemptCompletion)
    ⟨.crossField, path, "TIM-PRODUCER-ORDER", "producer timestamps violate their protocol order"⟩ ++
  acceptedFieldErrors row path

def validateConsumer (row : ConsumerRecord) (envelopeRunId : RunId) (path : String) :
    List ValidationError :=
  require (row.runId = envelopeRunId) (runIdMismatch path) ++
  require (row.dequeueInvocation ≤ row.dequeueLinearization &&
      row.dequeueLinearization ≤ row.dequeueCompletion &&
      row.dequeueCompletion ≤ row.consumerActionCompletion)
    ⟨.crossField, path, "TIM-CONSUMER-ORDER", "consumer timestamps violate their protocol order"⟩

/-- `checked_add`: the sum, unless it overflows. -/
def checkedAdd (left right : UInt64) : Option UInt64 :=
  if right.toNat > 2 ^ 64 - 1 - left.toNat then none else some (left + right)

theorem checkedAdd_some {left right sum : UInt64} (h : checkedAdd left right = some sum) :
    sum.toNat = left.toNat + right.toNat := by
  rw [checkedAdd] at h
  split at h
  · cases h
  · rename_i hfits
    obtain rfl := Option.some.inj h
    have hleft := left.toNat_lt
    rw [UInt64.toNat_add]
    exact Nat.mod_eq_of_lt (by omega)

theorem checkedAdd_none {left right : UInt64} (h : checkedAdd left right = none) :
    2 ^ 64 ≤ left.toNat + right.toNat := by
  rw [checkedAdd] at h
  split at h
  · omega
  · cases h

/-- `expect`: a derived field equals the value calculated for it. -/
def expectInterval (path : String) (actual calculated : UInt64) (field rule : String) :
    List ValidationError :=
  require (actual = calculated)
    ⟨.crossField, path ++ "/" ++ field, rule,
      "derived interval does not equal its timestamp equation"⟩

/-- Admission, residence and delivery add up without overflow. -/
def additiveLatency (row : JoinedRecord) : Bool :=
  match checkedAdd row.admissionDelay row.queueResidence with
  | none => false
  | some partialSum => checkedAdd partialSum row.postDequeueDeliveryInterval =
      some row.endToEndLatency

/-- The equations of a joined row whose timestamps are in order. -/
def intervalErrors (row : JoinedRecord) (path : String) : List ValidationError :=
  expectInterval path row.producerLateness (row.producerHandleBegin - row.scheduledArrival)
    "producer_lateness" "TIM-EQ-PRODUCER-LATENESS" ++
  expectInterval path row.pointerLookupInterval
    (row.recordLookupCompletion - row.producerHandleBegin)
    "pointer_lookup_interval" "TIM-EQ-POINTER-LOOKUP" ++
  expectInterval path row.enqueueServiceTime
    (row.enqueueAttemptCompletion - row.enqueueInvocation)
    "enqueue_service_time" "TIM-EQ-ENQUEUE-SERVICE" ++
  expectInterval path row.admissionDelay (row.enqueueLinearization - row.scheduledArrival)
    "admission_delay" "TIM-EQ-ADMISSION" ++
  expectInterval path row.queueResidence (row.dequeueLinearization - row.enqueueLinearization)
    "queue_residence" "TIM-EQ-RESIDENCE" ++
  expectInterval path row.dequeueServiceTime (row.dequeueCompletion - row.dequeueInvocation)
    "dequeue_service_time" "TIM-EQ-DEQUEUE-SERVICE" ++
  expectInterval path row.postDequeueDeliveryInterval
    (row.consumerActionCompletion - row.dequeueLinearization)
    "post_dequeue_delivery_interval" "TIM-EQ-DELIVERY" ++
  expectInterval path row.consumerActionInterval
    (row.consumerActionCompletion - row.dequeueCompletion)
    "consumer_action_interval" "TIM-EQ-CONSUMER-ACTION" ++
  expectInterval path row.endToEndLatency (row.consumerActionCompletion - row.scheduledArrival)
    "end_to_end_latency" "TIM-EQ-END-TO-END" ++
  require (additiveLatency row)
    ⟨.crossField, path ++ "/end_to_end_latency", "TIM-EQ-ADDITIVE",
      "end-to-end latency must equal admission + residence + delivery"⟩

def validateJoined (row : JoinedRecord) (envelopeRunId : RunId) (path : String) :
    List ValidationError :=
  require (row.runId = envelopeRunId) (runIdMismatch path) ++
  (if row.scheduledArrival ≤ row.producerHandleBegin &&
      row.producerHandleBegin ≤ row.recordLookupCompletion &&
      row.recordLookupCompletion ≤ row.enqueueInvocation &&
      row.enqueueInvocation ≤ row.enqueueLinearization &&
      row.enqueueLinearization ≤ row.enqueueAttemptCompletion &&
      row.dequeueInvocation ≤ row.dequeueLinearization &&
      row.dequeueLinearization ≤ row.dequeueCompletion &&
      row.dequeueCompletion ≤ row.consumerActionCompletion &&
      row.enqueueLinearization ≤ row.dequeueLinearization then intervalErrors row path
    else
      [⟨.crossField, path, "TIM-JOINED-ORDER",
        "joined timestamps violate producer, consumer, or queue order"⟩])

/-- The loop over the rows of one kind, from this index on. -/
def validateRows {Row : Type} (validate : Row → RunId → String → List ValidationError)
    (envelopeRunId : RunId) : Nat → List Row → List ValidationError
  | _, [] => []
  | index, row :: rest =>
      validate row envelopeRunId ("$out/storage/inline_rows/" ++ toString index) ++
        validateRows validate envelopeRunId (index + 1) rest

def validateRowList {Row : Type} (validate : Row → RunId → String → List ValidationError)
    (envelope : RawObservationEnvelope) (rows : List Row) : List ValidationError :=
  require (rows.length = envelope.rowCount.toNat)
    ⟨.crossField, "$out/row_count", "DAT-RAW-ROW-COUNT",
      "envelope row_count must equal the inline logical row count"⟩ ++
  validateRows validate envelope.runId 0 rows

def validateRaw (envelope : RawObservationEnvelope) : List ValidationError :=
  match envelope.storage with
  | .external => []
  | .inline (.producer rows) => validateRowList validateProducer envelope rows
  | .inline (.consumer rows) => validateRowList validateConsumer envelope rows
  | .inline (.joined rows) => validateRowList validateJoined envelope rows

/-- A list of rows breaks no rule exactly when each of its rows, at any path, breaks none. -/
theorem validateRows_eq_nil {Row : Type}
    {validate : Row → RunId → String → List ValidationError} {envelopeRunId : RunId}
    (rows : List Row) (index : Nat)
    (h : ∀ row ∈ rows, ∀ path, validate row envelopeRunId path = []) :
    validateRows validate envelopeRunId index rows = [] := by
  induction rows generalizing index with
  | nil => rfl
  | cons row rest ih =>
      have hrow := h row List.mem_cons_self
      have hrest := ih (index + 1) fun row' hrow' => h row' (List.mem_cons_of_mem row hrow')
      rw [validateRows, hrow, hrest, List.append_nil]

end CpuPrefetch.Protocol
