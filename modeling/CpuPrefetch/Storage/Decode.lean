/-
`decode_external_raw`: the bytes of a sealed stream, checked against their envelope.

The digest of the bytes is OpenSSL's, so `sha256` is a parameter: the hexadecimal
digest of a byte string.
-/
import CpuPrefetch.Protocol.Semantic
import CpuPrefetch.Storage.RawObservations

namespace CpuPrefetch.Storage

open Protocol (RunId StreamKind ProducerOutcome JoinedRecord ErrorCategory Result
  RawObservationEnvelope InlineObservationRows)
open Timing (ProducerObservation ConsumerObservation ClockSample makeProducerRecord
  makeConsumerRecord)

structure DecodedProducerRow where
  runId : List UInt8
  observation : ProducerObservation
  deriving DecidableEq

structure DecodedConsumerRow where
  runId : List UInt8
  observation : ConsumerObservation
  deriving DecidableEq

inductive DecodedRows where
  | producer (rows : List DecodedProducerRow)
  | consumer (rows : List DecodedConsumerRow)
  | joined (rows : List JoinedRecord)
  deriving DecidableEq

structure DecodedRawStream where
  streamKind : StreamKind
  rows : DecodedRows
  deriving DecidableEq

def decodeFailure {T : Type} (category : ErrorCategory) (path rule message : String) : Result T :=
  .error [⟨category, path, rule, message⟩]

def rowPath (index : Nat) : String := "$out/rows/" ++ toString index

/-- The row begins with the one prefix its run identifier has. -/
def verifyPrefix (row : List UInt8) (layout : RowLayout) (expectedRunId : List UInt8) : Bool :=
  (loadU32Le row).toNat = layout.runIdBytes &&
  (List.range expectedRunId.length).all (fun index =>
    row.getD (4 + index) 0 = expectedRunId.getD index 0) &&
  (List.range (layout.prefixBytes - (4 + layout.runIdBytes))).all fun index =>
    row.getD (4 + layout.runIdBytes + index) 0 = 0

/-- Word `index` of a row's body. -/
def wordAt (body : List UInt8) (index : Nat) : UInt64 := loadU64Le (body.drop (index * 8))

/-- The sample stored as two words from this index on. -/
def sampleAt (body : List UInt8) (index : Nat) : ClockSample :=
  ⟨wordAt body index, wordAt body (index + 1)⟩

/-! ### Bodies; the counter is the accepted ordinal the next accepted row must have -/

def decodeProducerBody (runId : List UInt8) (index : Nat) (expectedAccepted : UInt64)
    (body : List UInt8) : Result (DecodedProducerRow × UInt64) :=
  let flags := wordAt body 14
  if (wordAt body 0).toNat ≠ index ||
      (flags ≠ kProducerAcceptedFlags && flags ≠ kProducerFullFlags) then
    decodeFailure .crossField (rowPath index) "RAW-PRODUCER-ORDER-FLAGS"
      "producer logical sequence or flags are noncanonical"
  else
    let accepted : Bool := flags = kProducerAcceptedFlags
    if (accepted && wordAt body 13 ≠ expectedAccepted) ||
        (!accepted && (wordAt body 9 ≠ 0 || wordAt body 10 ≠ 0 || wordAt body 13 ≠ 0)) then
      decodeFailure .crossField (rowPath index) "RAW-PRODUCER-ABSENCE-ORDINAL"
        "producer ordinal or accepted-only absent values are noncanonical"
    else
      .ok
        (⟨runId,
          { logicalSequence := wordAt body 0
            recordIndex := wordAt body 1
            scheduledArrival := wordAt body 2
            producerHandleBegin := sampleAt body 3
            recordLookupCompletion := sampleAt body 5
            enqueueInvocation := sampleAt body 7
            enqueueLinearization := if accepted then some (sampleAt body 9) else none
            enqueueAttemptCompletion := sampleAt body 11
            outcome := if accepted then .accepted else .full
            acceptedOrdinal := if accepted then some (wordAt body 13) else none }⟩,
          expectedAccepted + if accepted then 1 else 0)

def decodeConsumerBody (runId : List UInt8) (index : Nat) (expectedAccepted : UInt64)
    (body : List UInt8) : Result (DecodedConsumerRow × UInt64) :=
  if (wordAt body 0).toNat ≠ index then
    decodeFailure .crossField (rowPath index ++ "/consumed_ordinal") "RAW-CONSUMER-ORDER"
      "consumer rows must be in contiguous successful-dequeue order"
  else
    .ok
      (⟨runId,
        { consumedOrdinal := wordAt body 0
          observedRecordIndex := wordAt body 1
          dequeueInvocation := sampleAt body 2
          dequeueLinearization := sampleAt body 4
          dequeueCompletion := sampleAt body 6
          consumerActionCompletion := sampleAt body 8 }⟩, expectedAccepted)

def decodeJoinedBody (runId : RunId) (index : Nat) (expectedAccepted : UInt64)
    (body : List UInt8) : Result (JoinedRecord × UInt64) :=
  if (wordAt body 0).toNat ≠ index then
    decodeFailure .crossField (rowPath index ++ "/accepted_ordinal") "RAW-JOINED-ORDER"
      "joined rows must be in contiguous accepted-ordinal order"
  else
    .ok
      ({ runId := runId
         acceptedOrdinal := wordAt body 0
         logicalSequence := wordAt body 1
         recordIndex := wordAt body 2
         producerRowOrdinal := wordAt body 3
         consumerRowOrdinal := wordAt body 4
         scheduledArrival := wordAt body 5
         producerHandleBegin := wordAt body 6
         recordLookupCompletion := wordAt body 7
         enqueueInvocation := wordAt body 8
         enqueueLinearization := wordAt body 9
         enqueueAttemptCompletion := wordAt body 10
         dequeueInvocation := wordAt body 11
         dequeueLinearization := wordAt body 12
         dequeueCompletion := wordAt body 13
         consumerActionCompletion := wordAt body 14
         producerLateness := wordAt body 15
         pointerLookupInterval := wordAt body 16
         enqueueServiceTime := wordAt body 17
         admissionDelay := wordAt body 18
         queueResidence := wordAt body 19
         dequeueServiceTime := wordAt body 20
         postDequeueDeliveryInterval := wordAt body 21
         consumerActionInterval := wordAt body 22
         endToEndLatency := wordAt body 23 }, expectedAccepted)

/-! ### The stream -/

/-- The loop over `remaining` rows from `index` on. -/
def decodeRows {Row : Type} (decodeBody : Nat → UInt64 → List UInt8 → Result (Row × UInt64))
    (layout : RowLayout) (runId : List UInt8) (rowBytes : Nat) (bytes : List UInt8) :
    Nat → Nat → UInt64 → Result (List Row)
  | 0, _, _ => .ok []
  | remaining + 1, index, expectedAccepted => do
      let row := bytes.drop (index * rowBytes)
      if !verifyPrefix row layout runId then
        decodeFailure .referenceMismatch (rowPath index ++ "/run_id") "RAW-ROW-RUN-ID"
          "row prefix is noncanonical or disagrees with the envelope run_id"
      else
        let (decoded, expectedAccepted') ←
          decodeBody index expectedAccepted (row.drop layout.prefixBytes)
        let rest ← decodeRows decodeBody layout runId rowBytes bytes remaining (index + 1)
          expectedAccepted'
        .ok (decoded :: rest)

/-- All rows of the kind the envelope names. -/
def decodeStream (envelope : RawObservationEnvelope) (layout : RowLayout) (rowBytes : Nat)
    (bytes : List UInt8) : Result DecodedRows :=
  let runId := envelope.runId.value
  let count := envelope.rowCount.toNat
  match envelope.streamKind with
  | .producer =>
      (decodeRows (decodeProducerBody runId) layout runId rowBytes bytes count 0 0).map .producer
  | .consumer =>
      (decodeRows (decodeConsumerBody runId) layout runId rowBytes bytes count 0 0).map .consumer
  | .joinedDerived =>
      (decodeRows (decodeJoinedBody envelope.runId) layout runId rowBytes bytes count 0 0).map
        .joined

/-- The rows as the semantic validator takes them. -/
def DecodedRows.logical (runId : RunId) : DecodedRows → InlineObservationRows
  | .producer rows => .producer (rows.map fun row => makeProducerRecord runId row.observation)
  | .consumer rows => .consumer (rows.map fun row => makeConsumerRecord runId row.observation)
  | .joined rows => .joined rows

/-- The checks of `decode_external_raw` made before any row is read. -/
def checkEnvelope (sha256 : List UInt8 → String) (envelope : RawObservationEnvelope)
    (bytes : List UInt8) : Result Unit :=
  if envelope.storage ≠ .external then
    decodeFailure .crossField "$out/storage" "RAW-EXTERNAL"
      "physical decoder accepts only external immutable raw artifacts"
  else if envelope.physicalFormatRecordId ≠ kRawFormatId || envelope.encoding ≠ kRawEncoding ||
      envelope.timeUnit ≠ kRawTimeUnit || envelope.endianness ≠ .littleEndian ||
      envelope.compression ≠ kRawCompression then
    decodeFailure .unsupportedVersion "$out" "RAW-FORMAT-SUITE"
      "raw envelope does not select the accepted Stage 11 format suite"
  else if envelope.logicalRowSchemaVersion ≠ envelope.protocolVersion then
    decodeFailure .unsupportedVersion "$out/logical_row_schema_version" "RAW-LOGICAL-VERSION"
      "logical row schema and envelope protocol versions must match"
  else if envelope.streamKind ≠ .joinedDerived && !envelope.sourceArtifacts.isEmpty then
    decodeFailure .crossField "$out/source_artifacts" "RAW-SOURCE-ARTIFACTS"
      "producer and consumer raw streams must not name source artifacts"
  else if sha256 bytes ≠ envelope.artifactSha256 then
    decodeFailure .invalidHash "$out/artifact_sha256" "RAW-SHA256"
      "raw artifact SHA-256 does not match its envelope"
  else .ok ()

def decodeExternalRaw (sha256 : List UInt8 → String) (envelope : RawObservationEnvelope)
    (bytes : List UInt8) : Result DecodedRawStream := do
  checkEnvelope sha256 envelope bytes
  match makeRowLayout envelope.runId.value with
  | .error message => decodeFailure .invalidId "$out/run_id" "RAW-RUN-ID" message
  | .ok layout =>
      let rowBytes := expectedRowBytes envelope.streamKind layout
      if checkedMultiply envelope.rowCount.toNat rowBytes ≠ some envelope.byteCount.toNat ||
          envelope.byteCount.toNat ≠ bytes.length then
        decodeFailure .crossField "$out/byte_count" "RAW-EXACT-SIZE"
          "row count, physical row size, byte count, and artifact size disagree"
      else
        let rows ← decodeStream envelope layout rowBytes bytes
        let logicalEnvelope := { envelope with storage := .inline (rows.logical envelope.runId) }
        match Protocol.validateRaw logicalEnvelope with
        | [] => .ok ⟨envelope.streamKind, rows⟩
        | errors => .error errors

/--
The envelope `publish_stream` has `make_external_raw_envelope` write for a snapshot, as
the decoder reads it back.
-/
def externalRawEnvelope (sha256 : List UInt8 → String) (snapshot : RawStreamSnapshot) :
    RawObservationEnvelope where
  protocolVersion := .v200pre2
  runId := snapshot.runId
  streamKind := snapshot.streamKind
  logicalRowSchemaVersion := .v200pre2
  physicalFormatRecordId := kRawFormatId
  encoding := kRawEncoding
  timeUnit := kRawTimeUnit
  endianness := .littleEndian
  compression := kRawCompression
  rowCount := .ofNat snapshot.rowCount
  byteCount := .ofNat snapshot.bytes.length
  storage := .external
  sourceArtifacts := []
  artifactSha256 := sha256 snapshot.bytes

end CpuPrefetch.Storage
