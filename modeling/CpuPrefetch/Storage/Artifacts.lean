/-
The documents a run store writes beside its raw streams.

Each is a JSON object in canonical form with the digest of its bytes.  Digests are
OpenSSL's and number texts the standard library's; `Host` has both.
-/
import CpuPrefetch.Protocol.Load
import CpuPrefetch.Storage.RawObservations
import CpuPrefetch.Workload.Records

namespace CpuPrefetch.Storage

open Protocol (Text ascii decimal validSha256 Sha256 StreamKind Result ErrorCategory
  RawObservationEnvelope kProtocolVersion kLogicalRowSchemaVersion)
open Protocol.Json (CharConv Value Object)
open Workload (ConsumerState)

/-- What the program calls outside the repository. -/
structure Host where
  conv : CharConv
  sha256 : Text → Text

def kPhaseIntegritySchema : Text := ascii "cpu-prefetch-phase-integrity-report/1"
def kCopyLedgerSchema : Text := ascii "cpu-prefetch-copy-ledger-record/1"
def kConsumerMixerRecordId : Text := ascii "cpu-prefetch/consumer-mix64-adr0027/v1"
def kContentChecksumRecordId : Text := ascii "cpu-prefetch/event-record-content-sha256/v1"
def kOrderedIndexChecksumRecordId : Text := ascii "cpu-prefetch/ordered-index-sha256/v1"
def kAddressDeltaChecksumRecordId : Text := ascii "cpu-prefetch/address-delta-sha256/v1"
def kChecksumAlgorithmVersion : Text := ascii "1"
def kRawEndianness : Text := ascii "LITTLE_ENDIAN"
def kDurabilityPolicyId : Text := ascii "RAW-OBS-NONE-TMP1-DUR2-v1"

structure CanonicalDocument where
  bytes : Text
  sha256 : Text
  deriving DecidableEq

structure ArtifactRefText where
  artifactId : Text
  sha256 : Text
  deriving DecidableEq

def stringValue (value : Text) : Value := .string value

def uintValue (value : UInt64) : Value := .number (.unsignedInteger (decimal value.toNat) value)

def artifactRefValue (reference : ArtifactRefText) : Value :=
  .object (Object.of
    [(ascii "artifact_id", stringValue reference.artifactId),
      (ascii "sha256", stringValue reference.sha256)])

def checksumValue (algorithmRecordId valueHex : Text) : Value :=
  .object (Object.of
    [(ascii "algorithm_record_id", stringValue algorithmRecordId),
      (ascii "algorithm_version", stringValue kChecksumAlgorithmVersion),
      (ascii "value_hex", stringValue valueHex)])

def artifactFailure {T : Type} (category : ErrorCategory) (path rule message : String) : Result T :=
  .error [⟨category, path, rule, message⟩]

def canonicalDocument (host : Host) (value : Value) : Result CanonicalDocument := do
  let bytes ← Protocol.Json.canonicalize host.conv value
  .ok ⟨bytes, host.sha256 bytes⟩

def nonempty (values : List Text) : Bool := values.all fun value => !value.isEmpty

/-! ### The phase integrity report -/

structure PhaseIntegrityInput where
  artifactId : Text
  runId : Text
  finalConsumerState : ConsumerState
  eventRecordsPre : Sha256
  eventRecordsPost : Sha256
  orderedIndex : Sha256
  addressDelta : Sha256
  deriving DecidableEq

/-- Sixteen lowercase hexadecimal digits. -/
def consumerStateHex (value : UInt64) : Text :=
  [60, 56, 52, 48, 44, 40, 36, 32, 28, 24, 20, 16, 12, 8, 4, 0].map fun shift : UInt64 =>
    Protocol.Json.hexDigitText ((value >>> shift).toUInt8 &&& 0x0f)

def makePhaseIntegrityDocument (host : Host) (input : PhaseIntegrityInput) :
    Result CanonicalDocument :=
  if !nonempty [input.artifactId, input.runId] then
    artifactFailure .invalidId "$input" "STO-INTEGRITY-ID"
      "integrity artifact and run IDs must be nonempty"
  else
    canonicalDocument host (.object (Object.of
      [(ascii "address_delta_checksum",
          checksumValue kAddressDeltaChecksumRecordId input.addressDelta.hex),
        (ascii "event_records_post_checksum",
          checksumValue kContentChecksumRecordId input.eventRecordsPost.hex),
        (ascii "event_records_pre_checksum",
          checksumValue kContentChecksumRecordId input.eventRecordsPre.hex),
        (ascii "final_consumer_rolling_checksum",
          checksumValue kConsumerMixerRecordId (consumerStateHex input.finalConsumerState.value)),
        (ascii "ordered_index_checksum",
          checksumValue kOrderedIndexChecksumRecordId input.orderedIndex.hex),
        (ascii "artifact_id", stringValue input.artifactId),
        (ascii "content_checksum_match",
          .boolean (input.eventRecordsPre = input.eventRecordsPost)),
        (ascii "protocol_version", stringValue kProtocolVersion),
        (ascii "record_kind", stringValue (ascii "PHASE_INTEGRITY_REPORT")),
        (ascii "run_id", stringValue input.runId),
        (ascii "schema_version", stringValue kPhaseIntegritySchema)]))

/-! ### The envelope of a raw stream -/

def streamKindString : StreamKind → Text
  | .producer => ascii "PRODUCER"
  | .consumer => ascii "CONSUMER"
  | .joinedDerived => ascii "JOINED_DERIVED"

structure RawEnvelopeInput where
  artifactId : Text
  runId : Text
  streamKind : StreamKind
  artifactUri : Text
  rowCount : UInt64
  byteCount : UInt64
  artifactSha256 : Text
  integrityArtifact : ArtifactRefText
  sourceArtifacts : List ArtifactRefText
  deriving DecidableEq

/-- A document, and the envelope that is loaded from its bytes. -/
structure RawEnvelopeDocument where
  document : CanonicalDocument
  envelope : RawObservationEnvelope
  deriving DecidableEq

def rawEnvelopeHead (input : RawEnvelopeInput) : List (Text × Value) :=
  [(ascii "artifact_id", stringValue input.artifactId),
    (ascii "artifact_sha256", stringValue input.artifactSha256),
    (ascii "byte_count", uintValue input.byteCount),
    (ascii "compression", stringValue (ascii kRawCompression)),
    (ascii "encoding", stringValue (ascii kRawEncoding)),
    (ascii "endianness", stringValue kRawEndianness),
    (ascii "immutable_ordering", .boolean true),
    (ascii "integrity_artifact_ref", artifactRefValue input.integrityArtifact),
    (ascii "logical_row_schema_version", stringValue kLogicalRowSchemaVersion),
    (ascii "physical_format_record_id", stringValue (ascii kRawFormatId)),
    (ascii "protocol_version", stringValue kProtocolVersion),
    (ascii "row_count", uintValue input.rowCount),
    (ascii "run_id", stringValue input.runId),
    (ascii "schema_version", stringValue kProtocolVersion)]

def rawEnvelopeTail (input : RawEnvelopeInput) : List (Text × Value) :=
  [(ascii "storage", .object (Object.of
      [(ascii "artifact_uri", stringValue input.artifactUri),
        (ascii "mode", stringValue (ascii "EXTERNAL_IMMUTABLE_ARTIFACT"))])),
    (ascii "stream_kind", stringValue (streamKindString input.streamKind)),
    (ascii "time_unit", stringValue (ascii kRawTimeUnit))]

/-- The object the envelope writes, once every check has passed. -/
def rawEnvelopeObject (input : RawEnvelopeInput) : Object :=
  Object.of
    (rawEnvelopeHead input ++
    (if input.sourceArtifacts.isEmpty then []
      else [(ascii "source_artifacts", .array (input.sourceArtifacts.map artifactRefValue))]) ++
    rawEnvelopeTail input)

def makeExternalRawEnvelope (host : Host) (input : RawEnvelopeInput) :
    Result RawEnvelopeDocument := do
  if !nonempty [input.artifactId, input.runId, input.artifactUri,
      input.integrityArtifact.artifactId] then
    artifactFailure .invalidId "$input" "RAW-ENVELOPE-ID"
      "raw artifact, run, URI, and integrity artifact IDs must be nonempty"
  else if !validSha256 input.artifactSha256 || !validSha256 input.integrityArtifact.sha256 then
    artifactFailure .invalidHash "$input" "RAW-ENVELOPE-SHA256"
      "raw and integrity references require SHA-256"
  else if input.streamKind ≠ .joinedDerived && !input.sourceArtifacts.isEmpty then
    artifactFailure .crossField "$input/source_artifacts" "RAW-ENVELOPE-SOURCES"
      "only joined-derived envelopes may name source artifacts"
  else if input.streamKind = .joinedDerived && input.sourceArtifacts.length < 2 then
    artifactFailure .missingEvidence "$input/source_artifacts" "RAW-ENVELOPE-SOURCES"
      "joined-derived envelopes require at least two source artifacts"
  else if input.sourceArtifacts.any fun source =>
      !nonempty [source.artifactId] || !validSha256 source.sha256 then
    artifactFailure .invalidHash "$input/source_artifacts" "RAW-ENVELOPE-SOURCE-SHA256"
      "source artifact reference is invalid"
  else
    let document ← canonicalDocument host (.object (rawEnvelopeObject input))
    let envelope ← Protocol.Load.loadRawObservation host.conv document.bytes
    .ok ⟨document, envelope⟩

/-! ### The copy ledger -/

inductive CopyFinalizationState where
  | incomplete
  | sealedComplete
  deriving DecidableEq, Repr

def CopyFinalizationState.text : CopyFinalizationState → Text
  | .incomplete => ascii "INCOMPLETE"
  | .sealedComplete => ascii "SEALED_COMPLETE"

def StreamCompleteness.text : StreamCompleteness → Text
  | .writing => ascii "WRITING"
  | .sealedComplete => ascii "SEALED_COMPLETE"
  | .sealedIncomplete => ascii "SEALED_INCOMPLETE"

structure CopyEvidence where
  storageDomainId : Text
  artifactUri : Text
  observedByteCount : UInt64
  observedSha256 : Text
  verifiedAt : Text
  independentlyReadBack : Bool
  verified : Bool
  deriving DecidableEq

structure CopyLedgerInput where
  ledgerRecordId : Text
  runId : Text
  objectId : Text
  objectRole : Text
  artifactId : Text
  byteCount : UInt64
  sha256 : Text
  streamCompleteness : StreamCompleteness
  finalizationState : CopyFinalizationState
  copies : List CopyEvidence
  failures : List Text
  deriving DecidableEq

def copyValue (copy : CopyEvidence) : Value :=
  .object (Object.of
    [(ascii "artifact_uri", stringValue copy.artifactUri),
      (ascii "independently_read_back", .boolean copy.independentlyReadBack),
      (ascii "observed_byte_count", uintValue copy.observedByteCount),
      (ascii "observed_sha256", stringValue copy.observedSha256),
      (ascii "storage_domain_id", stringValue copy.storageDomainId),
      (ascii "verification_result", stringValue (ascii (if copy.verified then "PASS" else "FAIL"))),
      (ascii "verified_at", stringValue copy.verifiedAt)])

/-- The loop over the copies, with the domain identifiers seen so far. -/
def copyValues (input : CopyLedgerInput) : List Text → List CopyEvidence → Result (List Value)
  | _, [] => .ok []
  | domainIds, copy :: rest =>
      if !nonempty [copy.storageDomainId, copy.artifactUri, copy.verifiedAt] ||
          !validSha256 copy.observedSha256 || copy.storageDomainId ∈ domainIds then
        artifactFailure .duplicateValue "$input/copies" "STO-LEDGER-COPY"
          "copy evidence is incomplete or repeats a domain ID"
      else if copy.verified && (!copy.independentlyReadBack ||
          copy.observedByteCount ≠ input.byteCount || copy.observedSha256 ≠ input.sha256) then
        artifactFailure .referenceMismatch "$input/copies" "STO-LEDGER-VERIFIED-IDENTITY"
          "a verified copy must be independently read back and exactly match size and SHA-256"
      else do
        let values ← copyValues input (copy.storageDomainId :: domainIds) rest
        .ok (copyValue copy :: values)

def verifiedCount (copies : List CopyEvidence) : Nat :=
  (copies.filter fun copy => copy.verified).length

/-- The object the ledger writes, once every check has passed. -/
def copyLedgerObject (input : CopyLedgerInput) (copies : List Value) : Object :=
  Object.of
    [(ascii "artifact_id", stringValue input.artifactId),
      (ascii "byte_count", uintValue input.byteCount),
      (ascii "compression", stringValue (ascii kRawCompression)),
      (ascii "copies", .array copies),
      (ascii "failures", .array (input.failures.map stringValue)),
      (ascii "finalization_state", stringValue input.finalizationState.text),
      (ascii "ledger_record_id", stringValue input.ledgerRecordId),
      (ascii "object_id", stringValue input.objectId),
      (ascii "object_role", stringValue input.objectRole),
      (ascii "policy_id", stringValue kDurabilityPolicyId),
      (ascii "protocol_version", stringValue kProtocolVersion),
      (ascii "run_id", stringValue input.runId),
      (ascii "schema_version", stringValue kCopyLedgerSchema),
      (ascii "sha256", stringValue input.sha256),
      (ascii "stream_completeness", stringValue input.streamCompleteness.text),
      (ascii "temporary_copy_count", uintValue 1),
      (ascii "required_durable_copy_count", uintValue 2)]

def makeCopyLedgerDocument (host : Host) (input : CopyLedgerInput) : Result CanonicalDocument := do
  if !nonempty [input.ledgerRecordId, input.runId, input.objectId, input.objectRole,
      input.artifactId] || !validSha256 input.sha256 then
    artifactFailure .invalidId "$input" "STO-LEDGER-IDENTITY"
      "copy ledger identity or SHA-256 is invalid"
  else if input.streamCompleteness = .writing then
    artifactFailure .crossField "$input/stream_completeness" "STO-LEDGER-WRITING"
      "a writable stream cannot enter the copy ledger"
  else
    let copies ← copyValues input [] input.copies
    if input.finalizationState = .sealedComplete &&
        (input.streamCompleteness ≠ .sealedComplete || input.copies.length ≠ 2 ||
          verifiedCount input.copies ≠ 2 || !input.failures.isEmpty) then
      artifactFailure .crossField "$input/finalization_state" "STO-LEDGER-SEAL"
        "sealed complete requires a complete stream and exactly two verified domains"
    else if input.finalizationState = .incomplete && input.failures.isEmpty &&
        input.streamCompleteness = .sealedComplete && input.copies.length = 2 &&
        verifiedCount input.copies = 2 then
      artifactFailure .crossField "$input/finalization_state" "STO-LEDGER-INCOMPLETE"
        "a fully verified complete object cannot be mislabeled incomplete"
    else if input.failures.any List.isEmpty then
      artifactFailure .invalidId "$input/failures" "STO-LEDGER-FAILURE"
        "failure evidence strings must be nonempty"
    else canonicalDocument host (.object (copyLedgerObject input copies))

end CpuPrefetch.Storage
