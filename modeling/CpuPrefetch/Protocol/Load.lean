/-
Loading a raw-observation envelope from its JSON document.

A field is read by its name, and the first field that is missing, unknown or of the wrong
type is reported with its path.  Every field of the document is checked; the envelope
keeps those that some decoder reads (`Protocol/Model`).
-/
import CpuPrefetch.Protocol.Json
import CpuPrefetch.Protocol.Model

namespace CpuPrefetch.Protocol

def kProtocolVersion : Text := ascii "2.0.0-pre.2"
def kPreviousProtocolVersion : Text := ascii "2.0.0-pre.1"
def kLogicalRowSchemaVersion : Text := ascii "2.0.0-pre.2"

namespace Load

open Json (Value Object)

def fail {T : Type} (category : ErrorCategory) (path rule message : String) : Result T :=
  .error [⟨category, path, rule, message⟩]

/-! ### Values -/

variable (value : Value)

def objectOf (path : String) : Result Object :=
  match value with
  | .object members => .ok members
  | _ => fail .invalidType path "SCHEMA-TYPE" "expected object"

def arrayOf (path : String) : Result (List Value) :=
  match value with
  | .array values => .ok values
  | _ => fail .invalidType path "SCHEMA-TYPE" "expected array"

def stringOf (path : String) (allowEmpty : Bool := false) : Result Text :=
  match value with
  | .string text =>
      if !allowEmpty && text.isEmpty then
        fail .invalidId path "SCHEMA-MIN-LENGTH" "string must not be empty"
      else .ok text
  | _ => fail .invalidType path "SCHEMA-TYPE" "expected string"

def uintOf (path : String) : Result UInt64 :=
  match value with
  | .number (.unsignedInteger _ value) => .ok value
  | .number (.signedInteger _ value) =>
      if value < 0 then fail .outOfRange path "SCHEMA-MINIMUM" "integer must be nonnegative"
      else .ok value.toUInt64
  | _ => fail .invalidType path "SCHEMA-INTEGER" "expected exact integer"

/-- The name of an enumeration's value, among these. -/
def enumValue {E : Type} (path rule : String) (entries : List (String × E)) : Result E := do
  let text ← stringOf value path
  match entries.find? fun entry => ascii entry.1 = text with
  | some entry => .ok entry.2
  | none => fail .unknownEnum path rule ("unknown enum value: " ++ text.shown)

/-! ### Fields -/

def required (object : Object) (key path : String) : Result Value :=
  match Object.find (ascii key) object with
  | some value => .ok value
  | none => fail .missingField (path ++ "/" ++ key) "SCHEMA-REQUIRED" "required field is missing"

variable (object : Object)

def rejectUnknown (allowed : List String) (path : String) : Result Unit :=
  match object.find? fun member => member.1 ∉ allowed.map ascii with
  | none => .ok ()
  | some member =>
      fail .unknownField (path ++ "/" ++ member.1.shown) "SCHEMA-ADDITIONAL"
        "unknown field is not permitted by the versioned schema"

/-- The field's value, as `read` takes it at the field's own path. -/
def field {T : Type} (read : Value → String → Result T) (object : Object) (key path : String) :
    Result T := do
  let value ← required object key path
  read value (path ++ "/" ++ key)

def stringField (key path : String) : Result Text :=
  field stringOf object key path

def unitField (key path : String) : Result Text := do
  let unit ← field (fun value path => stringOf value path true) object key path
  if unit.isEmpty then
    fail .invalidUnit (path ++ "/" ++ key) "DAT-TIME-UNIT"
      "unit must be present explicitly and must not be empty"
  else .ok unit

def boolField (key path : String) : Result Bool := do
  match ← required object key path with
  | .boolean value => .ok value
  | _ => fail .invalidType (path ++ "/" ++ key) "SCHEMA-TYPE" "expected boolean"

def uintField (key path : String) : Result UInt64 := field uintOf object key path

/-- `Identifier::parse`. -/
def parseIdentifier (value : Text) (path : String) : Result { value : Text // value ≠ [] } :=
  if h : value = [] then
    fail .invalidId path "DAT-ID-NONEMPTY" "identifier must not be empty"
  else .ok ⟨value, h⟩

theorem nonempty_parsed (id : { value : Text // value ≠ [] }) : id.val ≠ [] := id.property

def idField (key path : String) : Result { value : Text // value ≠ [] } := do
  let value ← stringField object key path
  parseIdentifier value (path ++ "/" ++ key)

def runIdField (key path : String) : Result RunId := do
  let id ← idField object key path
  .ok ⟨id.val, nonempty_parsed id⟩

def parseProtocolVersion (text : Text) (path : String) : Result ProtocolVersion :=
  if text = kPreviousProtocolVersion then .ok .v200pre1
  else if text = kProtocolVersion then .ok .v200pre2
  else
    fail .unsupportedVersion path "GOV-004"
      ("only protocol/schema versions 2.0.0-pre.1 and 2.0.0-pre.2 are readable; no implicit " ++
        "migration exists")

def versionField (key path : String) : Result ProtocolVersion := do
  let text ← stringField object key path
  parseProtocolVersion text (path ++ "/" ++ key)

/-- `Sha256::parse`. -/
def parseSha256 (text : Text) (path : String) : Result Sha256 :=
  if text.length ≠ 64 then
    fail .invalidHash path "DAT-SHA256" "SHA-256 must contain 64 lowercase hex digits"
  else if h : validSha256 text = true then .ok ⟨text, h⟩
  else
    fail .invalidHash path "DAT-SHA256" "SHA-256 must contain only lowercase hexadecimal digits"

def shaField (key path : String) : Result Sha256 := do
  let text ← stringField object key path
  parseSha256 text (path ++ "/" ++ key)

def enumField {E : Type} (key path rule : String) (entries : List (String × E)) : Result E :=
  field (fun value path => enumValue value path rule entries) object key path

/-- The loop over the elements of an array, each read at its own path. -/
def elements {T : Type} (read : Value → String → Result T) (path : String) :
    Nat → List Value → Result (List T)
  | _, [] => .ok []
  | index, value :: rest => do
      let element ← read value (path ++ "/" ++ toString index)
      let others ← elements read path (index + 1) rest
      .ok (element :: others)

/-- An artifact, by its identifier and its digest. -/
structure ArtifactReference where
  artifactId : { value : Text // value ≠ [] }
  sha256 : Sha256
  deriving DecidableEq

def artifactReference (path : String) : Result ArtifactReference := do
  let object ← objectOf value path
  rejectUnknown object ["artifact_id", "sha256"] path
  let artifactId ← idField object "artifact_id" path
  let sha256 ← shaField object "sha256" path
  .ok ⟨artifactId, sha256⟩

def artifactReferenceArray (path : String) : Result (List ArtifactReference) := do
  let values ← arrayOf value path
  elements artifactReference path 0 values

/-! ### Rows -/

/-- A field that may be absent. -/
def optionalUint (key path : String) : Result (Option UInt64) :=
  match Object.find (ascii key) object with
  | none => .ok none
  | some value => (uintOf value (path ++ "/" ++ key)).map some

def producerRow (path : String) : Result ProducerRecord := do
  let object ← objectOf value path
  rejectUnknown object
    ["run_id", "logical_sequence", "record_index", "scheduled_arrival", "producer_handle_begin",
      "record_lookup_completion", "enqueue_invocation", "enqueue_linearization",
      "enqueue_attempt_completion", "attempted", "outcome", "accepted_ordinal"] path
  if !(← boolField object "attempted" path) then
    fail .crossField (path ++ "/attempted") "RAW-ATTEMPTED"
      "producer rows always represent an attempted enqueue"
  else
    let outcome ← enumField object "outcome" path "RAW-OUTCOME"
      [("ACCEPTED", ProducerOutcome.accepted), ("FULL", .full)]
    let linearization ← optionalUint object "enqueue_linearization" path
    let acceptedOrdinal ← optionalUint object "accepted_ordinal" path
    if outcome = .accepted && (linearization.isNone || acceptedOrdinal.isNone) then
      fail .missingField path "RAW-ACCEPTED-FIELDS"
        "accepted rows require enqueue_linearization and accepted_ordinal"
    else if outcome = .full && (linearization.isSome || acceptedOrdinal.isSome) then
      fail .crossField path "RAW-FULL-FIELDS"
        "FULL rows must not contain a linearization timestamp or accepted ordinal"
    else
      let runId ← runIdField object "run_id" path
      let logicalSequence ← uintField object "logical_sequence" path
      let recordIndex ← uintField object "record_index" path
      let scheduledArrival ← uintField object "scheduled_arrival" path
      let producerHandleBegin ← uintField object "producer_handle_begin" path
      let recordLookupCompletion ← uintField object "record_lookup_completion" path
      let enqueueInvocation ← uintField object "enqueue_invocation" path
      let enqueueAttemptCompletion ← uintField object "enqueue_attempt_completion" path
      .ok ⟨runId, logicalSequence, recordIndex, scheduledArrival, producerHandleBegin,
        recordLookupCompletion, enqueueInvocation, linearization, enqueueAttemptCompletion, outcome,
        acceptedOrdinal⟩

def consumerRow (path : String) : Result ConsumerRecord := do
  let object ← objectOf value path
  rejectUnknown object
    ["run_id", "consumed_ordinal", "observed_record_index", "dequeue_invocation",
      "dequeue_linearization", "dequeue_completion", "consumer_action_completion"] path
  let runId ← runIdField object "run_id" path
  let consumedOrdinal ← uintField object "consumed_ordinal" path
  let observedRecordIndex ← uintField object "observed_record_index" path
  let dequeueInvocation ← uintField object "dequeue_invocation" path
  let dequeueLinearization ← uintField object "dequeue_linearization" path
  let dequeueCompletion ← uintField object "dequeue_completion" path
  let consumerActionCompletion ← uintField object "consumer_action_completion" path
  .ok ⟨runId, consumedOrdinal, observedRecordIndex, dequeueInvocation, dequeueLinearization,
    dequeueCompletion, consumerActionCompletion⟩

def joinedRow (path : String) : Result JoinedRecord := do
  let object ← objectOf value path
  rejectUnknown object
    ["run_id", "accepted_ordinal", "logical_sequence", "record_index", "producer_row_ordinal",
      "consumer_row_ordinal", "scheduled_arrival", "producer_handle_begin",
      "record_lookup_completion", "enqueue_invocation", "enqueue_linearization",
      "enqueue_attempt_completion", "dequeue_invocation", "dequeue_linearization",
      "dequeue_completion", "consumer_action_completion", "producer_lateness",
      "pointer_lookup_interval", "enqueue_service_time", "admission_delay", "queue_residence",
      "dequeue_service_time", "post_dequeue_delivery_interval", "consumer_action_interval",
      "end_to_end_latency"] path
  .ok
    { runId := ← runIdField object "run_id" path
      acceptedOrdinal := ← uintField object "accepted_ordinal" path
      logicalSequence := ← uintField object "logical_sequence" path
      recordIndex := ← uintField object "record_index" path
      producerRowOrdinal := ← uintField object "producer_row_ordinal" path
      consumerRowOrdinal := ← uintField object "consumer_row_ordinal" path
      scheduledArrival := ← uintField object "scheduled_arrival" path
      producerHandleBegin := ← uintField object "producer_handle_begin" path
      recordLookupCompletion := ← uintField object "record_lookup_completion" path
      enqueueInvocation := ← uintField object "enqueue_invocation" path
      enqueueLinearization := ← uintField object "enqueue_linearization" path
      enqueueAttemptCompletion := ← uintField object "enqueue_attempt_completion" path
      dequeueInvocation := ← uintField object "dequeue_invocation" path
      dequeueLinearization := ← uintField object "dequeue_linearization" path
      dequeueCompletion := ← uintField object "dequeue_completion" path
      consumerActionCompletion := ← uintField object "consumer_action_completion" path
      producerLateness := ← uintField object "producer_lateness" path
      pointerLookupInterval := ← uintField object "pointer_lookup_interval" path
      enqueueServiceTime := ← uintField object "enqueue_service_time" path
      admissionDelay := ← uintField object "admission_delay" path
      queueResidence := ← uintField object "queue_residence" path
      dequeueServiceTime := ← uintField object "dequeue_service_time" path
      postDequeueDeliveryInterval := ← uintField object "post_dequeue_delivery_interval" path
      consumerActionInterval := ← uintField object "consumer_action_interval" path
      endToEndLatency := ← uintField object "end_to_end_latency" path }

def inlineRows (kind : StreamKind) (rows : List Value) (path : String) :
    Result InlineObservationRows :=
  match kind with
  | .producer => (elements producerRow path 0 rows).map .producer
  | .consumer => (elements consumerRow path 0 rows).map .consumer
  | .joinedDerived => (elements joinedRow path 0 rows).map .joined

/-! ### The envelope -/

def streamKinds : List (String × StreamKind) :=
  [("PRODUCER", .producer), ("CONSUMER", .consumer), ("JOINED_DERIVED", .joinedDerived)]

def byteOrders : List (String × Endianness) :=
  [("LITTLE_ENDIAN", .littleEndian), ("BIG_ENDIAN", .bigEndian),
    ("NOT_APPLICABLE", .notApplicable)]

def observationStorage (kind : StreamKind) (object : Object) : Result ObservationStorage := do
  let value ← required object "storage" "$out"
  let storage ← objectOf value "$out/storage"
  let mode ← stringField storage "mode" "$out/storage"
  if mode = ascii "EXTERNAL_IMMUTABLE_ARTIFACT" then
    rejectUnknown storage ["mode", "artifact_uri"] "$out/storage"
    let _ ← stringField storage "artifact_uri" "$out/storage"
    .ok .external
  else if mode = ascii "INLINE_TEST_ONLY" then
    rejectUnknown storage ["mode", "inline_rows"] "$out/storage"
    let value ← required storage "inline_rows" "$out/storage"
    let rows ← arrayOf value "$out/storage/inline_rows"
    let rows ← inlineRows kind rows "$out/storage/inline_rows"
    .ok (.inline rows)
  else
    fail .unknownEnum "$out/storage/mode" "DAT-STORAGE-MODE"
      ("unknown storage mode: " ++ mode.shown)

/-- `source_artifacts`, which may be absent. -/
def sourceArtifacts : Result (List ArtifactReference) :=
  match Object.find (ascii "source_artifacts") object with
  | none => .ok []
  | some value => artifactReferenceArray value "$out/source_artifacts"

def loadRaw (document : Value) : Result RawObservationEnvelope := do
  let object ← objectOf document "$out"
  rejectUnknown object
    ["schema_version", "protocol_version", "artifact_id", "run_id", "stream_kind",
      "logical_row_schema_version", "physical_format_record_id", "encoding", "time_unit",
      "endianness", "compression", "row_count", "byte_count", "immutable_ordering", "storage",
      "source_artifacts", "integrity_artifact_ref", "artifact_sha256"] "$out"
  let kind ← enumField object "stream_kind" "$out" "DAT-STREAM-KIND" streamKinds
  if !(← boolField object "immutable_ordering" "$out") then
    fail .crossField "$out/immutable_ordering" "DAT-IMMUTABLE-ORDER"
      "raw observation order must be immutable"
  else
    let storage ← observationStorage kind object
    let sources ← sourceArtifacts object
    if kind = .joinedDerived && sources.length < 2 then
      fail .missingEvidence "$out/source_artifacts" "DAT-JOIN-SOURCES"
        "joined streams require at least two source artifacts"
    else
      let _ ← versionField object "schema_version" "$out"
      let protocolVersion ← versionField object "protocol_version" "$out"
      let _ ← idField object "artifact_id" "$out"
      let runId ← runIdField object "run_id" "$out"
      let logicalRowSchemaVersion ← versionField object "logical_row_schema_version" "$out"
      let physicalFormatRecordId ← idField object "physical_format_record_id" "$out"
      let encoding ← stringField object "encoding" "$out"
      let timeUnit ← unitField object "time_unit" "$out"
      let endianness ← enumField object "endianness" "$out" "DAT-ENDIANNESS" byteOrders
      let compression ← stringField object "compression" "$out"
      let rowCount ← uintField object "row_count" "$out"
      let byteCount ← uintField object "byte_count" "$out"
      let _ ← field artifactReference object "integrity_artifact_ref" "$out"
      let artifactSha256 ← shaField object "artifact_sha256" "$out"
      .ok
        { protocolVersion := protocolVersion
          runId := runId
          streamKind := kind
          logicalRowSchemaVersion := logicalRowSchemaVersion
          physicalFormatRecordId := physicalFormatRecordId.val.shown
          encoding := encoding.shown
          timeUnit := timeUnit.shown
          endianness := endianness
          compression := compression.shown
          rowCount := rowCount
          byteCount := byteCount
          storage := storage
          sourceArtifacts := sources.map fun source => source.artifactId.val.shown
          artifactSha256 := artifactSha256.hex.shown }

/-- `load_document` of a raw observation, from its text. -/
def loadRawObservation (conv : Json.CharConv) (text : Text) : Result RawObservationEnvelope := do
  let document ← Json.parse conv text
  loadRaw document

end Load

end CpuPrefetch.Protocol
