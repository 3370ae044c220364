/-
The protocol's logical rows, and what a raw-observation envelope says about a stream.

A run identifier is a nonempty string of bytes; whether the bytes are UTF-8 is
checked where rows are laid out.  The other texts of an envelope are only ever
compared with the fixed names of the format.  Fields of the envelope that no
decoder reads (its schema version, its own and its integrity artifact's identity,
its source document) are left out.
-/
import CpuPrefetch.Protocol.Text

namespace CpuPrefetch.Protocol

structure RunId where
  value : List UInt8
  nonempty : value ≠ []
  deriving DecidableEq

/-- What an identifier other than a run's names. -/
inductive IdentifierTag where
  | block
  | artifact
  | record
  | schedule
  | namespaceId
  | seed
  | platform
  | build
  | authority
  deriving DecidableEq, Repr

structure Identifier (tag : IdentifierTag) where
  value : List UInt8
  nonempty : value ≠ []
  deriving DecidableEq

instance Identifier.lawfulBEq (tag : IdentifierTag) : LawfulBEq (Identifier tag) := inferInstance

abbrev BlockId := Identifier .block
abbrev ArtifactId := Identifier .artifact
abbrev RecordId := Identifier .record
abbrev ScheduleId := Identifier .schedule
abbrev NamespaceId := Identifier .namespaceId
abbrev SeedId := Identifier .seed
abbrev PlatformId := Identifier .platform
abbrev BuildId := Identifier .build
abbrev AuthorityId := Identifier .authority

inductive LifecycleState where
  | planned
  | preRunFailure
  | warmupFailure
  | resetFailure
  | measurementStarted
  | measurementFailure
  | drainFailure
  | completed
  deriving DecidableEq, Repr

inductive ProtocolVersion where
  | v200pre1
  | v200pre2
  deriving DecidableEq, Repr

inductive StreamKind where
  | producer
  | consumer
  | joinedDerived
  deriving DecidableEq, Repr

inductive Endianness where
  | littleEndian
  | bigEndian
  | notApplicable
  deriving DecidableEq, Repr

inductive ProducerOutcome where
  | accepted
  | full
  deriving DecidableEq, Repr

inductive JoinStatus where
  | notAttempted
  | failed
  | passed
  deriving DecidableEq, Repr

structure ProducerRecord where
  runId : RunId
  logicalSequence : UInt64
  recordIndex : UInt64
  scheduledArrival : UInt64
  producerHandleBegin : UInt64
  recordLookupCompletion : UInt64
  enqueueInvocation : UInt64
  enqueueLinearization : Option UInt64
  enqueueAttemptCompletion : UInt64
  outcome : ProducerOutcome
  acceptedOrdinal : Option UInt64
  deriving DecidableEq

structure ConsumerRecord where
  runId : RunId
  consumedOrdinal : UInt64
  observedRecordIndex : UInt64
  dequeueInvocation : UInt64
  dequeueLinearization : UInt64
  dequeueCompletion : UInt64
  consumerActionCompletion : UInt64
  deriving DecidableEq

structure JoinedRecord where
  runId : RunId
  acceptedOrdinal : UInt64
  logicalSequence : UInt64
  recordIndex : UInt64
  producerRowOrdinal : UInt64
  consumerRowOrdinal : UInt64
  scheduledArrival : UInt64
  producerHandleBegin : UInt64
  recordLookupCompletion : UInt64
  enqueueInvocation : UInt64
  enqueueLinearization : UInt64
  enqueueAttemptCompletion : UInt64
  dequeueInvocation : UInt64
  dequeueLinearization : UInt64
  dequeueCompletion : UInt64
  consumerActionCompletion : UInt64
  producerLateness : UInt64
  pointerLookupInterval : UInt64
  enqueueServiceTime : UInt64
  admissionDelay : UInt64
  queueResidence : UInt64
  dequeueServiceTime : UInt64
  postDequeueDeliveryInterval : UInt64
  consumerActionInterval : UInt64
  endToEndLatency : UInt64
  deriving DecidableEq

inductive InlineObservationRows where
  | producer (rows : List ProducerRecord)
  | consumer (rows : List ConsumerRecord)
  | joined (rows : List JoinedRecord)
  deriving DecidableEq

/-- Where the rows of an envelope are; an external artifact is named by its address only. -/
inductive ObservationStorage where
  | external
  | inline (rows : InlineObservationRows)
  deriving DecidableEq

/-- `sourceArtifacts` are the identifiers of the artifacts a joined stream was made from. -/
structure RawObservationEnvelope where
  protocolVersion : ProtocolVersion
  runId : RunId
  streamKind : StreamKind
  logicalRowSchemaVersion : ProtocolVersion
  physicalFormatRecordId : String
  encoding : String
  timeUnit : String
  endianness : Endianness
  compression : String
  rowCount : UInt64
  byteCount : UInt64
  storage : ObservationStorage
  sourceArtifacts : List String
  artifactSha256 : String
  deriving DecidableEq

end CpuPrefetch.Protocol
