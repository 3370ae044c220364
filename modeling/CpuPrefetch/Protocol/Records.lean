/-
The records a protocol graph is made of: manifests, block plans, failures, freezes,
platforms, and the raw streams and schedules as graph members.

A field that only the loader reads is left out.  A raw stream and a schedule are read by
their decoders as `RawObservationEnvelope` and `ScheduleRecord`; as members of a graph
they have an identity of their own besides.
-/
import CpuPrefetch.Protocol.Load
import CpuPrefetch.Protocol.Schedule

namespace CpuPrefetch.Protocol

open Load (ArtifactReference)

/-! ### Enumerations -/

inductive Stage where
  | calibration
  | pilot
  | stageA
  | stageB
  | stageC
  | diagnostic
  deriving DecidableEq, Repr

inductive RunMode where
  | latency
  | serviceRateCalibration
  | d2Calibration
  | counterDiagnostic
  | exploratory
  deriving DecidableEq, Repr

inductive BlockRole where
  | h3Train
  | h3Validation
  | h1h2Supplemental
  | notApplicable
  deriving DecidableEq, Repr

inductive QueuePackage where
  | r0
  | r1
  | r2
  | l0
  | l1
  | nblfqMpsc
  | notApplicable
  deriving DecidableEq, Repr

inductive RequestedHardwareState where
  | h0
  | h1
  | notApplicable
  deriving DecidableEq, Repr

inductive VerifiedHardwareState where
  | verifiedDefault
  | verifiedChanged
  | verificationFailed
  | unknown
  | notApplicable
  deriving DecidableEq, Repr

inductive Placement where
  | near
  | far
  | stageCOther
  | notApplicable
  deriving DecidableEq, Repr

inductive WorkingSetClass where
  | l2Resident
  | llcResident
  | beyondLlc
  | notApplicable
  deriving DecidableEq, Repr

inductive LoadLevel where
  | l025
  | l050
  | l075
  | calibrationReady
  | stageCOther
  | notApplicable
  deriving DecidableEq, Repr

inductive RunValidity where
  | notEvaluated
  | valid
  | invalid
  deriving DecidableEq, Repr

inductive GateStatus where
  | notEvaluated
  | pass
  | fail
  | notApplicable
  deriving DecidableEq, Repr

inductive ConfirmatoryEstimability where
  | notEvaluated
  | estimable
  | blockedZeroLoss
  | blockedEffectiveTail
  | blockedInvalidRun
  | blockedIncompleteBlock
  | blockedAccessLeakage
  | blockedMultiple
  | notApplicable
  deriving DecidableEq, Repr

/-- Declared in the ascending order of their tokens. -/
inductive ConfirmatoryBlocker where
  | blockedAccessLeakage
  | blockedEffectiveTail
  | blockedIncompleteBlock
  | blockedInvalidRun
  | blockedZeroLoss
  deriving DecidableEq, Repr

inductive BlockCompleteness where
  | notEvaluated
  | complete
  | incomplete
  | notApplicable
  deriving DecidableEq, Repr

inductive AccessState where
  | planned
  | collectedSealed
  | trainingOpen
  | selectionFrozen
  | validationUnsealed
  | h3Evaluated
  | h1h2Released
  | archived
  deriving DecidableEq, Repr

inductive FailureScope where
  | run
  | block
  | platform
  | build
  | protocol
  | access
  deriving DecidableEq, Repr

inductive BlockConsequence where
  | none
  | originalBlockIncomplete
  | studyUnresolved
  | notApplicable
  deriving DecidableEq, Repr

inductive ResolutionStatus where
  | open
  | retainedDiagnosticOnly
  | replacementAuthorized
  | replacementDenied
  | resolvedBeforeMeasurement
  | studyStopped
  deriving DecidableEq, Repr

inductive ArtifactRelationship where
  | producerRaw
  | consumerRaw
  | joinAudit
  | joinedDerived
  | phaseIntegrityReport
  | schedule
  | counter
  | derived
  | provenance
  | failureEvidence
  deriving DecidableEq, Repr

inductive RecordKind where
  | protocolFreeze
  | selectionFreeze
  | validationUnseal
  | h3Evaluated
  | h1h2Released
  | replacementAuthorization
  | amendment
  deriving DecidableEq, Repr

inductive FreezeStatus where
  | open
  | frozen
  | authorized
  | rejected
  | superseded
  deriving DecidableEq, Repr

inductive AuthorizationStatus where
  | notApplicable
  | pending
  | authorized
  | rejected
  deriving DecidableEq, Repr

inductive AuthorityRole where
  | protocolOwner
  | freezeAuthority
  | validationCustodian
  | confirmatoryAnalyst
  | replacementAuthority
  | platformOperator
  | author
  deriving DecidableEq, Repr

inductive AccessClass where
  | treatmentBlind
  | trainingOnly
  | validationSealed
  | validationUnsealed
  | publicProtocol
  | platformEvidence
  deriving DecidableEq, Repr

inductive H3Context where
  | nearL2L050
  | nearLlcL050
  | nearBeyondLlcL050
  | farL2L050
  | farLlcL050
  | farBeyondLlcL050
  deriving DecidableEq, Repr

/-! ### Runs -/

structure TypedArtifactReference where
  artifact : ArtifactReference
  relationship : ArtifactRelationship
  deriving DecidableEq

structure ChecksumEvidence where
  algorithmRecordId : RecordId
  algorithmVersion : Text
  valueHex : Text
  deriving DecidableEq

structure PhaseIntegrityRecord where
  reportArtifact : ArtifactReference
  finalConsumerRollingChecksum : ChecksumEvidence
  eventRecordsPreChecksum : ChecksumEvidence
  eventRecordsPostChecksum : ChecksumEvidence
  orderedIndexChecksum : ChecksumEvidence
  addressDeltaChecksum : ChecksumEvidence
  deriving DecidableEq

structure RunCounts where
  offered : Option UInt64
  attempted : Option UInt64
  accepted : Option UInt64
  full : Option UInt64
  consumed : Option UInt64
  finalOccupancy : Option UInt64
  rawSampleCount : Option UInt64
  nEffP999 : Option Json.Number
  deriving DecidableEq

structure RunScheduleReferences where
  measurement : ArtifactReference
  warmup : ArtifactReference
  deriving DecidableEq

structure RunManifest where
  schemaVersion : ProtocolVersion
  protocolVersion : ProtocolVersion
  runId : RunId
  platformId : PlatformId
  buildId : BuildId
  queueProvenanceId : RecordId
  stage : Stage
  runMode : RunMode
  lifecycleState : LifecycleState
  blockId : BlockId
  blockRole : BlockRole
  package : QueuePackage
  requestedHardwareState : RequestedHardwareState
  placement : Placement
  workingSetClass : WorkingSetClass
  loadLevel : LoadLevel
  scheduleRefs : RunScheduleReferences
  validity : RunValidity
  countReconciliation : GateStatus
  zeroLossStatus : GateStatus
  effectiveTailStatus : GateStatus
  confirmatoryEstimability : ConfirmatoryEstimability
  confirmatoryBlockers : List ConfirmatoryBlocker
  blockCompleteness : BlockCompleteness
  joinStatus : JoinStatus
  counts : Option RunCounts
  integrityEvidence : Option PhaseIntegrityRecord
  failureRecordIds : List RecordId
  artifactRefs : List TypedArtifactReference
  manifestSha256 : Sha256
  sourceDocument : Json.Value

/-! ### Streams and schedules -/

/-- A raw stream as a member of a graph; its decoder's view has the sources' names only. -/
structure RawObservationRecord where
  schemaVersion : ProtocolVersion
  artifactId : ArtifactId
  sourceArtifacts : List ArtifactReference
  integrityArtifactRef : ArtifactReference
  envelope : RawObservationEnvelope
  sources : envelope.sourceArtifacts =
    sourceArtifacts.map fun source => source.artifactId.val.shown

def DeadlineStorage.isExternal : DeadlineStorage → Bool
  | .external _ _ _ => true
  | .inline _ => false

/-- A schedule as a member of a graph; an external one names its artifact. -/
structure ScheduleDocument where
  schemaVersion : ProtocolVersion
  protocolVersion : ProtocolVersion
  scheduleId : ScheduleId
  schedule : ScheduleRecord
  artifactId : Option ArtifactId
  stored : artifactId.isSome = schedule.deadlineStorage.isExternal

/-! ### Blocks -/

structure StageACell where
  cellOrdinal : UInt64
  package : QueuePackage
  requestedHardwareState : RequestedHardwareState
  placement : Placement
  workingSetClass : WorkingSetClass
  loadLevel : LoadLevel
  arrivalSeedRef : SeedId
  nodeSeedRef : Option SeedId
  eventSeedRef : SeedId
  deriving DecidableEq

structure ReplacementLineage where
  replacedBlockOrdinal : UInt64
  replacedBlockRole : BlockRole
  replacedSeedSubspaceId : NamespaceId
  deriving DecidableEq

structure BlockPlan where
  schemaVersion : ProtocolVersion
  protocolVersion : ProtocolVersion
  blockId : BlockId
  platformId : PlatformId
  buildId : BuildId
  stage : Stage
  blockRole : BlockRole
  blockOrdinal : UInt64
  seedSubspaceId : NamespaceId
  replacesBlockId : Option BlockId
  replacementAuthorizationId : Option RecordId
  replacementLineage : Option ReplacementLineage
  wholePlotOrder : RequestedHardwareState × RequestedHardwareState
  cells : List StageACell
  accessState : AccessState
  planSha256 : Sha256
  sourceDocument : Json.Value

/-! ### Failures -/

structure FailureRecord where
  schemaVersion : ProtocolVersion
  protocolVersion : ProtocolVersion
  failureRecordId : RecordId
  platformId : PlatformId
  stage : Stage
  scope : FailureScope
  runId : Option RunId
  blockId : Option BlockId
  buildId : Option BuildId
  invalidatesRun : Bool
  blockConsequence : BlockConsequence
  resolutionStatus : ResolutionStatus
  replacementAuthorizationId : Option RecordId
  replacementBlockId : Option BlockId
  evidenceRefs : List ArtifactReference
  recordSha256 : Sha256
  sourceDocument : Json.Value

/-! ### Freezes -/

structure H3Candidate where
  package : QueuePackage
  requestedHardwareState : RequestedHardwareState
  deriving DecidableEq

structure Authority where
  authorityId : AuthorityId
  role : AuthorityRole
  deriving DecidableEq

structure AccessInputArtifact where
  artifact : ArtifactReference
  accessClass : AccessClass
  deriving DecidableEq

structure ReplacementAuthorization where
  originalBlockId : BlockId
  replacementBlockId : BlockId
  replacementBlockOrdinal : UInt64
  blockRole : BlockRole
  replacementSeedSubspaceId : NamespaceId
  failureRecordId : RecordId
  replacementBudgetRecordId : RecordId
  deriving DecidableEq

/-- `h3Selections` is a map: the candidates by context, each context once. -/
structure FreezeRecord where
  schemaVersion : ProtocolVersion
  protocolVersion : ProtocolVersion
  recordId : RecordId
  recordKind : RecordKind
  status : FreezeStatus
  authorizationStatus : AuthorizationStatus
  createdAtUtc : Text
  authority : Authority
  decisionValue : Option Json.Value
  rationale : Option Text
  accessStateBefore : AccessState
  accessStateAfter : AccessState
  outcomeAccessProhibited : Bool
  affectedBlockIds : List BlockId
  h3Selections : List (H3Context × H3Candidate)
  contextsDistinct : (h3Selections.map Prod.fst).Nodup
  trainingInputArtifacts : List ArtifactReference
  selectionRuleVersion : Option Text
  selectionRecordChecksumSha256 : Option Sha256
  selectionRecordRef : Option ArtifactReference
  validationNamespaceId : Option NamespaceId
  validationArtifactRef : Option ArtifactReference
  validationUnsealRecordRef : Option ArtifactReference
  h3EvaluationArtifactRef : Option ArtifactReference
  h3AccessRecordRef : Option ArtifactReference
  replacement : Option ReplacementAuthorization
  supersedesId : Option RecordId
  priorProtocolVersion : Option Text
  newProtocolVersion : Option Text
  affectedDocuments : List Text
  affectedSchemaIds : List Text
  affectedEstimands : List Text
  pilotRecordDisposition : Option Text
  priorAuthoritativeHashes : List ArtifactReference
  inputArtifacts : List AccessInputArtifact
  recordSha256 : Sha256
  sourceDocument : Json.Value

/-! ### Platforms -/

structure PlatformCpu where
  cacheLineBytes : UInt64
  atomicWidthBits : UInt64
  atomicAlignmentBytes : UInt64
  deriving DecidableEq

structure PlatformTopology where
  sockets : UInt64
  numaNodes : UInt64
  physicalCores : UInt64
  deriving DecidableEq

structure PlatformMemory where
  basePageBytes : UInt64
  deriving DecidableEq

structure RequestedAndVerifiedHardwareState where
  requested : RequestedHardwareState
  verified : VerifiedHardwareState
  deriving DecidableEq

structure PlatformRecord where
  schemaVersion : ProtocolVersion
  protocolVersion : ProtocolVersion
  platformId : PlatformId
  cpu : PlatformCpu
  topology : PlatformTopology
  memory : PlatformMemory
  hardwarePrefetchStates : List RequestedAndVerifiedHardwareState

inductive ProtocolRecord where
  | platform (record : PlatformRecord)
  | schedule (record : ScheduleDocument)
  | rawObservation (record : RawObservationRecord)
  | runManifest (record : RunManifest)
  | blockPlan (record : BlockPlan)
  | failureRecord (record : FailureRecord)
  | freezeRecord (record : FreezeRecord)

end CpuPrefetch.Protocol
